import Vee.VM.Proofs.ResizeDisk

/-!
# The size that a disk is grown to

`ResizeBootDisk` adds the increment of a spec to the size of the image as an `int64`. Both are
below `2^63`, so a sum that does not fit becomes negative and is refused as a smaller size.
-/

namespace Vee.BootDisk

open List

/-! ### What a spec asks for -/

/-- The size that a spec asks for, of a disk that has `current` bytes. -/
def requested (current : Nat) (spec : Bool × Int) : Int :=
  if spec.1 then current + spec.2 else spec.2

/-- A sum that does not fit is negative, so the target that is accepted is the one asked for. -/
theorem targetSize_requested {spec : String} {current target : Nat} (fits : current < 2 ^ 63)
    (wanted : targetSize spec current = .ok target) :
    ∃ amount, specAmount spec = some amount ∧ (target : Int) = requested current amount := by
  unfold targetSize at wanted
  split at wanted
  · cases wanted
  rename_i relative bytes parsed
  obtain ⟨denoted, positive, small⟩ := specAmount_of_parse parsed
  refine ⟨(relative, bytes), denoted, ?_⟩
  have asked :
      (if relative then addInt64 current bytes else bytes) = requested current (relative, bytes) ∨
      (if relative then addInt64 current bytes else bytes) < 0 := by
    unfold requested addInt64
    cases relative with
    | false => exact .inl rfl
    | true =>
      simp only [if_true]
      omega
  simp only at wanted
  generalize (if relative then addInt64 current bytes else bytes) = sum at asked wanted
  split at wanted
  · cases wanted
  split at wanted <;> cases wanted
  omega

theorem targetSize_overflow {spec : String} {current : Nat} {amount : Bool × Int}
    (fits : current < 2 ^ 63) (denoted : specAmount spec = some amount)
    (large : 2 ^ 63 ≤ requested current amount) :
    ∃ text, targetSize spec current = .error text := by
  cases wanted : targetSize spec current with
  | error text => exact ⟨text, rfl⟩
  | ok target =>
    obtain ⟨amount', denoted', same⟩ := targetSize_requested fits wanted
    obtain rfl := Option.some.inj (denoted'.symm.trans denoted)
    have small := (targetSize_spec wanted).2
    omega

/-! ### The calls of a resize -/

/-- A size that qemu-img reports, and one that it is asked for. -/
inductive SizeEvent where
  | reported (path format : String) (size : Nat)
  | grow (format path : String) (bytes : Nat)
  deriving DecidableEq, Repr

def noteSize : (op : Op) → op.Res → List SizeEvent → List SizeEvent
  | .imageInfo path => fun answer log =>
    match answer with
    | .ok info => log ++ [.reported path info.1 info.2]
    | .error _ => log
  | .resizeImage format path bytes => fun _ log => log ++ [.grow format path bytes]
  | _ => fun _ log => log

/-- A host whose calls may have any answer, with the sizes noted. -/
def sizeHost : Machine Op Op.Res (Unit × List SizeEvent) :=
  (Machine.anything Op Op.Res).observe fun op answer _ _ => noteSize op answer

def Op.Sizeless : Op → Prop
  | .imageInfo _ | .resizeImage _ _ _ => False
  | _ => True

/-- The image is grown to what the spec asks for, which is more than it has; and where that does
not fit, the resize fails and no image is touched. -/
structure GrowsAsAsked (spec : String) (result : Except String ResizeResult)
    (log : List SizeEvent) : Prop where
  grows : ∀ (format path : String) (bytes : Nat), .grow format path bytes ∈ log →
    ∃ (current : Nat) (amount : Bool × Int), .reported path format current ∈ log ∧
      specAmount spec = some amount ∧ current < bytes ∧ (bytes : Int) = requested current amount
  fits : ∀ (path format : String) (current : Nat) (amount : Bool × Int),
    .reported path format current ∈ log → specAmount spec = some amount →
      2 ^ 63 - 1 < requested current amount →
    (∀ format path bytes, .grow format path bytes ∉ log) ∧ ∃ text, result = .error text

section Calls

variable {spec : String} {log : List SizeEvent}

theorem noteSize_sizeless {op : Op} (sizeless : op.Sizeless) (res : op.Res)
    (log : List SizeEvent) : noteSize op res log = log := by
  cases op with
  | imageInfo | resizeImage => exact sizeless.elim
  | _ => rfl

/-- A program without calls about sizes leaves the log alone. -/
theorem sizeless_meets {α : Type} {p : Disk α} {ends : Except String α → Prop}
    (does : p.Does Op.Sizeless ends) (log : List SizeEvent) :
    Meets sizeHost (fun w => w.2 = log) p fun _ w => w.2 = log := by
  refine (Meets.of_does ?_ does).weaken (fun _ => id) fun _ _ ended => ended.2
  intro op sizeless w ans res w' same ran
  obtain ⟨world, -, rfl⟩ := Machine.observe_exec ran
  exact (noteSize_sizeless sizeless _ _).trans same

theorem growsAsAsked_nil (spec : String) (result : Except String ResizeResult) :
    GrowsAsAsked spec result [] :=
  ⟨fun _ _ _ mem => absurd mem not_mem_nil, fun _ _ _ _ mem => absurd mem not_mem_nil⟩

theorem growsAsAsked_refused (spec text path format : String) (current : Nat) :
    GrowsAsAsked spec (.error text) [.reported path format current] := by
  constructor
  · intro format path bytes mem
    cases mem_singleton.mp mem
  · intro _ _ _ _ _ _ _
    refine ⟨fun format path bytes mem => ?_, text, rfl⟩
    cases mem_singleton.mp mem

/-- The image was grown to the target, or qemu-img has failed to. -/
theorem growsAsAsked_grown {path format : String} {current target : Nat} (fits : current < 2 ^ 63)
    (wanted : targetSize spec current = .ok target) (result : Except String ResizeResult) :
    GrowsAsAsked spec result [.reported path format current, .grow format path target] := by
  have larger := (targetSize_spec wanted).1
  obtain ⟨amount, denoted, asked⟩ := targetSize_requested fits wanted
  constructor
  · intro format' path' bytes mem
    rcases mem_pair.mp mem with same | same
    · cases same
    · cases same
      exact ⟨current, amount, mem_cons_self, denoted, larger, asked⟩
  · intro path' format' current' amount' mem denoted' large
    rcases mem_pair.mp mem with same | same
    · cases same
      obtain ⟨text, refused⟩ := targetSize_overflow fits denoted' (by omega)
      rw [wanted] at refused
      cases refused
    · cases same

theorem renameResized_sizeless (src dst : String) : (renameResized src dst).Makes Op.Sizeless := by
  unfold renameResized
  split
  · refine .bind (.ask trivial) fun found _ => ?_
    split
    · exact trivial
    · refine .bind (.ask trivial) fun renamed _ => ?_
      split <;> exact trivial
  · exact trivial

theorem saveResized_sizeless (cfg : VMConfig) (src dst finalPath : String) (current target : Nat) :
    (saveResized cfg src dst finalPath current target).Makes Op.Sizeless := by
  refine .bind (.ask trivial) fun saved _ => ?_
  split
  · exact trivial
  · unfold renameBack
    split
    · exact .bind (.ask trivial) fun _ _ => trivial
    · exact trivial

theorem recordResize_sizeless (site : Site) (name : String) (cfg : VMConfig) (d : DiskConfig)
    (current target : Nat) :
    (recordResize site name cfg d current target).Makes Op.Sizeless := by
  unfold recordResize
  -- the paths are kept from being computed
  generalize site.diskPath name d = src
  generalize site.diskPath name (resized target none d) = dst
  refine .bind_throw (renameResized_sizeless src dst) fun named _ => ?_
  exact saveResized_sizeless _ src dst named.1 current target

theorem growImage_meets_sizes (format path : String) (bytes : Nat) (log : List SizeEvent) :
    Meets sizeHost (fun w => w.2 = log) (growImage format path bytes)
      fun _ w => w.2 = log ++ [.grow format path bytes] := by
  refine .call (fun _ w => w.2 = log ++ [.grow format path bytes]) ?_ fun res => ?_
  · intro w ans res w' same ran
    obtain ⟨world, -, rfl⟩ := Machine.observe_exec ran
    rw [← same]
    rfl
  · cases res <;> exact .done fun _ => id

theorem imageVirtualSize_meets_sizes (path : String) :
    Meets sizeHost (fun w => w.2 = []) (imageVirtualSize path)
      (Outcome (fun info w => w.2 = [.reported path info.1 info.2]) fun w => w.2 = []) := by
  refine .call (fun res w => w.2 = noteSize (.imageInfo path) res []) ?_ fun res => ?_
  · intro w ans res w' same ran
    obtain ⟨world, -, rfl⟩ := Machine.observe_exec ran
    rw [← same]
  · cases res <;> exact .done fun _ => id

variable (site : Site) (name : String) (cfg : VMConfig) (d : DiskConfig)

/-- The reported sizes are those of an `int64` that is not negative. -/
def SizesFit (log : List SizeEvent) : Prop :=
  ∀ (path format : String) (size : Nat), .reported path format size ∈ log → size < 2 ^ 63

theorem resizeFrom_grows (info : String × Nat) :
    Meets sizeHost (fun w => w.2 = [.reported (site.diskPath name d) info.1 info.2])
      (resizeFrom site name spec cfg d info) fun result w =>
        SizesFit w.2 → GrowsAsAsked spec result w.2 := by
  unfold resizeFrom
  generalize site.diskPath name d = src
  split
  · rename_i text refused
    refine .done fun w same _ => ?_
    rw [same]
    exact growsAsAsked_refused _ _ _ _ _
  · rename_i target wanted
    have grown : ∀ (result : Except String ResizeResult) (w : Unit × List SizeEvent),
        w.2 = [.reported src info.1 info.2] ++ [.grow info.1 src target] →
        SizesFit w.2 → GrowsAsAsked spec result w.2 := by
      intro result w same fit
      rw [same] at fit ⊢
      exact growsAsAsked_grown (fit _ _ _ mem_cons_self) wanted result
    refine .bind (growImage_meets_sizes _ _ _ _) (fun _ => grown _) fun _ => ?_
    exact (sizeless_meets (recordResize_sizeless site name cfg d info.2 target) _).weaken
      (fun _ => id) grown

theorem grows_of_nil {result : Except String ResizeResult} {w : Unit × List SizeEvent}
    (none : w.2 = []) : SizesFit w.2 → GrowsAsAsked spec result w.2 := by
  intro _
  rw [none]
  exact growsAsAsked_nil spec result

theorem resizeDisk_grows :
    Meets sizeHost (fun w => w.2 = []) (resizeDisk site name spec cfg d) fun result w =>
      SizesFit w.2 → GrowsAsAsked spec result w.2 := by
  have stat : (statDisk (site.diskPath name d)).Makes Op.Sizeless :=
    .bind (.ask trivial) fun _ _ => .orThrow
  have tool : lookQemuImg.Makes Op.Sizeless :=
    .bind (.ask trivial) fun _ _ => .orThrow
  refine .bind (sizeless_meets stat []) (fun _ _ => grows_of_nil) fun _ => ?_
  refine .bind (sizeless_meets tool []) (fun _ _ => grows_of_nil) fun _ => ?_
  exact .bind (imageVirtualSize_meets_sizes _) (fun _ _ => grows_of_nil) fun info =>
    resizeFrom_grows site name cfg d info

theorem resizeBootDisk_grows :
    Meets sizeHost (fun w => w.2 = []) (resizeBootDisk site name spec) fun result w =>
      SizesFit w.2 → GrowsAsAsked spec result w.2 := by
  have stopped : (requireStopped name).Makes Op.Sizeless :=
    requireStopped_does trivial (fun _ => trivial) name
  have loaded : loadConfig.Makes Op.Sizeless :=
    .bind (.ask trivial) fun _ _ => .orThrow
  refine .bind (sizeless_meets stopped []) (fun _ _ => grows_of_nil) fun _ => ?_
  refine .bind (sizeless_meets loaded []) (fun _ _ => grows_of_nil) fun cfg => ?_
  unfold resizeWith
  split
  · exact .done fun _ => grows_of_nil
  · exact resizeDisk_grows site name cfg _

end Calls

/-- Whatever the calls answer, `ResizeBootDisk` grows an image to what the spec asks for, or not
at all. -/
theorem resize_never_shrinks (site : Site) (name spec : String)
    (result : Except String ResizeResult) (log : List SizeEvent)
    (ran : Ran sizeHost (resizeBootDisk site name spec) ((), []) result ((), log))
    (fit : SizesFit log) : GrowsAsAsked spec result log :=
  resizeBootDisk_grows site name rfl ran fit

/-- A stopped VM with one image, whose calls succeed. -/
def imageOf (size : Nat) : (op : Op) → op.Res
  | .loadState => .ok {}
  | .loadConfig => .ok imageWorld.config
  | .processAlive _ => false
  | .abs path => .ok path
  | .lookQemuImg => .ok "/usr/bin/qemu-img"
  | .rename _ _ _ => .ok ()
  | .imageInfo _ => .ok ("qcow2", size)
  | .saveConfig _ | .stat _ | .mkdirAll _ | .openFile _ | .create _ | .copy _ _ | .close _ _
  | .remove _ | .resizeImage _ _ _ => .ok ()

/-- An image of 100 bytes grows by 40. -/
theorem grown_by_forty :
    ∃ result log, Ran sizeHost (resizeBootDisk laptop "work" "+40") ((), []) result ((), log) ∧
      SizeEvent.grow "qcow2" "/vms/work/disk-work-20G.qcow2" 140 ∈ log ∧
      GrowsAsAsked "+40" result log := by
  obtain ⟨result, ⟨⟨⟩, log⟩, ran, logged⟩ := Ran.exists_of_play (M := sizeHost)
    (replicate 8 (imageOf 100)) (resizeBootDisk laptop "work" "+40") ((), [])
    (fun _ w => w.2 = [.reported "/vms/work/disk-work-20G.qcow2" "qcow2" 100,
      .grow "qcow2" "/vms/work/disk-work-20G.qcow2" 140]) (by decide)
  cases logged
  have fit : SizesFit [.reported "/vms/work/disk-work-20G.qcow2" "qcow2" 100,
      .grow "qcow2" "/vms/work/disk-work-20G.qcow2" 140] := by
    intro path format size member
    rcases mem_pair.mp member with same | same <;> cases same
    decide
  exact ⟨result, _, ran, mem_cons_of_mem _ mem_cons_self,
    resize_never_shrinks laptop "work" "+40" result _ ran fit⟩

end Vee.BootDisk
