import Vee.VM.Proofs.DiskPath

/-!
# Moving a boot disk

A move across file systems is a copy, and the copy is only closed in a deferred call whose error
is dropped. If the system reports at that moment that it could not write everything, the source
is removed all the same and the disk is gone.
-/

namespace Vee.BootDisk

open Option BootDisk.World

/-- What has become of the copies that a move has made. -/
structure Copies where
  /-- The source of a copy that lost bytes when it was closed. -/
  torn : Option Place := none
  /-- The source of such a copy has been removed. -/
  lost : Bool := false

def Copies.note (site : Site) : (op : Op) → op.Res → World → World → Copies → Copies
  | .create _, .ok _, _, _, c => { c with torn := none }
  | .close src dst, _, before, after, c =>
    if before.files (site.place dst) = after.files (site.place dst) then c
    else { c with torn := some (site.place src) }
  | .remove path, .ok _, _, _, c => { c with lost := c.lost || c.torn = some (site.place path) }
  | _, _, _, _, c => c

def moveHost (site : Site) : Machine Op Op.Res (World × Copies) :=
  (diskHost site).observe (Copies.note site)

def World.bootPlace (w : World) (site : Site) (name : String) : Option Place :=
  (w.config.disks.find? (·.managed)).map fun d => site.place (site.diskPath name d)

/-- The disk is where the config says or, if the error says so, at the new path. -/
def DiskSafe {α : Type} (site : Site) (name newPath : String) (data : List UInt8)
    (result : Except String α) (w : World) : Prop :=
  ∃ place, w.bytes place = some data ∧
    (w.bootPlace site name = some place ∨
      place = site.place newPath ∧ ∃ err, result = .error (leftAt err newPath))

section

variable (site : Site) (data : List UInt8) (cfg : VMConfig) (src dst : String)

/-- The disk is whole at a path, and this is the stored config. -/
structure At (path : String) (w : World × Copies) : Prop where
  whole : w.1.bytes (site.place path) = some data
  kept : w.2.lost = false
  config : w.1.config = cfg

/-- The disk is whole at a path, and no copy is known to have lost bytes. -/
structure Fresh (path : String) (w : World × Copies) : Prop extends At site data cfg path w where
  fresh : w.2.torn = none

/-- The disk is whole at the first path, and if a copy has lost bytes, it was not one of the file
at the second. -/
structure Beside (w : World × Copies) : Prop extends At site data cfg src w where
  untorn : w.2.torn ≠ some (site.place dst)

/-- The files at two paths are shorter than the disk was. -/
def Short (w : World) : Prop :=
  ∀ path, path = src ∨ path = dst → ∀ bytes, w.bytes (site.place path) = some bytes →
    bytes.length < data.length

/-- The disk is gone: what is left at both paths is shorter. -/
structure Gone (w : World × Copies) : Prop where
  short : Short site data src dst w.1
  some_size : 0 < data.length
  lost : w.2.lost = true
  config : w.1.config = cfg

/-- A copy has been closed: it is whole, or it is on record that it is not. -/
structure Copied (w : World × Copies) : Prop extends At site data cfg src w where
  copy : w.1.bytes (site.place dst) = some data ∧ w.2.torn = none ∨
    ∃ bytes, w.1.bytes (site.place dst) = some bytes ∧ bytes.length < data.length ∧
      w.2.torn = some (site.place src)

/-- A copy is there with all its bytes, but has not been closed. -/
structure Written (w : World × Copies) : Prop extends Fresh site data cfg src w where
  copied : w.1.bytes (site.place dst) = some data

def Renamed : Except LinkError Unit → World × Copies → Prop
  | .ok _ => Fresh site data cfg dst
  | .error failed => fun w =>
    (failed.crossDevice = true → site.place src ≠ site.place dst) ∧ Fresh site data cfg src w

/-- What a move of a file comes to: the whole file is at one of the two paths, or it is gone. -/
def Moved : Except String Unit → World × Copies → Prop :=
  Either (fun w => Fresh site data cfg dst w ∨ Gone site data cfg src dst w) (At site data cfg src)

end

/-! ### Files -/

section Files

variable {w : World} {place p q : Place}

@[simp] theorem World.bytes_put_self (w : World) (place : Place) (bytes : List UInt8) :
    (w.put place (some (.file bytes))).bytes place = some bytes := by
  simp [World.put, World.bytes]

@[simp] theorem World.bytes_put_none (w : World) (place : Place) :
    (w.put place none).bytes place = none := by
  simp [World.put, World.bytes]

theorem World.bytes_put_ne {entry : Option Entry} (other : p ≠ q) :
    (w.put q entry).bytes p = w.bytes p := by
  simp [World.put, World.bytes, other]

variable {bytes : List UInt8} {w' : World}

theorem World.bytes_eq_some : w.bytes p = some bytes ↔ w.files p = some (.file bytes) := by
  unfold World.bytes
  split
  · rename_i found there
    simp [there]
  · rename_i none
    simp only [reduceCtorEq, false_iff]
    exact none bytes

theorem World.files_mkdirs {entry : Entry} (there : w.files p = some entry) :
    (w.mkdirs place).files p = some entry := by
  simp [World.mkdirs, there]

theorem World.moved_inv (moved : w.moved p q = some w') : ∃ bytes, w.bytes p = some bytes ∧
    (p = q ∧ w' = w ∨ w' = (w.put p none).put q (some (.file bytes))) := by
  unfold World.moved at moved
  split at moved
  · cases moved
  rename_i bytes whole
  refine ⟨bytes, whole, ?_⟩
  split at moved
  · rename_i same
    exact .inl ⟨same, (some.inj moved).symm⟩
  · split at moved <;> cases moved
    exact .inr rfl

theorem World.moved_config (moved : w.moved p q = some w') : w'.config = w.config := by
  obtain ⟨_, -, ⟨-, rfl⟩ | rfl⟩ := moved_inv moved <;> rfl

theorem World.moved_bytes (there : w.bytes p = some bytes) (moved : w.moved p q = some w') :
    w'.bytes q = some bytes := by
  obtain ⟨found, whole, ⟨rfl, rfl⟩ | rfl⟩ := moved_inv moved
  · exact there
  · rw [bytes_put_self, ← whole, there]

/-- What a rename leaves at either place is what was at the first one. -/
theorem World.of_moved {r : Place} (moved : w.moved p q = some w')
    (there : w'.bytes r = some bytes) : w.bytes p = some bytes ∨ w.bytes r = some bytes := by
  obtain ⟨found, whole, ⟨-, rfl⟩ | rfl⟩ := moved_inv moved
  · exact .inr there
  by_cases target : r = q
  · subst target
    rw [bytes_put_self] at there
    exact .inl (whole.trans there)
  rw [bytes_put_ne target] at there
  by_cases source : r = p
  · subst source
    rw [bytes_put_none] at there
    cases there
  · rw [bytes_put_ne source] at there
    exact .inr there

theorem World.truncated_config (w : World) (place : Place) (kept : Nat) :
    (w.truncated place kept).config = w.config := by
  unfold World.truncated
  split <;> rfl

theorem World.bytes_truncated_ne (kept : Nat) (other : p ≠ q) :
    (w.truncated q kept).bytes p = w.bytes p := by
  unfold World.truncated
  split
  · rfl
  · exact bytes_put_ne other

theorem World.bytes_truncated (kept : Nat) (there : w.bytes p = some bytes) :
    (w.truncated p kept).bytes p = some (bytes.take kept) := by
  unfold World.truncated
  rw [there]
  exact bytes_put_self _ _ _

end Files

/-! ### Steps of a move -/

section Steps

variable {site : Site} {data : List UInt8} {cfg : VMConfig} {src dst first second : String}
  {ans : Answer} {w w' : World × Copies} {answer : Except String Unit} {op : Op}
  {before after world : World}

theorem moveHost_exec {answer : op.Res}
    (ran : (moveHost site).exec 0 op ans w = some (answer, w')) :
    ∃ world, op.exec site ans w.1 = some (answer, world) ∧
      w' = (world, Copies.note site op answer w.1 world w.2) := Machine.observe_exec ran

theorem rename_step {undo : Bool} {answer : Except LinkError Unit}
    (here : Fresh site data cfg src w)
    (executed : (moveHost site).exec 0 (.rename undo src dst) ans w = some (answer, w')) :
    Renamed site data cfg src dst answer w' := by
  obtain ⟨world, ran, rfl⟩ := moveHost_exec executed
  simp only [Op.exec] at ran
  split at ran
  · cases ran
    exact ⟨by simp, here⟩
  · obtain ⟨world, moved, same⟩ := map_eq_some_iff.mp ran
    cases same
    exact ⟨⟨moved_bytes here.whole moved, here.kept,
      (moved_config moved).trans here.config⟩, here.fresh⟩

theorem openFile_step (here : Fresh site data cfg src w)
    (executed : (moveHost site).exec 0 (.openFile src) ans w = some (answer, w')) :
    Fresh site data cfg src w' := by
  obtain ⟨world, ran, rfl⟩ := moveHost_exec executed
  simp only [Op.exec] at ran
  split at ran
  · cases ran
    exact here
  · obtain ⟨bytes, -, same⟩ := map_eq_some_iff.mp ran
    cases same
    exact here

section Across

variable (other : site.place src ≠ site.place dst)

include other

section

variable (here : Fresh site data cfg src w)

include here

theorem create_step (executed : (moveHost site).exec 0 (.create dst) ans w = some (answer, w')) :
    Fresh site data cfg src w' := by
  obtain ⟨world, ran, rfl⟩ := moveHost_exec executed
  simp only [Op.exec] at ran
  split at ran
  · cases ran
    exact here
  · split at ran <;> cases ran
    exact ⟨⟨(bytes_put_ne other).trans here.whole, here.kept, here.config⟩, rfl⟩

theorem copy_step (executed : (moveHost site).exec 0 (.copy src dst) ans w = some (answer, w')) :
    Either (Written site data cfg src dst) (Fresh site data cfg src) answer w' := by
  obtain ⟨world, ran, rfl⟩ := moveHost_exec executed
  simp only [Op.exec, here.whole] at ran
  split at ran <;> cases ran
  · exact ⟨⟨(bytes_put_ne other).trans here.whole, here.kept, here.config⟩, here.fresh⟩
  · exact ⟨⟨⟨(bytes_put_ne other).trans here.whole, here.kept, here.config⟩, here.fresh⟩,
      bytes_put_self _ _ _⟩

/-- Closing a copy may lose bytes of it, but nothing of its source. -/
theorem close_beside
    (executed : (moveHost site).exec 0 (.close src dst) ans w = some (answer, w')) :
    Beside site data cfg src dst w' := by
  obtain ⟨world, ran, rfl⟩ := moveHost_exec executed
  have noted : ∀ after, (Copies.note site (.close src dst) answer w.1 after w.2).lost = false ∧
      (Copies.note site (.close src dst) answer w.1 after w.2).torn ≠ some (site.place dst) := by
    intro after
    simp only [Copies.note]
    split
    · exact ⟨here.kept, by simp [here.fresh]⟩
    · exact ⟨here.kept, by simpa using other⟩
  simp only [Op.exec] at ran
  split at ran <;> cases ran
  · exact ⟨⟨(bytes_truncated_ne _ other).trans here.whole, (noted _).1,
      (truncated_config _ _ _).trans here.config⟩, (noted _).2⟩
  · exact ⟨⟨here.whole, (noted _).1, here.config⟩, (noted _).2⟩

end

theorem close_step (written : Written site data cfg src dst w)
    (executed : (moveHost site).exec 0 (.close src dst) ans w = some (answer, w')) :
    Copied site data cfg src dst w' := by
  refine ⟨(close_beside other written.toFresh executed).toAt, ?_⟩
  obtain ⟨world, ran, rfl⟩ := moveHost_exec executed
  simp only [Op.exec] at ran
  split at ran <;> cases ran
  · have left : (w.1.truncated (site.place dst) ans.num).bytes (site.place dst) =
        some (data.take ans.num) := bytes_truncated _ written.copied
    have before := bytes_eq_some.mp written.copied
    have after := bytes_eq_some.mp left
    simp only [Copies.note, before, after]
    by_cases all : data.length ≤ ans.num
    · rw [List.take_of_length_le all] at left ⊢
      exact .inl ⟨left, by simpa using written.fresh⟩
    have shorter : (data.take ans.num).length < data.length := by
      rw [List.length_take]
      omega
    refine .inr ⟨_, left, shorter, ?_⟩
    rw [if_neg]
    intro same
    have equal : data = data.take ans.num := by simpa using same
    rw [← equal] at shorter
    omega
  · refine .inl ⟨written.copied, ?_⟩
    simp only [Copies.note, if_true]
    exact written.fresh

theorem removeSource_step (copied : Copied site data cfg src dst w)
    (executed : (moveHost site).exec 0 (.remove src) ans w = some (answer, w')) :
    Moved site data cfg src dst answer w' := by
  obtain ⟨world, ran, rfl⟩ := moveHost_exec executed
  simp only [Op.exec, copied.whole] at ran
  split at ran <;> cases ran
  · exact copied.toAt
  rcases copied.copy with ⟨whole, fresh⟩ | ⟨bytes, left, shorter, torn⟩
  · refine .inl ⟨⟨(bytes_put_ne (Ne.symm other)).trans whole, ?_, copied.config⟩, fresh⟩
    simp [Copies.note, copied.kept, fresh]
  refine .inr ⟨?_, by omega, by simp [Copies.note, torn], copied.config⟩
  rintro path (rfl | rfl) found there
  · rw [bytes_put_none] at there
    cases there
  · rw [bytes_put_ne (Ne.symm other), left] at there
    cases there
    exact shorter

theorem removeCopy_step (here : Beside site data cfg src dst w)
    (executed : (moveHost site).exec 0 (.remove dst) ans w = some (answer, w')) :
    At site data cfg src w' := by
  obtain ⟨world, ran, rfl⟩ := moveHost_exec executed
  simp only [Op.exec] at ran
  split at ran
  · cases ran
    exact here.toAt
  · obtain ⟨bytes, -, same⟩ := map_eq_some_iff.mp ran
    cases same
    refine ⟨(bytes_put_ne other).trans here.whole, ?_, here.config⟩
    simp [Copies.note, here.kept, here.untorn]

theorem copyFile_meets : Meets (moveHost site) (Fresh site data cfg src) (copyFile src dst)
      (Either (Copied site data cfg src dst) (Beside site data cfg src dst)) := by
  have beside : ∀ w, Fresh site data cfg src w → Beside site data cfg src dst w :=
    fun w here => ⟨here.toAt, by simp [here.fresh]⟩
  refine .call (fun _ => Fresh site data cfg src) (fun _ _ _ _ => openFile_step) fun opened => ?_
  cases opened with
  | error text => exact .done beside
  | ok _ =>
    refine .call (fun _ => Fresh site data cfg src) (fun _ _ _ _ => create_step other)
      fun created => ?_
    cases created with
    | error text => exact .done beside
    | ok _ =>
      refine .call (Either (Written site data cfg src dst) (Fresh site data cfg src))
        (fun _ _ _ _ => copy_step other) fun copied => ?_
      cases copied with
      | error text =>
        refine .call (fun _ => Beside site data cfg src dst)
          (fun _ _ _ _ => close_beside other) fun _ => .done fun _ => id
      | ok _ =>
        refine .call (fun _ => Copied site data cfg src dst)
          (fun _ _ _ _ => close_step other) fun _ => .done fun _ => id

theorem moveAcross_meets :
    Meets (moveHost site) (Fresh site data cfg src) (moveAcross src dst)
      (Moved site data cfg src dst) := by
  refine .bind_ok (copyFile_meets other).attempt fun copied => ?_
  cases copied with
  | error text =>
    exact .call (fun _ => At site data cfg src) (fun _ _ _ _ => removeCopy_step other)
      fun _ => .done fun _ => id
  | ok _ =>
    refine .call (Moved site data cfg src dst) (fun _ _ _ _ => removeSource_step other)
      fun removed => ?_
    cases removed <;> exact .done fun _ => id

end Across

theorem moveFile_meets : Meets (moveHost site) (Fresh site data cfg src) (moveFile src dst)
      (Moved site data cfg src dst) := by
  refine .call (Renamed site data cfg src dst) (fun _ _ _ _ => rename_step) fun renamed => ?_
  cases renamed with
  | ok _ => exact .done fun _ => .inl
  | error failed =>
    obtain ⟨crossDevice, text⟩ := failed
    refine .given fun crosses => ?_
    cases crossDevice with
    | false => exact .done fun _ => Fresh.toAt
    | true => exact moveAcross_meets (crosses rfl)

/-! ### Moving back what is gone -/

def Op.Within (first second : String) : Op → Prop
  | .rename _ src dst | .copy src dst | .close src dst =>
    (src = first ∨ src = second) ∧ (dst = first ∨ dst = second)
  | .openFile path | .create path | .remove path => path = first ∨ path = second
  | _ => False

theorem moveFile_within (source : src = first ∨ src = second)
    (target : dst = first ∨ dst = second) :
    (moveFile src dst).Makes (Op.Within first second) := by
  have copies : (copyFile src dst).Makes (Op.Within first second) := by
    refine ⟨source, fun opened => ?_⟩
    cases opened with
    | error text => exact trivial
    | ok _ =>
      refine ⟨target, fun created => ?_⟩
      cases created with
      | error text => exact trivial
      | ok _ =>
        refine ⟨⟨source, target⟩, fun copied => ⟨⟨source, target⟩, fun _ => ?_⟩⟩
        cases copied <;> exact trivial
  refine ⟨⟨source, target⟩, fun renamed => ?_⟩
  cases renamed with
  | ok _ => exact trivial
  | error failed =>
    obtain ⟨crossDevice, text⟩ := failed
    cases crossDevice with
    | false => exact trivial
    | true =>
      refine copies.attempt.bind fun copied _ => ?_
      cases copied with
      | error text => exact ⟨target, fun _ => trivial⟩
      | ok _ =>
        refine ⟨source, fun removed => ?_⟩
        cases removed <;> exact trivial

theorem Copies.note_lost {answer : op.Res} {c : Copies} (lost : c.lost = true) :
    (Copies.note site op answer before after c).lost = true := by
  unfold Copies.note
  split
  · exact lost
  · split <;> exact lost
  · simp [lost]
  · exact lost

theorem Short.put (short : Short site data first second world) (place : Place)
    {entry : Option Entry}
    (fits : ∀ bytes, entry = some (.file bytes) → bytes.length < data.length) :
    Short site data first second (world.put place entry) := by
  intro path one bytes there
  by_cases same : site.place path = place
  · subst same
    rw [bytes_eq_some] at there
    simp only [World.put, if_true] at there
    exact fits bytes there
  · rw [bytes_put_ne same] at there
    exact short path one bytes there

theorem Short.put_file (short : Short site data first second world) (place : Place)
    (bytes : List UInt8) (fits : bytes.length < data.length) :
    Short site data first second (world.put place (some (.file bytes))) := by
  apply short.put
  rintro other same
  cases same
  exact fits

theorem Short.exec {answer : op.Res} (short : Short site data first second before)
    (some_size : 0 < data.length) (within : op.Within first second)
    (ran : op.exec site ans before = some (answer, after)) :
    after.config = before.config ∧ Short site data first second after := by
  cases op with
  | rename undo src dst =>
    simp only [Op.exec] at ran
    split at ran
    · cases ran
      exact ⟨rfl, short⟩
    · obtain ⟨world, moved, same⟩ := map_eq_some_iff.mp ran
      cases same
      refine ⟨moved_config moved, fun path one bytes there => ?_⟩
      rcases of_moved moved there with old | old
      · exact short _ within.1 bytes old
      · exact short path one bytes old
  | openFile path =>
    simp only [Op.exec] at ran
    split at ran
    · cases ran
      exact ⟨rfl, short⟩
    · obtain ⟨bytes, -, same⟩ := map_eq_some_iff.mp ran
      cases same
      exact ⟨rfl, short⟩
  | create path =>
    simp only [Op.exec] at ran
    split at ran
    · cases ran
      exact ⟨rfl, short⟩
    · split at ran <;> cases ran
      exact ⟨rfl, short.put_file _ [] some_size⟩
  | copy src dst =>
    simp only [Op.exec] at ran
    split at ran
    · cases ran
    rename_i whole there
    have shorter := short _ within.1 whole there
    split at ran <;> cases ran
    · refine ⟨rfl, short.put_file _ _ ?_⟩
      rw [List.length_take]
      omega
    · exact ⟨rfl, short.put_file _ _ shorter⟩
  | close src dst =>
    simp only [Op.exec] at ran
    split at ran <;> cases ran
    · refine ⟨truncated_config _ _ _, ?_⟩
      unfold World.truncated
      split
      · exact short
      · rename_i whole there
        have shorter := short _ within.2 whole there
        apply short.put_file
        rw [List.length_take]
        omega
    · exact ⟨rfl, short⟩
  | remove path =>
    simp only [Op.exec] at ran
    split at ran
    · cases ran
      exact ⟨rfl, short⟩
    · obtain ⟨bytes, -, same⟩ := map_eq_some_iff.mp ran
      cases same
      exact ⟨rfl, short.put _ nofun⟩
  | _ => exact within.elim

theorem Gone.keep {answer : op.Res} (gone : Gone site data cfg first second w)
    (within : op.Within first second)
    (executed : (moveHost site).exec 0 op ans w = some (answer, w')) :
    Gone site data cfg first second w' := by
  obtain ⟨world, ran, rfl⟩ := moveHost_exec executed
  obtain ⟨config, short⟩ := Short.exec gone.short gone.some_size within ran
  exact ⟨short, gone.some_size, Copies.note_lost gone.lost, config.trans gone.config⟩

theorem moveFile_gone (source : src = first ∨ src = second) (target : dst = first ∨ dst = second) :
    Meets (moveHost site) (Gone site data cfg first second) (moveFile src dst) fun _ =>
      Gone site data cfg first second :=
  (Meets.of_does (fun _ within _ _ _ _ gone => gone.keep within)
    (moveFile_within source target)).weaken (fun _ => id) fun _ _ ended => ended.2

end Steps

/-! ### Before the move -/

def Op.Looks : Op → Prop
  | .loadState | .processAlive _ | .loadConfig | .stat _ | .abs _ | .mkdirAll _
  | .lookQemuImg | .imageInfo _ => True
  | _ => False

theorem Op.Looks.exec {site : Site} {op : Op} {ans : Answer} {answer : op.Res}
    {before after : World} (looks : op.Looks)
    (ran : op.exec site ans before = some (answer, after)) :
    after.config = before.config ∧
      ∀ place entry, before.files place = some entry → after.files place = some entry := by
  cases op with
  | stat path =>
    simp only [Op.exec] at ran
    split at ran
    · cases ran
      exact ⟨rfl, fun _ _ => id⟩
    · split at ran <;> cases ran <;> exact ⟨rfl, fun _ _ => id⟩
  | abs path =>
    simp only [Op.exec] at ran
    split at ran <;> cases ran <;> exact ⟨rfl, fun _ _ => id⟩
  | mkdirAll path =>
    simp only [Op.exec] at ran
    split at ran <;> cases ran
    · exact ⟨rfl, fun _ _ => id⟩
    · exact ⟨rfl, fun _ _ => files_mkdirs⟩
  | imageInfo path =>
    simp only [Op.exec] at ran
    split at ran
    · cases ran
      exact ⟨rfl, fun _ _ => id⟩
    · split at ran
      · split at ran <;> cases ran
        exact ⟨rfl, fun _ _ => id⟩
      · cases ran
  | loadState | processAlive | loadConfig | lookQemuImg =>
    cases ran
    exact ⟨rfl, fun _ _ => id⟩
  | _ => exact looks.elim

/-- The check that the VM is stopped loads its state and asks for its process. -/
theorem requireStopped_does {allowed : Op → Prop} (load : allowed .loadState)
    (ask : ∀ pid, allowed (.processAlive pid)) (name : String) :
    (requireStopped name).Makes allowed := by
  have loaded : loadState.Makes allowed :=
    .bind (.ask load) fun _ _ => .orThrow
  refine .bind_throw loaded fun state _ => ?_
  split
  · refine .bind (.ask (ask _)) fun alive _ => ?_
    split <;> exact trivial
  · exact trivial

theorem requireStopped_looks (name : String) : (requireStopped name).Makes Op.Looks :=
  requireStopped_does trivial (fun _ => trivial) name

section Whole

variable {site : Site} {name targetDir path first second new : String} {data : List UInt8}
  {cfg : VMConfig} {d : DiskConfig} {w w' : World × Copies} {ans : Answer}

theorem Fresh.keep {op : Op} {answer : op.Res} (here : Fresh site data cfg path w)
    (executed : (moveHost site).exec 0 op ans w = some (answer, w')) (looks : op.Looks) :
    Fresh site data cfg path w' := by
  obtain ⟨world, ran, rfl⟩ := moveHost_exec executed
  obtain ⟨config, files⟩ := looks.exec ran
  have noted : Copies.note site op answer w.1 world w.2 = w.2 := by
    cases op with
    | stat | abs | mkdirAll | loadState | processAlive | loadConfig | lookQemuImg | imageInfo => rfl
    | _ => exact looks.elim
  rw [noted]
  have whole := bytes_eq_some.mpr (files _ _ (bytes_eq_some.mp here.whole))
  exact ⟨⟨whole, here.kept, config.trans here.config⟩, here.fresh⟩

def Verdict {α : Type} (site : Site) (name newPath : String) (data : List UInt8)
    (result : Except String α) (w : World × Copies) : Prop :=
  DiskSafe site name newPath data result w.1 ↔ w.2.lost = false

variable {α : Type} {result : Except String α} {cfg' : VMConfig}
  {answer : Except String Unit}

theorem At.verdict (here : At site data cfg path w)
    (named : w.1.bootPlace site name = some (site.place path)) :
    Verdict site name new data result w :=
  ⟨fun _ => here.kept, fun _ => ⟨_, here.whole, .inl named⟩⟩

/-- What is gone is neither where the config says nor at the new path. -/
theorem Gone.verdict (gone : Gone site data cfg path new w) {named : String}
    (one : named = path ∨ named = new) (boot : w.1.bootPlace site name = some (site.place named)) :
    Verdict site name new data result w := by
  constructor
  · rintro ⟨_, there, found | ⟨rfl, -⟩⟩
    · cases boot.symm.trans found
      exact absurd (gone.short named one data there) (Nat.lt_irrefl _)
    · exact absurd (gone.short new (.inr rfl) data there) (Nat.lt_irrefl _)
  · intro kept
    rw [gone.lost] at kept
    cases kept

theorem Gone.swap (gone : Gone site data cfg first second w) : Gone site data cfg second first w :=
  ⟨fun path one => gone.short path one.symm, gone.some_size, gone.lost, gone.config⟩

theorem saveConfig_step (here : Fresh site data cfg path w)
    (executed : (moveHost site).exec 0 (.saveConfig cfg') ans w = some (answer, w')) :
    Either (Fresh site data cfg' path) (Fresh site data cfg path) answer w' := by
  obtain ⟨world, ran, rfl⟩ := moveHost_exec executed
  simp only [Op.exec] at ran
  split at ran <;> cases ran
  · exact here
  · exact ⟨⟨here.whole, here.kept, rfl⟩, here.fresh⟩

theorem saveConfig_gone (gone : Gone site data cfg first second w)
    (executed : (moveHost site).exec 0 (.saveConfig cfg') ans w = some (answer, w')) :
    Either (Gone site data cfg' first second) (Gone site data cfg first second) answer w' := by
  obtain ⟨world, ran, rfl⟩ := moveHost_exec executed
  simp only [Op.exec] at ran
  split at ran <;> cases ran
  · exact gone
  · exact ⟨gone.short, gone.some_size, gone.lost, rfl⟩

theorem looks_meets {p : Prog Op Op.Res α} (does : p.Makes Op.Looks) :
    Meets (moveHost site) (Fresh site data cfg path) p fun _ => Fresh site data cfg path :=
  (Meets.of_does (fun _ looks _ _ _ _ here ran => here.keep ran looks) does).weaken (fun _ => id)
    fun _ _ ended => ended.2

abbrev Yields {α W : Type} (value : α) (holds : W → Prop) : Except String α → W → Prop :=
  Outcome (fun found w => found = value ∧ holds w) holds

theorem absDir_meets : Meets (moveHost site) (Fresh site data cfg path) (absDir targetDir)
      (Yields (site.absPath targetDir) (Fresh site data cfg path)) := by
  refine .call (Yields (site.absPath targetDir) (Fresh site data cfg path)) ?_
    fun _ => .orThrow fun _ _ => id
  intro w ans answer w' here ran
  have kept := here.keep ran trivial
  obtain ⟨world, ran, -⟩ := moveHost_exec ran
  simp only [Op.exec, Answer.orFail] at ran
  split at ran
  · cases ran
    exact ⟨rfl, kept⟩
  · split at ran <;> cases ran
    · exact kept
    · exact ⟨rfl, kept⟩

theorem loadConfig_meets : Meets (moveHost site) (Fresh site data cfg path) loadConfig
      (Yields cfg (Fresh site data cfg path)) := by
  refine .call (Yields cfg (Fresh site data cfg path)) ?_ fun _ => .orThrow fun _ _ => id
  intro w ans answer w' here ran
  have kept := here.keep ran trivial
  obtain ⟨world, ran, -⟩ := moveHost_exec ran
  simp only [Op.exec, Answer.orFail] at ran
  split at ran <;> cases ran
  · exact kept
  · exact ⟨here.config, kept⟩

theorem moveImage_meets {src dst : String} :
    Meets (moveHost site) (Fresh site data cfg src) (moveImage src dst)
      (Moved site data cfg src dst) := by
  refine .bind_ok moveFile_meets.attempt fun moved => ?_
  cases moved <;> exact .done fun _ => id

section Named

variable (found : cfg.disks.find? (·.managed) = some d)

include found

theorem bootPlace_of_config (config : w.1.config = cfg) :
    w.1.bootPlace site name = some (site.place (site.diskPath name d)) := by
  simp [World.bootPlace, config, found]

theorem moveBack_meets (err : String) :
    Meets (moveHost site) (Fresh site data cfg new) (moveBack err (site.diskPath name d) new)
      (Verdict site name new data) := by
  refine .bind_ok moveFile_meets.attempt fun back => ?_
  cases back with
  | error text =>
    exact .done fun w here => ⟨fun _ => here.kept, fun _ => ⟨_, here.whole, .inr ⟨rfl, err, rfl⟩⟩⟩
  | ok _ =>
    refine .of_or (.done fun w here => ?_) (.done fun w gone => ?_)
    · exact here.toAt.verdict (bootPlace_of_config found here.config)
    · exact gone.swap.verdict (.inl rfl) (bootPlace_of_config found gone.config)

theorem moveBack_gone (err : String) :
    Meets (moveHost site) (Gone site data cfg (site.diskPath name d) new)
      (moveBack err (site.diskPath name d) new) (Verdict site name new data) := by
  refine .bind_ok (moveFile_gone (.inr rfl) (.inl rfl)).attempt fun back => ?_
  cases back <;>
    exact .done fun w gone => gone.verdict (.inl rfl) (bootPlace_of_config found gone.config)

theorem Fresh.unmoved {text : String} (here : Fresh site data cfg (site.diskPath name d) w) :
    Verdict site name new data (.error text : Except String (String × String)) w :=
  here.toAt.verdict (bootPlace_of_config found here.config)

section Recorded

-- The new path, once it is recorded, is the one that the disk has.
variable (resolved : site.diskPath name { d with path := new } = new)

include resolved

theorem bootPlace_of_moved (config : w.1.config = relocated cfg new) :
    w.1.bootPlace site name = some (site.place new) := by
  have changed := find_updateFirst (·.managed) ({ · with path := new }) (fun _ => id) cfg.disks
  have first : (relocated cfg new).disks.find? (·.managed) = some { d with path := new } :=
    changed.trans (by rw [found]; rfl)
  simp only [World.bootPlace, config, first, map_some, resolved]

theorem recordMove_meets : Meets (moveHost site)
      (fun w => Fresh site data cfg new w ∨ Gone site data cfg (site.diskPath name d) new w)
      (recordMove cfg (site.diskPath name d) new) (Verdict site name new data) := by
  refine .of_or ?_ ?_
  · refine .call (Either (Fresh _ _ (relocated cfg _) _) (Fresh _ _ cfg _))
      (fun _ _ _ _ => saveConfig_step) fun saved => ?_
    cases saved with
    | ok _ =>
      exact .done fun w here => here.toAt.verdict (bootPlace_of_moved found resolved here.config)
    | error err => exact moveBack_meets found err
  · refine .call (Either (Gone _ _ (relocated cfg _) _ _) (Gone _ _ cfg _ _))
      (fun _ _ _ _ => saveConfig_gone) fun saved => ?_
    cases saved with
    | ok _ =>
      exact .done fun w gone =>
        gone.verdict (.inr rfl) (bootPlace_of_moved found resolved gone.config)
    | error err => exact moveBack_gone found err

theorem moveInto_meets (absTarget : String) :
    Meets (moveHost site) (Fresh site data cfg (site.diskPath name d))
      (moveInto cfg (site.diskPath name d) absTarget new) (Verdict site name new data) := by
  refine .bind (looks_meets (.bind (.ask trivial) fun _ _ => .orThrow))
    (fun _ _ => Fresh.unmoved found)
    fun _ => ?_
  refine .bind moveImage_meets ?_ fun _ => recordMove_meets found resolved
  exact fun _ w here => here.verdict (bootPlace_of_config found here.config)

theorem moveTo_meets (absTarget : String) :
    Meets (moveHost site) (Fresh site data cfg (site.diskPath name d))
      (moveTo cfg (site.diskPath name d) absTarget new) (Verdict site name new data) := by
  unfold moveTo
  split
  · exact .done fun w here => here.unmoved found
  refine .call (fun _ => Fresh site data cfg _) (fun _ _ _ _ here ran => here.keep ran trivial)
    fun present => ?_
  cases present with
  | ok _ => exact .done fun w here => here.unmoved found
  | error text => exact moveInto_meets found resolved absTarget

end Recorded

theorem moveDisk_meets : Meets (moveHost site) (Fresh site data cfg (site.diskPath name d))
      (moveDisk site name targetDir cfg d)
      (Verdict site name (site.movedPath name targetDir d) data) := by
  refine .bind (looks_meets (.bind (.ask trivial) fun _ _ => .orThrow))
    (fun _ _ => Fresh.unmoved found)
    fun _ => ?_
  refine .bind absDir_meets (fun _ _ => Fresh.unmoved found) fun absTarget => ?_
  refine .given fun known => ?_
  rw [known]
  obtain ⟨file, rooted⟩ := movedPath_file site name targetDir (List.find?_some found)
  exact moveTo_meets found (diskPath_of_file site file rooted) _

end Named

/-- `MoveBootDisk` keeps the whole disk where the config says, or where its error says, exactly
if no source is removed of a copy that has lost bytes when it was closed. -/
theorem moveBootDisk_keeps_disk_iff (site : Site) (name targetDir : String) {w w' : World}
    {copies : Copies} {result : Except String (String × String)} {d : DiskConfig}
    {data : List UInt8} (found : w.config.disks.find? (·.managed) = some d)
    (whole : w.bytes (site.place (site.diskPath name d)) = some data)
    (ran : Ran (moveHost site) (moveBootDisk site name targetDir) (w, {}) result (w', copies)) :
    DiskSafe site name (site.movedPath name targetDir d) data result w' ↔ copies.lost = false := by
  have here : Fresh site data w.config (site.diskPath name d) (w, {}) := ⟨⟨whole, rfl, rfl⟩, rfl⟩
  have meets : Meets (moveHost site) (Fresh site data w.config (site.diskPath name d))
      (moveBootDisk site name targetDir)
      (Verdict site name (site.movedPath name targetDir d) data) := by
    refine .bind (looks_meets (requireStopped_looks name)) (fun _ _ => Fresh.unmoved found)
      fun _ => ?_
    refine .bind loadConfig_meets (fun _ _ => Fresh.unmoved found) fun cfg => ?_
    refine .given fun known => ?_
    have same : moveWith site name targetDir cfg = moveDisk site name targetDir w.config d := by
      simp only [moveWith, known, found]
    rw [same]
    exact moveDisk_meets found
  exact meets here ran

theorem vms_rooted : "/vms".toList.head? = some '/' := rfl

/-- A host whose storage path is `/vms`, with an image format that only has bytes. -/
def laptop : Site where
  storagePath := "/vms"
  rooted := vms_rooted
  qemuImg :=
    { info := fun bytes => .ok ("qcow2", bytes.length)
      grown := fun bytes size => bytes ++ List.replicate (size - bytes.length) 0 }

def imageDisk : DiskConfig := { size := "20G", format := "qcow2", media := "disk" }

def imageWorld : World where
  config := { name := "work", disks := [imageDisk] }
  files := fun p =>
    if p = laptop.place "/vms/work/disk-work-20G.qcow2" then some (.file [1, 2, 3]) else none

def smooth (calls : Nat) : List Answer := List.replicate calls {}

/-- A move by a rename in which all goes well. -/
theorem renamed_disk_is_kept :
    ∃ result w' copies, Ran (moveHost laptop) (moveBootDisk laptop "work" "/mnt/big")
      (imageWorld, {}) result (w', copies) ∧
        DiskSafe laptop "work" (laptop.movedPath "work" "/mnt/big" imageDisk) [1, 2, 3] result w' ∧
        w'.bytes (laptop.place "/mnt/big/disk-work-20G.qcow2") = some [1, 2, 3] := by
  obtain ⟨result, ⟨w', copies⟩, ran, kept, whole⟩ := Ran.exists_of_play (M := moveHost laptop)
    (smooth 8) (moveBootDisk laptop "work" "/mnt/big") (imageWorld, {})
    (fun _ w => w.2.lost = false ∧
      w.1.bytes (laptop.place "/mnt/big/disk-work-20G.qcow2") = some [1, 2, 3])
    (by decide)
  exact ⟨result, w', copies, ran,
    (moveBootDisk_keeps_disk_iff laptop "work" "/mnt/big" (d := imageDisk) (by decide)
      (by decide) ran).mpr kept, whole⟩

/-- The target is on another file system, and the last byte of the copy is lost when the file is
closed. The move succeeds, the source is removed, and the whole disk is nowhere. -/
theorem move_loses_torn_copy :
    ∃ result w' copies, Ran (moveHost laptop) (moveBootDisk laptop "work" "/mnt/big")
      (imageWorld, {}) result (w', copies) ∧ result.isOk = true ∧
        ¬ DiskSafe laptop "work" (laptop.movedPath "work" "/mnt/big" imageDisk) [1, 2, 3]
          result w' := by
  obtain ⟨result, ⟨w', copies⟩, ran, ok, other⟩ := Ran.exists_of_play (M := moveHost laptop)
    (smooth 6 ++ [{ error := some "invalid cross-device link", flag := true }] ++ smooth 3 ++
      [{ error := some "no space left on device", num := 2 }] ++ smooth 2)
    (moveBootDisk laptop "work" "/mnt/big") (imageWorld, {})
    (fun result w => result.isOk = true ∧
      ∀ place ∈ w.1.bootPlace laptop "work", w.1.bytes place ≠ some [1, 2, 3]) (by decide)
  refine ⟨result, w', copies, ran, ok, ?_⟩
  rintro ⟨place, whole, named | ⟨-, err, failed⟩⟩
  · exact other place named whole
  · rw [failed] at ok
    cases ok

end Whole

end Vee.BootDisk
