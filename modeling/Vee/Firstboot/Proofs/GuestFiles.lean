import Vee.Firstboot.Proofs.Released

/-!
# The files of the guest under a patch

Which calls of `Patch` change the files on the guest's volume, and how. `slips` collects the
failures that `Patch` does not make good; the other calls that change no file are calm.
-/

namespace Vee.Firstboot

abbrev Files := String → Option GuestFile

def Written (files : Files) (path : String) : Prop :=
  ∃ file, files path = some file ∧ file.written = true

/-- The file has been written by this run and belongs to root. -/
def Fixed (files : Files) (path : String) : Prop :=
  ∃ file, files path = some file ∧ file.written = true ∧ file.owner = .root

/-- The failures that `Patch` does not make good: after the payload has been written, a statement
of the grants, the unmount or the last detach fails; or a file that has been written cannot be
removed again after the write of another one has failed. -/
def slips (op : DiskOp) (answer : op.Res) (w : DiskWorld) : Bool :=
  match op, answer with
  | .openTCC part _, .error _ => part = .patch
  | .statement ctx (.insert _), .error _ => ctx = .caller
  | .umount part _ _, .error _ => part = .patch
  | .detach part _ _, .error _ => part = .patch
  | .remove part mnt path, .error (.other _) => part = .undo && (w.fileAt mnt path).any (·.written)
  | _, _ => false

/-- The host, with a record of whether there has been such a failure. -/
def patchHost : Machine DiskOp DiskOp.Res (DiskWorld × Bool) :=
  diskHost.observe fun op answer w _ slipped => slipped || slips op answer w

/-! ### Calls -/

def DiskOp.KeepsFiles : DiskOp → Prop
  | .write _ _ | .remove _ _ _ | .sudo _ _ _ => False
  | _ => True

/-- The calls that change no file, and whose failures are made good. -/
def DiskOp.Calm : DiskOp → Prop
  | .write _ _ | .remove _ _ _ | .sudo _ _ _ => False
  | .openTCC part _ | .umount part _ _ | .detach part _ _ => part ≠ .patch
  | .statement ctx (.insert _) => ctx ≠ .caller
  | _ => True

def DiskOp.Steady : DiskOp → Prop
  | .mount _ _ _ | .umount _ _ _ | .detach _ _ _ => False
  | op => op.Calm

section Calls

variable {op : DiskOp} {ans : Answer} {answer : op.Res} {s s' : DiskWorld × Bool} {w w' : DiskWorld}

theorem patchHost_exec (executed : patchHost.exec 0 op ans s = some (answer, s')) :
    ∃ w', s.1.exec op ans = (answer, w') ∧ s' = (w', s.2 || slips op answer s.1) := by
  obtain ⟨w', ran, rfl⟩ := Machine.observe_exec executed
  exact ⟨w', Option.some.inj ran, rfl⟩

theorem exec_keepsFiles (keeps : op.KeepsFiles) (ran : w.exec op ans = (answer, w')) :
    w'.files = w.files := by
  have files : (w.exec op ans).2.files = w.files := by
    cases op <;> simp only [DiskOp.KeepsFiles] at keeps <;>
      simp only [DiskWorld.exec, DiskWorld.step] <;> (repeat' split) <;> rfl
  rw [ran] at files
  exact files

theorem DiskOp.Calm.keepsFiles (calm : op.Calm) : op.KeepsFiles := by
  cases op <;> trivial

theorem slips_calm (calm : op.Calm) : slips op answer w = false := by
  cases op with
  | openTCC part mnt => cases answer <;> simp_all [slips, DiskOp.Calm]
  | umount part ctx mnt => cases answer <;> simp_all [slips, DiskOp.Calm]
  | detach part ctx dev => cases answer <;> simp_all [slips, DiskOp.Calm]
  | statement ctx sql => cases sql <;> cases answer <;> simp_all [slips, DiskOp.Calm]
  | remove part mnt path => cases calm
  | _ => rfl

theorem DiskOp.Steady.calm (steady : op.Steady) : op.Calm := by
  cases op <;> first | exact steady | cases steady

theorem exec_steady (steady : op.Steady) (ran : w.exec op ans = (answer, w')) :
    w'.mounts = w.mounts := by
  have mounts : (w.exec op ans).2.mounts = w.mounts := by
    cases op <;> simp only [DiskOp.Steady, DiskOp.Calm] at steady <;>
      simp only [DiskWorld.exec, DiskWorld.step] <;> (repeat' split) <;> rfl
  rw [ran] at mounts
  exact mounts

end Calls

/-! ### The parts that change no file -/

open Prog (returns)

theorem detachImage_calm {part : Part} (other : part ≠ .patch) (ctx : Context)
    (attached : AttachedDisk) :
    (detachImage part ctx attached).Completes DiskOp.Calm := by
  unfold detachImage
  split
  · exact trivial
  · exact ⟨other, fun _ => trivial⟩

variable (site : Site) (out : Text)

theorem detachScrapedFrom_calm : (detachScrapedFrom out).Completes DiskOp.Calm := by
  unfold detachScrapedFrom
  split
  · exact trivial
  · have other : Part.attachImage ≠ .patch := by decide
    exact ⟨other, fun _ => trivial⟩

theorem giveUp_calm (got : AttachedDisk) : (giveUp out got).Completes DiskOp.Calm := by
  refine .bind (detachImage_calm (by decide) _ _) fun result _ => ?_
  cases result with
  | ok _ => exact trivial
  | error err => exact .bind (detachScrapedFrom_calm out) fun _ _ => trivial

def Resolved (result : Except Err AttachedDisk) : Prop :=
  ∀ attached, result = .ok attached → attached.data ≠ []

theorem Resolved.error (err : Err) : Resolved (.error err) := by
  intro attached impossible
  cases impossible

def Attempt.Resolves : Attempt → Prop
  | .retry _ => True
  | .stop result => Resolved result

theorem resolveDataVolume_calm (container : Text) :
    (resolveDataVolume site container).Does DiskOp.Calm
      (returns fun result => ∀ data, result = .ok data → data ≠ []) := by
  have failed : ∀ (err : Err) (data : Text), Except.error err = .ok data → data ≠ [] := by
    intro err data impossible
    cases impossible
  unfold resolveDataVolume
  split
  · exact failed _
  refine ⟨trivial, fun answer => ?_⟩
  cases answer with
  | error failure => exact failed _
  | ok out =>
    intro data found
    rcases dataVolumeIn_eq site found with ⟨dev, same, named⟩ | ⟨err, impossible, -⟩
    · cases same
      exact named
    · cases impossible

theorem readAttached_calm :
    (readAttached site out).Does DiskOp.Calm (returns Attempt.Resolves) := by
  unfold readAttached
  split
  · exact .bind (detachScrapedFrom_calm out) fun _ _ => Resolved.error _
  unfold resolveAttached
  split
  · rename_i found
    rintro attached same
    cases same
    exact found
  · refine .bind (resolveDataVolume_calm site _) fun result resolved => ?_
    cases result with
    | error err => exact .bind (giveUp_calm out _) fun _ _ => Resolved.error _
    | ok data =>
      rintro attached same
      cases same
      exact resolved data rfl

theorem attachOnce_calm (diskPath : String) :
    (attachOnce site diskPath).Does DiskOp.Calm (returns Attempt.Resolves) := by
  refine ⟨trivial, fun answer => ?_⟩
  cases answer with
  | ok out => exact readAttached_calm site out
  | error failure =>
    show Prog.Does _ _ (if _ then _ else _)
    split
    · exact trivial
    · exact Resolved.error _

theorem attachLoop_calm (diskPath : String) (left : Nat) :
    (attachLoop site diskPath left).Does DiskOp.Calm (returns Resolved) := by
  induction left with
  | zero =>
    refine .bind (attachOnce_calm site diskPath) fun attempt resolves => ?_
    cases attempt with
    | retry err => exact Resolved.error _
    | stop result => exact resolves
  | succ left ih =>
    refine .bind (attachOnce_calm site diskPath) fun attempt resolves => ?_
    cases attempt with
    | stop result => exact resolves
    | retry err => exact ⟨trivial, .either (fun _ => Resolved.error _) fun _ => ih⟩

theorem dropPrivacyGrants_steady (mnt : String) (opts : Options) :
    (dropPrivacyGrants mnt opts).Completes DiskOp.Steady := by
  have other : Part.rollbackPayload ≠ .patch := by decide
  unfold dropPrivacyGrants
  split
  · refine (withTCC_does trivial other trivial trivial _ _ fun _ _ => trivial).mono
      (fun _ => id) fun result fine => ?_
    cases result with
    | error text => exact fine
    | ok _ => exact trivial
  · exact trivial

/-! ### Assertions about the files -/

abbrev On (P : Files → Bool → Prop) (s : DiskWorld × Bool) : Prop := P s.1.files s.2

/-- The volume is mounted, and its files and the record are so. -/
def Held (mnt : String) (P : Files → Bool → Prop) (s : DiskWorld × Bool) : Prop :=
  mnt ∈ s.1.mounts ∧ P s.1.files s.2

variable {α : Type} {P : Files → Bool → Prop} {mnt : String}

section Steps

variable {op : DiskOp} {ans : Answer} {answer : op.Res} {s s' : DiskWorld × Bool}

theorem keeps_step (keeps : op.KeepsFiles)
    (executed : patchHost.exec 0 op ans s = some (answer, s'))
    (holds : P s.1.files (s.2 || slips op answer s.1)) : On P s' := by
  obtain ⟨w', ran, rfl⟩ := patchHost_exec executed
  show P w'.files _
  rw [exec_keepsFiles keeps ran]
  exact holds

theorem calm_step (calm : op.Calm) (holds : On P s)
    (ran : patchHost.exec 0 op ans s = some (answer, s')) : On P s' := by
  refine keeps_step calm.keepsFiles ran ?_
  rw [slips_calm calm, Bool.or_false]
  exact holds

theorem steady_step (steady : op.Steady) (holds : Held mnt P s)
    (executed : patchHost.exec 0 op ans s = some (answer, s')) : Held mnt P s' := by
  refine ⟨?_, calm_step steady.calm holds.2 executed⟩
  obtain ⟨w', ran, rfl⟩ := patchHost_exec executed
  rw [exec_steady steady ran]
  exact holds.1

end Steps

variable {op : DiskOp} {next : op.Res → DiskProg α}
  {post : Except String α → DiskWorld × Bool → Prop} {p : DiskProg α} {value : α → Prop}

theorem calm_call (calm : op.Calm) (rest : ∀ answer, Meets patchHost (On P) (next answer) post) :
    Meets patchHost (On P) (Prog.ask op >>= next) post :=
  .call (fun _ => On P) (fun _ _ _ _ => calm_step calm) rest

theorem steady_call (steady : op.Steady)
    (rest : ∀ answer, Meets patchHost (Held mnt P) (next answer) post) :
    Meets patchHost (Held mnt P) (Prog.ask op >>= next) post :=
  .call (fun _ => Held mnt P) (fun _ _ _ _ => steady_step steady) rest

theorem calm_meets (does : p.Does DiskOp.Calm (returns value)) :
    Meets patchHost (On P) p (Ends fun v s => value v ∧ On P s) :=
  .of_returns (fun _ calm _ _ _ _ => calm_step calm) does

theorem steady_meets (does : p.Does DiskOp.Steady (returns value)) :
    Meets patchHost (Held mnt P) p (Ends fun v s => value v ∧ Held mnt P s) :=
  .of_returns (fun _ steady _ _ _ _ => steady_step steady) does

section Files

variable {w : DiskWorld} {path q : String} {owner : Owner}

theorem put_files (file : Option GuestFile) :
    (w.put path file).files q = if q = path then file else w.files q := rfl

theorem written_put_none : Written (w.put path none).files q ↔ q ≠ path ∧ Written w.files q := by
  by_cases same : q = path
  · simp [Written, put_files, same]
  · simp [Written, put_files, same]

theorem written_put_some :
    Written (w.put path (some ⟨owner, true⟩)).files q ↔ q = path ∨ Written w.files q := by
  by_cases same : q = path
  · simp [Written, put_files, same]
  · simp [Written, put_files, same]

theorem any_written {files : Files} : (files path).any (·.written) = true ↔ Written files path := by
  cases found : files path <;> simp [Written, found]

theorem fileAt_of_mounted (mounted : mnt ∈ w.mounts) : w.fileAt mnt path = w.files path :=
  if_pos mounted

end Files

section FileCalls

variable {part : Part} {path : String} {f : PayloadFile} {ans : Answer} {s s' : DiskWorld × Bool}

theorem remove_held {answer : Except RemoveError Unit}
    {Q : Except RemoveError Unit → Files → Bool → Prop} (mounted : mnt ∈ s.1.mounts)
    (executed : patchHost.exec 0 (.remove part mnt path) ans s = some (answer, s'))
    (gone : Q (.ok ()) (s.1.put path none).files s.2)
    (absent : s.1.files path = none → Q (.error .notExist) s.1.files s.2)
    (kept : ∀ text, Q (.error (.other text)) s.1.files
      (s.2 || (part = .undo && (s.1.files path).any (·.written)))) : Held mnt (Q answer) s' := by
  obtain ⟨w', ran, rfl⟩ := patchHost_exec executed
  have here : mnt ∈ ({ s.1 with cancelled := s.1.cancelled || ans.cancel } : DiskWorld).mounts :=
    mounted
  simp only [DiskWorld.exec, DiskWorld.step, fileAt_of_mounted here] at ran
  split at ran
  · rename_i text _
    cases ran
    refine ⟨mounted, ?_⟩
    simp only [slips, fileAt_of_mounted mounted]
    exact kept text
  · rename_i missing
    cases ran
    simp only [slips, Bool.or_false]
    exact ⟨mounted, absent missing⟩
  · cases ran
    simp only [slips, Bool.or_false]
    exact ⟨mounted, gone⟩

/-- What a write comes to: one that fails may have written the file all the same. -/
theorem write_held {answer : Except String Unit} {Q : Except String Unit → Files → Bool → Prop}
    (mounted : mnt ∈ s.1.mounts)
    (executed : patchHost.exec 0 (.write mnt f) ans s = some (answer, s'))
    (written : ∀ answer, Q answer (s.1.put f.path (some ⟨.other, true⟩)).files s.2)
    (unwritten : ∀ text, Q (.error text) s.1.files s.2) : Held mnt (Q answer) s' := by
  obtain ⟨w', ran, rfl⟩ := patchHost_exec executed
  have here : mnt ∈ ({ s.1 with cancelled := s.1.cancelled || ans.cancel } : DiskWorld).mounts :=
    mounted
  simp only [DiskWorld.exec, DiskWorld.step, DiskWorld.written, if_pos here] at ran
  simp only [slips, Bool.or_false]
  split at ran
  · split at ran <;> cases ran
    · exact ⟨mounted, written _⟩
    · exact ⟨mounted, unwritten _⟩
  · cases ran
    exact ⟨mounted, written _⟩

end FileCalls

/-! ### Ownership -/

section Owners

variable {w : DiskWorld} {path q : String}

theorem own_files : (w.own path).files q =
    if q = path then (w.files path).map fun file => { file with owner := .root } else w.files q :=
  rfl

theorem written_own : Written (w.own path).files q ↔ Written w.files q := by
  by_cases same : q = path
  · subst same
    cases found : w.files q <;> simp [Written, own_files, found]
  · simp [Written, own_files, same]

theorem fixed_own_self (written : Written w.files path) : Fixed (w.own path).files path := by
  obtain ⟨file, present, marked⟩ := written
  exact ⟨{ file with owner := .root }, by simp [own_files, present], marked, rfl⟩

theorem fixed_own (fixed : Fixed w.files q) : Fixed (w.own path).files q := by
  obtain ⟨file, present, marked, owner⟩ := fixed
  by_cases same : q = path
  · subst same
    exact fixed_own_self ⟨file, present, marked⟩
  · exact ⟨file, by simp [own_files, same, present], marked, owner⟩

theorem written_ownAll (done : List PayloadFile) :
    Written (w.ownAll done).files q ↔ Written w.files q := by
  induction done generalizing w with
  | nil => exact Iff.rfl
  | cons f done ih => exact ih.trans written_own

theorem fixed_ownAll_of_fixed (done : List PayloadFile) (fixed : Fixed w.files q) :
    Fixed (w.ownAll done).files q := by
  induction done generalizing w with
  | nil => exact fixed
  | cons f done ih => exact ih (fixed_own fixed)

theorem fixed_ownAll {done : List PayloadFile} {f : PayloadFile} (mem : f ∈ done)
    (written : Written w.files f.path) : Fixed (w.ownAll done).files f.path := by
  induction done generalizing w with
  | nil => cases mem
  | cons g done ih =>
    rcases List.mem_cons.mp mem with rfl | later
    · exact fixed_ownAll_of_fixed done (fixed_own_self written)
    · exact ih later (written_own.mpr written)

end Owners

theorem sudo_step {dev : Text} {files : List PayloadFile} {ans : Answer}
    {answer : Except String Unit} {s s' : DiskWorld × Bool}
    (executed : patchHost.exec 0 (.sudo dev mnt files) ans s = some (answer, s')) :
    ∃ (w : DiskWorld) (done : List PayloadFile), s' = (w.ownAll done, s.2) ∧
      w.files = s.1.files ∧ (answer = .ok () → done = files) := by
  obtain ⟨w', ran, rfl⟩ := patchHost_exec executed
  simp only [slips, Bool.or_false]
  simp only [DiskWorld.exec, DiskWorld.step] at ran
  split at ran
  · cases ran
    refine ⟨_, _, rfl, ?_, fun done => by cases done⟩
    split <;> rfl
  · cases ran
    refine ⟨_, _, rfl, ?_, fun _ => rfl⟩
    split <;> rfl

end Vee.Firstboot
