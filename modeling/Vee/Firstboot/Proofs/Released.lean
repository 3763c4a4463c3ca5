import Vee.Firstboot.Patch
import Vee.Misc.Results
import Vee.Misc.Sequential

/-!
# The disk of the guest is released

`EnsureScreenSharingGrants` releases what it has attached or reports that it could not, and so
does `Patch` on its last way out. Two failures are dropped: the clean-up of `attachImage` under a
cancelled context, and the deferred detach of `Patch`.
-/

namespace Vee.Firstboot

/-- The image is not attached, and its volume is not mounted. -/
def DiskWorld.Released (w : DiskWorld) : Prop := w.image = none ∧ w.mounts = []

def busyError {α : Type} : Except Err α → Bool
  | .error err => err.is .guestDiskBusy
  | .ok _ => false

def Freed {α : Type} (result : Except Err α) (w : DiskWorld) : Prop :=
  w.Released ∨ busyError result = true

/-- The output of `hdiutil attach` leads to no data volume and to no container that could have
one. -/
def layoutUnknown (site : Site) (out : Text) : Bool :=
  match site.parsePlist out with
  | .error _ => true
  | .ok root => (devicesFromAttach root).data = [] && (devicesFromAttach root).container = []

/-- What the host has done to the detaches whose failures are dropped. -/
structure Releases where
  /-- An image whose data volume could not be found has not been detached in the clean-up of
  `attachImage`, or the deferred detach of `Patch` has failed. -/
  lost : Bool := false
  /-- The last detach of `Patch` has failed. -/
  told : Bool := false

def Releases.note (site : Site) (op : DiskOp) (answer : op.Res) (record : Releases) : Releases :=
  match op, answer with
  | .attach _, .ok out => { record with lost := layoutUnknown site out }
  | .apfsList _, .error _ => { record with lost := true }
  | .apfsList container, .ok out => { record with lost := !(dataVolumeIn site container out).isOk }
  | .detach .attachImage _ _, .ok _ => { record with lost := false }
  | .detach .patch _ _, .error _ => { record with told := true }
  | .detach .deferred _ _, .error _ => { record with lost := !record.told }
  | _, _ => record

def releaseHost (site : Site) : Machine DiskOp DiskOp.Res (DiskWorld × Releases) :=
  diskHost.observe fun op answer _ _ record => record.note site op answer

abbrev Frees (site : Site) {α : Type} (before : DiskWorld × Releases → Prop) (p : DiskProg α)
    (after : α → DiskWorld × Releases → Prop) : Prop :=
  Meets (releaseHost site) before p (Ends after)

/-! ### Calls -/

section Calls

variable {site : Site} {op : DiskOp} {ans : Answer} {s s' : DiskWorld × Releases}

variable {answer : op.Res}

theorem releaseHost_exec (executed : (releaseHost site).exec 0 op ans s = some (answer, s')) :
    ∃ w', s.1.exec op ans = (answer, w') ∧ s' = (w', s.2.note site op answer) := by
  obtain ⟨w', ran, rfl⟩ := Machine.observe_exec executed
  exact ⟨w', Option.some.inj ran, rfl⟩

def DiskOp.Plain : DiskOp → Prop
  | .attach _ | .apfsList _ | .detach _ _ _ => False
  | _ => True

theorem ownAll_image (done : List PayloadFile) (w : DiskWorld) :
    (w.ownAll done).image = w.image := by
  induction done generalizing w with
  | nil => rfl
  | cons f done ih => exact ih (w.own f.path)

theorem plain_step (plain : op.Plain)
    (executed : (releaseHost site).exec 0 op ans s = some (answer, s')) :
    s'.1.image = s.1.image ∧ s'.2 = s.2 := by
  obtain ⟨w', ran, rfl⟩ := releaseHost_exec executed
  have image : (s.1.exec op ans).2.image = s.1.image := by
    cases op <;> simp only [DiskOp.Plain] at plain <;>
      simp only [DiskWorld.exec, DiskWorld.step, DiskWorld.written] <;>
      (repeat' split) <;> first | rfl | exact ownAll_image _ _
  rw [ran] at image
  refine ⟨image, ?_⟩
  cases op <;> first | rfl | cases plain

theorem detach_step {part : Part} {ctx : Context} {dev : Text} {answer : Except String Unit}
    (executed : (releaseHost site).exec 0 (.detach part ctx dev) ans s = some (answer, s')) :
    ∃ w', s' = (w', s.2.note site (.detach part ctx dev) answer) ∧
      match answer with
      | .ok _ => w'.Released
      | .error _ => w'.image = s.1.image := by
  obtain ⟨w', ran, rfl⟩ := releaseHost_exec executed
  refine ⟨w', rfl, ?_⟩
  simp only [DiskWorld.exec, DiskWorld.step] at ran
  split at ran
  · cases ran
    rfl
  · split at ran <;> cases ran
    · exact ⟨rfl, rfl⟩
    · rfl

end Calls

/-! ### The parts that neither attach nor detach -/

open Prog (returns)

def NotBusy {α : Type} (result : Except Err α) : Prop := busyError result = false

/-- It neither attaches nor detaches, and its error is not about the disk. -/
abbrev Aside {α : Type} (p : DiskProg (Except Err α)) : Prop :=
  p.Does DiskOp.Plain (returns NotBusy)

theorem Aside.andThen {α β : Type} {p : DiskProg (Except Err α)}
    {f : Except Err α → DiskProg (Except Err β)} (first : Aside p)
    (failed : ∀ err, err.is .guestDiskBusy = false → Aside (f (.error err)))
    (went : ∀ v, Aside (f (.ok v))) : Aside (p >>= f) := by
  refine .bind first fun result fine => ?_
  cases result with
  | error err => exact failed err fine
  | ok v => exact went v

theorem mountData_plain (ctx : Context) (attached : AttachedDisk) (mnt : String) :
    Aside (mountData ctx attached mnt) :=
  ⟨trivial, .either (fun _ => rfl) fun _ => rfl⟩

variable (attached : AttachedDisk) (part : Part) (mnt : String) (files : List PayloadFile)
  (opts : Options)

section Privacy

variable {allowed : DiskOp → Prop} {part : Part} {ctx : Context} {mnt : String}
  (stats : allowed (.statTCC mnt)) (opens : allowed (.openTCC part mnt))
  (probes : allowed (.statement ctx .probe)) (closes : allowed (.closeTCC mnt))

include stats opens probes closes

theorem openTCC_does : (openTCC part ctx mnt).Does allowed (returns NotBusy) := by
  refine ⟨stats, .either (fun _ => rfl) fun _ => ?_⟩
  refine ⟨opens, .either (fun _ => rfl) fun _ => ⟨probes, ?_⟩⟩
  exact .either (fun _ => ⟨closes, fun _ => rfl⟩) fun _ => rfl

theorem withTCC_does {sql : String → Statement} (before behind : String)
    (each : ∀ service ∈ screenSharingServices, allowed (.statement ctx (sql service))) :
    (withTCC part ctx mnt sql before behind).Does allowed (returns NotBusy) := by
  have loop : ∀ services ⊆ screenSharingServices,
      (forServices ctx sql before behind services).Does allowed (returns NotBusy) := by
    intro services sub
    induction services with
    | nil => exact rfl
    | cons service services ih =>
      obtain ⟨first, rest⟩ := List.cons_subset.mp sub
      exact ⟨each service first, .either (fun _ => rfl) fun _ => ih rest⟩
  refine .bind (openTCC_does stats opens probes closes) fun opened fine => ?_
  cases opened with
  | error err => exact fine
  | ok _ => exact .bind (loop _ fun _ => id) fun result fine => ⟨closes, fun _ => fine⟩

end Privacy

theorem withTCC_plain (ctx : Context) (mnt : String) (sql : String → Statement)
    (before behind : String) :
    Aside (withTCC part ctx mnt sql before behind) :=
  withTCC_does trivial trivial trivial trivial _ _ fun _ _ => trivial

theorem applyPrivacyGrants_plain : Aside (applyPrivacyGrants mnt opts) := by
  unfold applyPrivacyGrants
  split
  · exact withTCC_plain _ _ _ _ _ _
  · exact rfl

theorem dropPrivacyGrants_plain : Aside (dropPrivacyGrants mnt opts) := by
  unfold dropPrivacyGrants
  split
  · exact withTCC_plain _ _ _ _ _ _
  · exact rfl

theorem countGrants_plain (services : List String) : Aside (countGrants services) := by
  induction services with
  | nil => exact rfl
  | cons service services ih =>
    refine ⟨trivial, .either (fun _ => rfl) fun count => ?_⟩
    cases count with
    | zero => exact rfl
    | succ n => exact ih

theorem grantMissingScreenSharing_plain : Aside (grantMissingScreenSharing mnt) := by
  have granted : Aside (screenSharingGranted mnt) := by
    refine .andThen (openTCC_does trivial trivial trivial trivial) (fun _ => id) fun _ => ?_
    exact .bind (countGrants_plain _) fun result fine => ⟨trivial, fun _ => fine⟩
  refine .andThen granted (fun _ => id) fun present => ?_
  cases present with
  | true => exact rfl
  | false => exact .andThen (withTCC_plain _ _ _ _ _ _) (fun _ => id) fun _ => rfl

theorem writeFile_plain (f : PayloadFile) : Aside (writeFile mnt f) := by
  unfold writeFile
  split
  · exact ⟨trivial, .either (fun _ => rfl) fun _ => rfl⟩
  · refine ⟨trivial, .either (fun _ => rfl) fun _ => ?_⟩
    exact ⟨trivial, fun _ => ⟨trivial, .either (fun _ => rfl) fun _ => rfl⟩⟩

theorem writePayload_plain : Aside (writePayload mnt files) := by
  induction files with
  | nil => exact rfl
  | cons f files ih => exact .andThen (writeFile_plain mnt f) (fun _ => id) fun _ => ih

theorem undoPayload_plain : (undoPayload mnt files).Completes DiskOp.Plain := by
  induction files with
  | nil => exact trivial
  | cons f files ih =>
    unfold undoPayload
    split
    · exact ih
    · exact ⟨trivial, fun _ => ⟨trivial, fun _ => ih⟩⟩

theorem removePayload_plain : (removePayload mnt files).Completes DiskOp.Plain := by
  induction files with
  | nil => exact trivial
  | cons f files ih =>
    unfold removePayload
    split
    · exact ih
    refine ⟨trivial, fun _ => ⟨trivial, fun answer => ?_⟩⟩
    show Prog.Does _ _ (removePayload mnt files >>= fun errs => _)
    refine .bind ih fun errs _ => ?_
    match answer with
    | .ok _ => exact trivial
    | .error .notExist => exact trivial
    | .error (.other text) => exact trivial

theorem rollbackPayload_plain :
    (rollbackPayload attached mnt files opts).Completes DiskOp.Plain := by
  refine .bind (mountData_plain _ _ _) fun mounted _ => ?_
  cases mounted with
  | error err => exact trivial
  | ok _ =>
    refine .bind (dropPrivacyGrants_plain mnt opts) fun _ _ => ?_
    refine .bind (removePayload_plain mnt files) fun _ _ => ?_
    exact ⟨trivial, fun _ => trivial⟩

theorem fixOwnership_plain : Aside (fixOwnership attached files) := by
  refine ⟨trivial, .either (fun _ => rfl) fun mnt => ⟨trivial, ?_⟩⟩
  exact .either (fun _ => ⟨trivial, fun _ => rfl⟩) fun _ => ⟨trivial, fun _ => rfl⟩

theorem patchMounted_plain : Aside (patchMounted mnt files opts) := by
  have unmount : Aside (unmountData mnt) := ⟨trivial, .either (fun _ => rfl) fun _ => rfl⟩
  refine .andThen (writePayload_plain mnt files)
    (fun _ fine => .bind (undoPayload_plain mnt files) fun _ _ => fine) fun _ => ?_
  refine .andThen (applyPrivacyGrants_plain mnt opts) (fun err fine => ?_) fun _ => unmount
  show Prog.Does _ _ (if _ then _ else _)
  split
  · exact unmount
  · exact fine

/-! ### Attaching -/

def Attached (s : DiskWorld × Releases) : Prop := s.1.image ≠ none ∧ s.2 = {}

def Idle (s : DiskWorld × Releases) : Prop := s.1.Released ∧ s.2 = {}

/-- The image is attached and will not be used; `lost` says whether it has been given up. -/
def Seized (lost : Bool) (s : DiskWorld × Releases) : Prop :=
  s.1.image ≠ none ∧ s.2 = { lost := lost }

/-- The record says whether the image has been left attached. -/
def Recorded (s : DiskWorld × Releases) : Prop :=
  (s.1.Released ∧ s.2.lost = false) ∨ (s.1.image ≠ none ∧ s.2.lost = true)

def AttachAnswers (site : Site) (answer : Except CommandError Text)
    (s : DiskWorld × Releases) : Prop :=
  match answer with
  | .error _ => Idle s
  | .ok out => Seized (layoutUnknown site out) s

def CleanupEnds {ε : Type} (result : Except ε Unit) (s : DiskWorld × Releases) : Prop :=
  match result with
  | .ok _ => Idle s
  | .error _ => Seized true s

def AttachEnds (result : Except Err AttachedDisk) (s : DiskWorld × Releases) : Prop :=
  match result with
  | .ok attached => attached.data ≠ [] ∧ Attached s
  | .error err => err.is .guestDiskBusy = false ∧ Recorded s

def AttemptEnds (attempt : Attempt) (s : DiskWorld × Releases) : Prop :=
  match attempt with
  | .retry err => err.is .guestDiskBusy = false ∧ Idle s
  | .stop result => AttachEnds result s

section Attaching

variable {site : Site}

variable {s s' : DiskWorld × Releases} {ans : Answer}

theorem Idle.recorded (idle : Idle s) : Recorded s := .inl ⟨idle.1, by rw [idle.2]⟩

theorem Seized.recorded (seized : Seized true s) : Recorded s := .inr ⟨seized.1, by rw [seized.2]⟩

theorem CleanupEnds.recorded {ε : Type} {result : Except ε Unit} (ends : CleanupEnds result s) :
    Recorded s := by
  cases result with
  | ok _ => exact Idle.recorded ends
  | error _ => exact Seized.recorded ends

theorem cleanup_step {ctx : Context} {dev : Text} {answer : Except String Unit}
    (seized : Seized true s) (ran : (releaseHost site).exec 0 (.detach .attachImage ctx dev) ans s =
      some (answer, s')) : CleanupEnds answer s' := by
  obtain ⟨w, record⟩ := s
  obtain ⟨image, rfl⟩ : w.image ≠ none ∧ record = { lost := true } := seized
  obtain ⟨w', rfl, ends⟩ := detach_step ran
  cases answer with
  | ok _ => exact ⟨ends, rfl⟩
  | error _ => exact ⟨ends.trans_ne image, rfl⟩

variable (out : Text) (diskPath : String)

theorem detachScrapedFrom_meets :
    Frees site (Seized true) (detachScrapedFrom out) (fun _ => Recorded) := by
  unfold detachScrapedFrom
  split
  · exact .done fun s seized => seized.recorded
  · exact .call CleanupEnds (fun s ans answer s' => cleanup_step) fun answer =>
      .done fun s ends => ends.recorded

theorem giveUp_meets (got : AttachedDisk) :
    Frees site (Seized true) (giveUp out got) (fun _ => Recorded) := by
  have first : Frees site (Seized true) (detachImage .attachImage .caller got) CleanupEnds := by
    unfold detachImage
    split
    · exact .done fun _ => id
    · exact .call CleanupEnds (fun _ _ _ _ => cleanup_step)
        (.either (fun _ => .done fun _ => id) fun _ => .done fun _ => id)
  refine .seq first (.either (fun _ => ?_) fun _ => .done fun _ => Idle.recorded)
  exact .seq (detachScrapedFrom_meets out) fun _ => .done fun _ => id

def VolumeEnds (result : Except Err Text) (s : DiskWorld × Releases) : Prop :=
  match result with
  | .ok data => data ≠ [] ∧ Attached s
  | .error err => err.is .guestDiskBusy = false ∧ Seized true s

/-- What the record says after the volumes have been listed. -/
def Listed (site : Site) (container : Text) (answer : Except CommandError Text) : Bool :=
  match answer with
  | .error _ => true
  | .ok out => !(dataVolumeIn site container out).isOk

theorem apfsList_step {container : Text} {answer : Except CommandError Text}
    {lost : Bool} (seized : Seized lost s)
    (executed : (releaseHost site).exec 0 (.apfsList container) ans s = some (answer, s')) :
    Seized (Listed site container answer) s' := by
  obtain ⟨w, record⟩ := s
  obtain ⟨image, rfl⟩ : w.image ≠ none ∧ record = { lost := lost } := seized
  obtain ⟨w', ran, rfl⟩ := releaseHost_exec executed
  simp only [DiskWorld.exec, DiskWorld.step] at ran
  split at ran <;> cases ran <;> exact ⟨image, rfl⟩

theorem resolveDataVolume_meets (container : Text) :
    Frees site (Seized (decide (container = []))) (resolveDataVolume site container)
      VolumeEnds := by
  unfold resolveDataVolume
  split
  · rename_i none
    refine .done fun s seized => ⟨rfl, ?_⟩
    simpa [none] using seized
  refine .call (fun answer => Seized (Listed site container answer))
    (fun _ _ _ _ => apfsList_step) fun answer => ?_
  cases answer with
  | error failure => exact .done fun s seized => ⟨rfl, seized⟩
  | ok out =>
    refine .done fun s seized => ?_
    simp only [Listed] at seized
    rcases dataVolumeIn_eq site rfl with ⟨dev, found, named⟩ | ⟨err, failed, other⟩
    · rw [found] at seized ⊢
      exact ⟨named, seized⟩
    · rw [failed] at seized ⊢
      exact ⟨other, seized⟩

theorem readAttached_meets :
    Frees site (Seized (layoutUnknown site out)) (readAttached site out) AttemptEnds := by
  unfold readAttached layoutUnknown
  cases site.parsePlist out with
  | error text =>
    exact .seq (detachScrapedFrom_meets out) fun _ => .done fun s recorded => ⟨rfl, recorded⟩
  | ok root =>
    simp only
    generalize devicesFromAttach root = got
    unfold resolveAttached
    split
    · rename_i found
      refine .done fun s seized => ⟨found, ?_⟩
      simpa [found, Seized, Attached] using seized
    rename_i none
    have empty : got.data = [] := by simpa using none
    simp only [empty, decide_true, Bool.true_and]
    refine .seq (resolveDataVolume_meets got.container) fun result => ?_
    cases result with
    | ok data => exact .done fun _ => id
    | error err =>
      intro s result s' ended ran
      have after : Frees site (Seized true)
          (giveUp out got >>= fun _ => pure (.stop (.error err))) AttemptEnds :=
        .seq (giveUp_meets out got) fun _ => .done fun s recorded => ⟨ended.1, recorded⟩
      exact after ended.2 ran

theorem attachOnce_meets : Frees site Idle (attachOnce site diskPath) AttemptEnds := by
  refine .call (AttachAnswers site) ?_ (.either (fun failure => ?_) readAttached_meets)
  · rintro ⟨w, record⟩ ans answer s' ⟨released, rfl⟩ executed
    obtain ⟨w', ran, rfl⟩ := releaseHost_exec executed
    simp only [DiskWorld.exec, DiskWorld.step] at ran
    split at ran <;> cases ran
    · exact ⟨released, rfl⟩
    · exact ⟨by simp, rfl⟩
  · show Meets (releaseHost site) _ (if _ then _ else _) _
    split
    · exact .done fun s idle => ⟨rfl, idle⟩
    · exact .done fun s idle => ⟨rfl, Idle.recorded idle⟩

theorem attachImage_meets : Frees site Idle (attachImage site diskPath) AttachEnds := by
  unfold attachImage
  generalize attachRetries - 1 = left
  induction left with
  | zero =>
    refine .seq (attachOnce_meets diskPath) fun attempt => ?_
    cases attempt with
    | retry err => exact .done fun s after => ⟨after.1, after.2.recorded⟩
    | stop result => exact .done fun _ => id
  | succ left ih =>
    refine .seq (attachOnce_meets diskPath) fun attempt => ?_
    cases attempt with
    | stop result => exact .done fun _ => id
    | retry err =>
      refine .call (fun _ => Idle) ?_ fun answer => ?_
      · rintro s ans answer s' ⟨-, idle⟩ ran
        obtain ⟨w', ran, rfl⟩ := releaseHost_exec ran
        cases ran
        exact idle
      · cases answer with
        | error text => exact .done fun s idle => ⟨rfl, idle.recorded⟩
        | ok _ => exact ih

end Attaching

/-! ### Releasing -/

section Releasing

variable {site : Site} {α : Type} {s : DiskWorld × Releases} {err : Err} {attached : AttachedDisk}

variable {op : DiskOp} {ans : Answer} {s' : DiskWorld × Releases} {errs : List Err}

theorem attached_step {answer : op.Res} (plain : op.Plain) (attached : Attached s)
    (ran : (releaseHost site).exec 0 op ans s = some (answer, s')) : Attached s' := by
  obtain ⟨image, record⟩ := plain_step plain ran
  exact ⟨by rw [image]; exact attached.1, record.trans attached.2⟩

theorem plain_call {next : op.Res → DiskProg α}
    {post : Except String α → DiskWorld × Releases → Prop} (plain : op.Plain)
    (rest : ∀ answer, Meets (releaseHost site) Attached (next answer) post) :
    Meets (releaseHost site) Attached (Prog.ask op >>= next) post :=
  .call (fun _ => Attached) (fun _ _ _ _ => attached_step plain) rest

theorem plain_meets {p : DiskProg α} {value : α → Prop}
    (does : p.Does DiskOp.Plain (returns value)) :
    Frees site Attached p (fun v s => value v ∧ Attached s) :=
  .of_returns (fun _ plain _ _ _ _ => attached_step plain) does

theorem releaseVolume_plain (mnt : String) : (releaseVolume mnt).Does DiskOp.Plain
      (returns fun errs => ∀ err ∈ errs, err.is .guestDiskBusy = true) := by
  unfold releaseVolume
  split
  · exact fun err impossible => by cases impossible
  refine ⟨trivial, fun answer => ?_⟩
  cases answer with
  | ok _ => exact ⟨trivial, fun _ err impossible => by cases impossible⟩
  | error failure =>
    intro err mem
    rw [List.mem_singleton.mp mem]
    rfl

theorem joined_busy (busy : ∀ err ∈ errs, err.is .guestDiskBusy = true)
    (failed : joined errs = .error err) : err.is .guestDiskBusy = true := by
  unfold joined at failed
  split at failed
  · cases failed
  · rename_i err' some
    cases failed
    rw [GoError.is_joinAll some]
    cases errs with
    | nil => cases some
    | cons first rest => simp [busy first List.mem_cons_self]

def ReleaseEnds (result : Except Err Unit) (s : DiskWorld × Releases) : Prop :=
  s.2.lost = false ∧ match result with
    | .ok _ => s.1.Released
    | .error err => err.is .guestDiskBusy = true

theorem joined_ends (busy : ∀ err ∈ errs, err.is .guestDiskBusy = true) (fine : s.2.lost = false)
    (released : errs = [] → s.1.Released) : ReleaseEnds (joined errs) s := by
  refine ⟨fine, ?_⟩
  cases ended : joined errs with
  | ok _ => exact released (joined_eq_ok ended)
  | error err => exact joined_busy busy ended

theorem releaseGuestDisk_meets (found : attached.data ≠ []) (mnt : String) :
    Frees site Attached (releaseGuestDisk attached mnt) ReleaseEnds := by
  refine .seq (plain_meets (releaseVolume_plain mnt)) fun errs => .given fun busy => ?_
  rw [detachImage, if_neg (node_ne_nil found)]
  refine .call (fun answer s => s.2.lost = false ∧ (answer = .ok () → s.1.Released)) ?_
    fun answer => ?_
  · rintro ⟨w, record⟩ ans answer s' ⟨-, rfl⟩ ran
    obtain ⟨w', rfl, ends⟩ := detach_step ran
    cases answer with
    | ok _ => exact ⟨rfl, fun _ => ends⟩
    | error _ => exact ⟨rfl, nofun⟩
  · cases answer with
    | error text =>
      refine .done fun s after => joined_ends ?_ after.1 (by simp)
      intro err mem
      rcases List.mem_append.mp mem with earlier | last
      · exact busy err earlier
      · rw [List.mem_singleton.mp last]
        rfl
    | ok _ => exact .done fun s after => joined_ends busy after.1 fun _ => after.2 rfl

/-- The record says whether the disk is released or the error says that it is not. -/
def FreedEnds (result : Except Err α) (s : DiskWorld × Releases) : Prop :=
  Freed result s.1 ↔ s.2.lost = false

theorem ReleaseEnds.freed {result : Except Err Unit} (ends : ReleaseEnds result s) (err : Err) :
    FreedEnds (.error (joinRelease err result) : Except Err α) s := by
  refine ⟨fun _ => ends.1, fun _ => ?_⟩
  cases result with
  | ok _ => exact .inl ends.2
  | error busy => exact .inr (by simp [busyError, joinRelease, GoError.is, ends.2])

theorem grantAndRelease_meets (found : attached.data ≠ []) (mnt : String) :
    Frees site Attached (grantAndRelease attached mnt) FreedEnds := by
  refine .seq (plain_meets (grantMissingScreenSharing_plain mnt)) fun granted =>
    .given fun _ => ?_
  refine .seq (releaseGuestDisk_meets found mnt) fun result => ?_
  cases result with
  | ok _ => exact .done fun s ends => ⟨fun _ => ends.1, fun _ => .inl ends.2⟩
  | error busy =>
    cases granted with
    | ok _ => exact .done fun s ends => ⟨fun _ => ends.1, fun _ => .inr ends.2⟩
    | error err => exact .done fun s ends => ends.freed err

theorem grantAttached_meets (found : attached.data ≠ []) (diskPath : String) :
    Frees site Attached (grantAttached diskPath attached) FreedEnds := by
  refine plain_call trivial (.either (fun text => ?_) fun mnt => ?_)
  · refine .seq (releaseGuestDisk_meets found "") fun result => ?_
    exact .done fun s ends => ends.freed (.text text)
  · refine .seq (plain_meets (mountData_plain _ _ mnt)) fun mounted => .given fun _ => ?_
    cases mounted with
    | ok _ => exact grantAndRelease_meets found mnt
    | error err =>
      refine plain_call trivial fun _ => ?_
      refine .seq (releaseGuestDisk_meets found "") fun result => ?_
      exact .done fun s ends => ends.freed err

/-- An error of `attachImage` leaves the image as the record says. -/
theorem Recorded.freed (other : err.is .guestDiskBusy = false) (recorded : Recorded s) :
    FreedEnds (.error err : Except Err α) s := by
  rcases recorded with ⟨released, fine⟩ | ⟨image, lost⟩
  · exact ⟨fun _ => fine, fun _ => .inl released⟩
  · refine ⟨fun freed => ?_, fun fine => by rw [lost] at fine; cases fine⟩
    rcases freed with released | busy
    · exact absurd released.1 image
    · rw [busyError, other] at busy
      cases busy

variable (diskPath : String) (opts : Options)

theorem ensureScreenSharingGrants_meets :
    Frees site Idle (ensureScreenSharingGrants site diskPath) FreedEnds := by
  refine .seq (attachImage_meets diskPath) (.either (fun err => ?_) fun attached => ?_)
  · exact .done fun s ended => ended.2.freed ended.1
  · exact .given fun found => grantAttached_meets found diskPath

/-! ### Patch -/

def BodyEnds (result : Except Err Unit) (s : DiskWorld × Releases) : Prop :=
  match result with
  | .ok _ => s.1.Released ∧ s.2.lost = false
  | .error err => s.1.image ≠ none ∧ s.2 = { told := err.is .guestDiskBusy }

theorem bodyEnds_error (other : err.is .guestDiskBusy = false)
    (attached : Attached s) : BodyEnds (.error err) s :=
  ⟨attached.1, by rw [other]; exact attached.2⟩

theorem deferred_step {ctx : Context} {dev : Text} {answer : Except String Unit}
    (ends : BodyEnds (.error err) s)
    (ran : (releaseHost site).exec 0 (.detach .deferred ctx dev) ans s = some (answer, s')) :
    FreedEnds (.error err : Except Err Unit) s' := by
  obtain ⟨w, record⟩ := s
  obtain ⟨image, rfl⟩ : w.image ≠ none ∧ record = { told := err.is .guestDiskBusy } := ends
  obtain ⟨w', rfl, ends⟩ := detach_step ran
  cases answer with
  | ok _ => exact ⟨fun _ => rfl, fun _ => .inl ends⟩
  | error _ =>
    cases busy : err.is .guestDiskBusy with
    | true => exact ⟨fun _ => rfl, fun _ => .inr busy⟩
    | false => exact Recorded.freed busy (.inr ⟨ends.trans_ne image, rfl⟩)

section

variable (found : attached.data ≠ []) (mnt : String) (files : List PayloadFile)

include found

theorem fixAndDetach_ends :
    Frees site Attached (fixAndDetach attached mnt files opts) BodyEnds := by
  refine .seq (plain_meets (fixOwnership_plain attached files)) fun result =>
    .given fun fine => ?_
  cases result with
  | error err =>
    refine .seq (plain_meets (rollbackPayload_plain attached mnt files opts)) fun result =>
      .given fun _ => ?_
    cases result <;> exact .done fun _ => bodyEnds_error fine
  | ok _ =>
    rw [detachImage, if_neg (node_ne_nil found)]
    refine .call (fun answer s => match answer with
      | .ok _ => s.1.Released ∧ s.2.lost = false
      | .error _ => s.1.image ≠ none ∧ s.2 = { told := true }) ?_ fun answer => ?_
    · rintro ⟨w, record⟩ ans answer s' ⟨image, rfl⟩ ran
      obtain ⟨w', rfl, ends⟩ := detach_step ran
      cases answer with
      | ok _ => exact ⟨ends, rfl⟩
      | error _ => exact ⟨ends.trans_ne image, rfl⟩
    · cases answer <;> exact .done fun _ => id

theorem patchVolume_ends : Frees site Attached (patchVolume attached mnt files opts) BodyEnds := by
  refine .seq (plain_meets (mountData_plain _ _ mnt)) fun mounted => .given fun fine => ?_
  cases mounted with
  | error err => exact .done fun _ => bodyEnds_error fine
  | ok _ =>
    refine .seq (plain_meets (patchMounted_plain mnt files opts)) fun result =>
      .given fun fine => ?_
    cases result with
    | ok _ => exact fixAndDetach_ends opts found mnt files
    | error err =>
      refine plain_call trivial fun _ => ?_
      exact .done fun _ => bodyEnds_error fine

theorem patchOn_ends : Frees site Attached (patchOn diskPath attached files opts) BodyEnds := by
  refine plain_call trivial (.either (fun _ => .done fun _ => bodyEnds_error rfl) fun mnt => ?_)
  refine .seq (patchVolume_ends opts found mnt files) fun result => ?_
  refine .call (fun _ => BodyEnds result) ?_ fun _ => .done fun _ => id
  intro s ans answer s' ends ran
  obtain ⟨w', ran, rfl⟩ := releaseHost_exec ran
  cases ran
  cases result <;> exact ends

theorem patchAttached_ends :
    Frees site Attached (patchAttached diskPath attached files opts) FreedEnds := by
  refine .seq (patchOn_ends diskPath opts found files) fun result => ?_
  cases result with
  | ok _ => exact .done fun s ends => ⟨fun _ => ends.2, fun _ => .inl ends.1⟩
  | error err =>
    show Meets (releaseHost site) _
      (detachImage .deferred .withoutCancel attached >>= fun _ => pure (Except.error err)) _
    rw [detachImage, if_neg (node_ne_nil found)]
    refine .call (fun _ => FreedEnds (.error err : Except Err Unit)) ?_ fun _ =>
      .done fun _ => id
    exact fun _ _ _ _ => deferred_step

end

theorem Idle.freed (idle : Idle s) (result : Except Err α) :
    FreedEnds result s := ⟨fun _ => by rw [idle.2], fun _ => .inl idle.1⟩

theorem choosePassword_meets : Frees site Idle (choosePassword opts) (fun _ => Idle) := by
  unfold choosePassword
  split
  · refine .call (fun _ => Idle) ?_ fun _ => .done fun _ => id
    intro s ans answer s' idle executed
    obtain ⟨w', ran, rfl⟩ := releaseHost_exec executed
    simp only [DiskWorld.exec, DiskWorld.step] at ran
    split at ran <;> cases ran <;> exact idle
  · exact .done fun _ => id

theorem patchUsing_ends (password : String) :
    Frees site Idle (patchUsing site diskPath opts password) FreedEnds := by
  unfold patchUsing
  split
  · exact .done fun s idle => idle.freed _
  · rename_i script _
    have body : Frees site Idle (patchWith site diskPath opts script) FreedEnds := by
      refine .seq (attachImage_meets diskPath) (.either (fun err => ?_) fun attached => ?_)
      · exact .done fun s ended => ended.2.freed ended.1
      · exact .given fun found => patchAttached_ends diskPath opts found _
    exact .seq body (.either (fun _ => .done fun _ => id) fun _ => .done fun _ => id)

theorem patch_ends : Frees site Idle (patch site diskPath opts) FreedEnds := by
  unfold patch
  split
  · exact .done fun s idle => idle.freed _
  · exact .seq (choosePassword_meets opts)
      (.either (fun _ => .done fun s idle => idle.freed _) (patchUsing_ends diskPath opts))

end Releasing

/-- `EnsureScreenSharingGrants` and `Patch` release the disk or report that they could not,
exactly if the failures are not among those that they drop. -/
theorem guest_disk_released_iff (site : Site) (diskPath : String) {w w' : DiskWorld}
    {record : Releases} (idle : w.Released) :
    (∀ result, Ran (releaseHost site) (ensureScreenSharingGrants site diskPath) (w, {})
        (.ok result) (w', record) → (Freed result w' ↔ record.lost = false)) ∧
      ∀ opts result, Ran (releaseHost site) (patch site diskPath opts) (w, {}) (.ok result)
        (w', record) → (Freed result w' ↔ record.lost = false) := by
  have start : Idle (w, {}) := ⟨idle, rfl⟩
  constructor
  · intro result ran
    exact ensureScreenSharingGrants_meets diskPath start ran
  · intro opts result ran
    exact patch_ends diskPath opts start ran

/-- The entities of an image: the whole disk, and one more. -/
def imagePlist (entity : List (String × Plist)) : Plist :=
  .dict [("system-entities", .array [
    .dict [("dev-entry", .string "/dev/disk4".toList),
      ("content-hint", .string "GUID_partition_scheme".toList)], .dict entity])]

/-- The entities of an image whose volumes `diskutil` has to name. -/
def containerPlist : Plist :=
  imagePlist [("dev-entry", .string "/dev/disk4s2".toList),
    ("content-hint", .string "Apple_APFS".toList)]

/-- What `diskutil` says of its container. -/
def volumesPlist : Plist :=
  .dict [("Containers", .array [
    .dict [("DesignatedPhysicalStore", .string "disk4s2".toList),
      ("Volumes", .array [.dict [("Roles", .array [.string "Data".toList]),
        ("DeviceIdentifier", .string "disk5s1".toList)]])]])]

/-- A host on which the output of `diskutil` is empty and that of `hdiutil` is not. -/
def containerSite : Site where
  parsePlist out := .ok (if out = [] then volumesPlist else containerPlist)
  renderFirstBootScript _ _ := .ok "#!/bin/sh\n"

def attaches : Answer :=
  { nodes := ["disk4".toList, "disk4s2".toList], out := "<string>/dev/disk4</string>".toList }

/-- The caller cancels before the mount, and the disk is released. -/
theorem cancelled_mount_is_released : ∃ result w' record, Ran (releaseHost containerSite)
        (ensureScreenSharingGrants containerSite "/vm/disk.img") ({}, {}) (.ok result)
        (w', record) ∧
      w'.cancelled = true ∧ record.lost = false ∧ Freed result w' := by
  obtain ⟨result, ⟨w', record⟩, ran, cancelled, kept⟩ := Ran.exists_ok_of_play
    (M := releaseHost containerSite)
    [attaches, {}, { name := "/vm/tcc-1" }, { cancel := true }, {}, {}]
    (ensureScreenSharingGrants containerSite "/vm/disk.img") ({}, {})
    (fun _ s => s.1.cancelled = true ∧ s.2.lost = false) (by decide)
  have freed := (guest_disk_released_iff containerSite "/vm/disk.img" ⟨rfl, rfl⟩).1 result ran
  exact ⟨result, w', record, ran, cancelled, kept, freed.mpr kept⟩

/-- The caller cancels right behind the attach: the volumes cannot be listed, the image cannot be
detached under the same context, and the error does not say so. -/
theorem cancelled_lookup_keeps_disk :
    ∃ err w', Ran diskHost (ensureScreenSharingGrants containerSite "/vm/disk.img") {}
        (.ok (.error err)) w' ∧ w'.image ≠ none ∧ ¬ Freed (.error err : Except Err Bool) w' := by
  obtain ⟨result, w', ran, failed, attached⟩ := Ran.exists_ok_of_play (M := diskHost)
    [attaches, { cancel := true }, {}, {}]
    (ensureScreenSharingGrants containerSite "/vm/disk.img") {}
    (fun result w => failsWith (fun err => !err.is .guestDiskBusy) result ∧ w.image ≠ none)
    (by decide)
  simp only [Bool.not_eq_true', failsWith_iff] at failed
  obtain ⟨err, rfl, other⟩ := failed
  refine ⟨err, w', ran, attached, ?_⟩
  rintro (released | busy)
  · exact attached released.1
  · rw [busyError, other] at busy
    cases busy

end Vee.Firstboot
