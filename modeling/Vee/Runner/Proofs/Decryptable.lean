import Vee.Misc.GoPath
import Vee.Misc.RelyGuarantee
import Vee.Misc.Sequential
import Vee.Runner.Identity

/-!
# Snapshots that can be decrypted

As long as nobody installs an identity over another one, each snapshot is encrypted to the one in
the file. `LoadOrCreateIdentity` does not see to it: two processes that both find no identity
install one after the other, and what the first of them has encrypted is lost.
-/

namespace Vee.Runner

variable (site : Site) (name : String)

/-- The identity is in its file. -/
def Installed (id : Identity) (w : CredWorld) : Prop :=
  w.files site.identityFile = some (.identity id)

/-- The identity of the host decrypts every snapshot. -/
def Decryptable (w : CredWorld) : Prop :=
  ∀ path enc, w.files path = some (.snapshot enc) →
    ∃ id, Installed site id w ∧ site.age.decrypt id (.snapshot enc) = .ok enc.archive

/-- No call fails. -/
def succeeds (_ : CredOp) : CredAns → Bool
  | .fail _ => false
  | _ => true

/-- A runner with a snapshot gets the files that were archived. -/
def Restorable (w : CredWorld) : Prop :=
  ∀ name enc, w.files (site.snapshotFile name) = some (.snapshot enc) →
    ∀ result w', Ran (credMachine.only succeeds) (bringBack site name) w result w' →
      result = restore (site.snapshotFile name) (site.readTar enc.archive)

/-- An identity is installed only where there is none. -/
def onFirstUse : Guard credMachine where
  run _ op ans w :=
    match op, ans with
    | .rename path _, .done => path = site.identityFile → w.files path = none
    | _, _ => True

instance (site : Site) : (onFirstUse site).Decides where
  run _ op ans w := by
    cases op <;> cases ans <;> simp only [onFirstUse] <;> infer_instance
  env _ _ := isTrue trivial

/-- No snapshot has the path of the identity, whatever the name of its runner. -/
theorem snapshotFile_ne : site.snapshotFile name ≠ site.identityFile := by
  have ends : ".age".toList <:+ (name ++ ".age").toList := by
    rw [String.toList_append]
    exact List.suffix_append _ _
  have snapshot : ".age".toList <:+ (site.snapshotFile name).toList :=
    extension_joinPath ends (by decide) (by decide) _
  have identity : "identity.txt".toList <:+ site.identityFile.toList :=
    extension_joinPath List.suffix_rfl (by decide) (by decide) _
  intro same
  rw [same] at snapshot
  have inside := List.suffix_of_suffix_length_le snapshot identity (by decide)
  exact absurd inside (by decide)

section Steps

variable {site : Site} {i : Nat}

/-- What the processes rely on: the identity stays. -/
def protocol (site : Site) : Protocol credMachine where
  guard := onFirstUse site
  inv := Decryptable site
  guar _ w w' := ∀ id, Installed site id w → Installed site id w'

theorem installed_stable (id : Identity) : (protocol site).Stable i (Installed site id) := by
  rintro before after installed ⟨-, -, ⟨j, -, stays⟩ | ⟨event, -⟩⟩
  · exact stays id installed
  · exact event.elim

theorem any_stable : (protocol site).Stable i fun _ => True := Protocol.const_stable _ i True

def CredOp.Quiet : CredOp → Prop
  | .rename _ _ => False
  | _ => True

variable {op : CredOp} {assertion : CredWorld → Prop} {id : Identity} {enc : Sealed}

theorem exec_same (quiet : op.Quiet) {ans : CredAns} {res : op.Res} {w w' : CredWorld}
    (ran : CredWorld.exec op ans w = some (res, w')) : w' = w := by
  cases op with
  | rename path content => cases quiet
  | _ => cases ans <;> cases ran <;> rfl

theorem quiet_triple (quiet : op.Quiet) (stable : (protocol site).Stable i assertion) :
    (protocol site).Triple i assertion op fun _ => assertion := by
  refine ⟨stable, ?_⟩
  intro w ans res w' kept holds _ ran
  obtain rfl := exec_same quiet ran
  exact ⟨kept, fun _ => id, holds⟩

/-! ### The parts that change no file -/

open Prog (mayThrow)

variable (name what : String)

theorem prepare_quiet : (prepare what).Makes CredOp.Quiet :=
  .bind (.ask trivial) fun _ _ => .orThrow

theorem prepareTemp_quiet : (prepareTemp what).Makes CredOp.Quiet := by
  refine .bind (.ask trivial) fun res _ => ?_
  cases res with
  | ok _ => exact trivial
  | error text => exact ⟨trivial, fun _ => trivial⟩

theorem writeSecret_quiet : writeSecret.Makes CredOp.Quiet :=
  .bind_throw (prepare_quiet _) fun _ _ => .bind_throw (prepare_quiet _) fun _ _ =>
    .bind_throw (prepareTemp_quiet _) fun _ _ => prepareTemp_quiet _

theorem identityPath_quiet :
    (identityPath site).Does CredOp.Quiet (mayThrow (· = site.identityFile)) := by
  have dir : (ageDir site).Does CredOp.Quiet (mayThrow (· = joinPath [site.home, ".vee", "age"])) :=
    .bind_throw (prepare_quiet _) fun _ _ => .bind_throw (prepare_quiet _) fun _ _ => rfl
  refine .bind_throw dir ?_
  rintro _ rfl
  exact rfl

theorem snapshotPath_quiet :
    (snapshotPath site name).Does CredOp.Quiet (mayThrow (· = site.snapshotFile name)) := by
  have dir : (snapshotsDir site).Does CredOp.Quiet
      (mayThrow (· = joinPath [site.home, ".vee", "runner-creds"])) :=
    .bind_throw (prepare_quiet _) fun _ _ => .bind_throw (prepare_quiet _) fun _ _ => rfl
  refine .bind_throw dir ?_
  rintro _ rfl
  exact rfl

theorem generateIdentity_quiet : generateIdentity.Makes CredOp.Quiet :=
  .bind (.ask trivial) fun _ _ => .orThrow

theorem probeRunner_quiet : probeRunner.Makes CredOp.Quiet := by
  refine .bind (.ask trivial) fun res _ => ?_
  cases res <;> exact trivial

theorem pullArchive_quiet : (pullArchive site).Makes CredOp.Quiet := by
  refine .bind (.ask trivial) fun res _ => ?_
  refine .bind_throw .orThrow fun out _ => .bind_throw .orThrow fun archive _ => ?_
  split <;> exact trivial

theorem encryptArchive_quiet (id : Identity) (archive : List UInt8) :
    (encryptArchive id archive).Does CredOp.Quiet (mayThrow (·.recipient = id.recipient)) :=
  .bind_throw (prepare_quiet _) fun _ _ => .bind_throw (prepare_quiet _) fun _ _ =>
    .bind_throw (prepare_quiet _) fun _ _ => rfl

variable {α β : Type} {w : CredWorld}

/-- A part that changes no file, with what is known while it runs. -/
theorem quietly {p : CredProg α} {f : α → CredProg β} {value : α → Prop}
    {post : β → CredWorld → Prop} (does : p.Does CredOp.Quiet (mayThrow value))
    (stable : (protocol site).Stable i assertion) (holds : assertion w)
    (rest : ∀ v w, value v → assertion w → Safe (protocol site) i (Returns post) (f v) w) :
    Safe (protocol site) i (Returns post) (p >>= f) w := by
  refine .bind (Safe.of_does stable (fun op quiet => quiet_triple quiet stable) does holds)
    (fun _ _ _ => trivial) ?_
  rintro v w ⟨now, has⟩
  exact rest v w has now

/-! ### Renames -/

/-- What an `install` does when the rename has failed. -/
theorem failed_safe (text : String) {post : Unit → CredWorld → Prop} :
    Safe (protocol site) i (Returns post) (removeTemp >>= fun _ => throw text) w := by
  have quiet : CredOp.remove.Quiet := trivial
  exact .triple (quiet_triple quiet any_stable) trivial fun _ _ _ => .done any_stable trivial

theorem put_self (w : CredWorld) (path : String) (content : Secret) :
    (w.put path content).files path = some content := if_pos rfl

theorem put_other {path other : String} (ne : other ≠ path) (w : CredWorld) (content : Secret) :
    (w.put path content).files other = w.files other := if_neg ne

theorem Decryptable.put_identity (kept : Decryptable site w)
    (first : w.files site.identityFile = none) (id : Identity) :
    Decryptable site (w.put site.identityFile (.identity id)) := by
  intro path enc stored
  by_cases same : path = site.identityFile
  · rw [same, put_self] at stored
    cases stored
  · rw [put_other same] at stored
    obtain ⟨other, installed, -⟩ := kept path enc stored
    rw [Installed, first] at installed
    cases installed

theorem Installed.put_snapshot (installed : Installed site id w) (name : String) (enc : Sealed) :
    Installed site id (w.put (site.snapshotFile name) (.snapshot enc)) := by
  rw [Installed, put_other (snapshotFile_ne site name).symm]
  exact installed

/-- A snapshot that is encrypted to the identity of the host. -/
theorem Decryptable.put_snapshot (kept : Decryptable site w) (installed : Installed site id w)
    (name : String) (recipient : enc.recipient = id.recipient) :
    Decryptable site (w.put (site.snapshotFile name) (.snapshot enc)) := by
  intro path other stored
  by_cases same : path = site.snapshotFile name
  · rw [same, put_self] at stored
    cases stored
    refine ⟨id, installed.put_snapshot name enc, ?_⟩
    obtain ⟨_, archive⟩ := enc
    cases recipient
    exact site.age.opens id archive
  · rw [put_other same] at stored
    obtain ⟨owner, there, opens⟩ := kept path other stored
    exact ⟨owner, there.put_snapshot name enc, opens⟩

theorem install_identity (id : Identity) (what : String) :
    Safe (protocol site) i (Returns fun _ => Installed site id)
      (install what site.identityFile (.identity id)) w := by
  refine .call (fun _ => True) trivial any_stable ?_
  intro w ans res w' kept _ allowed ran
  cases ans with
  | done =>
    cases ran
    have first : w.files site.identityFile = none := allowed rfl
    refine ⟨kept.put_identity first id, ?_, .done (installed_stable id) (put_self _ _ _)⟩
    intro other installed
    rw [Installed, first] at installed
    cases installed
  | fail text =>
    cases ran
    exact ⟨kept, fun _ installed => installed, failed_safe _⟩
  | _ => cases ran

theorem install_snapshot (installed : Installed site id w) (what name : String)
    (recipient : enc.recipient = id.recipient) :
    Safe (protocol site) i (Returns fun _ _ => True)
      (install what (site.snapshotFile name) (.snapshot enc)) w := by
  refine .call (Installed site id) installed (installed_stable id) ?_
  intro w ans res w' kept installed _ ran
  cases ans with
  | done =>
    cases ran
    refine ⟨kept.put_snapshot installed name recipient, ?_, .done any_stable trivial⟩
    exact fun other there => there.put_snapshot name enc
  | fail text =>
    cases ran
    exact ⟨kept, fun _ there => there, failed_safe _⟩
  | _ => cases ran

/-! ### A process -/

theorem createIdentity_safe :
    Safe (protocol site) i (Returns (Installed site)) (createIdentity site.identityFile) w := by
  refine quietly generateIdentity_quiet any_stable trivial fun id w _ _ => ?_
  refine quietly writeSecret_quiet any_stable trivial fun _ w _ _ => ?_
  refine .bind (install_identity id _) (fun _ _ _ => trivial) fun _ w installed => ?_
  exact .done (installed_stable id) installed

/-- The identity that a process gets is the one in the file. -/
theorem loadOrCreateIdentity_safe :
    Safe (protocol site) i (Returns (Installed site)) (loadOrCreateIdentity site) w := by
  refine quietly identityPath_quiet any_stable trivial ?_
  rintro _ w rfl -
  refine .call (fun _ => True) trivial any_stable ?_
  intro w ans res w' kept _ _ ran
  cases ans with
  | done =>
    cases ran
    refine ⟨kept, fun _ => id, ?_⟩
    cases found : w.files site.identityFile with
    | none =>
      rw [CredWorld.read, found]
      exact createIdentity_safe
    | some content =>
      rw [CredWorld.read, found]
      cases content with
      | identity id => exact .done (installed_stable id) found
      | snapshot enc => exact .done any_stable trivial
  | fail text =>
    cases ran
    exact ⟨kept, fun _ => id, .done any_stable trivial⟩
  | _ => cases ran

theorem snapshot_safe (installed : Installed site id w) (name : String) :
    Safe (protocol site) i (Returns fun _ _ => True) (snapshot site id name) w := by
  have stable : (protocol site).Stable i (Installed site id) := installed_stable id
  refine quietly probeRunner_quiet stable installed fun _ w _ installed => ?_
  refine quietly pullArchive_quiet stable installed fun archive w _ installed => ?_
  refine quietly (encryptArchive_quiet id archive) stable installed
    fun enc w recipient installed => ?_
  refine quietly (snapshotPath_quiet name) stable installed ?_
  rintro _ w rfl installed
  refine quietly writeSecret_quiet stable installed fun _ w _ installed => ?_
  exact install_snapshot installed _ name recipient

theorem takeSnapshot_safe :
    Safe (protocol site) i (Returns fun _ _ => True) (takeSnapshot site name) w :=
  .bind loadOrCreateIdentity_safe (fun _ _ _ => trivial) fun _ _ installed =>
    snapshot_safe installed name

end Steps

theorem start_safe (names : List String) :
    SafePool (protocol site) (fun _ => Returns fun _ _ => True) (credStart site names) where
  inv := fun _ _ stored => by cases stored
  safe := by
    intro i p at_i
    obtain ⟨name, -, rfl⟩ := List.mem_map.mp (List.mem_of_getElem? at_i)
    exact takeSnapshot_safe name

/-! ### Bringing a runner back -/

section Back

variable {site : Site} {w : CredWorld}

/-- The program returns such a value and leaves the files as they are. -/
abbrev Yields {α : Type} (w : CredWorld) (p : CredProg α) (value : α → Prop) : Prop :=
  Meets (credMachine.only succeeds) (· = w) p (Ends fun v now => value v ∧ now = w)

variable {α : Type} {value : α → Prop} {id : Identity}

theorem Yields.bind {β : Type} {p : CredProg α} {f : α → CredProg β}
    {post : Except String β → CredWorld → Prop} (first : Yields w p value)
    (rest : ∀ v, value v → Meets (credMachine.only succeeds) (· = w) (f v) post) :
    Meets (credMachine.only succeeds) (· = w) (p >>= f) post :=
  Meets.bind first (fun _ _ never => never.elim) fun v => .given (rest v)

theorem Yields.done {v : α} (has : value v) :
    Yields w (.done (.ok v)) value := Meets.done fun _ same => ⟨has, same⟩

theorem prepare_yields (what : String) : Yields w (prepare what) fun _ => True := by
  refine .call (fun res now => res = .ok () ∧ now = w) ?_ fun res => ?_
  · rintro v ans res v' rfl ran
    obtain ⟨chosen, ran⟩ := Machine.only_exec ran
    cases ans with
    | done => cases ran; exact ⟨rfl, rfl⟩
    | fail text => cases chosen
    | _ => cases ran
  · refine .given ?_
    rintro rfl
    exact Yields.done trivial

theorem readFile_yields (path : String) : Yields w (readFile path) (· = w.read path) := by
  refine .call (fun res now => res = w.read path ∧ now = w) ?_ fun res => ?_
  · rintro v ans res v' rfl ran
    obtain ⟨chosen, ran⟩ := Machine.only_exec ran
    cases ans with
    | done => cases ran; exact ⟨rfl, rfl⟩
    | fail text => cases chosen
    | _ => cases ran
  · exact .given fun found => Yields.done found

theorem identityPath_yields : Yields w (identityPath site) (· = site.identityFile) := by
  have dir : Yields w (ageDir site) (· = joinPath [site.home, ".vee", "age"]) :=
    Yields.bind (prepare_yields _) fun _ _ =>
      Yields.bind (prepare_yields _) fun _ _ => Yields.done rfl
  refine Yields.bind dir ?_
  rintro _ rfl
  exact Yields.done rfl

theorem snapshotPath_yields : Yields w (snapshotPath site name) (· = site.snapshotFile name) := by
  have dir : Yields w (snapshotsDir site) (· = joinPath [site.home, ".vee", "runner-creds"]) :=
    Yields.bind (prepare_yields _) fun _ _ =>
      Yields.bind (prepare_yields _) fun _ _ => Yields.done rfl
  refine Yields.bind dir ?_
  rintro _ rfl
  exact Yields.done rfl

theorem loadOrCreateIdentity_yields (installed : Installed site id w) :
    Yields w (loadOrCreateIdentity site) (· = id) := by
  have found : w.read site.identityFile = .ok (.identity id) := by rw [CredWorld.read, installed]
  refine Yields.bind identityPath_yields ?_
  rintro _ rfl
  refine Yields.bind (readFile_yields _) ?_
  rintro _ rfl
  rw [found]
  exact Yields.done rfl

/-- The identity decrypts the snapshot of a runner, and the runner is restored from it. -/
theorem bringBack_meets {name : String} {enc : Sealed} (installed : Installed site id w)
    (stored : w.files (site.snapshotFile name) = some (.snapshot enc))
    (opens : site.age.decrypt id (.snapshot enc) = .ok enc.archive) :
    Meets (credMachine.only succeeds) (· = w) (bringBack site name)
      fun result _ => result = restore (site.snapshotFile name) (site.readTar enc.archive) := by
  have found : w.read (site.snapshotFile name) = .ok (.snapshot enc) := by
    rw [CredWorld.read, stored]
  have decrypted : Yields w (Prog.orThrow ("age decrypt " ++ site.snapshotFile name ++
      " (wrong identity?): ") (site.age.decrypt id (.snapshot enc))) (· = enc.archive) := by
    rw [opens]
    exact Yields.done rfl
  refine Yields.bind (loadOrCreateIdentity_yields installed) ?_
  rintro _ rfl
  refine Yields.bind (snapshotPath_yields name) ?_
  rintro _ rfl
  refine Yields.bind (readFile_yields _) ?_
  rintro _ rfl
  rw [found]
  refine Yields.bind decrypted ?_
  rintro _ rfl
  refine Yields.bind (prepare_yields _) fun _ _ => ?_
  exact .done fun _ _ => rfl

end Back

/-- As long as an identity is installed on first use only, the identity of the host decrypts
every snapshot, and each runner is brought back from its own. -/
theorem snapshots_stay_decryptable {site : Site} {names : List String}
    {c : Config CredOp CredOp.Res Unit CredWorld}
    (reached : Reach credMachine (onFirstUse site) (credStart site names) c) :
    Decryptable site c.world ∧ Restorable site c.world := by
  have pool := Reach.safe (P := protocol site) (start_safe site names)
    (fun event => event.elim) reached
  refine ⟨pool.inv, ?_⟩
  intro name enc stored result w' ran
  obtain ⟨id, installed, opens⟩ := pool.inv _ enc stored
  exact bringBack_meets installed stored opens rfl ran

/-- An age library that decrypts nothing else. -/
def strictAge : Age where
  decrypt id
    | .identity _ => .error "parsing age header"
    | .snapshot enc =>
      if enc.recipient = id.recipient then .ok enc.archive
      else .error "no identity matched any of the recipients"
  opens _ _ := if_pos rfl

/-- A host whose guests send the bytes as they are. -/
def plainSite : Site where
  home := "/h"
  age := strictAge
  decodeBase64 out := .ok (out.map fun c => UInt8.ofNat c.toNat)
  readTar archive := ⟨[⟨".runner".toList, true, 0o600, .ok archive⟩], none⟩

/-- What is stored under the paths of the identity and of a runner. -/
def holds (id owner : Identity) (w : CredWorld) : Bool :=
  decide (w.files plainSite.identityFile = some (.identity id)) &&
    decide (w.files (plainSite.snapshotFile name) = some (.snapshot ⟨owner.recipient, [7]⟩))

/-- Process `i` finds no identity and makes one. -/
def creates (i : Nat) (id : Identity) : List (Label CredAns Empty) :=
  [.run i (.key id)] ++ List.replicate 5 (.run i .done)

/-- Process `i` takes the snapshot. -/
def archives (i : Nat) : List (Label CredAns Empty) :=
  [.run i (.text []), .run i (.text [Char.ofNat 7])] ++ List.replicate 10 (.run i .done)

/-- Process `i` looks for an identity. -/
def looks (i : Nat) : List (Label CredAns Empty) := List.replicate 3 (.run i .done)

/-- The second process comes when the first one has installed its identity. -/
theorem later_process_uses_identity :
    ∃ c, Reach credMachine (onFirstUse plainSite) (credStart plainSite ["a", "b"]) c ∧
      holds "b" ⟨1⟩ ⟨1⟩ c.world = true ∧ Decryptable plainSite c.world ∧
        Restorable plainSite c.world := by
  refine Reach.exists_of_runs (looks 0 ++ creates 0 ⟨1⟩ ++ looks 1 ++ archives 1 ++ archives 0)
    (fun c => holds "b" ⟨1⟩ ⟨1⟩ c.world) (by decide +kernel) ?_
  exact fun c reached stored => ⟨stored, snapshots_stay_decryptable reached⟩

/-- Two processes find no identity. The first one installs its own and takes a snapshot, and then
the second one puts another identity in its place. -/
theorem first_snapshot_is_lost :
    ∃ c, Reach credMachine (.none _) (credStart plainSite ["a", "b"]) c ∧ c.Finished ∧
      ¬ Decryptable plainSite c.world := by
  refine Reach.exists_of_runs
    (looks 0 ++ looks 1 ++ creates 0 ⟨1⟩ ++ archives 0 ++ creates 1 ⟨2⟩ ++ archives 1)
    (fun c => c.Finished ∧ holds "a" ⟨2⟩ ⟨1⟩ c.world) (by decide) ?_
  rintro c - ⟨ended, tested⟩
  simp only [holds, Bool.and_eq_true, decide_eq_true_eq] at tested
  obtain ⟨identity, stored⟩ := tested
  refine ⟨ended, ?_⟩
  intro decryptable
  obtain ⟨id, installed, opens⟩ := decryptable _ _ stored
  rw [Installed, identity] at installed
  cases installed
  cases opens

end Vee.Runner
