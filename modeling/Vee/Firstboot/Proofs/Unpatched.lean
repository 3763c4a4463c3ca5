import Vee.Firstboot.Proofs.GuestFiles

/-!
# A patch that fails

When `Patch` returns an error, the guest should be as the restore left it, or the error should say
that it is not. `Patch` does neither on three ways out, behind the grants, the unmount and the last
detach, and where it ignores that it could not remove a file again.
-/

namespace Vee.Firstboot

open List

def reportsRollback : Err → Bool
  | .wrap _ _ behind =>
    " (and rolling the guest changes back failed: ".toList.isPrefixOf behind.toList
  | _ => false

/-- An error leaves no file of the payload behind or says so, and the marker that skips the Setup
Assistant is there only with a launch daemon that launchd loads. -/
def Unpatched {α : Type} (result : Except Err α) (w : DiskWorld) : Prop :=
  (∀ err, result = .error err → (∀ path, ¬ Written w.files path) ∨ reportsRollback err) ∧
    (Written w.files appleSetupDonePath →
      Fixed w.files plistPath ∨ ∃ err, result = .error err ∧ reportsRollback err)

/-- From such a state, the program ends with these files and this record. -/
abbrev Leaves {α : Type} (before : DiskWorld × Bool → Prop) (p : DiskProg α)
    (after : α → Files → Bool → Prop) : Prop :=
  Meets patchHost before p (Ends fun result => On (after result))

variable {P : Files → Bool → Prop} {mnt : String}

/-! ### Writing and undoing -/

variable (payload : List PayloadFile) (files : Files) (slipped : Bool)

def Clean : Prop :=
  (∀ path, ¬ Written files path) ∧ slipped = false

/-- Only files of the payload that can be removed again have been written. -/
def Among : Prop :=
  (∀ path, Written files path → ∃ f ∈ payload, f.keep = false ∧ f.path = path) ∧ slipped = false

def Complete : Prop :=
  ∀ f ∈ payload, f.dir = false → Written files f.path

def Writing (payload done : List PayloadFile) (files : Files) (slipped : Bool) : Prop :=
  Among payload files slipped ∧ Complete done files

structure IsPayload (payload : List PayloadFile) : Prop where
  distinct : (payload.map (·.path)).Nodup
  removable : ∀ f ∈ payload, f.dir = false → f.keep = false
  marker : ∃ f ∈ payload, f.dir = false ∧ f.path = appleSetupDonePath
  daemon : ∃ f ∈ payload, f.dir = false ∧ f.path = plistPath

theorem payloadFiles_isPayload (script sudoers : String) :
    IsPayload (payloadFiles script sudoers) := by
  unfold payloadFiles
  split
  · refine ⟨?_, by simp, ⟨_, mem_cons_self, rfl, rfl⟩, ?_⟩
    · show ([appleSetupDonePath, skipBuddyPath, _, scriptPath, plistPath]).Nodup
      decide +kernel
    · exact ⟨⟨plistPath, 0o644, launchDaemonPlist, false, false⟩, by simp, rfl, rfl⟩
  · refine ⟨?_, by simp, ⟨_, mem_cons_self, rfl, rfl⟩, ?_⟩
    · show ([appleSetupDonePath, skipBuddyPath, _, scriptPath, plistPath, sudoersPath]).Nodup
      decide
    · exact ⟨⟨plistPath, 0o644, launchDaemonPlist, false, false⟩, by simp, rfl, rfl⟩

section Payload

variable {payload : List PayloadFile} {done rest : List PayloadFile} {ans : Answer}
  {answer : Except RemoveError Unit} {f : PayloadFile}

def WriteEnds (mnt : String) (payload done : List PayloadFile) (result : Except Err Unit)
    (s : DiskWorld × Bool) : Prop :=
  match result with
  | .ok _ => Held mnt (Writing payload done) s
  | .error err => Held mnt (Among payload) s ∧ reportsRollback err = false

def Wrote (payload done : List PayloadFile) : Except String Unit → Files → Bool → Prop
  | .ok _ => Writing payload done
  | .error _ => Among payload

variable {s s' : DiskWorld × Bool}

theorem remove_writing {path : String} (apart : path ∉ done.map (·.path))
    (holds : Held mnt (Writing payload done) s)
    (ran : patchHost.exec 0 (.remove .writePayload mnt path) ans s = some (answer, s')) :
    Held mnt (Writing payload done) s' := by
  obtain ⟨mounted, ⟨among, quiet⟩, complete⟩ := holds
  refine remove_held (Q := fun _ => Writing payload done) mounted ran ?_
    (fun _ => ⟨⟨among, quiet⟩, complete⟩) fun text => ⟨⟨among, by simp [quiet]⟩, complete⟩
  refine ⟨⟨fun q written => ?_, quiet⟩, fun f mem plain => ?_⟩
  · rw [written_put_none] at written
    exact among q written.2
  · rw [written_put_none]
    exact ⟨fun equal => apart (equal ▸ mem_map_of_mem mem), complete f mem plain⟩

theorem write_writing {answer : Except String Unit} (mem : f ∈ payload)
    (removable : f.keep = false) (holds : Held mnt (Writing payload done) s)
    (ran : patchHost.exec 0 (.write mnt f) ans s = some (answer, s')) :
    Held mnt (Wrote payload (f :: done) answer) s' := by
  obtain ⟨mounted, ⟨among, quiet⟩, complete⟩ := holds
  refine write_held mounted ran (fun answer => ?_) fun text => ⟨among, quiet⟩
  have still : Among payload (s.1.put f.path (some ⟨.other, true⟩)).files s.2 := by
    refine ⟨fun q written => ?_, quiet⟩
    rcases written_put_some.mp written with rfl | before
    · exact ⟨f, mem, removable, rfl⟩
    · exact among q before
  cases answer with
  | error _ => exact still
  | ok _ =>
    refine ⟨still, fun g inside plain => written_put_some.mpr ?_⟩
    rcases mem_cons.mp inside with rfl | earlier
    · exact .inl rfl
    · exact .inr (complete g earlier plain)

theorem writeFile_meets (mem : f ∈ payload)
    (removable : f.dir = false → f.keep = false) (apart : f.path ∉ done.map (·.path)) :
    Meets patchHost (Held mnt (Writing payload done)) (writeFile mnt f)
      (Ends (WriteEnds mnt payload (f :: done))) := by
  unfold writeFile
  split
  · rename_i dir
    refine steady_call trivial fun answer => ?_
    cases answer with
    | error text => exact .done fun s holds => ⟨⟨holds.1, holds.2.1⟩, rfl⟩
    | ok _ =>
      refine .done fun s holds => ⟨holds.1, holds.2.1, ?_⟩
      intro g inside plain
      rcases mem_cons.mp inside with rfl | earlier
      · rw [dir] at plain
        cases plain
      · exact holds.2.2 g earlier plain
  · rename_i plain
    have keep := removable (by simpa using plain)
    refine steady_call trivial fun answer => ?_
    cases answer with
    | error text => exact .done fun s holds => ⟨⟨holds.1, holds.2.1⟩, rfl⟩
    | ok _ =>
      refine .call (fun _ => Held mnt (Writing payload done)) ?_ fun _ => ?_
      · exact fun _ _ _ _ => remove_writing apart
      · refine .call (fun answer => Held mnt (Wrote payload (f :: done) answer)) ?_ fun answer => ?_
        · exact fun _ _ _ _ => write_writing mem keep
        · cases answer with
          | error text => exact .done fun s held => ⟨held, rfl⟩
          | ok _ => exact .done fun _ => id

/-- The loop: what is left of the payload is apart from what has been written. -/
theorem writePayload_meets (isPayload : IsPayload payload) (rest : List PayloadFile) :
    ∀ done, payload = done.reverse ++ rest →
      Meets patchHost (Held mnt (Writing payload done)) (writePayload mnt rest)
        (Ends (WriteEnds mnt payload payload)) := by
  induction rest with
  | nil =>
    intro done split
    refine .done fun s holds => ⟨holds.1, holds.2.1, ?_⟩
    intro f mem plain
    exact holds.2.2 f (by simpa [split] using mem) plain
  | cons f rest ih =>
    intro done split
    have mem : f ∈ payload := by simp [split]
    have apart : f.path ∉ done.map (·.path) := by
      have distinct := isPayload.distinct
      rw [split, map_append, nodup_append] at distinct
      intro inside
      have earlier : f.path ∈ done.reverse.map (·.path) := by simpa using inside
      exact distinct.2.2 _ earlier _ (by simp) rfl
    refine .seq (writeFile_meets mem (isPayload.removable f mem) apart) fun result => ?_
    cases result with
    | error err => exact .done fun _ => id
    | ok _ => exact ih (f :: done) (by simpa using split)

/-- While the payload is removed again: what has been written is still to come, unless a removal
has failed. -/
def Undoing (rest : List PayloadFile) (files : Files) (slipped : Bool) : Prop :=
  Among rest files slipped ∨
    (slipped = true ∧ ∃ path, Written files path ∧ path ∉ rest.map (·.path))

theorem Undoing.skip {files : Files} {slipped : Bool}
    (undoing : Undoing (f :: rest) files slipped)
    (absent : ¬ (Written files f.path ∧ f.keep = false)) :
    Undoing rest files slipped := by
  rcases undoing with ⟨among, quiet⟩ | ⟨slip, path, written, apart⟩
  · refine .inl ⟨?_, quiet⟩
    intro path written
    rcases (exists_mem_cons_iff _ _ _).mp (among path written) with ⟨keep, rfl⟩ | later
    · exact absurd ⟨written, keep⟩ absent
    · exact later
  · refine .inr ⟨slip, path, written, ?_⟩
    exact fun inside => apart (mem_cons_of_mem _ inside)

theorem undo_step (distinct : f.path ∉ rest.map (·.path)) (holds : Held mnt (Undoing (f :: rest)) s)
    (ran : patchHost.exec 0 (.remove .undo mnt f.path) ans s = some (answer, s')) :
    Held mnt (Undoing rest) s' := by
  obtain ⟨mounted, undoing⟩ := holds
  refine remove_held (Q := fun _ => Undoing rest) mounted ran ?_ (fun absent => ?_) fun _ => ?_
  · rcases undoing with ⟨among, quiet⟩ | ⟨slip, path, written, apart⟩
    · refine .inl ⟨?_, quiet⟩
      intro q written
      rw [written_put_none] at written
      rcases (exists_mem_cons_iff _ _ _).mp (among q written.2) with ⟨-, rfl⟩ | later
      · exact absurd rfl written.1
      · exact later
    · refine .inr ⟨slip, path, ?_, fun inside => apart (mem_cons_of_mem _ inside)⟩
      rw [written_put_none]
      exact ⟨fun equal => apart (equal ▸ mem_cons_self), written⟩
  · refine undoing.skip ?_
    rintro ⟨⟨file, present, -⟩, -⟩
    rw [absent] at present
    cases present
  · by_cases written : Written s.1.files f.path
    · exact .inr ⟨by simp [any_written.mpr written], f.path, written, distinct⟩
    · have unmarked : (s.1.files f.path).any (·.written) = false := by
        rw [Bool.eq_false_iff, Ne, any_written]
        exact written
      simp only [unmarked, Bool.and_false, Bool.or_false]
      exact undoing.skip fun present => written present.1

theorem undoPayload_meets (rest : List PayloadFile) (distinct : (rest.map (·.path)).Nodup) :
    Meets patchHost (Held mnt (Undoing rest)) (undoPayload mnt rest)
      (Ends fun _ => On (Undoing [])) := by
  induction rest with
  | nil => exact .done fun s holds => holds.2
  | cons f rest ih =>
    obtain ⟨apart, distinct⟩ := nodup_cons.mp distinct
    unfold undoPayload
    split
    · rename_i keep
      refine (ih distinct).pre (fun s holds => ⟨holds.1, holds.2.skip ?_⟩)
      rintro ⟨-, removable⟩
      rw [keep] at removable
      cases removable
    · refine steady_call trivial fun _ => ?_
      refine .call (fun _ => Held mnt (Undoing rest)) ?_ fun _ => ih distinct
      exact fun _ _ _ _ => undo_step apart

/-! ### Rolling back -/

/-- Each file that has been written is one of the others, or is still to be removed. -/
def Remaining (others : String → Prop) (rest : List PayloadFile) (files : Files)
    (slipped : Bool) : Prop :=
  slipped = false ∧ ∀ path, Written files path →
    others path ∨ ∃ g ∈ rest, g.keep = false ∧ g.path = path

/-- The file that should be removed may still be there. -/
def Stuck (answer : Except RemoveError Unit) : Prop := ∃ text, answer = .error (.other text)

theorem rollback_step {others : String → Prop} (holds : Held mnt (Remaining others (f :: rest)) s)
    (ran : patchHost.exec 0 (.remove .rollbackPayload mnt f.path) ans s = some (answer, s')) :
    Held mnt (Remaining (fun path => others path ∨ Stuck answer ∧ path = f.path) rest) s' := by
  obtain ⟨mounted, quiet, among⟩ := holds
  -- what was known of a file that is still there
  have kept : ∀ answer path, Written s.1.files path → (path = f.path → Stuck answer) →
      (others path ∨ Stuck answer ∧ path = f.path) ∨
        ∃ g ∈ rest, g.keep = false ∧ g.path = path := by
    intro answer path written failed
    rcases among path written with other | here
    · exact .inl (.inl other)
    · rcases (exists_mem_cons_iff _ _ _).mp here with ⟨-, rfl⟩ | later
      · exact .inl (.inr ⟨failed rfl, rfl⟩)
      · exact .inr later
  refine remove_held
    (Q := fun answer => Remaining (fun path => others path ∨ Stuck answer ∧ path = f.path) rest)
    mounted ran ⟨quiet, fun path written => ?_⟩
    (fun absent => ⟨quiet, fun path written => kept _ path written ?_⟩)
    fun text => ⟨by simp [quiet], fun path written => kept _ path written fun _ => ⟨text, rfl⟩⟩
  · rw [written_put_none] at written
    exact kept _ path written.2 fun equal => absurd equal written.1
  · rintro rfl
    obtain ⟨file, present, -⟩ := written
    rw [absent] at present
    cases present

/-- The loop of the roll-back: without an error, the files have gone. -/
theorem removePayload_meets (rest : List PayloadFile) : ∀ others : String → Prop,
    Leaves (Held mnt (Remaining others rest)) (removePayload mnt rest) fun errs files slipped =>
      slipped = false ∧ (errs = [] → ∀ path, Written files path → others path) := by
  induction rest with
  | nil =>
    intro others
    refine .done fun s holds => ⟨holds.2.1, fun _ path written => ?_⟩
    simpa using holds.2.2 path written
  | cons f rest ih =>
    intro others
    unfold removePayload
    split
    · rename_i keep
      refine (ih others).pre (fun s holds => ⟨holds.1, holds.2.1, fun path written => ?_⟩)
      rcases holds.2.2 path written with other | here
      · exact .inl other
      · rcases (exists_mem_cons_iff _ _ _).mp here with ⟨removable, -⟩ | later
        · rw [keep] at removable
          cases removable
        · exact .inr later
    · refine steady_call trivial fun _ => ?_
      refine .call _ (fun _ _ _ _ => rollback_step) fun answer => ?_
      show Meets patchHost _ (removePayload mnt rest >>= fun errs => _) _
      refine .seq (ih _) fun errs => ?_
      rcases answer with (_ | text) | _
      case error.other => exact .done fun s ended => ⟨ended.1, fun none => by cases none⟩
      all_goals
        refine .done fun s ended => ⟨ended.1, fun none path written => ?_⟩
        rcases ended.2 none path written with other | ⟨⟨text, impossible⟩, -⟩
        · exact other
        · cases impossible

theorem mountData_meets (ctx : Context) (attached : AttachedDisk) :
    Meets patchHost (On P) (mountData ctx attached mnt)
      (Ends fun result s => On P s ∧ (result = .ok () → mnt ∈ s.1.mounts)) := by
  refine .call (fun answer s => On P s ∧ (answer = .ok () → mnt ∈ s.1.mounts)) ?_ fun answer => ?_
  · intro s ans answer s' holds executed
    have keeps : (DiskOp.mount ctx attached.data mnt).Calm := trivial
    refine ⟨keeps_step keeps.keepsFiles executed (by rw [slips_calm keeps]; simpa using holds), ?_⟩
    rintro rfl
    obtain ⟨w', ran, rfl⟩ := patchHost_exec executed
    simp only [DiskWorld.exec, DiskWorld.step] at ran
    split at ran <;> cases ran
    exact mem_cons_self
  · cases answer with
    | error failure => exact .done fun s after => ⟨after.1, fun fine => by cases fine⟩
    | ok _ => exact .done fun s after => ⟨after.1, fun _ => after.2 rfl⟩

theorem rollbackPayload_meets (attached : AttachedDisk) (opts : Options) :
    Leaves (On (Among payload)) (rollbackPayload attached mnt payload opts)
      fun result files slipped => slipped = false ∧
        (result = .ok () → ∀ path, ¬ Written files path) := by
  refine .seq (mountData_meets _ _) fun mounted => ?_
  cases mounted with
  | error err => exact .done fun s after => ⟨after.1.2, nofun⟩
  | ok _ =>
    have drop : Meets patchHost (Held mnt (Among payload)) (dropPrivacyGrants mnt opts)
        (Ends fun _ s => True ∧ Held mnt (Among payload) s) :=
      steady_meets (dropPrivacyGrants_steady mnt opts)
    refine .seq (drop.pre (fun s after => ⟨after.2 rfl, after.1⟩)) fun dropped => .given fun _ => ?_
    refine .seq ((removePayload_meets payload fun _ => False).pre ?_) fun errs => ?_
    · intro s holds
      exact ⟨holds.1, holds.2.2, fun path written => .inr (holds.2.1 path written)⟩
    · have other : Part.rollbackPayload ≠ .patch := by decide
      refine calm_call other fun _ => ?_
      refine .done fun s after => ⟨after.1, fun ok path written => ?_⟩
      exact after.2 (append_eq_nil_iff.mp (joined_eq_ok ok)).2 path written

end Payload

/-! ### Ownership -/

theorem fixOwnership_meets {payload : List PayloadFile} (attached : AttachedDisk) :
    Leaves (On (Writing payload payload)) (fixOwnership attached payload)
      fun result files slipped => Writing payload payload files slipped ∧
        (result = .ok () → ∀ f ∈ payload, f.dir = false → Fixed files f.path) := by
  refine calm_call trivial fun answer => ?_
  cases answer with
  | error text => exact .done fun s holds => ⟨holds, nofun⟩
  | ok mnt =>
    refine .call (fun answer => On fun files slipped => Writing payload payload files slipped ∧
      (answer = .ok () → ∀ f ∈ payload, f.dir = false → Fixed files f.path)) ?_ fun answer => ?_
    · rintro s ans answer s' ⟨⟨among, quiet⟩, complete⟩ ran
      obtain ⟨w, done, rfl, before, all⟩ := sudo_step ran
      have still : ∀ q, Written (w.ownAll done).files q ↔ Written s.1.files q := by
        intro q
        rw [written_ownAll, before]
      refine ⟨⟨⟨fun q written => among q ((still q).mp written), quiet⟩,
        fun f mem plain => (still _).mpr (complete f mem plain)⟩, ?_⟩
      rintro ok f mem plain
      refine fixed_ownAll (all ok ▸ mem) ?_
      rw [before]
      exact complete f mem plain
    · refine calm_call trivial fun _ => ?_
      cases answer with
      | error text => exact .done fun s ended => ⟨ended.1, nofun⟩
      | ok _ => exact .done fun s ended => ⟨ended.1, fun _ => ended.2 rfl⟩

/-! ### The ways out -/

/-- The payload is there, and nobody will remove it. -/
def Lost : Prop :=
  Complete payload files ∧ slipped = true

/-- After a call whose failure is not made good. -/
def Lapse {ε β : Type} (payload : List PayloadFile) : Except ε β → Files → Bool → Prop
  | .ok _ => Writing payload payload
  | .error _ => Lost payload

/-- Errors of the grants that are only reported. -/
def tolerated (err : Err) : Bool := err.is .noTCCDB || err.is .unknownTCCSchema

def GrantEnds : Except Err Unit → Files → Bool → Prop
  | .ok _, files, slipped => Writing payload payload files slipped
  | .error err, files, slipped =>
    (tolerated err = true ∧ Writing payload payload files slipped) ∨
      (tolerated err = false ∧ reportsRollback err = false ∧ Lost payload files slipped)

/-- How `Patch` ends: the record is of a failure exactly if the guest is left half-patched. -/
def Settled {α : Type} : Except Err α → Files → Bool → Prop
  | .ok _, files, slipped => slipped = false ∧ Fixed files plistPath
  | .error err, files, slipped =>
    (slipped = false ∧ ((∀ path, ¬ Written files path) ∨ reportsRollback err = true)) ∨
      (slipped = true ∧ (∃ path, Written files path) ∧ reportsRollback err = false)

theorem Settled.unpatched_iff {α : Type} {result : Except Err α} {w : DiskWorld} {slipped : Bool}
    (settled : Settled result w.files slipped) : Unpatched result w ↔ slipped = false := by
  cases result with
  | ok value =>
    obtain ⟨quiet, fixed⟩ := settled
    refine ⟨fun _ => quiet, fun _ => ⟨?_, fun _ => .inl fixed⟩⟩
    intro err impossible
    cases impossible
  | error err =>
    rcases settled with ⟨quiet, none | reported⟩ | ⟨slip, ⟨path, written⟩, silent⟩
    · exact ⟨fun _ => quiet, fun _ => ⟨fun _ _ => .inl none, fun marker => absurd marker (none _)⟩⟩
    · refine ⟨fun _ => quiet, fun _ => ⟨?_, fun _ => .inr ⟨err, rfl, reported⟩⟩⟩
      rintro _ ⟨⟩
      exact .inr reported
    · refine ⟨fun unpatched => ?_, fun quiet => by rw [slip] at quiet; cases quiet⟩
      rcases unpatched.1 err rfl with none | reported
      · exact absurd written (none path)
      · rw [silent] at reported
        cases reported

section Exits

variable {payload : List PayloadFile} {attached : AttachedDisk}

variable {err : Err} {files : Files} {slipped : Bool}

/-- An error that puts another text behind the one that it wraps. -/
theorem silent_wrap {before behind : String} (other : behind.toList.head? ≠ some ' ') :
    reportsRollback (.wrap before err behind) = false := by
  cases text : behind.toList with
  | nil => simp [reportsRollback, text]
  | cons c rest =>
    have apart : ' ' ≠ c := by
      rintro rfl
      exact other (by rw [text]; rfl)
    simp [reportsRollback, text, isPrefixOf, apart]

theorem Lost.settled (isPayload : IsPayload payload) (lost : Lost payload files slipped)
    (silent : reportsRollback err = false) :
    Settled (.error err : Except Err Unit) files slipped := by
  obtain ⟨f, mem, plain, -⟩ := isPayload.marker
  exact .inr ⟨lost.2, ⟨f.path, lost.1 f mem plain⟩, silent⟩

theorem lapse_step {op : DiskOp} (keeps : op.KeepsFiles) {ε β : Type} {ended : Except ε β}
    {ans : Answer} {answer : op.Res} {s s' : DiskWorld × Bool}
    (recorded : slips op answer s.1 = !ended.isOk) (holds : On (Writing payload payload) s)
    (ran : patchHost.exec 0 op ans s = some (answer, s')) : On (Lapse payload ended) s' := by
  obtain ⟨⟨among, quiet⟩, complete⟩ := holds
  refine keeps_step keeps ran ?_
  rw [recorded, quiet]
  cases ended with
  | ok _ => exact ⟨⟨among, rfl⟩, complete⟩
  | error _ => exact ⟨complete, rfl⟩

theorem openTCC_meets : Leaves (On (Writing payload payload)) (openTCC .patch .caller mnt)
    (GrantEnds payload) := by
  have keeps : (DiskOp.openTCC .patch mnt).KeepsFiles := trivial
  refine calm_call trivial (.either (fun _ => .done fun s holds => .inl ⟨rfl, holds⟩) fun _ => ?_)
  refine .call (fun answer => On (Lapse payload answer))
    (fun s ans answer s' => lapse_step keeps (by cases answer <;> rfl)) ?_
  refine .either (fun _ => .done fun s lost => .inr ⟨rfl, rfl, lost⟩) fun _ => ?_
  refine calm_call trivial (.either (fun _ => ?_) fun _ => .done fun _ => id)
  exact calm_call trivial fun _ => .done fun s holds => .inl ⟨rfl, holds⟩

theorem forServices_meets (before behind : String) (services : List String) :
    Leaves (On (Writing payload payload)) (forServices .caller .insert before behind services)
      (GrantEnds payload) := by
  induction services with
  | nil => exact .done fun _ => id
  | cons service services ih =>
    have keeps : (DiskOp.statement .caller (.insert service)).KeepsFiles := trivial
    refine .call (fun answer => On (Lapse payload answer))
      (fun s ans answer s' => lapse_step keeps (by cases answer <;> rfl)) ?_
    exact .either (fun _ => .done fun s lost => .inr ⟨rfl, rfl, lost⟩) fun _ => ih

theorem applyPrivacyGrants_meets (opts : Options) :
    Leaves (On (Writing payload payload)) (applyPrivacyGrants mnt opts) (GrantEnds payload) := by
  unfold applyPrivacyGrants
  split
  · refine .seq openTCC_meets (.either (fun _ => .done fun _ => id) fun _ => ?_)
    refine .seq (forServices_meets _ _ _) fun result => ?_
    exact calm_call trivial fun _ => .done fun _ => id
  · exact .done fun _ => id

def MountedEnds (payload : List PayloadFile) : Except Err Unit → Files → Bool → Prop
  | .ok _, files, slipped => Writing payload payload files slipped
  | .error err, files, slipped => Settled (.error err : Except Err Unit) files slipped

theorem Undoing.settled (undoing : Undoing [] files slipped)
    (silent : reportsRollback err = false) :
    Settled (.error err : Except Err Unit) files slipped := by
  rcases undoing with ⟨among, quiet⟩ | ⟨slip, path, written, -⟩
  · refine .inl ⟨quiet, .inl fun path written => ?_⟩
    obtain ⟨f, impossible, -⟩ := among path written
    cases impossible
  · exact .inr ⟨slip, ⟨path, written⟩, silent⟩

theorem rollbackError_reports (err rollbackErr : Err) :
    reportsRollback (rollbackError err rollbackErr) = true := by
  simp [reportsRollback, rollbackError, isPrefixOf]

/-- `Patch` without what has been written settles every error. -/
theorem Clean.settled (clean : Clean files slipped) (α : Type) (err : Err) :
    Settled (.error err : Except Err α) files slipped :=
  .inl ⟨clean.2, .inl clean.1⟩

section

variable (isPayload : IsPayload payload)

include isPayload

theorem unmountData_meets :
    Leaves (On (Writing payload payload)) (unmountData mnt) (MountedEnds payload) := by
  have keeps : (DiskOp.umount .patch .caller mnt).KeepsFiles := trivial
  refine .call (fun answer => On (Lapse payload answer))
    (fun s ans answer s' => lapse_step keeps (by cases answer <;> rfl)) ?_
  refine .either (fun failure => .done fun s lost => ?_) fun _ => .done fun _ => id
  exact Lost.settled isPayload lost (silent_wrap (by simp))

theorem grantAndUnmount_meets (opts : Options) :
    Leaves (On (Writing payload payload)) (grantAndUnmount mnt opts) (MountedEnds payload) := by
  refine .seq (applyPrivacyGrants_meets opts) fun result => ?_
  cases result with
  | ok _ => exact unmountData_meets isPayload
  | error err =>
    show Meets patchHost _ (if tolerated err then _ else _) _
    split
    · rename_i fine
      refine (unmountData_meets isPayload).pre ?_
      rintro s (⟨-, holds⟩ | ⟨fatal, -⟩)
      · exact holds
      · rw [fine] at fatal
        cases fatal
    · rename_i fatal
      refine .done fun s ended => ?_
      rcases ended with ⟨fine, -⟩ | ⟨-, silent, lost⟩
      · exact absurd fine fatal
      · exact Lost.settled isPayload lost silent

theorem patchMounted_meets (opts : Options) :
    Leaves (Held mnt Clean) (patchMounted mnt payload opts) (MountedEnds payload) := by
  have writes : Meets patchHost (Held mnt Clean) (writePayload mnt payload)
      (Ends (WriteEnds mnt payload payload)) := by
    refine (writePayload_meets isPayload payload [] rfl).pre ?_
    rintro s ⟨mounted, none, quiet⟩
    exact ⟨mounted, ⟨fun path written => absurd written (none path), quiet⟩, by simp [Complete]⟩
  refine .seq writes fun result => ?_
  cases result with
  | ok _ => exact (grantAndUnmount_meets isPayload opts).pre (fun s holds => holds.2)
  | error err =>
    rintro s result s' ⟨held, silent⟩ ran
    have undone : Leaves (Held mnt (Among payload))
        (undoPayload mnt payload >>= fun _ => pure (.error err)) (MountedEnds payload) := by
      refine .seq ((undoPayload_meets payload isPayload.distinct).pre
        (fun s among => ⟨among.1, .inl among.2⟩)) fun _ => ?_
      exact .done fun s undoing => undoing.settled silent
    exact undone held ran

section

variable (found : attached.data ≠ [])

include found

theorem detachLast_meets :
    Leaves (On fun files slipped => Writing payload payload files slipped ∧ Fixed files plistPath)
      (detachImage .patch .caller attached >>= fun result =>
        match result with
        | .error err => pure (.error (.wrap "" (.sentinel .guestDiskBusy) (": " ++ errorText err)))
        | .ok _ => pure (.ok ()))
      (Settled (α := Unit)) := by
  have keeps : (DiskOp.detach .patch .caller attached.node).KeepsFiles := trivial
  rw [detachImage, if_neg (node_ne_nil found)]
  refine .call (fun answer => On fun files slipped => Lapse payload answer files slipped ∧
    Fixed files plistPath) ?_ fun answer => ?_
  · rintro s ans answer s' ⟨holds, fixed⟩ ran
    refine ⟨lapse_step keeps (by cases answer <;> rfl) holds ran, ?_⟩
    exact keeps_step (P := fun files _ => Fixed files plistPath) keeps ran fixed
  · cases answer with
    | ok _ => exact .done fun s after => ⟨after.1.1.2, after.2⟩
    | error text =>
      exact .done fun s after => Lost.settled isPayload after.1 (silent_wrap (by simp))

theorem fixAndDetach_meets (opts : Options) :
    Leaves (On (Writing payload payload)) (fixAndDetach attached mnt payload opts) Settled := by
  refine .seq (fixOwnership_meets attached) fun result => ?_
  cases result with
  | ok _ =>
    refine (detachLast_meets isPayload found).pre ?_
    rintro s ⟨holds, fixed⟩
    obtain ⟨f, mem, plain, path⟩ := isPayload.daemon
    exact ⟨holds, path ▸ fixed rfl f mem plain⟩
  | error err =>
    refine .seq ((rollbackPayload_meets attached opts).pre
      (fun s holds => holds.1.1)) fun result => ?_
    cases result with
    | error rollbackErr =>
      exact .done fun s after => .inl ⟨after.1, .inr (rollbackError_reports err rollbackErr)⟩
    | ok _ => exact .done fun s after => .inl ⟨after.1, .inl (after.2 rfl)⟩

theorem patchVolume_meets (opts : Options) :
    Leaves (On Clean) (patchVolume attached mnt payload opts) Settled := by
  have other : Part.deferred ≠ .patch := by decide
  refine .seq (mountData_meets _ _) fun mounted => ?_
  cases mounted with
  | error err => exact .done fun s after => after.1.settled Unit err
  | ok _ =>
    refine .seq ((patchMounted_meets isPayload opts).pre
      (fun s after => ⟨after.2 rfl, after.1⟩)) fun result => ?_
    cases result with
    | ok _ => exact fixAndDetach_meets isPayload found opts
    | error err =>
      refine calm_call other fun _ => ?_
      exact .done fun _ => id

theorem patchAttached_meets (diskPath : String) (opts : Options) :
    Leaves (On Clean) (patchAttached diskPath attached payload opts) Settled := by
  have other : Part.deferred ≠ .patch := by decide
  have body : Leaves (On Clean) (patchOn diskPath attached payload opts) Settled := by
    refine calm_call trivial fun answer => ?_
    cases answer with
    | error text => exact .done fun s clean => clean.settled Unit _
    | ok mnt =>
      refine .seq (patchVolume_meets isPayload found opts) fun result => ?_
      refine calm_call trivial fun _ => ?_
      exact .done fun _ => id
  refine .seq body fun result => ?_
  cases result with
  | ok _ => exact .done fun _ => id
  | error err =>
    refine .seq (calm_meets (detachImage_calm other _ _)) fun _ => .given fun _ => ?_
    exact .done fun _ => id

end

end

end Exits

variable (site : Site) (diskPath : String) (opts : Options)

theorem choosePassword_calm : (choosePassword opts).Completes DiskOp.Calm := by
  unfold choosePassword
  split
  · exact ⟨trivial, fun _ => trivial⟩
  · exact trivial

theorem patchUsing_meets (password : String) :
    Leaves (On Clean) (patchUsing site diskPath opts password) Settled := by
  unfold patchUsing
  split
  · exact .done fun s clean => clean.settled String _
  rename_i script _
  have attached : Leaves (On Clean) (patchWith site diskPath opts script) Settled := by
    refine .seq (calm_meets (attachLoop_calm site diskPath _)) fun result =>
      .given fun resolved => ?_
    cases result with
    | error err => exact .done fun s clean => clean.settled Unit _
    | ok attached =>
      exact patchAttached_meets (payloadFiles_isPayload _ _) (resolved _ rfl) diskPath opts
  refine .seq attached fun result => ?_
  cases result with
  | error err => exact .done fun _ => id
  | ok _ => exact .done fun _ => id

theorem patch_meets : Leaves (On Clean) (patch site diskPath opts) Settled := by
  unfold patch
  split
  · exact .done fun s clean => clean.settled String _
  · refine .seq (calm_meets (choosePassword_calm opts)) fun chosen => .given fun _ => ?_
    cases chosen with
    | error err => exact .done fun s clean => clean.settled String _
    | ok password => exact patchUsing_meets site diskPath opts password

/-- A `Patch` that returns an error leaves the guest unpatched or says that it could not, and the
marker is not there without its daemon, exactly if none of the failures happens that `Patch`
does not make good. -/
theorem patch_leaves_unpatched_iff (site : Site) (diskPath : String) (opts : Options)
    {w w' : DiskWorld} {slipped : Bool} {result : Except Err String}
    (unwritten : ∀ path, ¬ Written w.files path)
    (ran : Ran patchHost (patch site diskPath opts) (w, false) (.ok result) (w', slipped)) :
    Unpatched result w' ↔ slipped = false := by
  have clean : On Clean (w, false) := ⟨unwritten, rfl⟩
  have settled : Settled result w'.files slipped := patch_meets site diskPath opts clean ran
  exact settled.unpatched_iff

def macPlist : Plist :=
  imagePlist [("dev-entry", .string "/dev/disk5s1".toList), ("role", .string "Data".toList)]

def macSite : Site where
  parsePlist _ := .ok macPlist
  renderFirstBootScript _ _ := .ok "#!/bin/sh\n"

def macOptions : Options := { user := "vee", password := "secret" }

/-- The image is attached and mounted, and the payload is written. -/
def writesPayload : List Answer :=
  [{ nodes := ["disk4".toList, "disk5s1".toList] }, { name := "/vm/mnt-1" }] ++
    List.replicate 17 ({} : Answer)

/-- The ownership cannot be fixed, and the payload is removed again. -/
theorem refused_sudo_is_rolled_back :
    ∃ err w', Ran patchHost (patch macSite "/vm/disk.img" macOptions) ({}, false)
        (.ok (.error err)) (w', false) ∧ reportsRollback err = false ∧
      Unpatched (.error err : Except Err String) w' := by
  obtain ⟨result, ⟨w', slipped⟩, ran, failed, rfl⟩ := Ran.exists_ok_of_play (M := patchHost)
    (writesPayload ++ replicate 2 ({} : Answer) ++ [{ fail := some "exit status 1" }] ++
      replicate 15 ({} : Answer))
    (patch macSite "/vm/disk.img" macOptions) ({}, false)
    (fun result s => failsWith (fun err => !reportsRollback err) result ∧ s.2 = false)
    (by decide +kernel)
  simp only [Bool.not_eq_true', failsWith_iff] at failed
  obtain ⟨err, rfl, silent⟩ := failed
  refine ⟨err, w', ran, silent, ?_⟩
  refine (patch_leaves_unpatched_iff macSite "/vm/disk.img" macOptions ?_ ran).mpr rfl
  rintro path ⟨file, impossible, -⟩
  cases impossible

/-- The caller cancels when the payload has been written: the unmount fails, and `Patch` returns
its error while the marker is in the guest with a daemon that launchd does not load. -/
theorem cancelled_patch_stays :
    ∃ err w', Ran diskHost (patch macSite "/vm/disk.img" macOptions) {} (.ok (.error err)) w' ∧
      Written w'.files appleSetupDonePath ∧ ¬ Fixed w'.files plistPath ∧
      ¬ Unpatched (.error err : Except Err String) w' := by
  obtain ⟨result, w', ran, failed, written, other⟩ := Ran.exists_ok_of_play (M := diskHost)
    (writesPayload ++ [{ cancel := true }] ++ replicate 3 ({} : Answer))
    (patch macSite "/vm/disk.img" macOptions) {}
    (fun result w => failsWith (fun err => !reportsRollback err) result ∧
      (w.files appleSetupDonePath).any (·.written) ∧
      ∀ file ∈ w.files plistPath, file.owner ≠ .root) (by decide)
  simp only [Bool.not_eq_true', any_written, failsWith_iff] at failed written
  obtain ⟨err, rfl, silent⟩ := failed
  have unfixed : ¬ Fixed w'.files plistPath :=
    fun ⟨file, present, _, owner⟩ => other file present owner
  refine ⟨err, w', ran, written, unfixed, ?_⟩
  intro unpatched
  rcases unpatched.1 err rfl with none | reported
  · exact none _ written
  · rw [silent] at reported
    cases reported

end Vee.Firstboot
