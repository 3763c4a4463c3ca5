import Vee.Misc.RelyGuarantee
import Vee.VM.Database
import Vee.VM.Quiet
import Vee.VM.SSHProxy

/-!
# Deleting a VM under writers in flight

`saveState` first makes sure that the VM has a row (`dbEnsureVM`). A writer that has loaded the
record of a VM and saves it after the VM was deleted therefore brings the VM back, as a stub with
the config of an empty object: `List` shows an entry without a name.
-/

namespace Vee.Database

open List Option

open Prog (orThrow forEach returns)

/-- What may be about to save the record of a VM. -/
inductive StateWriter where
  /-- A shutdown watcher. -/
  | watcher
  | setPort (port : Int)
  | clearPort (port : Int)
  /-- A list, which cleans up after processes that are gone. -/
  | cleanup

def StateWriter.prog (name : String) : StateWriter → Rows Unit
  | .watcher => ofVM name recordGuestShutdown
  | .setPort port => ofVM name (setStateSSHPort port)
  | .clearPort port => ofVM name (clearStateSSHPort port)
  | .cleanup => do let _ ← list

def deleteAgainstWriters (storagePath name : String) (writers : List StateWriter) (w : Site) :
    Config StoreOp StoreOp.Res Unit Site :=
  ⟨delete storagePath name :: writers.map (·.prog name), w⟩

/-- A save of the record of `name` finds its row, and the deletion of a row does not fail. -/
def StoreOp.InTime (name : String) (ans : Answer) (w : Site) : StoreOp → Prop
  | .insertStub owner _ => owner = name → w.tables.HasRow name
  | .deleteVM _ => ans.error = none
  | _ => True

def savesInTime (name : String) : Guard storeHost where
  run _ op ans w := op.InTime name ans w

instance (name : String) : (savesInTime name).Decides where
  run _ op ans w := by
    cases op with
    | insertStub owner => exact inferInstanceAs (Decidable (owner = name → w.tables.HasRow name))
    | deleteVM => exact inferInstanceAs (Decidable (ans.error = none))
    | _ => exact isTrue trivial
  env _ _ := isTrue trivial

/-- Every row that decodes is that of a VM with a name: no stub. -/
def Tables.Named (t : Tables) : Prop :=
  ∀ row ∈ t.vms, ∀ cfg, row.config = some cfg → cfg.name = row.name ∧ row.name ≠ ""

/-! ### What a call does to the rows -/

section Rows

variable {name : String} {op : StoreOp} {ans : Answer} {answer : op.Res} {w w' : Site}

/-- The statements that change the rows of `vms`. -/
def StoreOp.writesRow : StoreOp → Bool
  | .upsertConfig _ | .insertStub _ _ | .deleteVM _ => true
  | _ => false

theorem Site.change_cases {ans : Answer} {after : Tables} {answer : Except String Unit}
    (ran : w.change ans after = (answer, w')) :
    (ans.error = none ∧ w'.tables = after) ∨ (ans.error ≠ none ∧ w' = w) := by
  unfold Site.change at ran
  split at ran <;> cases ran
  · rename_i text failed
    exact .inr ⟨by simp [failed], rfl⟩
  · rename_i fine
    exact .inl ⟨fine, rfl⟩

theorem exec_vms (other : op.writesRow = false) (ran : op.exec ans w = some (answer, w')) :
    w'.tables.vms = w.tables.vms := by
  cases op with
  | upsertConfig | insertStub | deleteVM => cases other
  | upsertState owner state =>
    simp only [StoreOp.exec] at ran
    split at ran
    · rcases Site.change_cases (some.inj ran) with ⟨-, same⟩ | ⟨-, rfl⟩
      · rw [same]; rfl
      · rfl
    · cases ran; rfl
  | selectConfig owner =>
    simp only [StoreOp.exec] at ran
    split at ran
    · cases ran; rfl
    · cases ran; rfl
    · split at ran <;> cases ran <;> rfl
  | selectState owner =>
    simp only [StoreOp.exec] at ran
    split at ran <;> cases ran <;> rfl
  | host call =>
    obtain ⟨out, -, same⟩ := map_eq_some_iff.mp ran
    cases same
    rfl
  | selectConfigs | removeFile | removeTunnels | deleteVMDir => cases ran; rfl

theorem insertStub_exec {template : String} {answer : Except String Unit}
    (present : w.tables.HasRow name)
    (ran : (StoreOp.insertStub name template).exec ans w = some (answer, w')) :
    w'.tables.vms = w.tables.vms := by
  rcases Site.change_cases (some.inj ran) with ⟨-, same⟩ | ⟨-, rfl⟩
  · rw [same, Tables.insertStub, if_pos present]
  · rfl

end Rows

/-! ### Rows that are gone stay gone -/

namespace DeletedRow

/-- Rows go only with the deletion of their VM, and none comes. -/
def Shrinks (name : String) (w w' : Site) : Prop :=
  (∀ row ∈ w'.tables.vms, row ∈ w.tables.vms) ∧
    ∀ row ∈ w.tables.vms, row.name ≠ name → row ∈ w'.tables.vms

variable {w w' : Site} {op : StoreOp} {owner : String} {α : Type} {p : VM α}
  {ends : Except String α → Prop}

theorem Shrinks.of_eq {name : String} (same : w'.tables.vms = w.tables.vms) :
    Shrinks name w w' := by
  unfold Shrinks
  rw [same]
  exact ⟨fun _ => id, fun _ mem _ => mem⟩

def protocol (name : String) : Protocol storeHost where
  guard := savesInTime name
  inv w := w.tables.Named
  guar _ := Shrinks name

variable {name : String} {i : Nat}

theorem Named.shrinks (named : w.tables.Named) (shrinks : Shrinks name w w') :
    w'.tables.Named := fun row mem => named row (shrinks.1 row mem)

theorem interferes (step : (protocol name).Interferes i w w') : Shrinks name w w' := by
  obtain ⟨-, -, ⟨j, -, promised⟩ | ⟨event, -, happened⟩⟩ := step
  · exact promised
  · obtain ⟨host, -, rfl⟩ := map_eq_some_iff.mp happened
    exact .of_eq rfl

theorem hostKeeps : (protocol name).HostKeeps := by
  intro event w w' named _ happened
  obtain ⟨host, -, rfl⟩ := map_eq_some_iff.mp happened
  exact named

theorem gone_stable : (protocol name).Stable i fun w => ¬ w.tables.HasRow name :=
  fun _ _ gone step ⟨row, mem, same⟩ => gone ⟨row, (interferes step).1 row mem, same⟩

/-- VMs whose records may be saved: each is the one that is deleted, or has a row. -/
def Present (name : String) (owners : List String) (w : Site) : Prop :=
  ∀ owner ∈ owners, owner = name ∨ w.tables.HasRow owner

variable {owners : List String}

theorem Present.shrinks (present : Present name owners w) (shrinks : Shrinks name w w') :
    Present name owners w' := by
  intro owner mem
  by_cases same : owner = name
  · exact .inl same
  · obtain ⟨row, mem, named⟩ := (present owner mem).resolve_left same
    exact .inr ⟨row, shrinks.2 row mem (by rwa [named]), named⟩

theorem deleted_present (w : Site) : Present name [name] w :=
  fun _ mem => .inl (mem_singleton.mp mem)

theorem present_stable : (protocol name).Stable i (Present name owners) :=
  fun _ _ present step => present.shrinks (interferes step)

theorem quiet_call {assertion : Site → Prop} (stable : (protocol name).Stable i assertion)
    (kept : ∀ w w', assertion w → w'.tables.vms = w.tables.vms → assertion w')
    (other : op.writesRow = false) : (protocol name).Triple i assertion op fun _ => assertion := by
  refine ⟨stable, fun w ans answer w' named holds _ ran => ?_⟩
  have same := exec_vms other ran
  have shrinks : Shrinks name w w' := .of_eq same
  exact ⟨Named.shrinks named shrinks, shrinks, kept w w' holds same⟩

theorem stub_call (mem : owner ∈ owners) (template : String) :
    (protocol name).Triple i (Present name owners) (.insertStub owner template)
      fun _ => Present name owners := by
  refine ⟨present_stable, fun w ans answer w' named present inTime ran => ?_⟩
  have row : w.tables.HasRow owner := by
    rcases present owner mem with rfl | row
    · exact inTime rfl
    · exact row
  have shrinks : Shrinks name w w' := .of_eq (insertStub_exec row ran)
  exact ⟨Named.shrinks named shrinks, shrinks, present.shrinks shrinks⟩

def SavesNoConfig : Call → Prop
  | .saveConfig _ => False
  | _ => True

instance : Permits SavesNoConfig where
  silent {op} silent := by cases op <;> first | exact trivial | exact silent.elim

theorem carryOut_keeps (mem : owner ∈ owners) {op : Call} (allowed : SavesNoConfig op)
    (present : Present name owners w) :
    Safe (protocol name) i (fun _ => Present name owners) (carryOut owner op) w := by
  have plain : ∀ op : StoreOp, op.writesRow = false → ∀ w, Present name owners w →
      Safe (protocol name) i (fun _ => Present name owners) (askRow op) w := by
    intro op other w present
    refine Safe.triple (quiet_call present_stable
      (fun w w' present same => present.shrinks (.of_eq same)) other) present fun _ w now => ?_
    exact .done present_stable now
  cases op with
  | saveConfig cfg => exact allowed.elim
  | saveState state =>
    refine Safe.triple (stub_call mem "") present fun _ w now => ?_
    exact plain _ rfl w now
  | _ => exact plain _ rfl w present

/-- An operation on a VM that may be saved, without a save of its config. -/
theorem ofVM_keeps (mem : owner ∈ owners) (does : p.Does SavesNoConfig ends)
    (present : Present name owners w) :
    Safe (protocol name) i (fun _ => Present name owners) (ofVM owner p) w := by
  induction p generalizing w with
  | done result => exact .done present_stable present
  | call op next ih =>
    refine (carryOut_keeps mem does.1 present).bind (fun _ _ => id) fun answer w now => ?_
    exact ih answer (does.2 answer) now

/-! The programs of the pool. -/

theorem recordGuestShutdown_does : recordGuestShutdown.Completes SavesNoConfig := by
  refine .bind (.ask trivial) fun found _ => ?_
  cases found with
  | error text => exact trivial
  | ok state => exact .bind (.ask trivial) fun _ _ => trivial

theorem setStateSSHPort_does (port : Int) : (setStateSSHPort port).Completes SavesNoConfig := by
  refine .bind (.ask trivial) fun found _ => ?_
  split
  · exact trivial
  split
  · exact trivial
  · exact .bind (.ask trivial) fun _ _ => trivial

theorem clearStateSSHPort_does (port : Int) : (clearStateSSHPort port).Completes SavesNoConfig := by
  refine .bind (.ask trivial) fun found _ => ?_
  split
  · exact trivial
  split
  · exact trivial
  · exact .bind (.ask trivial) fun _ _ => trivial

theorem cleanupStaleVM_does (state : VMState) : (cleanupStaleVM state).Completes SavesNoConfig :=
  .bind (staleResult_quiet state) fun _ _ => .bind (.ask trivial) fun _ _ => trivial

theorem listEntry_does (cfg : VMConfig) :
    (listEntry cfg).Does SavesNoConfig (returns fun entry => entry.1 = cfg) := by
  refine .bind (.ask trivial) fun found _ => ?_
  dsimp only
  split
  · refine .bind (isAlive_quiet _) fun alive _ => ?_
    split
    · exact rfl
    · exact .bind (cleanupStaleVM_does _) fun _ _ => rfl
  · exact rfl

/-- The configs that a list reads are those of VMs that have a row. -/
theorem mem_configs {t : Tables} (named : t.Named) {cfg : VMConfig} (mem : cfg ∈ t.configs) :
    t.HasRow cfg.name ∧ cfg.name ≠ "" := by
  obtain ⟨row, listed, decodes⟩ := mem_filterMap.mp mem
  have listed := mem_mergeSort.mp listed
  obtain ⟨same, some⟩ := named row listed cfg decodes
  exact ⟨⟨row, listed, same.symm⟩, same ▸ some⟩

/-- What is left of a list keeps the rows, if the VMs that it has read may be saved. -/
theorem rounds_keep {cfgs : List VMConfig} : ∀ (left : List VMConfig) (w : Site), left ⊆ cfgs →
    Present name (cfgs.map (·.name)) w →
    Safe (protocol name) i (fun _ => Present name (cfgs.map (·.name)))
      (forEach (fun cfg => ofVM cfg.name (listEntry cfg)) left) w := by
  intro left
  induction left with
  | nil => exact fun w _ present => .done present_stable present
  | cons cfg left ih =>
    intro w among present
    have mem : cfg.name ∈ cfgs.map (·.name) := mem_map.mpr ⟨cfg, among mem_cons_self, rfl⟩
    refine (ofVM_keeps mem (listEntry_does cfg) present).bind (fun _ _ => id) fun _ w now => ?_
    refine (ih w (fun _ later => among (mem_cons_of_mem _ later)) now).bind
      (fun _ _ => id) fun _ w now => ?_
    exact .done present_stable now

theorem list_keeps (w : Site) : Keeps (protocol name) i (do let _ ← list) w := by
  refine Keeps.bind ?_ fun _ w => .ended _
  refine Safe.call (fun _ => True) trivial ((protocol name).const_stable i True) ?_
  intro w ans answer w' named _ _ ran
  have shrinks : Shrinks name w w' :=
    .of_eq (exec_vms (show StoreOp.selectConfigs.writesRow = false from rfl) ran)
  refine ⟨Named.shrinks named shrinks, shrinks, ?_⟩
  simp only [storeHost, StoreOp.exec, Answer.orFail, some.injEq, Prod.mk.injEq] at ran
  obtain ⟨read, rfl⟩ := ran
  cases answer with
  | error text => exact Keeps.ended _
  | ok cfgs =>
    refine (rounds_keep cfgs w (fun _ => id) ?_).keeps
    intro owner mem
    obtain ⟨cfg, read_cfg, rfl⟩ := mem_map.mp mem
    have all : cfgs = w.tables.configs := by
      split at read <;> cases read
      rfl
    exact .inr (mem_configs named (all ▸ read_cfg)).1

theorem deleteVM_call : (protocol name).Triple i (fun _ => True) (.deleteVM name)
      fun _ w => ¬ w.tables.HasRow name := by
  refine ⟨(protocol name).const_stable i True, fun w ans answer w' named _ fine ran => ?_⟩
  rcases Site.change_cases (some.inj ran) with ⟨-, same⟩ | ⟨failed, -⟩
  · have shrinks : Shrinks name w w' := by
      unfold Shrinks
      rw [same]
      refine ⟨fun row mem => (mem_filter.mp mem).1, fun row mem other => ?_⟩
      exact mem_filter.mpr ⟨mem, by simpa using other⟩
    refine ⟨Named.shrinks named shrinks, shrinks, ?_⟩
    rw [same]
    rintro ⟨row, mem, owner⟩
    simpa [owner] using (mem_filter.mp mem).2
  · exact absurd fine failed

theorem gone_call (other : op.writesRow = false) :
    (protocol name).Triple i (fun w => ¬ w.tables.HasRow name) op
      fun _ w => ¬ w.tables.HasRow name := by
  refine quiet_call gone_stable (fun w w' gone same => ?_) other
  unfold Tables.HasRow at gone ⊢
  rw [same]
  exact gone

def Deleted (name : String) (result : Except String Unit) (w : Site) : Prop :=
  result = .ok () → ¬ w.tables.HasRow name

theorem deleted_stable (result : Except String Unit) :
    (protocol name).Stable i (Deleted name result) :=
  fun before after deleted step done => gone_stable before after (deleted done) step

theorem runsNow_keeps {found : Except String VMState} (w : Site) :
    Keeps (protocol name) i (runsNow name found) w := by
  cases found with
  | error text => exact .ended _
  | ok state =>
    have does : (recordedAlive state).Completes SavesNoConfig :=
      recordedAlive_quiet state
    have only : name ∈ [name] := mem_cons_self
    exact (ofVM_keeps only does (deleted_present w)).keeps

theorem finish_keeps {relocated : Option String} {dir : Text} (gone : ¬ w.tables.HasRow name) :
    Safe (protocol name) i (Deleted name) (do
      removeRelocated relocated
      let _ ← askRow (.removeTunnels name)
      orThrow "" (← askRow (.deleteVMDir dir))) w := by
  have rest : ∀ w : Site, ¬ w.tables.HasRow name → Safe (protocol name) i (Deleted name) (do
      let _ ← askRow (.removeTunnels name)
      orThrow "" (← askRow (.deleteVMDir dir))) w := by
    intro w gone
    refine Safe.triple (gone_call rfl) gone fun _ w gone => ?_
    refine Safe.triple (gone_call rfl) gone fun answer w gone => ?_
    exact .done (deleted_stable _) fun _ => gone
  cases relocated with
  | none => exact rest w gone
  | some path => exact Safe.triple (gone_call rfl) gone fun _ => rest

theorem delete_keeps (storagePath : String) (w : Site) :
    Safe (protocol name) i (Deleted name) (delete storagePath name) w := by
  have any : (protocol name).Stable i fun _ => True := (protocol name).const_stable i True
  refine Safe.triple (quiet_call any (fun _ _ _ _ => trivial) rfl) trivial fun found w _ => ?_
  show Safe _ _ _ (runsNow name found >>= _) w
  refine Safe.bind (runsNow_keeps w) (fun text w _ => nofun) fun running w _ => ?_
  split
  · exact .done (deleted_stable _) nofun
  · refine Safe.triple (quiet_call any (fun _ _ _ _ => trivial) rfl) trivial fun cfg w _ => ?_
    refine Safe.triple deleteVM_call trivial fun _ w gone => ?_
    exact finish_keeps gone

theorem writer_keeps (writer : StateWriter) (w : Site) :
    Keeps (protocol name) i (writer.prog name) w := by
  have only : name ∈ [name] := mem_cons_self
  have ofVM : ∀ {p : VM Unit}, p.Completes SavesNoConfig →
      Keeps (protocol name) i (ofVM name p) w := fun does =>
    (ofVM_keeps only does (deleted_present w)).keeps
  cases writer with
  | watcher => exact ofVM recordGuestShutdown_does
  | setPort port => exact ofVM (setStateSSHPort_does port)
  | clearPort port => exact ofVM (clearStateSSHPort_does port)
  | cleanup => exact list_keeps w

def post (name : String) (i : Nat) (result : Except String Unit) (w : Site) : Prop :=
  i = 0 → Deleted name result w

theorem initially (storagePath name : String) (writers : List StateWriter)
    (named : w.tables.Named) :
    SafePool (protocol name) (post name) (deleteAgainstWriters storagePath name writers w) := by
  refine ⟨named, fun i p found => ?_⟩
  cases i with
  | zero =>
    cases found
    exact (delete_keeps storagePath w).mono fun _ _ deleted _ => deleted
  | succ i =>
    obtain ⟨writer, -, rfl⟩ := mem_map.mp (mem_of_getElem? found)
    exact (writer_keeps writer w).mono fun _ _ _ => nofun

/-- An operation on a VM ends as it does wherever its calls are carried out. -/
theorem ofVM_ends (does : p.Does SavesNoConfig ends) :
    Meets storeHost (fun _ => True) (ofVM owner p) fun result _ => ends result := by
  have each : ∀ op, SavesNoConfig op → Meets storeHost (fun _ => True) (carryOut owner op)
      fun result _ => ∃ answer, result = .ok answer ∧ True := by
    intro op _
    cases op with
    | saveState state =>
      refine .call (fun _ _ => True) (fun _ _ _ _ _ _ => trivial) fun _ => ?_
      exact .call (fun _ _ => True) (fun _ _ _ _ _ _ => trivial)
        fun answer => .done fun _ _ => ⟨answer, rfl, trivial⟩
    | _ =>
      exact .call (fun _ _ => True) (fun _ _ _ _ _ _ => trivial)
        fun answer => .done fun _ _ => ⟨answer, rfl, trivial⟩
  exact (Meets.of_does_subst each does).weaken (fun _ => id) fun _ _ ended => ended.1

theorem rounds_end (cfgs : List VMConfig) :
    Meets storeHost (fun _ => True) (forEach (fun cfg => ofVM cfg.name (listEntry cfg)) cfgs)
      (Returns fun out _ => (∀ e ∈ out, e.1 ∈ cfgs) ∧ True) := by
  refine .forEach_all fun cfg mem => ?_
  refine (ofVM_ends (listEntry_does cfg)).weaken (fun _ => id) fun result w ended => ?_
  cases result with
  | ok entry =>
    have same : entry.1 = cfg := ended
    exact ⟨same ▸ mem, trivial⟩
  | error text => exact trivial

theorem listed {entries : List (VMConfig × VMState)} (ran : Ran storeHost list w (.ok entries) w') :
    ∀ e ∈ entries, e.1 ∈ w.tables.configs := by
  rcases ran with _ | ⟨ran, rest⟩
  simp only [storeHost, StoreOp.exec, Answer.orFail, some.injEq, Prod.mk.injEq] at ran
  obtain ⟨read, rfl⟩ := ran
  split at read <;> subst read
  · cases rest
  · exact (rounds_end _ trivial rest).1

end DeletedRow

/-- If every writer saves while the row of the VM is there, and the deletion of the row does not
fail, a VM that was deleted has no row, and no list shows it or an entry without a name. -/
theorem deleted_vm_stays_deleted (storagePath name : String) (writers : List StateWriter)
    (w : Site) (named : w.tables.Named) (c : Config StoreOp StoreOp.Res Unit Site)
    (reached : Reach storeHost (savesInTime name)
      (deleteAgainstWriters storagePath name writers w) c)
    (deleted : c.pool[0]? = some (.done (.ok ()))) :
    ¬ c.world.tables.HasRow name ∧ ∀ entries w', Ran storeHost list c.world (.ok entries) w' →
      ∀ e ∈ entries, e.1.name ≠ name ∧ e.1.name ≠ "" := by
  have safe := Reach.safe (P := DeletedRow.protocol name)
    (DeletedRow.initially storagePath name writers named) DeletedRow.hostKeeps reached
  have gone : ¬ c.world.tables.HasRow name := safe.of_ended deleted rfl rfl
  refine ⟨gone, fun entries w' ran e member => ?_⟩
  obtain ⟨row, named⟩ := DeletedRow.mem_configs safe.inv (DeletedRow.listed ran e member)
  exact ⟨fun same => gone (same ▸ row), named⟩

/-- A VM whose guest has just powered itself off. -/
def webSite : Site where
  tables :=
    { vms := [⟨"web", "ubuntu", some { name := "web", template := "ubuntu" }, 1⟩]
      states := fun name => if name = "web" then
        some (some { pid := 7, running := true, desiredState := .running }) else none }
  host := { config := {}, state := {} }

def deletes : List (Label Answer HostEvent) := List.replicate 6 (.run 0 {})

/-- The watcher has saved before the row is deleted. -/
theorem deleted_after_save : ∃ c, Reach storeHost (savesInTime "web")
        (deleteAgainstWriters "/vms" "web" [.watcher] webSite) c ∧ c.Finished ∧
      ¬ c.world.tables.HasRow "web" := by
  refine Reach.exists_of_runs (replicate 3 (.run 1 {}) ++ deletes)
    (fun c => c.Finished ∧ ∃ p ∈ c.pool[0]?, p.isOk) (by decide) ?_
  rintro c reached ⟨finished, p, first, ok⟩
  rw [Prog.eq_of_isOk ok] at first
  exact ⟨finished, (deleted_vm_stays_deleted "/vms" "web" [.watcher] webSite
    (by simp [Tables.Named, webSite]) c reached first).1⟩

/-- The watcher has loaded the record; the VM is deleted; then the watcher saves. -/
theorem deleted_vm_comes_back : ∃ c, Reach storeHost (.none _)
        (deleteAgainstWriters "/vms" "web" [.watcher] webSite) c ∧ c.Finished ∧
      c.pool[0]? = some (.done (.ok ())) ∧ c.world.tables.HasRow "web" ∧
      ∃ entries w', Ran storeHost list c.world (.ok entries) w' ∧ ∃ e ∈ entries, e.1.name = "" := by
  refine Reach.exists_of_runs (.run 1 {} :: deletes ++ replicate 2 (.run 1 {}))
    (fun c => c.Finished ∧ (∃ p ∈ c.pool[0]?, p.isOk) ∧ c.world.tables.HasRow "web" ∧
      ∃ out ∈ storeHost.play list (replicate 2 {}) c.world,
        ∃ entries ∈ out.1.toOption, ∃ e ∈ entries, e.1.name = "") (by decide +kernel) ?_
  rintro c - ⟨finished, ⟨p, first, ok⟩, row, shown⟩
  rw [Prog.eq_of_isOk ok] at first
  exact ⟨finished, first, row, Ran.exists_ok_of_play _ _ _ _ shown⟩

end Vee.Database
