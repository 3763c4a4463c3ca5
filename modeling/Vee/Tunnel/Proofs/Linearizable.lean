import Vee.Misc.RelyGuarantee
import Vee.Tunnel.Proofs.Stable
import Vee.Tunnel.Registry

/-!
# Registry updates as one sequence

If nobody replaces the file between an update's load and its rename, and the daemon writes only
about a tunnel that is still registered as it listed it, the updates are linearizable. Without
that, two commands that overlap lose a tunnel.
-/

namespace Vee.Tunnel

open List

open Linearization (Moment Event AlwaysTidy Tidy points events replay Linearizable Precedes)

/-! ## Registries up to port and protocol -/

variable (t : TunnelSpec) (log : List Entry)

def TunnelSpec.intent : TunnelSpec := { t with port := 0, protocol := .other "" }

def SameTunnels (a b : List TunnelSpec) : Prop :=
  (a.map TunnelSpec.intent).Perm (b.map TunnelSpec.intent)

/-- The key of a service of a VM. -/
abbrev keyOf (vm service : String) : Text := TunnelSpec.key { vm := vm, service := service }

def Request.run (request : Request) (specs : List TunnelSpec) : List TunnelSpec :=
  (request.change specs).getD specs

@[simp] theorem intent_key : t.intent.key = t.key := rfl

@[simp] theorem intent_vm : t.intent.vm = t.vm := rfl

variable {t : TunnelSpec}

variable {s spec : TunnelSpec} {a b : List TunnelSpec}

theorem key_of_intent (same : s.intent = t.intent) : s.key = t.key := by
  rw [← intent_key s, same, intent_key]

theorem vm_of_intent (same : s.intent = t.intent) : s.vm = t.vm := by
  rw [← intent_vm s, same, intent_vm]

theorem sortSpecs_perm (specs : List TunnelSpec) : (sortSpecs specs).Perm specs :=
  perm_insertionSort _ _

namespace SameTunnels

variable {a b c : List TunnelSpec}

theorem of_perm (perm : a.Perm b) : SameTunnels a b := perm.map _

theorem refl (a : List TunnelSpec) : SameTunnels a a := .of_perm (.refl a)

theorem symm (same : SameTunnels a b) : SameTunnels b a := List.Perm.symm same

theorem trans (first : SameTunnels a b) (second : SameTunnels b c) : SameTunnels a c :=
  List.Perm.trans first second

theorem sorted (a : List TunnelSpec) : SameTunnels (sortSpecs a) a := .of_perm (sortSpecs_perm a)

theorem length_eq (same : SameTunnels a b) : a.length = b.length := by
  simpa using List.Perm.length_eq same

variable {test : TunnelSpec → Bool}

/-- A test that does not look at port and protocol picks the same tunnels. -/
theorem filter (same : SameTunnels a b) (blind : ∀ t, test t.intent = test t) :
    SameTunnels (a.filter test) (b.filter test) := by
  have picked : ∀ specs : List TunnelSpec,
      (specs.filter test).map TunnelSpec.intent = (specs.map TunnelSpec.intent).filter test := by
    intro specs
    rw [filter_map]
    congr 1
    exact filter_congr fun t _ => (blind t).symm
  unfold SameTunnels
  rw [picked, picked]
  exact List.Perm.filter test same

theorem any (same : SameTunnels a b) (blind : ∀ t, test t.intent = test t) :
    a.any test = b.any test := by
  have seen : ∀ specs : List TunnelSpec,
      specs.any test = (specs.map TunnelSpec.intent).any test := by
    simp [any_map, Function.comp_def, blind]
  rw [seen a, seen b]
  exact List.Perm.any_eq same

theorem append (first : SameTunnels a b) (specs : List TunnelSpec) :
    SameTunnels (a ++ specs) (b ++ specs) := by
  unfold SameTunnels
  rw [map_append, map_append]
  exact List.Perm.append_right _ first

end SameTunnels

/-- What a request does does not depend on port and protocol. -/
theorem Request.change_congr (same : SameTunnels a b) (request : Request) :
    request.change a = none ∧ request.change b = none ∨
      ∃ a' b', request.change a = some a' ∧ request.change b = some b' ∧ SameTunnels a' b' := by
  have resorted : ∀ {a b : List TunnelSpec}, SameTunnels a b →
      SameTunnels (sortSpecs a) (sortSpecs b) := fun same =>
    ((SameTunnels.sorted _).trans same).trans (SameTunnels.sorted _).symm
  cases request with
  | add spec =>
    have kept : SameTunnels (a.filter (·.key ≠ spec.key)) (b.filter (·.key ≠ spec.key)) :=
      same.filter fun t => rfl
    exact .inr ⟨_, _, rfl, rfl, resorted (kept.append [spec])⟩
  | remove vm service =>
    have kept : SameTunnels (a.filter (·.key ≠ keyOf vm service))
        (b.filter (·.key ≠ keyOf vm service)) := same.filter fun t => rfl
    have found : a.any (·.key = keyOf vm service) = b.any (·.key = keyOf vm service) :=
      same.any fun t => rfl
    simp only [Request.change, registryRemove]
    rw [found]
    split
    · exact .inr ⟨_, _, rfl, rfl, resorted kept⟩
    · exact .inl ⟨rfl, rfl⟩
  | removeVM vm =>
    have kept : SameTunnels (a.filter (·.vm ≠ vm)) (b.filter (·.vm ≠ vm)) :=
      same.filter fun t => rfl
    simp only [Request.change, registryRemoveVM]
    rw [kept.length_eq, same.length_eq]
    split
    · exact .inl ⟨rfl, rfl⟩
    · exact .inr ⟨_, _, rfl, rfl, resorted kept⟩

theorem Request.run_congr (same : SameTunnels a b) (request : Request) :
    SameTunnels (request.run a) (request.run b) := by
  unfold Request.run
  rcases request.change_congr same with ⟨noneA, noneB⟩ | ⟨a', b', someA, someB, changed⟩
  · rw [noneA, noneB]
    exact same
  · rw [someA, someB]
    exact changed

variable {specs : List TunnelSpec}

/-- Writing about a tunnel that is registered once, and as the spec says, changes nothing. -/
theorem registryAdd_same
    (registered : (specs.filter (·.key = spec.key)).map TunnelSpec.intent = [spec.intent]) :
    SameTunnels (registryAdd spec specs) specs := by
  refine (SameTunnels.sorted _).trans ?_
  unfold SameTunnels
  rw [map_append, map_singleton, ← registered, ← map_append]
  refine List.Perm.map _ ?_
  have split := filter_append_perm (fun t : TunnelSpec => decide (t.key ≠ spec.key)) specs
  simpa using split

theorem SameTunnels.mem (same : SameTunnels a b) (member : t ∈ a) :
    ∃ t' ∈ b, t'.intent = t.intent :=
  mem_map.mp (List.Perm.mem_iff same |>.mp (mem_map_of_mem member))

theorem Request.mem_run_add :
    t ∈ (Request.add spec).run specs ↔ t ∈ specs ∧ t.key ≠ spec.key ∨ t = spec := by
  rw [show (Request.add spec).run specs = registryAdd spec specs from rfl, registryAdd,
    (sortSpecs_perm _).mem_iff]
  simp

theorem Request.mem_run_remove {vm service : String} : t ∈ (Request.remove vm service).run specs ↔
      t ∈ specs ∧ t.key ≠ keyOf vm service := by
  simp only [Request.run, Request.change, registryRemove]
  split
  · rw [Option.getD_some, (sortSpecs_perm _).mem_iff]
    simp
  · rename_i absent
    refine ⟨fun mem => ⟨mem, fun same => absent ?_⟩, And.left⟩
    exact any_eq_true.mpr ⟨t, mem, by simpa using same⟩

theorem Request.mem_run_removeVM {vm : String} :
    t ∈ (Request.removeVM vm).run specs ↔ t ∈ specs ∧ t.vm ≠ vm := by
  simp only [Request.run, Request.change, registryRemoveVM]
  split
  · rename_i whole
    have all := length_filter_eq_length_iff.mp whole
    exact ⟨fun mem => ⟨mem, by simpa using all t mem⟩, And.left⟩
  · rw [Option.getD_some, (sortSpecs_perm _).mem_iff]
    simp

def Request.Spares (spec : TunnelSpec) : Request → Prop
  | .add other => other.key ≠ spec.key
  | .remove vm service => keyOf vm service ≠ spec.key
  | .removeVM vm => vm ≠ spec.vm

theorem Request.Spares.mem_run {request : Request} (spares : request.Spares spec)
    (mem : t ∈ specs) (same : t.intent = spec.intent) : t ∈ request.run specs := by
  have key : t.key = spec.key := key_of_intent same
  have vm : t.vm = spec.vm := vm_of_intent same
  cases request with
  | add other => exact Request.mem_run_add.mpr (.inl ⟨mem, key ▸ Ne.symm spares⟩)
  | remove vm service => exact Request.mem_run_remove.mpr ⟨mem, key ▸ Ne.symm spares⟩
  | removeVM name => exact Request.mem_run_removeVM.mpr ⟨mem, vm ▸ Ne.symm spares⟩

structure Reliable (initial : List TunnelSpec) (history : List (Event Request Bool))
    (file : List TunnelSpec) : Prop where
  linearizable : Linearizable Request.run SameTunnels initial history file
  /-- A tunnel that was removed is gone, unless it was added again. -/
  removed : ∀ i vm service value, .ended i (.remove vm service) (.ok value) ∈ history →
    (∀ j spec, .began j (.add spec) ∈ history →
      spec.key = keyOf vm service → Precedes history j i) →
    ∀ t ∈ file, t.key ≠ keyOf vm service
  removedVM : ∀ i vm value, .ended i (.removeVM vm) (.ok value) ∈ history →
    (∀ j spec, .began j (.add spec) ∈ history → spec.vm = vm → Precedes history j i) →
    ∀ t ∈ file, t.vm ≠ vm
  /-- A tunnel that was added is there, unless it was removed or added anew. -/
  added : ∀ i spec value, .ended i (.add spec) (.ok value) ∈ history →
    (∀ j request, .began j request ∈ history → j ≠ i → ¬ request.Spares spec →
      Precedes history j i) →
    ∃ t ∈ file, t.intent = spec.intent

section Order

variable {initial file : List TunnelSpec} {history : List (Event Request Bool)}
  (linearizable : Linearizable Request.run SameTunnels initial history file)

include linearizable

theorem gone_of_removed {doomed : TunnelSpec → Prop}
    (blind : ∀ s t : TunnelSpec, s.intent = t.intent → doomed s → doomed t) {i : Nat}
    {request : Request} {value : Bool} (ended : .ended i request (.ok value) ∈ history)
    (removes : ∀ specs, ∀ t ∈ request.run specs, ¬ doomed t)
    (noAdd : ∀ j spec, .began j (.add spec) ∈ history → doomed spec → Precedes history j i) :
    ∀ t ∈ file, ¬ doomed t := by
  refine linearizable.brings (P := fun specs => ∀ t ∈ specs, ¬ doomed t) ?_ ended removes ?_
  · intro specs specs' same absent t member bad
    obtain ⟨t', member', alike⟩ := same.mem member
    exact absent t' member' (blind t t' alike.symm bad)
  · intro j other began _ later specs absent t member
    cases other with
    | add spec =>
      rcases Request.mem_run_add.mp member with ⟨old, _⟩ | rfl
      · exact absent t old
      · exact fun bad => later (noAdd j t began bad)
    | remove vm service => exact absent t (Request.mem_run_remove.mp member).1
    | removeVM vm => exact absent t (Request.mem_run_removeVM.mp member).1

theorem Reliable.of_linearizable : Reliable initial history file := by
  refine ⟨linearizable, ?_, ?_, ?_⟩
  · intro i vm service value ended
    refine gone_of_removed linearizable ?_ ended ?_
    · exact fun s t same key => (key_of_intent same).symm.trans key
    · exact fun specs t member => (Request.mem_run_remove.mp member).2
  · intro i vm value ended
    refine gone_of_removed linearizable ?_ ended ?_
    · exact fun s t same name => (vm_of_intent same).symm.trans name
    · exact fun specs t member => (Request.mem_run_removeVM.mp member).2
  · intro i spec value ended unopposed
    refine linearizable.brings (P := fun specs => ∃ t ∈ specs, TunnelSpec.intent t = spec.intent)
      ?_ ended ?_ ?_
    · rintro specs specs' same ⟨t, member, alike⟩
      obtain ⟨t', member', alike'⟩ := same.symm.mem member
      exact ⟨t', member', alike'.trans alike⟩
    · exact fun specs => ⟨spec, Request.mem_run_add.mpr (.inr rfl), rfl⟩
    · rintro j other began differs later specs ⟨t, member, alike⟩
      have spares : other.Spares spec := by
        by_contra opposed
        exact later (unopposed j other began differs opposed)
      exact ⟨t, spares.mem_run member alike, alike⟩

end Order

/-! ## The record of a run -/

def Entry.by : Entry → Nat
  | .began i _ | .ended i _ _ | .loaded i _ _ | .replaced i _ _ => i

/-- What an entry means for the commands: a command takes effect when it reads that there is
nothing to do, or when it replaces the file. -/
def Entry.moment : Entry → Option (Moment Request Bool)
  | .began i request => some (.event (.began i request))
  | .ended i request result => some (.event (.ended i request result))
  | .loaded i (.user request) content =>
    if request.change content = none then some (.took i request) else none
  | .replaced i (.user request) _ => some (.took i request)
  | _ => none

def history : List (Event Request Bool) :=
  log.filterMap fun
    | .began i request => some (.began i request)
    | .ended i request result => some (.ended i request result)
    | _ => none

def moments : List (Moment Request Bool) := log.filterMap Entry.moment

theorem events_moments : events (moments log) = history log := by
  unfold events moments history
  rw [filterMap_filterMap]
  refine filterMap_congr ?_
  intro e _
  cases e with
  | began i request => rfl
  | ended i request result => rfl
  | loaded i caller content =>
    cases caller with
    | user request =>
      simp only [Entry.moment]
      split <;> rfl
    | daemon spec => rfl
    | list => rfl
  | replaced i caller content => cases caller <;> rfl

namespace RegistryWorld

/-- What process `i` has on record. -/
def own (i : Nat) (w : RegistryWorld) : List Entry := w.log.filter (·.by = i)

end RegistryWorld

def Entry.content? : Entry → Option (List TunnelSpec)
  | .loaded _ _ content => some content
  | _ => none

def lastContent (entries : List Entry) : Option (List TunnelSpec) :=
  entries.foldl (fun found e => e.content?.or found) none

/-- What process `i` has last read from the file. -/
def RegistryWorld.lastLoaded (i : Nat) (w : RegistryWorld) : Option (List TunnelSpec) :=
  lastContent (w.own i)

/-- Nobody has replaced the file since process `i` has read it, and if it is the daemon, the
tunnel is still registered as the daemon listed it. -/
def Undisturbed (i : Nat) (caller : Caller) (w : RegistryWorld) : Prop :=
  w.lastLoaded i = some w.file ∧
    match caller with
    | .daemon spec =>
      (w.file.filter (·.key = spec.key)).map TunnelSpec.intent = [spec.intent]
    | _ => True

instance (i : Nat) (caller : Caller) (w : RegistryWorld) : Decidable (Undisturbed i caller w) := by
  unfold Undisturbed
  cases caller <;> infer_instance

/-- Runs in which the file is replaced only by those that have seen its content. -/
def undisturbed : Guard registryMachine where
  run i op ans w :=
    match op, ans with
    | .rename caller _, .done => Undisturbed i caller w
    | _, _ => True

instance : undisturbed.Decides where
  run i op ans w := by
    unfold undisturbed
    dsimp only
    split <;> infer_instance
  env _ _ := isTrue trivial

section Record

variable {i : Nat} {w : RegistryWorld} {e : Entry}

@[simp] theorem moments_append (first second : List Entry) :
    moments (first ++ second) = moments first ++ moments second := filterMap_append

theorem own_note (mine : e.by = i) : (w.note e).own i = w.own i ++ [e] := by
  simp [RegistryWorld.own, RegistryWorld.note, mine]

@[simp] theorem lastContent_snoc (entries : List Entry) (e : Entry) :
    lastContent (entries ++ [e]) = e.content?.or (lastContent entries) := by
  simp [lastContent]

theorem operation_moment {m : Moment Request Bool} (made : e.moment = some m) :
    m.operation = e.by := by
  unfold Entry.moment at made
  split at made
  · cases made
    rfl
  · cases made
    rfl
  · split at made
    · cases made
      rfl
    · cases made
  · cases made
    rfl
  · cases made

theorem own_moments (i : Nat) (w : RegistryWorld) :
    Linearization.own i (moments w.log) = moments (w.own i) := by
  unfold Linearization.own moments RegistryWorld.own
  rw [filter_filterMap, filterMap_filter]
  refine filterMap_congr ?_
  intro e _
  cases made : e.moment with
  | none => simp
  | some m => simp [Option.filter, operation_moment made]

end Record

/-! ## What every process keeps -/

/-- The file is the outcome of the commands that have taken effect. -/
structure Sequential (initial : List TunnelSpec) (moments : List (Moment Request Bool))
    (file : List TunnelSpec) : Prop where
  tidy : AlwaysTidy moments
  outcome : SameTunnels file (replay Request.run (points moments) initial)

namespace Sequential

variable {initial file file' : List TunnelSpec} {ms : List (Moment Request Bool)}

theorem start (initial : List TunnelSpec) : Sequential initial [] initial := ⟨.nil, .refl initial⟩

variable (kept : Sequential initial ms file)

include kept

theorem event {v : Event Request Bool} (tidy : Tidy (ms ++ [.event v])) :
    Sequential initial (ms ++ [.event v]) file :=
  ⟨kept.tidy.snoc tidy, by simpa using kept.outcome⟩

theorem took {i : Nat} {request : Request} (tidy : Tidy (ms ++ [.took i request]))
    (outcome : SameTunnels file' (request.run file)) :
    Sequential initial (ms ++ [.took i request]) file' := by
  refine ⟨kept.tidy.snoc tidy, outcome.trans ?_⟩
  simpa [replay] using request.run_congr kept.outcome

theorem rewrite (same : SameTunnels file' file) : Sequential initial ms file' :=
  ⟨kept.tidy, same.trans kept.outcome⟩

end Sequential

/-- The processes keep the file sequential, and each writes only its own record. -/
def protocol (initial : List TunnelSpec) : Protocol registryMachine where
  guard := undisturbed
  inv w := Sequential initial (moments w.log) w.file
  guar i before after := ∃ entries, (∀ e ∈ entries, Entry.by e = i) ∧
    after.log = before.log ++ entries

section Steps

variable {initial : List TunnelSpec} {i : Nat} {caller : Caller} {op : RegistryOp}

theorem registry_hostKeeps : (protocol initial).HostKeeps := fun event => event.elim

/-- What a process has on record is not changed by others. -/
theorem own_stable (P : List Entry → Prop) :
    (protocol initial).Stable i fun w => P (w.own i) := by
  rintro before after holds ⟨_, _, ⟨j, other, entries, theirs, more⟩ | ⟨event, _⟩⟩
  · have same : after.own i = before.own i := by
      have none : entries.filter (·.by = i) = [] := by
        rw [filter_eq_nil_iff]
        intro e mem
        simpa [theirs e mem] using other
      simp [RegistryWorld.own, more, none]
    exact same ▸ holds
  · exact event.elim

variable {w w' : RegistryWorld} {ans : RegistryAns}

theorem guar_refl (w : RegistryWorld) : (protocol initial).guar i w w :=
  ⟨[], by simp, by simp⟩

variable {e : Entry} {file content out : List TunnelSpec}

theorem guar_note (mine : e.by = i) :
    (protocol initial).guar i w { w.note e with file := file } :=
  ⟨[e], by simpa using mine, rfl⟩

section Note

variable {e : Entry} {ms : List (Moment Request Bool)} (meaning : moments [e] = ms)

include meaning

/-- The invariant after an entry, with the file as it is then. -/
theorem inv_note (next : Sequential initial (moments w.log ++ ms) file) :
    (protocol initial).inv { w.note e with file := file } := by
  show Sequential initial (moments (w.log ++ [e])) file
  rw [moments_append, meaning]
  exact next

theorem moments_own_note (mine : e.by = i) :
    moments ((w.note e).own i) = moments (w.own i) ++ ms := by
  rw [own_note mine, moments_append, meaning]

end Note

theorem inv_note_silent (silent : moments [e] = [])
    (next : Sequential initial (moments w.log) file) :
    (protocol initial).inv { w.note e with file := file } :=
  inv_note silent (by simpa using next)

/-- What a process has just read is what it has read last. -/
theorem lastContent_loaded (caller : Caller) :
    lastContent ((w.note (.loaded i caller w.file)).own i) = some w.file := by
  rw [own_note (e := .loaded i caller w.file) (i := i) rfl, lastContent_snoc]
  rfl

theorem exec_read {res : Except String (List TunnelSpec)}
    (ran : RegistryWorld.exec i (.read caller) ans w = some (res, w')) :
    (∃ text, res = .error text ∧ w' = w) ∨
      res = .ok w.file ∧ w' = w.note (.loaded i caller w.file) := by
  cases ans with
  | done =>
    cases ran
    exact .inr ⟨rfl, rfl⟩
  | fail text =>
    cases ran
    exact .inl ⟨text, rfl, rfl⟩
  | _ => cases ran

theorem exec_rename {specs : List TunnelSpec} {res : Except String Unit}
    (ran : RegistryWorld.exec i (.rename caller specs) ans w = some (res, w')) :
    (∃ text, res = .error text ∧ w' = w) ∨
      ans = .done ∧ res = .ok () ∧
        w' = { w.note (.replaced i caller specs) with file := specs } := by
  cases ans with
  | done =>
    cases ran
    exact .inr ⟨rfl, rfl, rfl⟩
  | fail text =>
    cases ran
    exact .inl ⟨text, rfl, rfl⟩
  | _ => cases ran

def RegistryOp.Quiet : RegistryOp → Prop
  | .prepare _ | .listVMs | .range _ | .listen _ => True
  | _ => False

theorem exec_quiet (quiet : op.Quiet) {res : op.Res}
    (ran : RegistryWorld.exec i op ans w = some (res, w')) : w' = w := by
  cases op with
  | prepare what => cases ans <;> cases ran <;> rfl
  | listVMs => cases ans <;> cases ran <;> rfl
  | listen key => cases ans <;> cases ran <;> rfl
  | range keys =>
    cases ans with
    | order order =>
      simp only [RegistryWorld.exec] at ran
      split at ran
      · cases ran
        rfl
      · cases ran
    | _ => cases ran
  | begin request => cases quiet
  | finish request result => cases quiet
  | read caller => cases quiet
  | rename caller specs => cases quiet

theorem quiet_triple (quiet : op.Quiet) (P : List Entry → Prop) :
    (protocol initial).Triple i (fun w => P (w.own i)) op fun _ w => P (w.own i) := by
  refine ⟨own_stable P, ?_⟩
  intro w ans res w' kept holds _ ran
  obtain rfl := exec_quiet quiet ran
  exact ⟨kept, guar_refl _, holds⟩

/-! ### A command -/

variable {request : Request}

def Begun (i : Nat) (request : Request) (entries : List Entry) : Prop :=
  moments entries = [.event (.began i request)]

def Taken (i : Nat) (request : Request) (entries : List Entry) : Prop :=
  moments entries = [.event (.began i request), .took i request]

def Outcome (i : Nat) (request : Request) {α : Type} : Except String α → List Entry → Prop
  | .ok _ => Taken i request
  | .error _ => Begun i request

theorem begin_triple : (protocol initial).Triple i (fun w => w.own i = []) (.begin request)
      fun _ w => Begun i request (w.own i) := by
  refine ⟨own_stable (· = []), ?_⟩
  intro w ans res w' kept fresh _ ran
  cases ans with
  | done =>
    cases ran
    refine ⟨inv_note rfl (kept.event kept.tidy.now.began), guar_note rfl, ?_⟩
    rw [Begun, moments_own_note (e := .began i request) rfl (i := i) rfl, fresh]
    rfl
  | _ => cases ran

theorem finish_triple {result : Except String Bool} :
    (protocol initial).Triple i (fun w => Outcome i request result (w.own i))
      (.finish request result) fun _ _ => True := by
  refine ⟨own_stable (Outcome i request result), ?_⟩
  intro w ans res w' kept outcome _ ran
  cases ans with
  | done =>
    cases ran
    have tidy : Tidy (moments w.log ++ [.event (.ended i request result)]) := by
      cases result with
      | ok value => exact kept.tidy.now.success ((own_moments i w).trans outcome) value
      | error text => exact kept.tidy.now.failure ((own_moments i w).trans outcome) text
    exact ⟨inv_note rfl (kept.event tidy), guar_note rfl, trivial⟩
  | _ => cases ran

/-- After the file has been read: if there is nothing to do, that was the point. -/
def Loaded (i : Nat) (request : Request) : Except String (List TunnelSpec) → List Entry → Prop
  | .error _, entries => Begun i request entries
  | .ok content, entries => lastContent entries = some content ∧
      if request.change content = none then Taken i request entries else Begun i request entries

theorem read_triple : (protocol initial).Triple i (fun w => Begun i request (w.own i))
      (.read (.user request)) fun res w => Loaded i request res (w.own i) := by
  refine ⟨own_stable (Begun i request), ?_⟩
  intro w ans res w' kept begun _ ran
  rcases exec_read ran with ⟨text, rfl, rfl⟩ | ⟨rfl, rfl⟩
  · exact ⟨kept, guar_refl _, begun⟩
  by_cases idle : request.change w.file = none
  · have meaning : moments [.loaded i (.user request) w.file] = [.took i request] := by
      simp [moments, Entry.moment, idle]
    have same : SameTunnels w.file (request.run w.file) := by
      rw [Request.run, idle]
      exact .refl _
    have tidy := kept.tidy.now.taken ((own_moments i w).trans begun)
    refine ⟨inv_note meaning (kept.took tidy same), guar_note rfl, lastContent_loaded _, ?_⟩
    rw [if_pos idle, Taken, moments_own_note meaning (i := i) rfl, begun]
    rfl
  · have meaning : moments [.loaded i (.user request) w.file] = [] := by
      simp [moments, Entry.moment, idle]
    refine ⟨inv_note_silent meaning kept, guar_note rfl, lastContent_loaded _, ?_⟩
    rw [if_neg idle, Begun, moments_own_note meaning (i := i) rfl, begun]
    rfl

def Ready (i : Nat) (request : Request) (content : List TunnelSpec) (entries : List Entry) : Prop :=
  lastContent entries = some content ∧ Begun i request entries

theorem rename_triple {specs : List TunnelSpec}
    (outcome : SameTunnels specs (request.run content)) :
    (protocol initial).Triple i (fun w => Ready i request content (w.own i))
      (.rename (.user request) specs) fun res w => Outcome i request res (w.own i) := by
  refine ⟨own_stable (Ready i request content), ?_⟩
  intro w ans res w' kept begun allowed ran
  rcases exec_rename ran with ⟨text, rfl, rfl⟩ | ⟨rfl, rfl, rfl⟩
  · exact ⟨kept, guar_refl _, begun.2⟩
  have seen : w.lastLoaded i = some w.file := allowed.1
  obtain rfl : content = w.file := Option.some.inj (begun.1.symm.trans seen)
  have tidy := kept.tidy.now.taken ((own_moments i w).trans begun.2)
  have record : moments ((w.note (.replaced i (.user request) specs)).own i) = _ :=
    moments_own_note rfl rfl
  refine ⟨inv_note rfl (kept.took tidy outcome), guar_note rfl, ?_⟩
  exact record.trans (by rw [begun.2]; rfl)

theorem preparations_does (whats : List String) :
    (Prog.forEach prepare whats).Makes RegistryOp.Quiet := by
  induction whats with
  | nil => exact trivial
  | cons what whats ih =>
    have first : (prepare what).Makes RegistryOp.Quiet :=
      ⟨trivial, fun res => Prog.Does.orThrow⟩
    exact first.bind_throw fun _ _ => ih.bind_throw fun _ _ => trivial

theorem save_safe (outcome : SameTunnels out (request.run content)) {w : RegistryWorld}
    (ready : Ready i request content (w.own i)) :
    Safe (protocol initial) i (fun result w => Outcome i request result (w.own i))
      (save (.user request) out) w := by
  refine Safe.bind (Safe.of_does (own_stable (Ready i request content))
    (fun op quiet => quiet_triple quiet (Ready i request content))
    (preparations_does preparations) ready) ?_ ?_
  · exact fun text w ended => ended.1.2
  · intro _ w prepared
    refine Safe.triple (rename_triple ((SameTunnels.sorted out).trans outcome)) prepared.1 ?_
    intro res w ended
    cases res with
    | error text => exact Safe.done (own_stable (Begun i request)) ended
    | ok value => exact Safe.done (own_stable (Taken i request)) ended

theorem update_safe {w : RegistryWorld} (begun : Begun i request (w.own i)) :
    Safe (protocol initial) i (fun result w => Outcome i request result (w.own i))
      (update (.user request) request) w := by
  refine Safe.triple read_triple begun ?_
  intro res w loaded
  cases res with
  | error text => exact Safe.done (own_stable (Begun i request)) loaded
  | ok content =>
    obtain ⟨last, point⟩ := loaded
    show Safe _ i _ (saveChange (.user request) (request.change (sortSpecs content))) w
    -- the list that was read is sorted first, which changes nothing about what there is to do
    rcases request.change_congr (SameTunnels.sorted content) with
      ⟨idleSorted, idle⟩ | ⟨out, out', changeSorted, change, same⟩
    · rw [if_pos idle] at point
      rw [idleSorted]
      exact Safe.done (own_stable (Taken i request)) point
    rw [change, if_neg (by simp)] at point
    rw [changeSorted]
    have outcome : SameTunnels out (request.run content) := by
      rw [Request.run, change]
      exact same
    refine Safe.bind (save_safe outcome ⟨last, point⟩) (fun _ _ => id) ?_
    exact fun _ w ended => Safe.done (own_stable (Taken i request)) ended

theorem command_safe {w : RegistryWorld} (fresh : w.own i = []) :
    Safe (protocol initial) i (fun _ _ => True) (command request) w := by
  refine Safe.triple begin_triple fresh ?_
  intro _ w begun
  refine Safe.attempt_bind (update_safe begun) ?_
  intro result w outcome
  exact Safe.triple finish_triple outcome fun _ w _ => Keeps.ended _

/-! ### A pass of the daemon -/

theorem keep_true (quiet : op.Quiet) :
    (protocol initial).Triple i (fun _ => True) op fun _ _ => True :=
  quiet_triple quiet fun _ => True

theorem daemon_read_triple (daemon : ∀ request, caller ≠ .user request) :
    (protocol initial).Triple i (fun _ => True) (.read caller) fun res w =>
      ∀ content, res = .ok content → lastContent (w.own i) = some content := by
  refine ⟨own_stable fun _ => True, ?_⟩
  intro w ans res w' kept _ _ ran
  rcases exec_read ran with ⟨text, rfl, rfl⟩ | ⟨rfl, rfl⟩
  · exact ⟨kept, guar_refl _, fun content same => by cases same⟩
  have meaning : moments [.loaded i caller w.file] = [] := by
    cases caller with
    | user request => exact absurd rfl (daemon request)
    | daemon spec => rfl
    | list => rfl
  refine ⟨inv_note_silent meaning kept, guar_note rfl, ?_⟩
  intro content same
  cases same
  exact lastContent_loaded caller

theorem daemon_rename_triple {specs : List TunnelSpec}
    (outcome : SameTunnels specs (registryAdd spec content)) :
    (protocol initial).Triple i (fun w => lastContent (w.own i) = some content)
      (.rename (.daemon spec) specs) fun _ _ => True := by
  refine ⟨own_stable (lastContent · = some content), ?_⟩
  intro w ans res w' kept last allowed ran
  rcases exec_rename ran with ⟨text, rfl, rfl⟩ | ⟨rfl, rfl, rfl⟩
  · exact ⟨kept, guar_refl _, trivial⟩
  · have seen : w.lastLoaded i = some w.file := allowed.1
    obtain rfl : content = w.file := Option.some.inj (last.symm.trans seen)
    have rewritten := kept.rewrite (outcome.trans (registryAdd_same allowed.2))
    exact ⟨inv_note_silent rfl rewritten, guar_note rfl, trivial⟩

theorem daemon_save_keeps (outcome : SameTunnels out (registryAdd spec content))
    {w : RegistryWorld} (last : lastContent (w.own i) = some content) :
    Keeps (protocol initial) i (save (.daemon spec) out) w := by
  refine Safe.bind (Safe.of_does (own_stable (lastContent · = some content))
    (fun op quiet => quiet_triple quiet (lastContent · = some content))
    (preparations_does preparations) last) (fun _ _ _ => trivial) ?_
  intro _ w prepared
  refine Safe.triple (daemon_rename_triple ((SameTunnels.sorted out).trans outcome)) prepared.1 ?_
  exact fun res w _ => Keeps.ended _

theorem daemon_update_keeps (spec : TunnelSpec) (w : RegistryWorld) :
    Keeps (protocol initial) i (update (.daemon spec) (.add spec)) w := by
  refine Safe.triple (daemon_read_triple (by simp)) trivial ?_
  intro res w loaded
  cases res with
  | error text => exact Keeps.ended _
  | ok content =>
    have outcome : SameTunnels (registryAdd spec (sortSpecs content)) (registryAdd spec content) :=
      Request.run_congr (SameTunnels.sorted content) (.add spec)
    exact (daemon_save_keeps outcome (loaded content rfl)).bind fun _ w => Keeps.ended _

theorem saveStarted_keeps (want : Want) (free : Nat) (w : RegistryWorld) :
    Keeps (protocol initial) i (saveStarted want free) w := by
  unfold saveStarted
  split
  · exact (daemon_update_keeps _ w).attempt_bind fun _ w => Keeps.ended _
  · exact Keeps.ended _

theorem startTunnels_keeps (wanted : GoMap Text Want) (order : List Text)
    (active : GoMap Text ActiveTunnel) (w : RegistryWorld) :
    Keeps (protocol initial) i (startTunnels wanted order active) w := by
  induction order generalizing active w with
  | nil => exact Keeps.ended _
  | cons key rest ih =>
    unfold startTunnels
    split
    · refine Safe.triple (keep_true trivial) trivial ?_
      intro res w _
      cases res with
      | error text => exact ih active w
      | ok free => exact (saveStarted_keeps _ free w).bind fun _ => ih _
    · exact ih active w

theorem pass_keeps (active : GoMap Text ActiveTunnel) (w : RegistryWorld) :
    Keeps (protocol initial) i (reconcilePass active) w := by
  have listed : Keeps (protocol initial) i (load .list) w := by
    refine Safe.triple (daemon_read_triple (by simp)) trivial ?_
    intro res w _
    cases res <;> exact Keeps.ended _
  refine listed.attempt_bind ?_
  intro result w
  cases result with
  | error text => exact Keeps.ended _
  | ok specs =>
    refine Safe.triple (keep_true trivial) trivial ?_
    intro res w _
    cases res with
    | error text => exact Keeps.ended _
    | ok entries =>
      refine Safe.triple (keep_true trivial) trivial ?_
      exact fun order w _ => startTunnels_keeps _ order _ w

end Steps

/-- However commands and passes of the daemon interleave, if the file is replaced only by those
that have seen its content, and by the daemon only for tunnels that are still registered as
it listed them, the registry is the outcome of a sequential order of the commands. -/
theorem registry_linearizable {initial : List TunnelSpec} {parties : List Party}
    {c : Config RegistryOp RegistryOp.Res Unit RegistryWorld}
    (reached : Reach registryMachine undisturbed (registryStart initial parties) c) :
    Reliable initial (history c.world.log) c.world.file := by
  have pool : SafePool (protocol initial) (fun _ _ _ => True)
      (registryStart initial parties) := by
    refine ⟨Sequential.start initial, ?_⟩
    intro i p found
    obtain ⟨party, -, rfl⟩ := mem_map.mp (mem_of_getElem? found)
    cases party with
    | command request => exact command_safe rfl
    | pass active => exact pass_keeps active _
  have kept := (Reach.safe pool registry_hostKeeps reached).inv
  refine .of_linearizable ⟨points (moments c.world.log), ?_, kept.outcome⟩
  rw [← events_moments]
  exact kept.tidy.linearizes

def portless (vm : String) : TunnelSpec where
  vm := vm
  service := "http"
  bind := bindLoopback
  hostname := "http"
  protocol := .http

def succeed (count i : Nat) : List (Label RegistryAns Empty) := List.replicate count (.run i .done)

/-- What the daemon is told in a pass, up to the port of the tunnel that it starts. -/
def webPass : List (Label RegistryAns Empty) :=
  [.run 1 .done, .run 1 (.vms [webEntry]), .run 1 (.order webOrder), .run 1 (.port 2300)]

/-- A tunnel is added, and then a pass of the daemon starts it and records its port. -/
def addThenStart : List (Label RegistryAns Empty) := succeed 9 0 ++ webPass ++ succeed 7 1

/-- The daemon writes its port into the registry, and the user can rely on the tunnel. -/
theorem started_tunnel_reliable : ∃ c, Reach registryMachine undisturbed
        (registryStart [] [.command (.add (portless "web")), .pass ∅]) c ∧
      c.world.file.map (·.port) = [2300] ∧ Reliable [] (history c.world.log) c.world.file := by
  refine Reach.exists_of_runs addThenStart (fun c => c.world.file.map (·.port) = [2300])
    (by decide) ?_
  exact fun c reached port => ⟨port, registry_linearizable reached⟩

/-- Two commands read the file before either has replaced it. -/
def bothRead : List (Label RegistryAns Empty) :=
  succeed 2 0 ++ succeed 2 1 ++ succeed 7 0 ++ succeed 7 1

def bothAdded : List (Event Request Bool) :=
  [.began 0 (.add (portless "web")), .began 1 (.add (portless "db")),
    .ended 0 (.add (portless "web")) (.ok true), .ended 1 (.add (portless "db")) (.ok true)]

/-- Both succeed, and the first tunnel is lost. -/
theorem overlapping_adds_lose_tunnel : ∃ c, Reach registryMachine (Guard.none registryMachine)
        (registryStart [] [.command (.add (portless "web")), .command (.add (portless "db"))]) c ∧
      ¬ Reliable [] (history c.world.log) c.world.file := by
  refine Reach.exists_of_runs bothRead
    (fun c => c.world.file = [portless "db"] ∧ history c.world.log = bothAdded)
    (by decide) ?_
  rintro c - ⟨file, record⟩
  rw [file, record]
  intro reliable
  have unopposed : ∀ j request, .began j request ∈ bothAdded → j ≠ 0 →
      ¬ request.Spares (portless "web") → Precedes bothAdded j 0 := by
    intro j request began other opposed
    simp only [bothAdded, mem_cons, Event.began.injEq, reduceCtorEq, not_mem_nil, or_false] at began
    rcases began with ⟨rfl, -⟩ | ⟨-, rfl⟩
    · exact absurd rfl other
    · have apart : (portless "db").key ≠ (portless "web").key := by decide
      exact absurd apart opposed
  obtain ⟨t, member, same⟩ := reliable.added 0 (portless "web") true (by decide) unopposed
  rw [mem_singleton.mp member] at same
  exact absurd same (by decide)

end Vee.Tunnel
