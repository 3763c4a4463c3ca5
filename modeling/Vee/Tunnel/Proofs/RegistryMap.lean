import Vee.Misc.Sequential
import Vee.Tunnel.Proofs.Linearizable

/-!
# The registry as a map

A spec is identified by its key, one text, but it is sorted and removed by its two fields. As long
as no VM has a slash in its name, the calls act on the registry as on a map from pairs to specs.
-/

namespace Vee.Tunnel

open List

abbrev Pair := String × String

def TunnelSpec.pair (t : TunnelSpec) : Pair := (t.vm, t.service)

def Request.vm : Request → String
  | .add spec => spec.vm
  | .remove vm _ | .removeVM vm => vm

/-- What a request is for: the entry of one pair, or of the pairs of one VM. -/
def Request.onMap (m : Pair → Option TunnelSpec) (pair : Pair) : Request → Option TunnelSpec
  | .add spec => if pair = spec.pair then some spec else m pair
  | .remove vm service => if pair = (vm, service) then none else m pair
  | .removeVM vm => if pair.1 = vm then none else m pair

/-- Some calls, one after the other, and what each of them returns. -/
def calls (requests : List Request) : RegistryProg (List (Request × Except String Bool)) :=
  Prog.forEach (fun request => do
    return (request, ← (update (.user request) request).attempt)) requests

/-- What the calls that have not failed were for. -/
def mapAfter (outcomes : List (Request × Except String Bool)) : Pair → Option TunnelSpec :=
  outcomes.foldl (fun m outcome => if outcome.2.isOk then (outcome.1.onMap m ·) else m)
    fun _ => none

def Before (a b : TunnelSpec) : Prop :=
  a.vm.toList < b.vm.toList ∨ a.vm = b.vm ∧ a.service.toList < b.service.toList

structure Lists (m : Pair → Option TunnelSpec) (specs : List TunnelSpec) : Prop where
  sorted : specs.Pairwise Before
  entries : ∀ pair spec, m pair = some spec ↔ spec ∈ specs ∧ spec.pair = pair

section

variable {a b : TunnelSpec} {specs : List TunnelSpec} {m : Pair → Option TunnelSpec}

/-- The key of a VM without a slash in its name stands for the pair. -/
theorem key_eq_iff (first : '/' ∉ a.vm.toList) (second : '/' ∉ b.vm.toList) :
    a.key = b.key ↔ a.pair = b.pair := by
  have vm : ∀ t : TunnelSpec, '/' ∉ t.vm.toList → t.key.takeWhile (· ≠ '/') = t.vm.toList := by
    intro t whole
    rw [TunnelSpec.key, append_assoc, takeWhile_append_of_pos]
    · simp
    · intro c mem
      simpa using fun same : c = '/' => whole (same ▸ mem)
  constructor
  · intro same
    have vms : a.vm = b.vm := String.toList_inj.mp (by rw [← vm a first, same, vm b second])
    simp only [TunnelSpec.key, vms, append_cancel_left_eq, String.toList_inj] at same
    simp [TunnelSpec.pair, vms, same]
  · intro same
    simp only [TunnelSpec.pair, Prod.mk.injEq] at same
    simp [TunnelSpec.key, same]

theorem Before.le (before : Before a b) : specLE a b :=
  before.imp_right fun same => ⟨same.1, same.2.le⟩

theorem Before.pair_ne (before : Before a b) : a.pair ≠ b.pair := by
  intro same
  simp only [TunnelSpec.pair, Prod.mk.injEq] at same
  simp [Before, same] at before

theorem before_of_le (ordered : specLE a b) (other : a.pair ≠ b.pair) : Before a b := by
  rcases ordered with less | ⟨same, le⟩
  · exact .inl less
  · refine .inr ⟨same, lt_of_le_of_ne le fun equal => other ?_⟩
    simp [TunnelSpec.pair, same, String.toList_inj.mp equal]

/-- Sorting specs of different pairs puts them in the order of the list. -/
theorem sortSpecs_sorted (distinct : (specs.map TunnelSpec.pair).Nodup) :
    (sortSpecs specs).Pairwise Before := by
  have ordered : (sortSpecs specs).Pairwise specLE := pairwise_insertionSort specLE specs
  have distinct := ((sortSpecs_perm specs).map TunnelSpec.pair).nodup_iff.mpr distinct
  exact ordered.imp₂ (fun _ _ => before_of_le) (pairwise_map.mp distinct)

theorem sortSpecs_eq_self (sorted : specs.Pairwise Before) : sortSpecs specs = specs :=
  List.Pairwise.insertionSort_eq (sorted.imp Before.le)

theorem pairs_nodup (sorted : specs.Pairwise Before) : (specs.map TunnelSpec.pair).Nodup :=
  pairwise_map.mpr (sorted.imp Before.pair_ne)

theorem run_sorted (request : Request) (sorted : specs.Pairwise Before) :
    (request.run specs).Pairwise Before := by
  have kept : ∀ test : TunnelSpec → Bool, ((specs.filter test).map TunnelSpec.pair).Nodup :=
    fun test => (pairs_nodup sorted).sublist (filter_sublist.map _)
  cases request with
  | add spec =>
    refine sortSpecs_sorted ?_
    rw [map_append, map_singleton, nodup_append]
    refine ⟨kept _, by simp, ?_⟩
    rintro pair mem _ (_ | ⟨_, ⟨⟩⟩) same
    obtain ⟨other, isOther, rfl⟩ := mem_map.mp mem
    simp only [TunnelSpec.pair, Prod.mk.injEq] at same
    simp [TunnelSpec.key, same] at isOther
  | remove vm service =>
    simp only [Request.run, Request.change, registryRemove]
    split
    · exact sortSpecs_sorted (kept _)
    · exact sorted
  | removeVM vm =>
    simp only [Request.run, Request.change, registryRemoveVM]
    split
    · exact sorted
    · exact sortSpecs_sorted (kept _)

theorem Lists.run (lists : Lists m specs) (whole : ∀ s ∈ specs, '/' ∉ s.vm.toList)
    {request : Request} (named : '/' ∉ request.vm.toList) :
    Lists (request.onMap m ·) (request.run specs) ∧
      ∀ s ∈ request.run specs, '/' ∉ s.vm.toList := by
  have entries := lists.entries
  cases request with
  | add new =>
    refine ⟨⟨run_sorted _ lists.sorted, fun pair spec => ?_⟩, fun s mem => ?_⟩
    · have same : spec ∈ specs → (spec.key = new.key ↔ spec.pair = new.pair) :=
        fun mem => key_eq_iff (whole spec mem) named
      grind [Request.onMap, Request.mem_run_add]
    · grind [Request.mem_run_add, Request.vm]
  | remove vm service =>
    refine ⟨⟨run_sorted _ lists.sorted, fun pair spec => ?_⟩, fun s mem => ?_⟩
    · have same : spec ∈ specs → (spec.key = _ ↔ spec.pair = (vm, service)) :=
        fun mem => key_eq_iff (b := { vm := vm, service := service }) (whole spec mem) named
      grind [Request.onMap, Request.mem_run_remove]
    · exact whole s (Request.mem_run_remove.mp mem).1
  | removeVM vm =>
    refine ⟨⟨run_sorted _ lists.sorted, fun pair spec => ?_⟩, fun s mem => ?_⟩
    · grind [Request.onMap, Request.mem_run_removeVM, TunnelSpec.pair]
    · exact whole s (Request.mem_run_removeVM.mp mem).1

end

/-! ### The calls -/

section Calls

variable {specs : List TunnelSpec} {caller : Caller} {request : Request}

open Prog (forEach)

abbrev FileIs (specs : List TunnelSpec) (w : RegistryWorld) : Prop := w.file = specs

theorem save_meets (out : List TunnelSpec) : Meets registryMachine (FileIs specs) (save caller out)
      (Either (FileIs (sortSpecs out)) (FileIs specs)) := by
  have prepared : Meets registryMachine (FileIs specs) (forEach prepare preparations)
      (Either (FileIs specs) (FileIs specs)) := by
    refine (Meets.of_does (fun op quiet w ans res w' same ran => ?_)
      (preparations_does preparations)).weaken (fun _ => id) fun res w ended => ?_
    · exact exec_quiet quiet ran ▸ same
    · cases res <;> exact ended.2
  refine .seq prepared fun _ => ?_
  refine .call (fun renamed => FileIs (if renamed.isOk then sortSpecs out else specs)) ?_
    fun renamed => ?_
  · rintro w (_ | _) res w' rfl ran <;> cases ran <;> rfl
  · cases renamed <;> exact .done fun _ => id

theorem load_meets (sorted : specs.Pairwise Before) :
    Meets registryMachine (FileIs specs) (load caller)
      (Vee.Outcome (fun found w => found = specs ∧ FileIs specs w) (FileIs specs)) := by
  refine .call (fun res w => (∀ found ∈ res.toOption, found = specs) ∧ FileIs specs w) ?_
    fun res => ?_
  · rintro w (_ | _) res w' rfl ran <;> cases ran <;> simp [RegistryWorld.note, Except.toOption]
  · cases res with
    | error text => exact .done fun w same => same.2
    | ok found =>
      refine .done fun w same => ⟨?_, same.2⟩
      rw [same.1 found rfl, sortSpecs_eq_self sorted]

/-- A call that fails leaves the file; any other one replaces it by what it should be. -/
theorem update_meets (sorted : specs.Pairwise Before) :
    Meets registryMachine (FileIs specs) (update caller request)
      (Either (FileIs (request.run specs)) (FileIs specs)) := by
  refine .seq (load_meets sorted) fun found => .given fun same => ?_
  subst same
  have after := sortSpecs_eq_self (run_sorted request sorted)
  cases changed : request.change found with
  | none =>
    refine .done fun w same => ?_
    rw [Request.run, changed]
    exact same
  | some out =>
    rw [Request.run, changed, Option.getD_some] at after ⊢
    refine .seq (save_meets out) fun _ => .done fun w same => ?_
    exact same.trans after

end Calls

/-- Whatever calls are made one after the other, and whichever of them fail: the file lists, in
strictly increasing order, the map in which each call that has not failed has changed its own
pair, or the pairs of its own VM. -/
theorem registry_lists_map {requests : List Request} {w w' : RegistryWorld}
    {outcomes : List (Request × Except String Bool)} (empty : w.file = [])
    (named : ∀ request ∈ requests, '/' ∉ request.vm.toList)
    (ran : Ran registryMachine (calls requests) w (.ok outcomes) w') :
    outcomes.map (·.1) = requests ∧ Lists (mapAfter outcomes) w'.file := by
  have all : Meets registryMachine (FileIs []) (calls requests)
      (Ends fun outcomes (w : RegistryWorld) => outcomes.map (·.1) = requests ∧
        Lists (mapAfter outcomes) w.file ∧ ∀ s ∈ w.file, '/' ∉ s.vm.toList) := by
    refine .pre (.forEach (fun front (out : List (Request × Except String Bool))
      (w : RegistryWorld) => out.map (·.1) = front ∧ Lists (mapAfter out) w.file ∧
        ∀ s ∈ w.file, '/' ∉ s.vm.toList)
      (fun _ => False) requests fun front request rest out split => ?_) ?_
    · rintro w result w' ⟨names, lists, whole⟩ ran
      refine Meets.bind_ok (update_meets lists.sorted).attempt
        (fun result => .done fun w' after => ?_)
        rfl ran
      refine ⟨by simp [names], ?_⟩
      rw [mapAfter, foldl_append, ← mapAfter]
      cases result with
      | error text => exact after ▸ ⟨lists, whole⟩
      | ok changed => exact after ▸ lists.run whole (named request (by simp [split]))
    · intro w none
      simp only [none]
      exact ⟨rfl, ⟨.nil, by simp [mapAfter]⟩, by simp⟩
  exact ⟨(all empty ran).1, (all empty ran).2.1⟩

/-- A service that looks like another VM's. -/
theorem slashed_service_listed : ∃ outcomes w', Ran registryMachine
        (calls [.add { vm := "a", service := "b/c" }, .add { vm := "a", service := "b" }])
        { file := [] } (.ok outcomes) w' ∧
      Lists (mapAfter outcomes) w'.file ∧
        w'.file = [{ vm := "a", service := "b" }, { vm := "a", service := "b/c" }] := by
  obtain ⟨outcomes, w', ran, file⟩ := Ran.exists_ok_of_play (M := registryMachine)
    (replicate 14 .done)
    (calls [.add { vm := "a", service := "b/c" }, .add { vm := "a", service := "b" }])
    { file := [] }
    (fun _ w => w.file = [{ vm := "a", service := "b" }, { vm := "a", service := "b/c" }])
    (by decide)
  exact ⟨outcomes, w', ran, (registry_lists_map rfl (by decide) ran).2, file⟩

end Vee.Tunnel
