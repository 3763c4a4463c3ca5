import Vee.VM.SSHTunnel

/-!
# No SSH connection leaks

Between its dial and the second look into the cache a call alone is responsible for its
connection, and so is one that drops a connection until it has closed it. All other connections
are closed or in the cache.
-/

namespace Vee.SSHTunnel

open List

/-- The call has this connection of the VM in its hands. -/
def Stage.Holds (vm : String) (cl : Nat) : Stage → Prop
  | .install vm' cl' => vm' = vm ∧ cl' = cl
  | .close cl' => cl' = cl
  | _ => False

/-- Every connection is closed, in the cache, or in the hands of a call. -/
def Accounted (now : List Stage) (w : Clients) : Prop :=
  ∀ vm cl, w.dialled[cl]? = some vm →
    cl ∈ w.closed ∨ w.clients vm = some cl ∨ ∃ stage ∈ now, stage.Holds vm cl

structure Moves (stage stage' : Stage) (w w' : Clients) : Prop where
  dialled : ∀ {vm cl}, w'.dialled[cl]? = some vm →
    w.dialled[cl]? = some vm ∨ stage'.Holds vm cl
  closed : w.closed ⊆ w'.closed
  /-- Only a drop takes a connection out of the cache, and only its own. -/
  cached : ∀ {vm cl}, w.clients vm = some cl → w'.clients vm = some cl ∨
    stage = .evict vm cl ∧ stage' = .close cl
  held : ∀ {vm cl}, stage.Holds vm cl → cl ∈ w'.closed ∨ w'.clients vm = some cl

section

variable {stage stage' : Stage} {w w' : Clients} {error : Option String} {now : List Stage}
  {i : Nat}

theorem Stage.step_moves (stepped : stage.step error w = some (stage', w')) :
    Moves stage stage' w w' := by
  cases stage with
  | lookup vm =>
    simp only [step] at stepped
    split at stepped <;> cases stepped <;> exact ⟨.inl, List.Subset.refl _, .inl, nofun⟩
  | dial vm =>
    cases error with
    | some text =>
      cases stepped
      exact ⟨.inl, List.Subset.refl _, .inl, nofun⟩
    | none =>
      cases stepped
      refine ⟨fun {vm' cl} dialled => ?_, List.Subset.refl _, .inl, nofun⟩
      rw [getElem?_append] at dialled
      split at dialled
      · exact .inl dialled
      · rw [getElem?_singleton] at dialled
        split at dialled <;> cases dialled
        exact .inr ⟨rfl, by omega⟩
  | install vm cl =>
    simp only [step] at stepped
    split at stepped <;> cases stepped
    · refine ⟨.inl, subset_cons_self _ _, .inl, ?_⟩
      rintro _ _ ⟨rfl, rfl⟩
      exact .inl mem_cons_self
    rename_i free
    refine ⟨.inl, List.Subset.refl _, fun {vm' cl'} cached => .inl ?_, ?_⟩
    · have other : vm' ≠ vm := by
        rintro rfl
        rw [free] at cached
        cases cached
      exact (Function.update_of_ne other _ _).trans cached
    · rintro _ _ ⟨rfl, rfl⟩
      exact .inr (Function.update_self _ _ _)
  | evict vm cl =>
    cases stepped
    split
    · rename_i here
      refine ⟨.inl, List.Subset.refl _, fun {vm' cl'} cached => ?_, nofun⟩
      by_cases same : vm' = vm
      · subst same
        rw [here] at cached
        cases cached
        exact .inr ⟨rfl, rfl⟩
      · exact .inl ((Function.update_of_ne same _ _).trans cached)
    · exact ⟨.inl, List.Subset.refl _, .inl, nofun⟩
  | close cl =>
    cases stepped
    refine ⟨.inl, subset_cons_self _ _, .inl, ?_⟩
    rintro _ _ rfl
    exact .inl mem_cons_self
  | returned result => cases stepped

theorem Accounted.step (accounted : Accounted now w) (found : now[i]? = some stage)
    (moves : Moves stage stage' w w') : Accounted (now.set i stage') w' := by
  intro vm cl dialled
  obtain ⟨inside, -⟩ := List.getElem?_eq_some_iff.mp found
  have mine : stage'.Holds vm cl → ∃ s ∈ now.set i stage', s.Holds vm cl :=
    fun holds => ⟨stage', mem_set inside _, holds⟩
  rcases moves.dialled dialled with was | holds
  · rcases accounted vm cl was with gone | cached | ⟨other, mem, holds⟩
    · exact .inl (moves.closed gone)
    · rcases moves.cached cached with kept | ⟨-, rfl⟩
      · exact .inr (.inl kept)
      · exact .inr (.inr (mine rfl))
    · by_cases same : other = stage
      · exact (moves.held (same ▸ holds)).imp_right .inl
      · obtain ⟨j, at_j⟩ := mem_iff_getElem?.mp mem
        have apart : i ≠ j := by
          rintro rfl
          exact same (Option.some.inj (at_j.symm.trans found))
        have still : (now.set i stage')[j]? = some other := (getElem?_set_ne apart).trans at_j
        exact .inr (.inr ⟨other, mem_of_getElem? still, holds⟩)
  · exact .inr (.inr (mine holds))

theorem Accounted.begin (accounted : Accounted now w) (stage : Stage) :
    Accounted (now ++ [stage]) w := by
  intro vm cl dialled
  rcases accounted vm cl dialled with gone | cached | ⟨other, mem, holds⟩
  · exact .inl gone
  · exact .inr (.inl cached)
  · exact .inr (.inr ⟨other, mem_append_left _ mem, holds⟩)

end

/-- Whatever the calls do, when all have returned every connection is closed or the one in the
cache for its VM; and only a drop takes a connection out of the cache, the one it was given. -/
theorem no_connection_leaks (now : List Stage) (w : Clients) (reached : Reach now w) :
    ((∀ stage ∈ now, ∃ result, stage = .returned result) → ∀ vm cl, w.dialled[cl]? = some vm →
      cl ∈ w.closed ∨ w.clients vm = some cl) ∧
    ∀ stage ∈ now, ∀ error stage' w', stage.step error w = some (stage', w') →
      ∀ vm cl, w.clients vm = some cl → w'.clients vm = some cl ∨ stage = .evict vm cl := by
  have accounted : Accounted now w := by
    induction reached with
    | start => exact fun vm cl dialled => nomatch dialled
    | client vm _ ih => exact ih.begin _
    | drop vm cl _ _ ih => exact ih.begin _
    | step i error _ found stepped ih => exact ih.step found (Stage.step_moves stepped)
  constructor
  · intro returned vm cl dialled
    rcases accounted vm cl dialled with closed | cached | ⟨stage, member, holds⟩
    · exact .inl closed
    · exact .inr cached
    · obtain ⟨result, rfl⟩ := returned stage member
      exact holds.elim
  · intro stage _ error stage' w' stepped vm cl cached
    exact ((Stage.step_moves stepped).cached cached).imp_right And.left

/-- Two calls dial the same VM at once: the second connection is closed. -/
theorem raced_connection_closed :
    ∃ now w, Reach now w ∧ (∀ stage ∈ now, ∃ result, stage = .returned result) ∧
      w.dialled = ["vm", "vm"] ∧ (1 ∈ w.closed ∨ w.clients "vm" = some 1) := by
  have looked : Reach [.dial "vm", .dial "vm"] {} :=
    .step 1 none (.step 0 none (.client "vm" (.client "vm" .start)) rfl rfl) rfl rfl
  have dialled : Reach [.install "vm" 0, .install "vm" 1] { dialled := ["vm", "vm"] } :=
    .step 1 none (.step 0 none looked rfl rfl) rfl rfl
  have ended := Reach.step 1 none (Reach.step 0 none dialled rfl rfl) rfl rfl
  have returned : ∀ stage ∈ [Stage.returned (.ok (some 0)), .returned (.ok (some 0))],
      ∃ result, stage = .returned result := by simp
  exact ⟨_, _, ended, returned, rfl, (no_connection_leaks _ _ ended).1 returned "vm" 1 rfl⟩

end Vee.SSHTunnel
