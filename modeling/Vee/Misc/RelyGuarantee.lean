import Mathlib.Logic.IsEmpty.Basic
import Vee.Misc.Program

/-!
# Invariants of interleaved programs

A program of a pool is `Safe` when each call it still makes, in whatever world the others
have left, keeps the invariant and changes the world only as the program promises, and its
result meets its postcondition. So an invariant of a run (`Reach.safe`) is checked one
program at a time, along the program's own text.
-/

namespace Vee

variable {Op : Type} {Res : Op → Type} {α W : Type} {M : Machine Op Res W}

/-- What the runs may contain, what holds between all steps, and what program
number `i` promises about its own steps. -/
structure Protocol (M : Machine Op Res W) where
  guard : Guard M
  inv : W → Prop
  guar : Nat → W → W → Prop

namespace Protocol

variable (P : Protocol M)

/-- One step that is not program `i`'s own. -/
def Interferes (i : Nat) (before after : W) : Prop :=
  P.inv before ∧ P.inv after ∧ ((∃ j, j ≠ i ∧ P.guar j before after) ∨
    ∃ event, P.guard.env event before ∧ M.env event before = some after)

/-- An assertion that no other program and no step of the host can falsify. -/
def Stable (i : Nat) (assertion : W → Prop) : Prop :=
  ∀ before after, assertion before → P.Interferes i before after → assertion after

/-- The steps of the host keep the invariant. -/
def HostKeeps : Prop :=
  ∀ event w w', P.inv w → P.guard.env event w → M.env event w = some w' → P.inv w'

theorem const_stable (i : Nat) (fact : Prop) : P.Stable i fun _ => fact := fun _ _ holds _ => holds

/-- What one call of program `i` does to an assertion, and that it keeps the
invariant and the promise. -/
structure Triple (i : Nat) (before : W → Prop) (op : Op) (after : Res op → W → Prop) :
    Prop where
  stable : P.Stable i before
  keeps : ∀ w ans answer w', P.inv w → before w → P.guard.run i op ans w →
    M.exec i op ans w = some (answer, w') → P.inv w' ∧ P.guar i w w' ∧ after answer w'

variable {P}

variable {i : Nat} {op : Op}

theorem Stable.star {assertion : W → Prop} (stable : P.Stable i assertion) {before after : W}
    (holds : assertion before) (steps : Relation.ReflTransGen (P.Interferes i) before after) :
    assertion after := by
  induction steps with
  | refl => exact holds
  | tail _ step ih => exact stable _ _ ih step

theorem Triple.weaken {before : W → Prop} {after after' : Res op → W → Prop}
    (triple : P.Triple i before op after) (implies : ∀ res w, after res w → after' res w) :
    P.Triple i before op after' := by
  refine ⟨triple.stable, ?_⟩
  intro w ans res w' kept holds allowed ran
  obtain ⟨kept', promised, reached⟩ := triple.keeps w ans res w' kept holds allowed ran
  exact ⟨kept', promised, implies res w' reached⟩

/-- The rule for a call of a machine with a history: the world moves as the machine
moves it, and the history by its log. -/
theorem Triple.logged {H : Type} {log : Nat → (op : Op) → Res op → W → H → H}
    {logEnv : M.Event → W → H → H} {P : Protocol (M.withHistory log logEnv)}
    {before : W × H → Prop} {after : Res op → W × H → Prop} (stable : P.Stable i before)
    (step : ∀ w h ans res w', P.inv (w, h) → before (w, h) → P.guard.run i op ans (w, h) →
      M.exec i op ans w = some (res, w') → P.inv (w', log i op res w h) ∧
        P.guar i (w, h) (w', log i op res w h) ∧ after res (w', log i op res w h)) :
    P.Triple i before op after := by
  refine ⟨stable, ?_⟩
  rintro ⟨w, h⟩ ans res ⟨w', h'⟩ inv holds allowed ran
  obtain ⟨ran, rfl⟩ := Machine.withHistory_exec ran
  exact step w h ans res w' inv holds allowed ran

end Protocol

/-- Program `i` keeps the invariant and its promise from world `w` on, and ends
in `post`. -/
def Safe (P : Protocol M) (i : Nat) (post : Except String α → W → Prop) : Prog Op Res α → W → Prop
  | .done result, w =>
    ∀ w', Relation.ReflTransGen (P.Interferes i) w w' → post result w'
  | .call op next, w =>
    ∀ w', Relation.ReflTransGen (P.Interferes i) w w' → P.inv w' → ∀ ans answer w'',
      P.guard.run i op ans w' → M.exec i op ans w' = some (answer, w'') →
      P.inv w'' ∧ P.guar i w' w'' ∧ Safe P i post (next answer) w''

namespace Safe

variable {P : Protocol M} {i : Nat} {post : Except String α → W → Prop} {p : Prog Op Res α} {w : W}

/-- Safety is kept by the steps of the others. -/
theorem interfere {w' : W} (safe : Safe P i post p w)
    (step : P.Interferes i w w') : Safe P i post p w' := by
  cases p with
  | done result => exact fun w'' steps => safe w'' (.head step steps)
  | call op next => exact fun w'' steps => safe w'' (.head step steps)

variable {result : Except String α} {op : Op} {next : Res op → Prog Op Res α} {γ : Type}
  {middle : Except String γ → W → Prop}

/-- The rule for a result. -/
theorem done (stable : P.Stable i (post result)) (holds : post result w) :
    Safe P i post (.done result) w :=
  fun _ => stable.star holds

/-- The rule for a call, with an assertion that holds until the call is made. -/
theorem call (assertion : W → Prop) (holds : assertion w) (stable : P.Stable i assertion)
    (step : ∀ w ans res w', P.inv w → assertion w → P.guard.run i op ans w →
      M.exec i op ans w = some (res, w') →
      P.inv w' ∧ P.guar i w w' ∧ Safe P i post (next res) w') :
    Safe P i post (.call op next) w :=
  fun w' steps kept ans res w'' allowed ran =>
    step w' ans res w'' kept (stable.star holds steps) allowed ran

/-- What a result that has been reached satisfies. -/
theorem post_of_done (safe : Safe P i post (.done result) w) : post result w := safe w .refl

/-- A program that makes the same call, and then one that is as safe. -/
theorem step {next' : Res op → Prog Op Res γ} (safe : Safe P i post (.call op next) w)
    (rest : ∀ res w, Safe P i post (next res) w → Safe P i middle (next' res) w) :
    Safe P i middle (.call op next') w := by
  intro w' steps kept ans res w'' allowed ran
  obtain ⟨kept', promised, after⟩ := safe w' steps kept ans res w'' allowed ran
  exact ⟨kept', promised, rest res w'' after⟩

/-- Sequencing: the second program starts in what the first one ends in. -/
theorem bind {p : Prog Op Res γ} {f : γ → Prog Op Res α} (first : Safe P i middle p w)
    (errors : ∀ text w, middle (.error text) w → post (.error text) w)
    (rest : ∀ value w, middle (.ok value) w → Safe P i post (f value) w) :
    Safe P i post (p >>= f) w := by
  induction p generalizing w with
  | done result =>
    cases result with
    | ok value => exact rest value w first.post_of_done
    | error text => exact fun w' steps => errors text w' (first w' steps)
  | call op next ih => exact first.step fun res _ => ih res

/-- A weaker postcondition. -/
theorem mono {post' : Except String α → W → Prop} (safe : Safe P i post p w)
    (weaker : ∀ result w, post result w → post' result w) : Safe P i post' p w := by
  induction p generalizing w with
  | done result => exact fun w' steps => weaker result w' (safe w' steps)
  | call op next ih => exact safe.step fun res _ => ih res

/-- The rule for a call whose effect is known. -/
theorem triple {before : W → Prop} {after : Res op → W → Prop} (step : P.Triple i before op after)
    (holds : before w) (rest : ∀ res w, after res w → Safe P i post (next res) w) :
    Safe P i post (.call op next) w := by
  refine call before holds step.stable ?_
  intro w ans res w' kept now allowed ran
  obtain ⟨kept', promised, reached⟩ := step.keeps w ans res w' kept now allowed ran
  exact ⟨kept', promised, rest res w' reached⟩

/-- A program whose calls all keep one assertion. -/
theorem of_does {calls : Op → Prop} {ends : Except String α → Prop} {assertion : W → Prop}
    (stable : P.Stable i assertion)
    (quiet : ∀ op, calls op → P.Triple i assertion op fun _ => assertion)
    (does : p.Does calls ends) (holds : assertion w) :
    Safe P i (fun result w => assertion w ∧ ends result) p w := by
  induction p generalizing w with
  | done result => exact fun w' steps => ⟨stable.star holds steps, does⟩
  | call op next ih =>
    exact triple (quiet op does.1) holds fun res w now => ih res (does.2 res) now

/-- A program that may be killed between any two of its calls. -/
theorem cut (killed : ∀ text w, post (.error text) w) (n : Nat)
    (safe : Safe P i post p w) : Safe P i post (p.cut n) w := by
  induction p generalizing n w with
  | done result => cases n <;> exact safe
  | call op next ih =>
    cases n with
    | zero => exact fun w' _ => killed _ w'
    | succ n => exact safe.step fun res _ => ih res n

/-- Going on with the result of a program, whatever it is. -/
theorem attempt_bind {p : Prog Op Res γ} {f : Except String γ → Prog Op Res α}
    (first : Safe P i middle p w)
    (rest : ∀ result w, middle result w → Safe P i post (f result) w) :
    Safe P i post (p.attempt >>= f) w := by
  induction p generalizing w with
  | done result => exact rest result w first.post_of_done
  | call op next ih => exact first.step fun res _ => ih res

end Safe

/-- Program `i` keeps the invariant and its promise from world `w` on, whatever its
result. -/
abbrev Keeps (P : Protocol M) (i : Nat) (p : Prog Op Res α) (w : W) : Prop :=
  Safe P i (fun _ _ => True) p w

theorem Safe.keeps {P : Protocol M} {i : Nat} {post : Except String α → W → Prop}
    {p : Prog Op Res α} {w : W} (safe : Safe P i post p w) : Keeps P i p w :=
  safe.mono fun _ _ _ => trivial

namespace Keeps

variable {P : Protocol M} {i : Nat} {β : Type} {w : W}

theorem ended (result : Except String α) : Keeps P i (.done result) w := fun _ _ => trivial

variable {p : Prog Op Res α} {γ : Type} {f : γ → Prog Op Res α}

theorem bind {f : α → Prog Op Res β} (first : Keeps P i p w) (next : ∀ v w, Keeps P i (f v) w) :
    Keeps P i (p >>= f) w :=
  Safe.bind first (fun _ _ _ => trivial) fun v w _ => next v w

theorem attempt_bind {f : Except String α → Prog Op Res β} (first : Keeps P i p w)
    (next : ∀ result w, Keeps P i (f result) w) : Keeps P i (p.attempt >>= f) w :=
  Safe.attempt_bind first fun result w _ => next result w

theorem forEach_mem (xs : List γ) (each : ∀ x ∈ xs, ∀ w, Keeps P i (f x) w) :
    ∀ w, Keeps P i (Prog.forEach f xs) w := by
  induction xs with
  | nil => exact fun _ => ended _
  | cons x xs ih =>
    intro w
    refine (each x List.mem_cons_self w).bind fun v w => ?_
    exact (ih (fun y mem => each y (List.mem_cons_of_mem x mem)) w).bind fun _ _ => ended _

theorem forEach (each : ∀ x w, Keeps P i (f x) w) (xs : List γ) :
    ∀ w, Keeps P i (Prog.forEach f xs) w :=
  forEach_mem xs fun x _ => each x

end Keeps

section Alone

variable {guard : Guard M} {inv : W → Prop}

/-- A single program. -/
def Protocol.alone (guard : Guard M) (inv : W → Prop) : Protocol M :=
  ⟨guard, inv, fun i _ _ => i = 0⟩

-- the host does nothing by itself
variable [IsEmpty M.Event]

/-- Nothing comes between two calls of a single program. -/
theorem Protocol.alone_star {w w' : W}
    (steps : Relation.ReflTransGen ((alone guard inv).Interferes 0) w w') : w' = w := by
  induction steps with
  | refl => rfl
  | tail _ step _ =>
    obtain ⟨-, -, ⟨j, other, promised⟩ | ⟨event, -⟩⟩ := step
    · exact absurd promised other
    · exact isEmptyElim event

variable {post : Except String α → W → Prop} {w : W}

theorem Safe.done_alone {result : Except String α} (holds : post result w) :
    Safe (.alone guard inv) 0 post (.done result) w := by
  intro w' steps
  rw [Protocol.alone_star steps]
  exact holds

/-- A single program is executed from the world it is in. -/
theorem Safe.call_alone {op : Op} {next : Res op → Prog Op Res α}
    (step : ∀ ans res w', inv w → guard.run 0 op ans w → M.exec 0 op ans w = some (res, w') →
      inv w' ∧ Safe (.alone guard inv) 0 post (next res) w') :
    Safe (.alone guard inv) 0 post (.call op next) w := by
  intro w' steps kept ans res w'' allowed ran
  rw [Protocol.alone_star steps] at kept allowed ran ⊢
  obtain ⟨kept', after⟩ := step ans res w'' kept allowed ran
  exact ⟨kept', rfl, after⟩

theorem Safe.orThrow_alone {β : Type} {context : String} {res : Except String β}
    {next : β → Prog Op Res α}
    (failed : ∀ text, res = .error text → post (.error (context ++ text)) w)
    (rest : ∀ value, res = .ok value → Safe (.alone guard inv) 0 post (next value) w) :
    Safe (.alone guard inv) 0 post (Prog.orThrow context res >>= next) w := by
  cases res with
  | error text => exact done_alone (failed text rfl)
  | ok value => exact rest value rfl

theorem Safe.checked_alone {β : Type} {post : α → W → Prop} {context : String}
    {res : Except String β} {next : β → Prog Op Res α}
    (rest : ∀ value, res = .ok value → Safe (.alone guard inv) 0 (Returns post) (next value) w) :
    Safe (.alone guard inv) 0 (Returns post) (Prog.orThrow context res >>= next) w :=
  orThrow_alone (fun _ _ => trivial) rest

end Alone

variable {P : Protocol M} {post : Nat → Except String α → W → Prop}

/-- The programs of a pool are safe and the invariant holds. -/
structure SafePool (P : Protocol M) (post : Nat → Except String α → W → Prop)
    (c : Config Op Res α W) : Prop where
  inv : P.inv c.world
  safe : ∀ i p, c.pool[i]? = some p → Safe P i (post i) p c.world

theorem SafePool.single {post : Except String α → W → Prop} {p : Prog Op Res α} {w : W}
    (inv : P.inv w) (safe : Safe P 0 post p w) : SafePool P (fun _ => post) ⟨[p], w⟩ := by
  refine ⟨inv, fun i q found => ?_⟩
  cases i with
  | zero =>
    cases found
    exact safe
  | succ i => cases found

variable {c : Config Op Res α W}

/-- Along a run that meets the guard, the invariant holds and every program of
the pool stays safe. -/
theorem Reach.safe {start : Config Op Res α W} (initially : SafePool P post start)
    (host : P.HostKeeps) (reached : Reach M P.guard start c) : SafePool P post c := by
  induction reached with
  | refl => exact initially
  | @run c i op next ans res world _ found allowed ran ih =>
    obtain ⟨kept, promised, after⟩ :=
      ih.safe i _ found _ .refl ih.inv ans res world allowed ran
    refine ⟨kept, ?_⟩
    intro j p at_j
    by_cases same : i = j
    · subst same
      have bound : i < c.pool.length := (List.getElem?_eq_some_iff.mp found).1
      rw [List.getElem?_set_self bound] at at_j
      cases at_j
      exact after
    · rw [List.getElem?_set_ne same] at at_j
      exact (ih.safe j p at_j).interfere ⟨ih.inv, kept, .inl ⟨i, same, promised⟩⟩
  | @env c event world _ allowed happened ih =>
    have kept := host event _ _ ih.inv allowed happened
    refine ⟨kept, ?_⟩
    intro j p at_j
    exact (ih.safe j p at_j).interfere ⟨ih.inv, kept, .inr ⟨_, allowed, happened⟩⟩

/-- A program of a safe pool that has ended meets its postcondition. -/
theorem SafePool.of_ended (pool : SafePool P post c) {i : Nat} {result : Except String α}
    (ended : c.pool[i]? = some (.done result)) : post i result c.world :=
  (pool.safe i _ ended).post_of_done

/-- In a pool whose programs have all ended, every postcondition holds. -/
theorem SafePool.posts (pool : SafePool P post c) (finished : c.Finished) :
    ∀ i, i < c.pool.length → ∃ result, post i result c.world := by
  intro i bound
  have found : c.pool[i]? = some c.pool[i] := List.getElem?_eq_getElem bound
  have ended := finished _ (List.getElem_mem bound)
  cases shape : c.pool[i] with
  | done result =>
    rw [shape] at found
    exact ⟨result, pool.of_ended found⟩
  | call op next => rw [shape] at ended; simp [Prog.result] at ended

end Vee
