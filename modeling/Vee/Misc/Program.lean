import Mathlib.Logic.Relation

/-!
# Programs that call a host

A `Prog` is one sequential program: it either has a result, or it makes one call and goes
on with the answer. The places between two calls are exactly the places where another
program, or the host itself, can get in between. `Machine` says what the calls do to a
world. `Reach` interleaves a pool of programs over one world, together with steps the host
takes by itself. A `Guard` restricts the steps of a run.
-/

namespace Vee

/-- A program over the calls `Op`, where the answer to `op` has type `Res op`.
It ends with a value or with an error text. -/
inductive Prog (Op : Type) (Res : Op → Type) (α : Type) where
  | done (result : Except String α)
  | call (op : Op) (next : Res op → Prog Op Res α)

namespace Prog

variable {Op : Type} {Res : Op → Type} {α β : Type}

/-- Sequencing; an error ends the whole program. -/
def bind : Prog Op Res α → (α → Prog Op Res β) → Prog Op Res β
  | .done (.ok value), f => f value
  | .done (.error text), _ => .done (.error text)
  | .call op next, f => .call op fun answer => (next answer).bind f

instance : Monad (Prog Op Res) where
  pure value := .done (.ok value)
  bind := bind

instance : MonadExceptOf String (Prog Op Res) where
  throw text := .done (.error text)
  tryCatch := tryCatch
where
  /-- Run the handler on the error a program ends with. -/
  tryCatch {α : Type} : Prog Op Res α → (String → Prog Op Res α) → Prog Op Res α
    | .done (.ok value), _ => .done (.ok value)
    | .done (.error text), handler => handler text
    | .call op next, handler => .call op fun answer => tryCatch (next answer) handler

/-- Make one call and return its answer. -/
def ask (op : Op) : Prog Op Res (Res op) := .call op fun answer => .done (.ok answer)

/-- Go on with the value of a fallible answer, or end with its error and a
context in front of it. -/
def orThrow (context : String) (answer : Except String α) : Prog Op Res α :=
  .done (answer.mapError (context ++ ·))

/-- Run a program for its result, whatever it is. -/
def attempt : Prog Op Res α → Prog Op Res (Except String α)
  | .done result => .done (.ok result)
  | .call op next => .call op fun answer => (next answer).attempt

/-- Run a program for each element in turn and collect the values. -/
def forEach {γ : Type} (f : γ → Prog Op Res α) : List γ → Prog Op Res (List α)
  | [] => pure []
  | x :: xs => do
    let value ← f x
    let values ← forEach f xs
    pure (value :: values)

/-- A program that is killed before its call number `n`. -/
def cut : Nat → Prog Op Res α → Prog Op Res α
  | _, .done result => .done result
  | 0, .call _ _ => .done (.error "signal: killed")
  | n + 1, .call op next => .call op fun answer => (next answer).cut n

/-- The result of a program that has ended. -/
def result : Prog Op Res α → Option (Except String α)
  | .done result => some result
  | .call _ _ => none

theorem eq_done_of_result {p : Prog Op Res α} {r : Except String α} (ended : p.result = some r) :
    p = .done r := by
  cases p with
  | done result => rw [Option.some.inj ended]
  | call op next => cases ended

/-- A program that has ended without an error. -/
def isOk : Prog Op Res Unit → Bool
  | .done (.ok _) => true
  | _ => false

theorem eq_of_isOk {p : Prog Op Res Unit} (ok : p.isOk = true) : p = .done (.ok ()) := by
  cases p with
  | done result => cases result with
    | ok value => rfl
    | error text => cases ok
  | call op next => cases ok

theorem bind_assoc {γ : Type} (p : Prog Op Res α) (f : α → Prog Op Res β)
    (g : β → Prog Op Res γ) : ((p >>= f) >>= g) = p >>= fun value => f value >>= g := by
  induction p with
  | done result => cases result <;> rfl
  | call op next ih => exact congrArg (Prog.call op) (funext ih)

/-- It ends with a value that satisfies `value`. -/
def returns (value : α → Prop) : Except String α → Prop
  | .ok v => value v
  | .error _ => False

/-- If it ends with a value, the value satisfies `value`. -/
def mayThrow (value : α → Prop) : Except String α → Prop
  | .ok v => value v
  | .error _ => True

/-- Every call of the program is among the allowed ones, whatever the answers,
and its result satisfies `ends`. -/
def Does (allowed : Op → Prop) (ends : Except String α → Prop) : Prog Op Res α → Prop
  | .done result => ends result
  | .call op next => allowed op ∧ ∀ answer, (next answer).Does allowed ends

/-- It makes only such calls and does not throw. -/
abbrev Completes (allowed : Op → Prop) : Prog Op Res α → Prop :=
  Does allowed (returns fun _ => True)

/-- It makes only such calls. -/
abbrev Makes (allowed : Op → Prop) : Prog Op Res α → Prop := Does allowed (mayThrow fun _ => True)

namespace Does

variable {allowed : Op → Prop} {value : α → Prop}

theorem ask {op : Op} (ok : allowed op) : (Prog.ask op : Prog Op Res (Res op)).Completes allowed :=
  ⟨ok, fun _ => trivial⟩

variable {ends : Except String β → Prop} {p : Prog Op Res α} {f : α → Prog Op Res β}

theorem bind_of {first : Except String α → Prop} (does : p.Does allowed first)
    (thrown : ∀ text, first (.error text) → ends (.error text))
    (rest : ∀ v, first (.ok v) → (f v).Does allowed ends) : (p >>= f).Does allowed ends := by
  induction p with
  | done result =>
    cases result with
    | ok v => exact rest v does
    | error text => exact thrown text does
  | call op step ih => exact ⟨does.1, fun res => ih res (does.2 res)⟩

/-- Sequencing after a program that does not throw. -/
theorem bind (does : p.Does allowed (returns value))
    (rest : ∀ v, value v → (f v).Does allowed ends) : (p >>= f).Does allowed ends :=
  does.bind_of (fun _ impossible => impossible.elim) rest

/-- Sequencing after a program that may throw. -/
theorem bind_throw {next : β → Prop} (does : p.Does allowed (mayThrow value))
    (rest : ∀ v, value v → (f v).Does allowed (mayThrow next)) :
    (p >>= f).Does allowed (mayThrow next) :=
  does.bind_of (fun _ _ => trivial) rest

theorem orThrow {context : String} {res : Except String α} :
    (Prog.orThrow context res : Prog Op Res α).Makes allowed := by
  cases res <;> exact trivial

/-- Going on with what may be an error. -/
theorem either {ε γ : Type} {f : Except ε γ → Prog Op Res β}
    (failed : ∀ err, (f (.error err)).Does allowed ends)
    (went : ∀ v, (f (.ok v)).Does allowed ends) (result : Except ε γ) :
    (f result).Does allowed ends := by
  cases result with
  | ok v => exact went v
  | error err => exact failed err

theorem attempt {ends : Except String α → Prop} (does : p.Does allowed ends) :
    p.attempt.Does allowed (returns ends) := by
  induction p with
  | done result => exact does
  | call op step ih => exact ⟨does.1, fun res => ih res (does.2 res)⟩

theorem forEach {γ : Type} {f : γ → Prog Op Res α} {xs : List γ}
    (each : ∀ x ∈ xs, (f x).Does allowed (returns value)) :
    (Prog.forEach f xs).Completes allowed := by
  induction xs with
  | nil => exact trivial
  | cons x xs ih =>
    refine bind (each x List.mem_cons_self) fun v _ => ?_
    exact bind (ih fun y mem => each y (List.mem_cons_of_mem x mem)) fun vs _ => trivial

end Does

end Prog

/-- The host that programs run on. `exec i op ans w` is the call `op` made by
program number `i` in world `w`; `ans` is the host's own choice (an error, a
number it picks), and `none` means that the call cannot return that way.
`env` are the steps the host takes by itself. -/
structure Machine (Op : Type) (Res : Op → Type) (W : Type) where
  Ans : Type
  Event : Type := Empty
  exec : Nat → (op : Op) → Ans → W → Option (Res op × W)
  env : Event → W → Option W := fun _ _ => none

/-- A pool of programs over one world. -/
structure Config (Op : Type) (Res : Op → Type) (α W : Type) where
  pool : List (Prog Op Res α)
  world : W

/-- One step of a run. -/
inductive Label (Ans Event : Type) where
  | run (i : Nat) (ans : Ans)
  | env (event : Event)

variable {Op : Type} {Res : Op → Type} {α W : Type}

/-- The program has a value and this holds, or it fails and that holds. -/
def Outcome (post : α → W → Prop) (failed : W → Prop) : Except String α → W → Prop
  | .ok value => post value
  | .error _ => failed

/-- The same where the value does not matter. -/
abbrev Either (post failed : W → Prop) : Except String α → W → Prop :=
  Outcome (fun _ => post) failed

/-- The program has a value, and this holds. -/
abbrev Ends (post : α → W → Prop) : Except String α → W → Prop := Outcome post fun _ => False

/-- If the program has a value, this holds. -/
abbrev Returns (post : α → W → Prop) : Except String α → W → Prop := Outcome post fun _ => True

namespace Config

/-- Every program of the pool has ended. -/
def Finished (c : Config Op Res α W) : Prop := ∀ p ∈ c.pool, p.result.isSome
deriving Decidable

end Config

namespace Machine

/-- A machine together with a history variable: `log` and `logEnv` say how a
step changes it. The steps of the machine do not depend on the history. -/
def withHistory (M : Machine Op Res W) {H : Type}
    (log : Nat → (op : Op) → Res op → W → H → H) (logEnv : M.Event → W → H → H) :
    Machine Op Res (W × H) where
  Ans := M.Ans
  Event := M.Event
  exec i op ans w := (M.exec i op ans w.1).map fun out => (out.1, out.2, log i op out.1 w.1 w.2)
  env event w := (M.env event w.1).map fun world => (world, logEnv event w.1 w.2)

/-- A machine whose host acts by itself only in some worlds. -/
def restrict (M : Machine Op Res W) (when : W → Bool) : Machine Op Res W where
  Ans := M.Ans
  Event := M.Event
  exec := M.exec
  env event w := if when w then M.env event w else none

variable {M : Machine Op Res W} {H : Type} {log : Nat → (op : Op) → Res op → W → H → H}
  {logEnv : M.Event → W → H → H}

variable {w w' : W × H} {event : M.Event}

theorem withHistory_exec {i : Nat} {op : Op} {ans : M.Ans} {res : Res op}
    (executed : (M.withHistory log logEnv).exec i op ans w = some (res, w')) :
    M.exec i op ans w.1 = some (res, w'.1) ∧ w'.2 = log i op res w.1 w.2 := by
  obtain ⟨⟨result, world⟩, ran, same⟩ := Option.map_eq_some_iff.mp executed
  cases same
  exact ⟨ran, rfl⟩

theorem withHistory_env (happened : (M.withHistory log logEnv).env event w = some w') :
    M.env event w.1 = some w'.1 ∧ w'.2 = logEnv event w.1 w.2 := by
  obtain ⟨world, ran, same⟩ := Option.map_eq_some_iff.mp happened
  cases same
  exact ⟨ran, rfl⟩

theorem restrict_env {when : W → Bool} {w w' : W}
    (happened : (M.restrict when).env event w = some w') :
    when w = true ∧ M.env event w = some w' := by
  simp only [restrict] at happened
  split at happened
  · rename_i now
    exact ⟨now, happened⟩
  · cases happened

end Machine

/-- A restriction on the steps of a run, in terms of the world before the step. -/
structure Guard (M : Machine Op Res W) where
  run : Nat → (op : Op) → M.Ans → W → Prop
  env : M.Event → W → Prop := fun _ _ => True

/-- A guard that can be evaluated. -/
class Guard.Decides {M : Machine Op Res W} (G : Guard M) where
  run : ∀ i op ans w, Decidable (G.run i op ans w)
  env : ∀ event w, Decidable (G.env event w)

instance {M : Machine Op Res W} (G : Guard M) [decides : G.Decides] (i : Nat) (op : Op)
    (ans : M.Ans) (w : W) : Decidable (G.run i op ans w) := decides.run i op ans w

instance {M : Machine Op Res W} (G : Guard M) [decides : G.Decides] (event : M.Event) (w : W) :
    Decidable (G.env event w) := decides.env event w

/-- No restriction. -/
def Guard.none (M : Machine Op Res W) : Guard M := ⟨fun _ _ _ _ => True, fun _ _ => True⟩

instance (M : Machine Op Res W) : (Guard.none M).Decides :=
  ⟨fun _ _ _ _ => isTrue trivial, fun _ _ => isTrue trivial⟩

namespace Machine

variable (M : Machine Op Res W) (G : Guard M) [G.Decides]

/-- The configuration after one step, if the step is possible and allowed. -/
def step (c : Config Op Res α W) : Label M.Ans M.Event → Option (Config Op Res α W)
  | .run i ans =>
    match c.pool[i]? with
    | some (.call op next) =>
      if G.run i op ans c.world then
        match M.exec i op ans c.world with
        | some (answer, world) => some ⟨c.pool.set i (next answer), world⟩
        | none => none
      else none
    | _ => none
  | .env event =>
    if G.env event c.world then (M.env event c.world).map (⟨c.pool, ·⟩) else none

/-- The configuration after a whole schedule. -/
def runs (c : Config Op Res α W) : List (Label M.Ans M.Event) → Option (Config Op Res α W)
  | [] => some c
  | label :: labels => (M.step G c label).bind fun next => runs next labels

end Machine

/-- The configurations that runs from `start` whose steps all meet the guard
can reach. -/
inductive Reach (M : Machine Op Res W) (G : Guard M) (start : Config Op Res α W) :
    Config Op Res α W → Prop
  | refl : Reach M G start start
  | run {c : Config Op Res α W} {i : Nat} {op : Op} {next : Res op → Prog Op Res α}
      {ans : M.Ans} {answer : Res op} {world : W} :
      Reach M G start c → c.pool[i]? = some (.call op next) → G.run i op ans c.world →
      M.exec i op ans c.world = some (answer, world) →
      Reach M G start ⟨c.pool.set i (next answer), world⟩
  | env {c : Config Op Res α W} {event : M.Event} {world : W} :
      Reach M G start c → G.env event c.world → M.env event c.world = some world →
      Reach M G start ⟨c.pool, world⟩

variable {M : Machine Op Res W} {G : Guard M}

section Executing

variable [G.Decides] {start : Config Op Res α W}

/-- A step of the executable semantics extends a run. -/
theorem Reach.step {c d : Config Op Res α W} {label : Label M.Ans M.Event}
    (reached : Reach M G start c) (taken : M.step G c label = some d) : Reach M G start d := by
  cases label with
  | run i ans =>
    simp only [Machine.step] at taken
    split at taken
    · rename_i op next found
      split at taken
      · rename_i allowed
        split at taken
        · rename_i res world ran
          cases taken
          exact .run reached found allowed ran
        · cases taken
      · cases taken
    · cases taken
  | env event =>
    simp only [Machine.step] at taken
    split at taken
    · rename_i allowed
      obtain ⟨world, happened, rfl⟩ := Option.map_eq_some_iff.mp taken
      exact .env reached allowed happened
    · cases taken

/-- Executing a schedule gives a reachable configuration. -/
theorem Reach.runs (labels : List (Label M.Ans M.Event)) :
    ∀ {c d : Config Op Res α W}, Reach M G start c → M.runs G c labels = some d →
      Reach M G start d := by
  induction labels with
  | nil =>
    intro c d reached ran
    cases ran
    exact reached
  | cons label labels ih =>
    intro c d reached ran
    obtain ⟨middle, taken, rest⟩ := Option.bind_eq_some_iff.mp ran
    exact ih (reached.step taken) rest

/-- Executing a schedule shows that a configuration with some property is reachable. -/
theorem Reach.of_runs (M : Machine Op Res W) (G : Guard M) [G.Decides]
    (start : Config Op Res α W) (labels : List (Label M.Ans M.Event))
    (holds : Config Op Res α W → Prop) (ran : ∃ c ∈ M.runs G start labels, holds c) :
    ∃ c, Reach M G start c ∧ holds c := by
  obtain ⟨c, final, held⟩ := ran
  exact ⟨c, Reach.runs labels .refl final, held⟩

/-- The same, for what follows from the property. -/
theorem Reach.exists_of_runs {shown : Config Op Res α W → Prop}
    (labels : List (Label M.Ans M.Event)) (holds : Config Op Res α W → Prop)
    (ran : ∃ c ∈ M.runs G start labels, holds c)
    (shows : ∀ c, Reach M G start c → holds c → shown c) : ∃ c, Reach M G start c ∧ shown c := by
  obtain ⟨c, reached, held⟩ := Reach.of_runs M G start labels holds ran
  exact ⟨c, reached, shows c reached held⟩

end Executing

/-- The pool keeps its size along a run. -/
theorem Reach.pool_length {start c : Config Op Res α W}
    (reached : Reach M G start c) : c.pool.length = start.pool.length := by
  induction reached with
  | refl => rfl
  | run _ _ _ _ ih => simpa using ih
  | env _ _ _ ih => exact ih

end Vee
