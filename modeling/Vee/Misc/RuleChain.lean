import Mathlib.Data.List.Basic

/-!
# Chains of rules

A chain of rules that are tried in order: the first rule with something to say about a
subject decides, and the policy if there is none. Rules are added at either end, and a
rule is removed by what it looks like; of several that look the same, the first one goes.
-/

namespace Vee

/-- A chain of rules of type `R` with verdicts of type `V`. -/
structure RuleChain (R V : Type) where
  policy : V
  rules : List R := []

namespace RuleChain

variable {R P V : Type}

/-- The verdict of the first rule that has one. -/
def verdict (decides : R → P → Option V) (c : RuleChain R V) (p : P) : V :=
  (c.rules.findSome? (decides · p)).getD c.policy

/-- Add a rule behind all others. -/
def append (r : R) (c : RuleChain R V) : RuleChain R V := { c with rules := c.rules ++ [r] }

/-- Add a rule in front of all others. -/
def insert (r : R) (c : RuleChain R V) : RuleChain R V := { c with rules := r :: c.rules }

/-- Add rules behind all others. -/
def behind (rs : List R) (c : RuleChain R V) : RuleChain R V := { c with rules := c.rules ++ rs }

/-- Add rules in front of all others. -/
def before (rs : List R) (c : RuleChain R V) : RuleChain R V := { c with rules := rs ++ c.rules }

/-- Remove the first rule that looks like this. -/
def delete (like : R → Bool) (c : RuleChain R V) : RuleChain R V :=
  { c with rules := c.rules.eraseP like }

variable (r : R) (like : R → Bool) (rs : List R)

variable (c : RuleChain R V)

@[simp] theorem append_policy : (c.append r).policy = c.policy := rfl
@[simp] theorem insert_policy : (c.insert r).policy = c.policy := rfl
@[simp] theorem delete_policy : (c.delete like).policy = c.policy := rfl

@[simp] theorem behind_policy : (c.behind rs).policy = c.policy := rfl
@[simp] theorem before_policy : (c.before rs).policy = c.policy := rfl

@[simp] theorem behind_rules : (c.behind rs).rules = c.rules ++ rs := rfl
@[simp] theorem before_rules : (c.before rs).rules = rs ++ c.rules := rfl

@[simp] theorem behind_nil : c.behind [] = c := by simp [behind]
@[simp] theorem before_nil : c.before [] = c := rfl

@[simp] theorem append_behind :
    (c.append r).behind rs = c.behind (r :: rs) := by simp [behind, append]
@[simp] theorem insert_before :
    (c.insert r).before rs = c.before (rs ++ [r]) := by simp [before, insert]

/-- If no rule in front looks like this, the first one that does is among the others. -/
theorem before_delete {like : R → Bool} {rs : List R} (none : ∀ r ∈ rs, ¬ like r)
    (c : RuleChain R V) : (c.before rs).delete like = (c.delete like).before rs := by
  simp [before, delete, List.eraseP_append_right _ none]

theorem insert_delete {like : R → Bool} {r : R} (alike : like r) (c : RuleChain R V) :
    (c.insert r).delete like = c := by simp [insert, delete, alike]

@[simp] theorem append_rules : (c.append r).rules = c.rules ++ [r] := rfl
@[simp] theorem insert_rules : (c.insert r).rules = r :: c.rules := rfl
@[simp] theorem delete_rules :
    (c.delete like).rules = c.rules.eraseP like := rfl

variable {decides : R → P → Option V} {c : RuleChain R V} {p : P} {v : V}

theorem verdict_cases (decided : c.verdict decides p = v) :
    c.policy = v ∨ ∃ r ∈ c.rules, decides r p = some v := by
  unfold verdict at decided
  cases found : c.rules.findSome? (decides · p) with
  | none =>
    rw [found] at decided
    exact .inl decided
  | some w =>
    rw [found] at decided
    obtain ⟨r, mem, told⟩ := List.exists_of_findSome?_eq_some found
    cases decided
    exact .inr ⟨r, mem, told⟩

/-- If a rule decides `v` and the rules ahead of it decide `v` or nothing, the verdict is `v`. -/
theorem verdict_of_ahead {ahead behind : List R} {r : R} (rules : c.rules = ahead ++ r :: behind)
    (agree : ∀ a ∈ ahead, decides a p = none ∨ decides a p = some v)
    (told : decides r p = some v) : c.verdict decides p = v := by
  have found : ∀ ahead : List R, (∀ a ∈ ahead, decides a p = none ∨ decides a p = some v) →
      (ahead ++ r :: behind).findSome? (decides · p) = some v := by
    intro ahead
    induction ahead with
    | nil => intro _; simp [told]
    | cons a ahead ih =>
      intro agree
      rcases agree a List.mem_cons_self with quiet | loud
      · simpa [quiet] using ih fun b mem => agree b (List.mem_cons_of_mem a mem)
      · simp [loud]
  unfold verdict
  rw [rules, found ahead agree]
  rfl

end RuleChain

/-- Removing the first element with a property takes one away from their number. -/
theorem countP_eraseP_self {α : Type} (like : α → Bool) (xs : List α) :
    (xs.eraseP like).countP like = xs.countP like - 1 := by
  induction xs with
  | nil => rfl
  | cons x xs ih => by_cases hit : like x <;> simp [hit, ih]

/-- Removing an element with one property leaves the number of those with another. -/
theorem countP_eraseP_other {α : Type} {like other : α → Bool}
    (apart : ∀ x, like x → other x = false) (xs : List α) :
    (xs.eraseP like).countP other = xs.countP other := by
  induction xs with
  | nil => rfl
  | cons x xs ih =>
    by_cases hit : like x
    · simp [hit, apart x hit]
    · simp [hit, List.countP_cons, ih]

end Vee
