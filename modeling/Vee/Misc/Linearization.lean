import Mathlib.Data.List.Nodup

/-!
# Linearizable histories

Operations that overlap in time are linearizable if the outcome is that of some sequential
order of them that keeps the order of those that do not overlap. A run shows this by the
points at which its operations take effect.
-/

namespace Vee.Linearization

open List

/-- The beginning and the end of operation number `i`. -/
inductive Event (R V : Type) where
  | began (i : Nat) (request : R)
  | ended (i : Nat) (request : R) (result : Except String V)
  deriving DecidableEq

/-- An event, or the point at which an operation takes effect. -/
inductive Moment (R V : Type) where
  | event (e : Event R V)
  | took (i : Nat) (request : R)

variable {R V S : Type}

/-- The operation that a moment is about. -/
def Moment.operation : Moment R V → Nat
  | .event (.began i _) | .event (.ended i _ _) | .took i _ => i

/-- The moments of one operation. -/
def own (i : Nat) (moments : List (Moment R V)) : List (Moment R V) :=
  moments.filter (·.operation = i)

/-- One operation had ended before another one began. -/
def Precedes (history : List (Event R V)) (i j : Nat) : Prop :=
  ∃ earlier later, history = earlier ++ later ∧
    (∃ request result, .ended i request result ∈ earlier) ∧ ∀ request, .began j request ∉ earlier

/-- One element stands ahead of another. -/
def Ahead {α : Type} (order : List α) (a b : α) : Prop :=
  ∃ first rest, order = first ++ rest ∧ a ∈ first ∧ b ∈ rest

/-- A sequential order of the operations of a history: each that succeeded is in it, once, none
that failed is, and those that did not overlap stand as they happened. -/
structure Linearizes (history : List (Event R V)) (order : List (Nat × R)) : Prop where
  once : (order.map Prod.fst).Nodup
  issued : ∀ a ∈ order, .began a.1 a.2 ∈ history
  succeeded : ∀ i request value, .ended i request (.ok value) ∈ history → (i, request) ∈ order
  failed : ∀ i request text, .ended i request (.error text) ∈ history → i ∉ order.map Prod.fst
  realTime : ∀ a ∈ order, ∀ b ∈ order, Precedes history a.1 b.1 → Ahead order a b

/-- The state after some operations in turn. -/
def replay (run : R → S → S) (order : List (Nat × R)) (initial : S) : S :=
  order.foldl (fun s a => run a.2 s) initial

/-- The outcome is that of a sequential order of the operations. -/
def Linearizable (run : R → S → S) (same : S → S → Prop) (initial : S)
    (history : List (Event R V)) (final : S) : Prop :=
  ∃ order, Linearizes history order ∧ same final (replay run order initial)

/-- What stands behind an operation in the order had not ended before it began. -/
theorem Linearizes.split {history : List (Event R V)} {order : List (Nat × R)}
    (linearizes : Linearizes history order) {a : Nat × R} (mem : a ∈ order) :
    ∃ first rest, order = first ++ a :: rest ∧
      ∀ b ∈ rest, b.1 ≠ a.1 ∧ ¬ Precedes history b.1 a.1 := by
  obtain ⟨first, rest, rfl⟩ := append_of_mem mem
  refine ⟨first, rest, rfl, ?_⟩
  have once := linearizes.once
  rw [map_append, map_cons, nodup_append, nodup_cons] at once
  obtain ⟨_, ⟨aOnce, restOnce⟩, apart⟩ := once
  intro b behind
  have other : b.1 ≠ a.1 := fun same => aOnce (same ▸ mem_map_of_mem behind)
  refine ⟨other, fun precedes => ?_⟩
  -- then `b` would also stand ahead of `a`
  have inOrder : b ∈ first ++ a :: rest := by simp [behind]
  obtain ⟨front, back, whole, bFront, aBack⟩ := linearizes.realTime b inOrder a mem precedes
  have twice : b ∉ first := fun ahead =>
    apart b.1 (mem_map_of_mem ahead) b.1 (mem_cons_of_mem _ (mem_map_of_mem behind)) rfl
  rcases append_eq_append_iff.mp whole with ⟨more, rfl, tail⟩ | ⟨more, rfl, _⟩
  · cases more with
    | nil => exact twice (by simpa using bFront)
    | cons c more =>
      obtain ⟨rfl, rfl⟩ := cons.inj tail
      exact aOnce (mem_map_of_mem (mem_append_right more aBack))
  · exact twice (mem_append_left more bFront)

/-- What an operation that succeeded brings about holds in the end, if every other operation
that had not ended before it began keeps it. -/
theorem Linearizable.brings {run : R → S → S} {same : S → S → Prop} {initial final : S}
    {history : List (Event R V)} (linearizable : Linearizable run same initial history final)
    {P : S → Prop} (respects : ∀ s s', same s s' → P s' → P s) {i : Nat} {request : R} {value : V}
    (succeeded : .ended i request (.ok value) ∈ history) (makes : ∀ s, P (run request s))
    (keeps : ∀ j other, .began j other ∈ history → j ≠ i → ¬ Precedes history j i →
      ∀ s, P s → P (run other s)) : P final := by
  obtain ⟨order, linearizes, outcome⟩ := linearizable
  obtain ⟨first, rest, rfl, later⟩ :=
    linearizes.split (linearizes.succeeded i request value succeeded)
  refine respects _ _ outcome ?_
  unfold replay
  rw [foldl_append, foldl_cons]
  refine foldlRecOn (motive := P) rest _ (makes _) ?_
  intro s holds b behind
  obtain ⟨other, unordered⟩ := later b behind
  exact keeps b.1 b.2 (linearizes.issued b (by simp [behind])) other unordered s holds

/-! ## Points -/

/-- The events among the moments. -/
def events (moments : List (Moment R V)) : List (Event R V) :=
  moments.filterMap fun
    | .event e => some e
    | .took _ _ => none

/-- The operations in the order in which they took effect. -/
def points (moments : List (Moment R V)) : List (Nat × R) :=
  moments.filterMap fun
    | .event _ => none
    | .took i request => some (i, request)

section Simp

variable (first second : List (Moment R V)) (e : Event R V) (i : Nat) (request : R)

@[simp] theorem events_append : events (first ++ second) = events first ++ events second :=
  filterMap_append

@[simp] theorem points_append : points (first ++ second) = points first ++ points second :=
  filterMap_append

@[simp] theorem events_event : events [(.event e : Moment R V)] = [e] := rfl

@[simp] theorem events_took : events [(.took i request : Moment R V)] = [] := rfl

@[simp] theorem points_event : points [(.event e : Moment R V)] = [] := rfl

@[simp] theorem points_took : points [(.took i request : Moment R V)] = [(i, request)] := rfl

theorem mem_events {moments : List (Moment R V)} {e : Event R V} :
    e ∈ events moments ↔ .event e ∈ moments := by
  simp only [events, mem_filterMap]
  constructor
  · rintro ⟨m, mem, same⟩
    cases m with
    | event e' => exact Option.some.inj same ▸ mem
    | took i request => cases same
  · exact fun mem => ⟨_, mem, rfl⟩

theorem mem_points {moments : List (Moment R V)} {i : Nat} {request : R} :
    (i, request) ∈ points moments ↔ .took i request ∈ moments := by
  simp only [points, mem_filterMap]
  constructor
  · rintro ⟨m, mem, same⟩
    cases m with
    | event e => cases same
    | took j other =>
      obtain ⟨rfl, rfl⟩ := Prod.mk.inj (Option.some.inj same)
      exact mem
  · exact fun mem => ⟨_, mem, rfl⟩

theorem mem_own {moments : List (Moment R V)} {m : Moment R V} :
    m ∈ own m.operation moments ↔ m ∈ moments := by
  simp [own]

end Simp

/-- The points up to now are those of operations that have begun; all that have succeeded have
one, and none that has failed. -/
structure Tidy (moments : List (Moment R V)) : Prop where
  once : ((points moments).map Prod.fst).Nodup
  issued : ∀ a ∈ points moments, .began a.1 a.2 ∈ events moments
  succeeded : ∀ i request value, .ended i request (.ok value) ∈ events moments →
    (i, request) ∈ points moments
  failed : ∀ i request text, .ended i request (.error text) ∈ events moments →
    i ∉ (points moments).map Prod.fst

/-- At all times so far. -/
def AlwaysTidy (moments : List (Moment R V)) : Prop := ∀ earlier, earlier <+: moments → Tidy earlier

theorem no_point {moments : List (Moment R V)} {i : Nat} {request : R}
    (only : own i moments = [.event (.began i request)]) : i ∉ (points moments).map Prod.fst := by
  intro mem
  obtain ⟨⟨j, other⟩, point, rfl⟩ := mem_map.mp mem
  have mine : Moment.took j other ∈ own j moments := mem_own.mpr (mem_points.mp point)
  rw [only] at mine
  simp at mine

namespace Tidy

theorem nil : Tidy ([] : List (Moment R V)) :=
  ⟨nodup_nil, by simp [points], by simp [events], by simp [events]⟩

variable {moments : List (Moment R V)} (tidy : Tidy moments) {i : Nat} {request : R}

include tidy

/-- An event, if it ends an operation as its point says. -/
theorem note {e : Event R V}
    (succeeded : ∀ i request value, e = .ended i request (.ok value) →
      (i, request) ∈ points moments)
    (failed : ∀ i request text, e = .ended i request (.error text) →
      i ∉ (points moments).map Prod.fst) :
    Tidy (moments ++ [.event e]) := by
  refine ⟨by simpa using tidy.once, ?_, ?_, ?_⟩
  · intro a mem
    have before := tidy.issued a (by simpa using mem)
    simp [before]
  · intro i request value mem
    simp only [events_append, events_event, mem_append, mem_singleton] at mem
    rcases mem with before | same
    · simpa using tidy.succeeded i request value before
    · simpa using succeeded i request value same.symm
  · intro i request text mem
    simp only [events_append, events_event, mem_append, mem_singleton] at mem
    rcases mem with before | same
    · simpa using tidy.failed i request text before
    · simpa using failed i request text same.symm

/-- The point of an operation that has begun and not failed, if it has none yet. -/
theorem take (first : i ∉ (points moments).map Prod.fst)
    (issued : .began i request ∈ events moments)
    (unfailed : ∀ other text, .ended i other (.error text) ∉ events moments) :
    Tidy (moments ++ [.took i request]) := by
  refine ⟨?_, ?_, ?_, ?_⟩
  · rw [points_append, points_took, map_append, nodup_append]
    refine ⟨tidy.once, nodup_singleton i, ?_⟩
    rintro a mem b last rfl
    obtain rfl : a = i := mem_singleton.mp last
    exact first mem
  · intro a mem
    simp only [points_append, points_took, mem_append, mem_singleton] at mem
    rcases mem with before | rfl
    · simpa using tidy.issued a before
    · simpa using issued
  · intro j other value mem
    have before := tidy.succeeded j other value (by simpa using mem)
    simp [before]
  · intro j other text mem
    have before : Event.ended j other (.error text) ∈ events moments := by simpa using mem
    have apart : j ≠ i := by
      rintro rfl
      exact unfailed other text before
    have old := tidy.failed j other text before
    rw [points_append, points_took, map_append, mem_append, not_or]
    exact ⟨old, by simpa using apart⟩

theorem began : Tidy (moments ++ [.event (.began i request)]) :=
  tidy.note (fun _ _ _ same => by cases same) fun _ _ _ same => by cases same

variable (only : own i moments = [.event (.began i request)])

include only

/-- An operation that has only begun takes effect. -/
theorem taken : Tidy (moments ++ [.took i request]) := by
  refine tidy.take (no_point only) ?_ ?_
  · have mine : Moment.event (.began i request) ∈ own i moments := by simp [only]
    exact mem_events.mpr (mem_of_mem_filter mine)
  · intro other text mem
    have mine : Moment.event (.ended i other (.error text)) ∈ own i moments :=
      mem_own.mpr (mem_events.mp mem)
    rw [only] at mine
    simp at mine

/-- An operation that has only begun fails. -/
theorem failure (text : String) : Tidy (moments ++ [.event (.ended i request (.error text))]) := by
  refine tidy.note (fun _ _ _ same => by cases same) ?_
  intro j other text' same
  cases same
  exact no_point only

omit only

/-- An operation that has taken effect succeeds. -/
theorem success (both : own i moments = [.event (.began i request), .took i request]) (value : V) :
    Tidy (moments ++ [.event (.ended i request (.ok value))]) := by
  refine tidy.note ?_ fun _ _ _ same => by cases same
  intro j other value' same
  cases same
  have mine : Moment.took i request ∈ own i moments := by simp [both]
  exact mem_points.mpr (mem_of_mem_filter mine)

end Tidy

namespace AlwaysTidy

theorem nil : AlwaysTidy ([] : List (Moment R V)) := by
  intro earlier before
  rw [prefix_nil.mp before]
  exact .nil

variable {moments : List (Moment R V)} (always : AlwaysTidy moments)

include always

theorem now : Tidy moments := always moments (prefix_refl _)

theorem snoc {m : Moment R V} (tidy : Tidy (moments ++ [m])) : AlwaysTidy (moments ++ [m]) := by
  intro earlier before
  rcases prefix_concat_iff.mp before with rfl | older
  · exact tidy
  · exact always earlier older

/-- The order of the points is a sequential order of the operations. -/
theorem linearizes : Linearizes (events moments) (points moments) := by
  refine ⟨always.now.once, always.now.issued, always.now.succeeded, always.now.failed, ?_⟩
  rintro ⟨i, request⟩ memberA ⟨j, other⟩ memberB ⟨earlier, later, whole, ⟨r, result, ended⟩, fresh⟩
  obtain ⟨before, behind, rfl, rfl, rfl⟩ := filterMap_eq_append_iff.mp whole
  have early : Tidy before := always before (prefix_append _ _)
  refine ⟨points before, points behind, points_append before behind, ?_, ?_⟩
  · -- the first one had succeeded, so its point is early
    cases result with
    | error text =>
      have still : Event.ended i r (.error text) ∈ events (before ++ behind) := by
        rw [events_append]
        exact mem_append_left _ ended
      exact absurd (mem_map_of_mem memberA) (always.now.failed i r text still)
    | ok value =>
      have point := early.succeeded i r value ended
      have same : r = request := by
        have inBoth : (i, r) ∈ points (before ++ behind) := by simp [point]
        exact (Prod.mk.inj (inj_on_of_nodup_map always.now.once inBoth memberA rfl)).2
      exact same ▸ point
  · rw [points_append, mem_append] at memberB
    rcases memberB with tooEarly | late
    · exact absurd (early.issued _ tooEarly) (fresh other)
    · exact late

end AlwaysTidy

end Vee.Linearization
