import Vee.VM.CPUPinning
import Vee.VM.Proofs.ResizeDisk

/-!
# CPU lists

`ParseCPUPinning` drops repetitions but does not sort, and its numbers have to fit into an `int`.
-/

namespace Vee.CPUPinning

open List
open BootDisk (readInteger parseInt64_eq_some_iff)

def nonBlank (texts : List Text) : List Text :=
  (texts.map trimSpace).filter (· ≠ [])

def parts (s : Text) : List Text := nonBlank ((trimSpace s).splitOn ',')

def Index (part : Text) : Prop := ∃ n, readInteger part = some n ∧ 0 ≤ n

def numbers (s : Text) : List Int := (parts s).filterMap readInteger

/-- The list of CPUs is accepted if it is one, and its result is sorted. -/
structure Canonical (s : Text) : Prop where
  accepts : (∃ cpus, parseCPUPinning s = .ok cpus) ↔ ∀ part ∈ parts s, Index part
  sorted : ∀ cpus, parseCPUPinning s = .ok cpus → cpus.Pairwise (· < ·) ∧
    ∀ n, n ∈ cpus ↔ n ∈ numbers s

/-- Behind the numbers `front`, each number is greater than all in front of it, or stands there
already. -/
def InOrder (front : List Int) : List Int → Prop
  | [] => True
  | n :: rest => (n ∈ front ∨ ∀ m ∈ front, m < n) ∧ InOrder (front ++ [n]) rest

/-- The numbers are in order and fit into an `int`. -/
structure Fits (s : Text) : Prop where
  small : ∀ n ∈ numbers s, n < 2 ^ 63
  inOrder : InOrder [] (numbers s)

variable {out front xs : List Int}

/-- The numbers of a list, each where it stands first. -/
def distinct (out : List Int) : List Int → List Int
  | [] => out
  | n :: rest => distinct (if n ∈ out then out else out ++ [n]) rest

theorem mem_distinct {n : Int} : n ∈ distinct out xs ↔ n ∈ out ∨ n ∈ xs := by
  induction xs generalizing out with
  | nil => simp [distinct]
  | cons m xs ih =>
    rw [distinct, ih, mem_cons]
    split
    · rename_i known
      constructor
      · tauto
      · rintro (old | rfl | later)
        · exact .inl old
        · exact .inl known
        · exact .inr later
    · simp [or_assoc]

theorem distinct_sorted_iff (same : ∀ m, m ∈ out ↔ m ∈ front) :
    (distinct out xs).Pairwise (· < ·) ↔ out.Pairwise (· < ·) ∧ InOrder front xs := by
  induction xs generalizing out front with
  | nil => simp [distinct, InOrder]
  | cons n xs ih =>
    rw [distinct, InOrder]
    split
    · rename_i known
      have grown : ∀ m, m ∈ out ↔ m ∈ front ++ [n] := by
        intro m
        rw [mem_append, mem_singleton, ← same]
        exact ⟨.inl, fun either => either.elim id (· ▸ known)⟩
      rw [ih grown]
      simp [← same, known]
    · rename_i fresh
      have grown : ∀ m, m ∈ out ++ [n] ↔ m ∈ front ++ [n] := by simp [same]
      rw [ih grown, pairwise_append]
      simp [← same, fresh, and_assoc]

/-- The loop fails at a part that is not a CPU, and keeps each number where it stands first. -/
theorem parseParts_eq_ok_iff {texts : List Text} {seen cpus : List Int}
    (same : ∀ m, m ∈ seen ↔ m ∈ out) : parseParts texts seen out = .ok cpus ↔
      (∀ part ∈ nonBlank texts, ∃ n, parseInt64 part = some n ∧ 0 ≤ n) ∧
        distinct out ((nonBlank texts).filterMap parseInt64) = cpus := by
  induction texts generalizing seen out with
  | nil => simp [parseParts, nonBlank, distinct]
  | cons part texts ih =>
    rw [parseParts]
    by_cases blank : trimSpace part = []
    · have skipped : nonBlank (part :: texts) = nonBlank texts := by simp [nonBlank, blank]
      rw [if_pos blank, ih same, skipped]
    have shown : nonBlank (part :: texts) = trimSpace part :: nonBlank texts := by
      simp [nonBlank, blank]
    rw [if_neg blank, shown, forall_mem_cons]
    cases read : parseInt64 (trimSpace part) with
    | none => simp
    | some n =>
      simp only [filterMap_cons_some read, distinct, ← same]
      by_cases negative : n < 0
      · simp [negative]
      have fine : ∃ m, some n = some m ∧ 0 ≤ m := ⟨n, rfl, by omega⟩
      simp only [negative, if_false, fine, true_and]
      split
      · exact ih same
      · exact ih (by simp [same, or_comm])

variable {s : Text} {cpus : List Int}

/-- What `ParseCPUPinning` accepts, and its result. -/
theorem parseCPUPinning_eq_ok_iff : parseCPUPinning s = .ok cpus ↔
    (∀ part ∈ parts s, ∃ n, readInteger part = some n ∧ 0 ≤ n ∧ n < 2 ^ 63) ∧
      distinct [] (numbers s) = cpus := by
  have loop : parseCPUPinning s = parseParts ((trimSpace s).splitOn ',') [] [] := by
    unfold parseCPUPinning
    simp only
    split
    · rename_i empty
      rw [empty]
      rfl
    · rfl
  have read : ∀ {part n}, parseInt64 part = some n ∧ 0 ≤ n ↔
      readInteger part = some n ∧ 0 ≤ n ∧ n < 2 ^ 63 := by
    intro part n
    rw [parseInt64_eq_some_iff, and_assoc]
    exact and_congr_right fun _ => by omega
  rw [loop, parseParts_eq_ok_iff fun _ => .rfl]
  simp only [read]
  refine and_congr_right fun all => ?_
  have same : (parts s).filterMap parseInt64 = numbers s := by
    refine filterMap_congr fun part mem => ?_
    obtain ⟨n, denoted⟩ := all part mem
    rw [denoted.1, (read.mpr denoted).1]
  rw [← same]
  rfl

theorem Canonical.fits (canonical : Canonical s) (proper : ∀ part ∈ parts s, Index part) :
    Fits s := by
  obtain ⟨cpus, parsed⟩ := canonical.accepts.mpr proper
  obtain ⟨all, rfl⟩ := parseCPUPinning_eq_ok_iff.mp parsed
  constructor
  · intro n mem
    obtain ⟨part, listed, denoted⟩ := mem_filterMap.mp mem
    obtain ⟨m, same, -, small⟩ := all part listed
    rw [denoted] at same
    cases same
    exact small
  · exact ((distinct_sorted_iff fun _ => .rfl).mp (canonical.sorted _ parsed).1).2

theorem canonical_of_fits (fits : (∀ part ∈ parts s, Index part) → Fits s) : Canonical s := by
  have proper : ∀ cpus, parseCPUPinning s = .ok cpus → ∀ part ∈ parts s, Index part := by
    intro cpus parsed part mem
    obtain ⟨n, denoted, low, -⟩ := (parseCPUPinning_eq_ok_iff.mp parsed).1 part mem
    exact ⟨n, denoted, low⟩
  refine ⟨⟨fun ⟨cpus, parsed⟩ => proper cpus parsed, fun all => ?_⟩, fun cpus parsed => ?_⟩
  · refine ⟨_, parseCPUPinning_eq_ok_iff.mpr ⟨fun part mem => ?_, rfl⟩⟩
    obtain ⟨n, denoted, low⟩ := all part mem
    exact ⟨n, denoted, low, (fits all).small n (mem_filterMap.mpr ⟨part, mem, denoted⟩)⟩
  · have inOrder := (fits (proper cpus parsed)).inOrder
    obtain ⟨-, rfl⟩ := parseCPUPinning_eq_ok_iff.mp parsed
    exact ⟨(distinct_sorted_iff fun _ => .rfl).mpr ⟨.nil, inOrder⟩, by simp [mem_distinct]⟩

theorem Canonical.unique {t : Text} {cpus' : List Int} (first : Canonical s)
    (second : Canonical t) (same : ∀ n, n ∈ numbers s ↔ n ∈ numbers t)
    (parsed : parseCPUPinning s = .ok cpus) (parsed' : parseCPUPinning t = .ok cpus') :
    cpus = cpus' := by
  obtain ⟨sorted, members⟩ := first.sorted cpus parsed
  obtain ⟨sorted', members'⟩ := second.sorted cpus' parsed'
  have perm : cpus.Perm cpus' :=
    (perm_ext_iff_of_nodup (sorted.imp ne_of_lt) (sorted'.imp ne_of_lt)).mpr fun n => by
      rw [members, members', same]
  exact perm.eq_of_pairwise
    (fun _ _ _ _ below above => absurd above (lt_asymm below)) sorted sorted'

/-- The result is the sorted list of the CPUs exactly if the numbers of a proper list are in order
and fit; two such texts with the same CPUs have the same result. -/
theorem parseCPUPinning_canonical_iff (s : Text) :
    (Canonical s ↔ ((∀ part ∈ parts s, Index part) → Fits s)) ∧
      ∀ t, Canonical s → Canonical t → (∀ n, n ∈ numbers s ↔ n ∈ numbers t) →
        ∀ a b, parseCPUPinning s = .ok a → parseCPUPinning t = .ok b → a = b :=
  ⟨⟨Canonical.fits, canonical_of_fits⟩, fun _ first second same _ _ => first.unique second same⟩

/-- Two spellings of the same CPUs, with different results. -/
theorem descending_cpus_unsorted : parseCPUPinning "3,2".toList = .ok [3, 2] ∧
    parseCPUPinning "2,3".toList = .ok [2, 3] ∧ ¬ ∀ s, Canonical s := by
  have parsed : parseCPUPinning "3,2".toList = .ok [3, 2] := by decide
  refine ⟨parsed, by decide, fun canonical => ?_⟩
  have sorted := ((canonical _).sorted _ parsed).1
  revert sorted
  decide

end Vee.CPUPinning
