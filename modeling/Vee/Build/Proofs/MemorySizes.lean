import Mathlib.Data.List.DropRight
import Vee.Build.Overrides
import Vee.GPU.Rebar

/-!
# What a size means

Two parsers read memory sizes, that of the GPU checks and that of the macOS helper. Both multiply
as `uint64`. They differ on bare numbers, on terabytes and on blanks before the unit.
-/

namespace Vee

open List Option

variable {s : String} {text digits : Text} {n b : Nat}

/-- The size that a text denotes, of any magnitude: a decimal number times its unit. -/
def denoted (unit : Char → Option Nat) (bare : Nat) (s : String) : Option Nat :=
  let trimmed := trimSpace s.toList
  trimmed.getLast?.bind fun last =>
    let digits := trimSpace (if (unit last).isSome then trimmed.dropLast else trimmed)
    if digits = [] then none else (digitsValue digits).map (· * (unit last).getD bare)

/-! ### Reading numbers -/

theorem parseUint64_eq_some : parseUint64 text = some n ↔
    text ≠ [] ∧ digitsValue text = some n ∧ n < 2 ^ 64 := by
  unfold parseUint64
  split <;> simp_all [filter_eq_some_iff]

theorem trimSpace_of_digits (read : parseUint64 text = some n) : trimSpace text = text := by
  obtain ⟨-, value, -⟩ := parseUint64_eq_some.mp read
  unfold digitsValue at value
  split at value
  · rename_i digits
    exact trimSpace_eq_self fun c mem => isGoSpace_of_isDigit (all_eq_true.mp digits c mem)
  · cases value

theorem trimSpace_trimSpace (text : Text) : trimSpace (trimSpace text) = trimSpace text := by
  have front : (trimSpace text).dropWhile isGoSpace = trimSpace text := by
    refine dropWhile_eq_self_iff.mpr fun nonempty blank => ?_
    have start : trimSpace text <+: text.dropWhile isGoSpace := rdropWhile_prefix _ _
    have head := dropWhile_get_zero_not isGoSpace text (nonempty.trans_le start.length_le)
    rw [start.getElem nonempty] at blank
    exact head blank
  show rdropWhile isGoSpace ((trimSpace text).dropWhile isGoSpace) = trimSpace text
  rw [front]
  exact rdropWhile_idempotent _ _

/-! ### The product -/

section Ends
variable {last : Char} (ends : (trimSpace s.toList).getLast? = some last)
include ends

theorem parseMemoryBytes_eq : (parseMemoryBytes s).toOption =
      (parseUint64 (trimSpace (if (sizeSuffix last).isSome then (trimSpace s.toList).dropLast
        else trimSpace s.toList))).map fun n => n * (sizeSuffix last).getD (2 ^ 20) % 2 ^ 64 := by
  unfold parseMemoryBytes parseUint
  simp only [ends]
  cases parseUint64 _ <;> rfl

theorem gpu_parseMemoryBytes_eq : (GPU.parseMemoryBytes s).toOption =
      (parseUint64 (if (GPU.memoryUnit last).isSome then (trimSpace s.toList).dropLast
        else trimSpace s.toList)).map fun n => n * (GPU.memoryUnit last).getD 1 % 2 ^ 64 := by
  unfold GPU.parseMemoryBytes parseUint
  simp only [ends]
  cases GPU.memoryUnit last with
  | some unit =>
    simp only [isSome_some, if_true]
    cases parseUint64 _ <;> rfl
  | none =>
    simp only [isSome_none, Bool.false_eq_true, if_false]
    cases read : parseUint64 (trimSpace s.toList) with
    | none => rfl
    | some n =>
      have small := (parseUint64_eq_some.mp read).2.2
      simpa [Except.toOption] using (Nat.mod_eq_of_lt small).symm

theorem denoted_eq_some {unit : Char → Option Nat} {bare : Nat}
    (read : parseUint64 (trimSpace (if (unit last).isSome then (trimSpace s.toList).dropLast
      else trimSpace s.toList)) = some n) :
    denoted unit bare s = some (n * (unit last).getD bare) := by
  obtain ⟨given, value, -⟩ := parseUint64_eq_some.mp read
  unfold denoted
  simp only [ends, bind_some]
  rw [if_neg given, value, map_some]

end Ends

theorem parseMemoryBytes_wraps (parsed : parseMemoryBytes s = .ok b) :
    ∃ v, denoted sizeSuffix (2 ^ 20) s = some v ∧ b = v % 2 ^ 64 := by
  cases ends : (trimSpace s.toList).getLast? with
  | none =>
    simp [parseMemoryBytes, ends] at parsed
  | some last =>
    have result := (parseMemoryBytes_eq ends).symm.trans (congrArg Except.toOption parsed)
    obtain ⟨n, read, rfl⟩ := map_eq_some_iff.mp result
    exact ⟨_, denoted_eq_some ends read, rfl⟩

theorem gpu_parseMemoryBytes_wraps (parsed : GPU.parseMemoryBytes s = .ok b) :
    ∃ v, denoted GPU.memoryUnit 1 s = some v ∧ b = v % 2 ^ 64 := by
  cases ends : (trimSpace s.toList).getLast? with
  | none =>
    simp [GPU.parseMemoryBytes, ends] at parsed
  | some last =>
    have result := (gpu_parseMemoryBytes_eq ends).symm.trans (congrArg Except.toOption parsed)
    obtain ⟨n, read, rfl⟩ := map_eq_some_iff.mp result
    have plain := trimSpace_of_digits read
    exact ⟨_, denoted_eq_some ends (plain.symm ▸ read), rfl⟩

theorem trailingZeros64_two_pow {k : Nat} (small : k < 64) : GPU.trailingZeros64 (2 ^ k) = k := by
  have first : (range 64).find? (2 ^ k).testBit = some k := by
    refine find?_range_eq_some.mpr ⟨Nat.testBit_two_pow_self, mem_range.mpr small, ?_⟩
    intro j before
    simp [Nat.testBit_two_pow_of_ne before.ne']
  rw [GPU.trailingZeros64, first, getD_some]

theorem parseRebarSize_spec {e : Int} (parsed : GPU.parseRebarSize s = .ok e) :
    0 ≤ e ∧ GPU.parseMemoryBytes s = .ok (2 ^ e.toNat * 2 ^ 20) := by
  unfold GPU.parseRebarSize at parsed
  split at parsed
  · cases parsed
  rename_i b read
  simp only at parsed
  split at parsed
  · cases parsed
  split at parsed
  · cases parsed
  rename_i single
  obtain ⟨k, rfl⟩ := (Nat.and_sub_one_eq_zero_iff_isPowerOfTwo (by omega)).mp (not_not.mp single)
  obtain ⟨v, -, wrapped⟩ := gpu_parseMemoryBytes_wraps read
  have high : k < 64 := (Nat.pow_lt_pow_iff_right (a := 2) (by decide)).mp (by omega)
  have low : 20 ≤ k := (Nat.pow_le_pow_iff_right (a := 2) (by decide)).mp (by omega)
  rw [trailingZeros64_two_pow high] at parsed
  cases parsed
  refine ⟨by omega, ?_⟩
  rw [read, ← pow_add]
  congr 2
  omega

/-- A size that is accepted is the one that is denoted, if that one fits into 64 bits, and only
then. -/
theorem memory_sizes_exact_iff (s : String) :
    (∀ b, GPU.parseMemoryBytes s = .ok b →
      ∃ v, denoted GPU.memoryUnit 1 s = some v ∧ (b = v ↔ v < 2 ^ 64)) ∧
    (∀ b, parseMemoryBytes s = .ok b →
      ∃ v, denoted sizeSuffix (2 ^ 20) s = some v ∧ (b = v ↔ v < 2 ^ 64)) ∧
    ∀ e, GPU.parseRebarSize s = .ok e →
      ∃ v, denoted GPU.memoryUnit 1 s = some v ∧ 0 ≤ e ∧
        (v = 2 ^ e.toNat * 2 ^ 20 ↔ v < 2 ^ 64) := by
  refine ⟨fun b parsed => ?_, fun b parsed => ?_, fun e parsed => ?_⟩
  · obtain ⟨v, value, rfl⟩ := gpu_parseMemoryBytes_wraps parsed
    exact ⟨v, value, Nat.mod_eq_iff_lt (by decide)⟩
  · obtain ⟨v, value, rfl⟩ := parseMemoryBytes_wraps parsed
    exact ⟨v, value, Nat.mod_eq_iff_lt (by decide)⟩
  · obtain ⟨natural, read⟩ := parseRebarSize_spec parsed
    obtain ⟨v, value, wrapped⟩ := gpu_parseMemoryBytes_wraps read
    refine ⟨v, value, natural, ?_⟩
    rw [wrapped, eq_comm]
    exact Nat.mod_eq_iff_lt (by decide)

theorem wrapped_sizes_accepted :
    denoted GPU.memoryUnit 1 "17179869185G" = some (2 ^ 64 + 2 ^ 30) ∧
      denoted sizeSuffix (2 ^ 20) "17179869185G" = some (2 ^ 64 + 2 ^ 30) ∧
      GPU.parseMemoryBytes "17179869185G" = .ok (2 ^ 30) ∧
      parseMemoryBytes "17179869185G" = .ok (2 ^ 30) ∧
        GPU.parseRebarSize "17179869185G" = .ok 10 := by
  decide

/-! ### Two parsers -/

theorem memoryUnit_eq (c : Char) : GPU.memoryUnit c = (sizeSuffix c).filter (· < 2 ^ 40) := by
  unfold GPU.memoryUnit
  unfold sizeSuffix
  split <;> first | rfl | (split <;> first | rfl | simp_all)

/-- What the macOS helper reads as a number is bare and zero, or has one of the units that both
know, without a blank before it. -/
def ReadAlike (trimmed : Text) : Prop :=
  ∀ last ∈ trimmed.getLast?,
    ∀ n ∈ parseUint64 (trimSpace (if (sizeSuffix last).isSome then trimmed.dropLast else trimmed)),
      if (sizeSuffix last).isSome then
        (GPU.memoryUnit last).isSome ∧ trimSpace trimmed.dropLast = trimmed.dropLast
      else n = 0

theorem suffixed_agree {unit : Nat → Nat} :
    (parseUint64 text).map unit = (parseUint64 (trimSpace text)).map unit ↔
      ∀ n ∈ parseUint64 (trimSpace text), trimSpace text = text := by
  constructor
  · intro same n read
    rw [mem_def.mp read] at same
    obtain ⟨m, read, -⟩ := map_eq_some_iff.mp same
    exact trimSpace_of_digits read
  · intro plain
    cases read : parseUint64 (trimSpace text) with
    | some n => rw [← plain n read, read]
    | none =>
      cases direct : parseUint64 text with
      | none => rfl
      | some n =>
        rw [trimSpace_of_digits direct, direct] at read
        cases read

theorem bare_agree :
    (parseUint64 text).map (· * 1 % 2 ^ 64) = (parseUint64 text).map (· * 2 ^ 20 % 2 ^ 64) ↔
      ∀ n ∈ parseUint64 text, n = 0 := by
  cases read : parseUint64 text with
  | none => simp
  | some n =>
    have small := (parseUint64_eq_some.mp read).2.2
    simp only [map_some, some.injEq, mem_def, forall_eq', mul_one]
    constructor
    · intro same
      have divides := Nat.dvd_of_mod_eq_zero (Nat.sub_mod_eq_zero_of_mod_eq same.symm)
      rw [← Nat.mul_sub_one] at divides
      have coprime : Nat.Coprime (2 ^ 64) (2 ^ 20 - 1) := by decide
      exact Nat.eq_zero_of_dvd_of_lt (coprime.dvd_of_dvd_mul_right divides) small
    · rintro rfl
      rfl

theorem parseUint64_of_unit {last : Char} {unit : Nat} (ends : text.getLast? = some last)
    (known : sizeSuffix last = some unit) : parseUint64 text = none := by
  refine eq_none_iff_forall_ne_some.mpr fun n read => ?_
  obtain ⟨-, value, -⟩ := parseUint64_eq_some.mp read
  unfold digitsValue at value
  split at value
  · rename_i digits
    have digit := all_eq_true.mp digits last (mem_of_getLast? ends)
    rw [sizeSuffix_of_isDigit digit] at known
    cases known
  · cases value

theorem memory_sizes_agree_iff (s : String) :
    (GPU.parseMemoryBytes s).toOption = (parseMemoryBytes s).toOption ↔
      ReadAlike (trimSpace s.toList) := by
  cases ends : (trimSpace s.toList).getLast? with
  | none => simp [ReadAlike, GPU.parseMemoryBytes, parseMemoryBytes, ends, Except.toOption]
  | some last =>
    rw [gpu_parseMemoryBytes_eq ends, parseMemoryBytes_eq ends]
    unfold ReadAlike
    simp only [ends, mem_some_iff, forall_eq']
    have shared := memoryUnit_eq last
    cases known : sizeSuffix last with
    | none =>
      rw [known, filter_none] at shared
      simpa [shared, trimSpace_trimSpace] using bare_agree
    | some unit =>
      rw [known] at shared
      by_cases small : unit < 2 ^ 40
      · rw [filter_some_pos (by simpa using small)] at shared
        simpa [shared] using suffixed_agree
      · rw [filter_some_neg (by simpa using small)] at shared
        simp [shared, parseUint64_of_unit ends known, eq_none_iff_forall_ne_some,
          eq_comm (a := none)]

theorem bare_number_read_twice :
    GPU.parseMemoryBytes "4096" = .ok 4096 ∧ parseMemoryBytes "4096" = .ok (2 ^ 32) := by
  decide

/-! ### The minimums of a macOS guest -/

theorem parseMemoryBytes_mebibytes (small : n < 2 ^ 44) :
    parseMemoryBytes (toString n ++ "M") = .ok (n * 2 ^ 20) := by
  have spelled : (toString n ++ "M").toList = Nat.toDigits 10 n ++ ['M'] := by simp
  have trimmed := trimSpace_toDigits (n := n)
    (forall_mem_singleton.mpr (by decide : isGoSpace 'M' = false))
  have digits := parseUint64_toDigits (n := n) (by omega)
  have unit : sizeSuffix 'M' = some (2 ^ 20) := rfl
  unfold parseMemoryBytes
  simp only [spelled, trimmed, getLast?_concat, unit, isSome_some, if_true, dropLast_concat,
    trimSpace_of_digits digits, parseUint, digits, getD_some]
  rw [Nat.mod_eq_of_lt (by omega)]

def MemoryReaches (memory : String) (bytes : Nat) : Prop :=
  ∃ v, parseMemoryBytes memory = .ok v ∧ bytes ≤ v

theorem all_below_iff {memory : String} :
    (parseMemoryBytes memory).toOption.all (· < n) = true ↔ ¬ MemoryReaches memory n := by
  unfold MemoryReaches
  cases parseMemoryBytes memory <;> simp [Except.toOption]

theorem intOfUint64_small (small : n < 2 ^ 63) : intOfUint64 n = n :=
  Int.bmod_eq_of_le_mul_two (by omega) (by omega)

section Clamp

variable {cfg : VMConfig} {mac : MacOSConfig} (has : cfg.macOS = some mac)
  (cpus : 0 < mac.minCPUs) (few : mac.minCPUs < 2 ^ 63) (bytes : 0 < mac.minMemoryBytes)

include has

theorem clamp_macOS : (clampMacOSMinimums cfg).macOS = some mac := by
  simp only [clampMacOSMinimums, has]

include cpus few in
theorem clamp_cpus : mac.minCPUs ≤ (clampMacOSMinimums cfg).cpus ∧
      (mac.minCPUs ≤ cfg.cpus → (clampMacOSMinimums cfg).cpus = cfg.cpus) := by
  simp only [clampMacOSMinimums, has, intOfUint64_small few]
  split <;> omega

include bytes in
theorem clamp_memory :
    MemoryReaches cfg.memory mac.minMemoryBytes ∧ (clampMacOSMinimums cfg).memory = cfg.memory ∨
      ¬ MemoryReaches cfg.memory mac.minMemoryBytes ∧
        (clampMacOSMinimums cfg).memory = toString (mac.minMemoryBytes / 2 ^ 20) ++ "M" := by
  simp only [clampMacOSMinimums, has]
  by_cases reaches : MemoryReaches cfg.memory mac.minMemoryBytes
  · exact .inl ⟨reaches, if_neg fun below => all_below_iff.mp below.2 reaches⟩
  · exact .inr ⟨reaches, if_pos ⟨bytes, all_below_iff.mpr reaches⟩⟩

theorem clamp_eq_self (enough : mac.minCPUs ≤ cfg.cpus)
    (settled : MemoryReaches cfg.memory mac.minMemoryBytes ∨
      cfg.memory = toString (mac.minMemoryBytes / 2 ^ 20) ++ "M") :
    clampMacOSMinimums cfg = cfg := by
  have cpus : ¬ (mac.minCPUs > 0 ∧ (cfg.cpus ≤ 0 ∨ cfg.cpus < mac.minCPUs)) := by omega
  have memory : (if mac.minMemoryBytes > 0 ∧
        (parseMemoryBytes cfg.memory).toOption.all (· < mac.minMemoryBytes) then
      toString (mac.minMemoryBytes / 2 ^ 20) ++ "M" else cfg.memory) = cfg.memory := by
    rcases settled with reaches | same
    · exact if_neg fun below => all_below_iff.mp below.2 reaches
    · rw [same, ite_self]
  unfold clampMacOSMinimums
  simp only [has]
  rw [if_neg cpus, memory, ← has]

end Clamp

/-- Everything that the clamp promises, but for minimums that are no whole number of MiB. -/
theorem clamp_reaches_minimums_iff (cfg : VMConfig) (mac : MacOSConfig)
    (has : cfg.macOS = some mac) (cpus : 1 ≤ mac.minCPUs ∧ mac.minCPUs < 2 ^ 31)
    (bytes : 1 ≤ mac.minMemoryBytes ∧ mac.minMemoryBytes < 2 ^ 63) :
    (mac.minCPUs ≤ (clampMacOSMinimums cfg).cpus ∧
      MemoryReaches (clampMacOSMinimums cfg).memory mac.minMemoryBytes ∧
      (mac.minCPUs ≤ cfg.cpus → (clampMacOSMinimums cfg).cpus = cfg.cpus) ∧
      (MemoryReaches cfg.memory mac.minMemoryBytes →
        (clampMacOSMinimums cfg).memory = cfg.memory) ∧
      clampMacOSMinimums (clampMacOSMinimums cfg) = clampMacOSMinimums cfg) ↔
      2 ^ 20 ∣ mac.minMemoryBytes ∨ MemoryReaches cfg.memory mac.minMemoryBytes := by
  obtain ⟨enough, kept⟩ := clamp_cpus has cpus.1 (cpus.2.trans (by decide))
  have again := clamp_eq_self (clamp_macOS has) enough
  rcases clamp_memory has bytes.1 with ⟨reaches, same⟩ | ⟨short, raised⟩
  · exact ⟨fun _ => .inr reaches, fun _ => ⟨enough, same ▸ reaches, kept, fun _ => same,
      again (.inl (same ▸ reaches))⟩⟩
  have read := parseMemoryBytes_mebibytes (n := mac.minMemoryBytes / 2 ^ 20) (by omega)
  have rounded : MemoryReaches (clampMacOSMinimums cfg).memory mac.minMemoryBytes ↔
      2 ^ 20 ∣ mac.minMemoryBytes := by
    rw [raised]
    unfold MemoryReaches
    simp only [read, Except.ok.injEq, exists_eq_left']
    omega
  exact ⟨fun promised => .inl (rounded.mp promised.2.1), fun whole => ⟨enough,
    rounded.mpr (whole.resolve_right short), kept, fun reaches => absurd reaches short,
    again (.inr raised)⟩⟩

/-- A guest whose image asks for two processors and this much memory. -/
def smallMac (bytes : Nat) : VMConfig :=
  { name := "mac", macOS := some { minCPUs := 2, minMemoryBytes := bytes } }

theorem four_gigabytes_reached :
    MemoryReaches (clampMacOSMinimums (smallMac (2 ^ 32))).memory (2 ^ 32) :=
  ((clamp_reaches_minimums_iff (smallMac (2 ^ 32)) _ rfl (by decide) (by decide)).mpr
    (.inl (by decide))).2.1

theorem odd_minimum_missed :
    parseMemoryBytes (clampMacOSMinimums (smallMac (2 ^ 32 + 1))).memory = .ok (2 ^ 32) := by
  decide

end Vee
