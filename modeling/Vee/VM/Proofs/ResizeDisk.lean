import Vee.VM.Proofs.MoveDisk

/-!
# Resizing a boot disk

The name of a managed disk has its size in it, so a resize may rename the file, and takes the
rename back if it cannot store the new size.
-/

namespace Vee.BootDisk

open List Option BootDisk.World

/-! ### Sizes -/

/-- The suffix of a unit; `1` has none. -/
def UnitSuffix (mult : Nat) : Text → Prop
  | [] => mult = 1
  | [c] => sizeSuffix c = some mult ∧ isGoSpace c = false ∧ 1 < mult
  | _ => False

variable {n mult : Nat} {suffix : Text} {spec : String}

theorem unitSuffix_split {text : Text} (unit : UnitSuffix mult suffix)
    (value : digitsValue text = some n) : text ++ suffix = [] ∧ n * mult = 0 ∨
      ∃ last, (text ++ suffix).getLast? = some last ∧ (sizeSuffix last).getD 1 = mult ∧
        (if mult > 1 then (text ++ suffix).dropLast else text ++ suffix) = text := by
  match suffix, unit with
  | [], one =>
    replace one : mult = 1 := one
    rw [append_nil, if_neg (by omega)]
    by_cases named : text = []
    · subst named
      cases value
      exact .inl ⟨rfl, Nat.zero_mul _⟩
    · have digit := isDigit_of_digitsValue value _ (getLast_mem named)
      refine .inr ⟨text.getLast named, getLast?_eq_getLast_of_ne_nil named, ?_, rfl⟩
      rw [sizeSuffix_of_isDigit digit, one]
      rfl
  | [c], ⟨named, _, large⟩ =>
    exact .inr ⟨c, by simp, by rw [named]; rfl, by rw [if_pos large, dropLast_concat]⟩

def signed (relative : Bool) (size : String) : String := if relative then "+" ++ size else size

theorem signed_false (size : String) : signed false size = size := rfl

theorem trimSpace_signed {s : Text} (relative : Bool) (plain : ∀ c ∈ s, isGoSpace c = false) :
    trimSpace (signed relative (String.ofList s)).toList = if relative then '+' :: s else s := by
  cases relative with
  | false => simpa [signed] using trimSpace_eq_self plain
  | true =>
    have all : ∀ c ∈ '+' :: s, isGoSpace c = false := forall_mem_cons.mpr ⟨by decide, plain⟩
    simpa [signed] using trimSpace_eq_self all

section Digits

variable {text : Text} (unit : UnitSuffix mult suffix) (value : digitsValue text = some n)
include unit

theorem mult_pos : 0 < mult := by
  match suffix, unit with
  | [], one => exact Nat.lt_of_lt_of_eq Nat.one_pos (Eq.symm one)
  | [c], ⟨_, _, large⟩ => exact Nat.zero_lt_of_lt large

include value

theorem unsigned_digits : ∀ c ∈ text ++ suffix, isGoSpace c = false ∧ c ≠ '+' := by
  have digit := isDigit_of_digitsValue value
  refine forall_mem_append.mpr ⟨fun c mem => ⟨isGoSpace_of_isDigit (digit c mem), ?_⟩, ?_⟩
  · rintro rfl
    exact absurd (digit _ mem) (by decide)
  · match suffix, unit with
    | [], _ => exact forall_mem_nil _
    | [c], ⟨named, plain, _⟩ =>
      refine forall_mem_singleton.mpr ⟨plain, ?_⟩
      rintro rfl
      cases named

/-- Digits with a unit are read as their product, if it is positive and fits. -/
theorem parseDiskSize_digits (relative : Bool) (result : Bool × Int) :
    parseDiskSize (signed relative (String.ofList (text ++ suffix))) = .ok result ↔
      (0 < n * mult ∧ n * mult < 2 ^ 63) ∧ result = (relative, ((n * mult : Nat) : Int)) := by
  have plain := unsigned_digits unit value
  have positive := mult_pos unit
  have split := unitSuffix_split unit value
  generalize text ++ suffix = s at *
  have unsigned : s.head? ≠ some '+' := fun sign => (plain _ (mem_of_mem_head? sign)).2 rfl
  have trimmed := trimSpace_signed relative fun c mem => (plain c mem).1
  have cut : decide ((if relative then '+' :: s else s).head? = some '+') = relative ∧
      (if (if relative then '+' :: s else s).head? = some '+' then
        (if relative then '+' :: s else s).drop 1 else if relative then '+' :: s else s) = s := by
    cases relative <;> simp [unsigned]
  unfold parseDiskSize
  simp only [trimmed, cut.1, cut.2]
  rcases split with ⟨rfl, none⟩ | ⟨last, ends, multiple, digits⟩
  · simp [none]
  simp only [ends, multiple, digits, parseInt64_digits value]
  have fits : (n : Int) > (2 ^ 63 - 1) / (mult : Int) ↔ ¬ n * mult < 2 ^ 63 := by
    rw [gt_iff_lt, Int.ediv_lt_iff_lt_mul (by exact_mod_cast positive)]
    omega
  have named : 0 < n → text ≠ [] := by
    rintro some rfl
    cases value
    cases some
  by_cases good : 0 < n * mult ∧ n * mult < 2 ^ 63
  · have some : 0 < n := Nat.pos_of_mul_pos_right good.1
    have small : n < 2 ^ 63 := lt_of_le_of_lt (Nat.le_mul_of_pos_right n positive) good.2
    simp only [if_pos (And.intro (named some) small)]
    rw [if_neg (by omega), if_neg (fits.not_left.mpr good.2)]
    rw [and_iff_right good]
    simp [eq_comm]
  · refine iff_of_false ?_ fun both => good both.1
    split
    · rename_i parsed
      obtain ⟨-, same⟩ := ite_none_right_eq_some.mp parsed
      cases same
      split
      · exact nofun
      · rw [if_pos (fits.mpr fun less => good ⟨Nat.mul_pos (by omega) positive, less⟩)]
        exact nofun
    · exact nofun

end Digits

theorem parseDiskSize_humanDiskSize (relative : Bool) {bytes : Nat} (positive : 0 < bytes)
    (small : bytes < 2 ^ 63) :
    parseDiskSize (signed relative (humanDiskSize bytes)) = .ok (relative, (bytes : Int)) := by
  have unit : ∀ (mult : Nat) (suffix : String), UnitSuffix mult suffix.toList →
      (bytes : Int) % mult = 0 → parseDiskSize (signed relative
        (toString ((bytes : Int) / mult) ++ suffix)) = .ok (relative, (bytes : Int)) := by
    intro mult suffix named divides
    have divides : bytes / mult * mult = bytes :=
      Nat.div_mul_cancel (Nat.dvd_of_mod_eq_zero (by exact_mod_cast divides))
    have text : toString ((bytes : Int) / mult) ++ suffix =
        String.ofList (Nat.toDigits 10 (bytes / mult) ++ suffix.toList) := by
      rw [← Nat.toList_repr, String.ofList_append, String.ofList_toList, String.ofList_toList]
      rfl
    rw [text, parseDiskSize_digits named digitsValue_toDigits, divides]
    exact ⟨⟨positive, small⟩, rfl⟩
  unfold humanDiskSize
  split
  · rename_i fits
    exact unit (2 ^ 40) "T" ⟨rfl, by decide, by decide⟩ fits.2
  split
  · rename_i fits
    exact unit (2 ^ 30) "G" ⟨rfl, by decide, by decide⟩ fits.2
  split
  · rename_i fits
    exact unit (2 ^ 20) "M" ⟨rfl, by decide, by decide⟩ fits.2
  · split
    · rename_i fits
      exact unit (2 ^ 10) "K" ⟨rfl, by decide, by decide⟩ fits.2
    · simpa using unit 1 "" rfl (by simp)

def sizeUnits : List (String × Nat) :=
  [("", 0), ("k", 1), ("K", 1), ("m", 2), ("M", 2), ("g", 3), ("G", 3), ("t", 4), ("T", 4)]

theorem unitSuffix_of_mem : ∀ unit ∈ sizeUnits, UnitSuffix (1024 ^ unit.2) unit.1.toList := by
  simp [sizeUnits, UnitSuffix, sizeSuffix, isGoSpace]

/-- A size is read back from what `humanDiskSize` prints. Digits with a unit are read as their exact
product, if it is positive and fits an `int64`, and refused otherwise. -/
theorem disk_sizes_exact (relative : Bool) :
    (∀ bytes : Nat, 0 < bytes → bytes < 2 ^ 63 →
      parseDiskSize (signed relative (humanDiskSize bytes)) = .ok (relative, (bytes : Int))) ∧
    ∀ (digits : String) (n : Nat), digitsValue digits.toList = some n → ∀ unit ∈ sizeUnits,
      ∀ result, parseDiskSize (signed relative (digits ++ unit.1)) = .ok result ↔
        (0 < n * 1024 ^ unit.2 ∧ n * 1024 ^ unit.2 < 2 ^ 63) ∧
          result = (relative, ((n * 1024 ^ unit.2 : Nat) : Int)) := by
  refine ⟨fun bytes => parseDiskSize_humanDiskSize relative,
    fun digits n value unit mem result => ?_⟩
  have read := parseDiskSize_digits (unitSuffix_of_mem unit mem) value relative result
  rwa [String.ofList_append, String.ofList_toList, String.ofList_toList] at read

/-- Leading zeros and a small letter. -/
theorem small_unit_read : parseDiskSize "+0060g" = .ok (true, 60 * 2 ^ 30) := by
  have read := (disk_sizes_exact true).2 "0060" 60 (by decide) ("g", 3) (by decide)
  exact (read _).mpr ⟨by decide, rfl⟩

/-! ### What a spec asks for -/

/-- The integer that a text denotes, with a sign or without. -/
def readInteger : Text → Option Int
  | '-' :: digits => if digits = [] then none else (digitsValue digits).map fun n => -(n : Int)
  | '+' :: digits => if digits = [] then none else (digitsValue digits).map fun n => (n : Int)
  | digits => if digits = [] then none else (digitsValue digits).map fun n => (n : Int)

/-- Whether a spec is relative, and the number of bytes that it denotes, of any size. -/
def specAmount (spec : String) : Option (Bool × Int) :=
  let trimmed := trimSpace spec.toList
  let relative := trimmed.head? = some '+'
  let s := if relative then trimmed.drop 1 else trimmed
  s.getLast?.bind fun last =>
    let mult := (sizeSuffix last).getD 1
    (readInteger (if mult > 1 then s.dropLast else s)).map fun n => (decide relative, n * mult)

/-- `ParseInt` reads the integers that fit. -/
theorem parseInt64_eq_some_iff {text : Text} {n : Int} : parseInt64 text = some n ↔
    readInteger text = some n ∧ -2 ^ 63 ≤ n ∧ n < 2 ^ 63 := by
  unfold parseInt64 parseUint64
  split <;> simp only [readInteger] <;> split
  case h_1.isTrue | h_2.isTrue | h_3.isTrue => simp
  all_goals cases digitsValue _ <;> grind

/-- What `ParseDiskSize` returns is what the spec denotes, positive and in range. -/
theorem specAmount_of_parse {relative : Bool} {bytes : Int}
    (parsed : parseDiskSize spec = .ok (relative, bytes)) :
    specAmount spec = some (relative, bytes) ∧ 0 < bytes ∧ bytes < 2 ^ 63 := by
  unfold parseDiskSize at parsed
  simp only at parsed
  unfold specAmount
  simp only
  split at parsed
  · cases parsed
  rename_i last ends
  split at parsed
  · rename_i n denoted
    split at parsed
    · cases parsed
    split at parsed <;> cases parsed
    have known : 0 < (sizeSuffix last).getD 1 := by
      unfold sizeSuffix
      split <;> decide
    constructor
    · rw [ends, Option.bind_some, (parseInt64_eq_some_iff.mp denoted).1]
      rfl
    · rename_i positive small
      rw [not_lt, Int.le_ediv_iff_mul_le (by exact_mod_cast known)] at small
      exact ⟨Int.mul_pos (by omega) (by exact_mod_cast known), by omega⟩
  · cases parsed

/-- A target is larger than what the disk has, and fits an `int64`. -/
theorem targetSize_spec {current target : Nat} (parsed : targetSize spec current = .ok target) :
    current < target ∧ target < 2 ^ 63 := by
  unfold targetSize at parsed
  split at parsed
  · cases parsed
  rename_i relative bytes denoted
  have small : (if relative then addInt64 current bytes else bytes) < 2 ^ 63 := by
    split
    · unfold addInt64
      omega
    · exact (specAmount_of_parse denoted).2.2
  simp only at parsed
  generalize (if relative then addInt64 current bytes else bytes) = wanted at small parsed
  split at parsed
  · cases parsed
  split at parsed <;> cases parsed
  omega

/-! ### Steps -/

/-- A `stat` fails only if nothing is there, and a rename can be taken back. -/
def trusted : Op → Answer → Bool
  | .stat _, ans => ans.error.isNone
  | .rename true _ _, ans => ans.error.isNone
  | _, _ => true

def resizeHost (site : Site) : Machine Op Op.Res World := (diskHost site).only trusted

section

variable (site : Site) (before : World) (image : List UInt8) (cfg : VMConfig) (src path : String)

/-- The image is at a path, and all that was somewhere else before is still there. -/
structure Holds (w : World) : Prop where
  whole : w.bytes (site.place path) = some image
  others : ∀ q entry, q ≠ site.place src → before.files q = some entry → w.files q = some entry
  config : w.config = cfg

abbrev Rests (path : String) : World → Prop := Holds site before image cfg path path

def Vacant : Except String Unit → World → Prop
  | .ok _ => Rests site before image cfg src
  | .error _ => fun w =>
    before.files (site.place path) = none ∧ Rests site before image cfg src w

def Carried : Except LinkError Unit → World → Prop
  | .ok _ => Holds site before image cfg src path
  | .error _ => Rests site before image cfg src

/-- What growing the image comes to: when it fails, it may have been done all the same. -/
def Grown (size : Nat) (path : String) : Except String Unit → World → Prop
  | .ok _ => Rests site before (site.qemuImg.grown image size) cfg path
  | .error _ => fun w => ∃ found, (found = image ∨ ∃ size, found = site.qemuImg.grown image size) ∧
      Rests site before found cfg path w

/-- The file of a resized disk has the path `final`, and the config is to pin `pinned`. -/
def Settled : Except String (String × Option String) → World → Prop
  | .ok (final, pinned) => fun w =>
    (final = path ∧ pinned = none ∨ final = src ∧ pinned = some src) ∧
      (final ≠ src → before.files (site.place final) = none) ∧
      Holds site before image cfg src final w
  | .error _ => fun _ => False

def Recorded (cfg' : VMConfig) : Except String ResizeResult → World → Prop
  | .ok result => fun w => result.path = path ∧ Holds site before image cfg' src path w
  | .error _ => Rests site before image cfg src

end

section Steps

variable {site : Site} {before w w' : World} {src path other : String} {image : List UInt8}
  {cfg : VMConfig} {ans : Answer} {op : Op} {answer : Except String Unit}

theorem resizeHost_exec {answer : op.Res}
    (ran : (resizeHost site).exec 0 op ans w = some (answer, w')) :
    trusted op ans = true ∧ op.exec site ans w = some (answer, w') :=
  Machine.only_exec ran

/-- A rename between paths at which there was nothing else before. -/
theorem Holds.moved (here : Holds site before image cfg src path w)
    (renamed : w.moved (site.place path) (site.place other) = some w')
    (fromFree : path = src ∨ before.files (site.place path) = none)
    (toFree : other = src ∨ before.files (site.place other) = none) :
    Holds site before image cfg src other w' := by
  refine ⟨moved_bytes here.whole renamed, ?_, (moved_config renamed).trans here.config⟩
  intro place entry foreign there
  have free : ∀ p, p = src ∨ before.files (site.place p) = none → place ≠ site.place p := by
    rintro p (rfl | free) rfl
    · exact foreign rfl
    · rw [free] at there
      cases there
  have notFrom := free path fromFree
  have notTo := free other toFree
  have kept := here.others place entry foreign there
  obtain ⟨_, -, ⟨-, rfl⟩ | rfl⟩ := moved_inv renamed
  · exact kept
  · simpa [World.put, notFrom, notTo] using kept

theorem Holds.keep {answer : op.Res} (here : Holds site before image cfg src path w)
    (ran : (resizeHost site).exec 0 op ans w = some (answer, w')) (looks : op.Looks) :
    Holds site before image cfg src path w' := by
  obtain ⟨config, files⟩ := looks.exec (resizeHost_exec ran).2
  exact ⟨bytes_eq_some.mpr (files _ _ (bytes_eq_some.mp here.whole)),
    fun q entry other there => files _ _ (here.others q entry other there),
    config.trans here.config⟩

theorem stat_step (here : Rests site before image cfg src w)
    (ran : (resizeHost site).exec 0 (.stat path) ans w = some (answer, w')) :
    Vacant site before image cfg src path answer w' := by
  have kept := here.keep ran trivial
  obtain ⟨chosen, ran⟩ := resizeHost_exec ran
  simp only [trusted, isNone_iff_eq_none] at chosen
  simp only [Op.exec, chosen] at ran
  split at ran <;> cases ran
  · exact kept
  rename_i nothing
  refine ⟨eq_none_iff_forall_ne_some.mpr fun entry there => nothing ?_, kept⟩
  by_cases same : site.place path = site.place src
  · rw [same, bytes_eq_some.mp here.whole]
    rfl
  · rw [here.others _ entry same there]
    rfl

theorem renameDisk_step {answer : Except LinkError Unit}
    (free : before.files (site.place path) = none) (here : Rests site before image cfg src w)
    (ran : (resizeHost site).exec 0 (.rename false src path) ans w = some (answer, w')) :
    Carried site before image cfg src path answer w' := by
  obtain ⟨-, ran⟩ := resizeHost_exec ran
  simp only [Op.exec] at ran
  split at ran
  · cases ran
    exact here
  · obtain ⟨world, renamed, same⟩ := map_eq_some_iff.mp ran
    cases same
    exact here.moved renamed (.inl rfl) (.inr free)

theorem undo_step {answer : Except LinkError Unit} (free : before.files (site.place path) = none)
    (here : Holds site before image cfg src path w)
    (ran : (resizeHost site).exec 0 (.rename true path src) ans w = some (answer, w')) :
    Rests site before image cfg src w' := by
  obtain ⟨chosen, ran⟩ := resizeHost_exec ran
  simp only [trusted, isNone_iff_eq_none] at chosen
  simp only [Op.exec, chosen] at ran
  obtain ⟨world, renamed, same⟩ := map_eq_some_iff.mp ran
  cases same
  exact here.moved renamed (.inr free) (.inl rfl)

theorem saveConfig_stores {cfg' : VMConfig} (here : Holds site before image cfg src path w)
    (ran : (resizeHost site).exec 0 (.saveConfig cfg') ans w = some (answer, w')) :
    Either (Holds site before image cfg' src path) (Holds site before image cfg src path)
      answer w' := by
  obtain ⟨-, ran⟩ := resizeHost_exec ran
  simp only [Op.exec] at ran
  split at ran <;> cases ran
  · exact here
  · exact ⟨here.whole, here.others, rfl⟩

theorem growImage_meets {format : String} {size : Nat} :
    Meets (resizeHost site) (Rests site before image cfg path) (growImage format path size)
      (Grown site before image cfg size path) := by
  refine .call (Grown site before image cfg size path) ?_ fun _ => .orThrow fun _ _ => id
  intro w ans answer w' here ran
  obtain ⟨-, ran⟩ := resizeHost_exec ran
  have grown : Rests site before (site.qemuImg.grown image size) cfg path
      (w.put (site.place path) (some (.file (site.qemuImg.grown image size)))) := by
    refine ⟨bytes_put_self _ _ _, fun q entry other there => ?_, here.config⟩
    simpa [World.put, other] using here.others q entry other there
  simp only [Op.exec, here.whole] at ran
  split at ran <;> cases ran
  · split
    · exact ⟨_, .inr ⟨size, rfl⟩, grown⟩
    · exact ⟨image, .inl rfl, here⟩
  · exact grown

end Steps

/-! ### The whole operation -/

section Whole

variable {site : Site} {name spec : String} {before : World} {image data : List UInt8}
  {cfg : VMConfig} {d : DiskConfig}

variable {src dst final path : String} {cfg' : VMConfig} {target current : Nat}

theorem renameResized_meets :
    Meets (resizeHost site) (Rests site before image cfg src) (renameResized src dst)
      (Settled site before image cfg src dst) := by
  unfold renameResized
  split
  · refine .call (Vacant site before image cfg src dst) (fun _ _ _ _ => stat_step) fun present => ?_
    cases present with
    | ok _ => exact .done fun w here => ⟨.inr ⟨rfl, rfl⟩, fun other => absurd rfl other, here⟩
    | error text =>
      refine .given fun free => ?_
      refine .call (Carried site before image cfg src dst)
        (fun _ _ _ _ => renameDisk_step free) fun renamed => ?_
      cases renamed with
      | ok _ => exact .done fun w here => ⟨.inl ⟨rfl, rfl⟩, fun _ => free, here⟩
      | error _ => exact .done fun w here => ⟨.inr ⟨rfl, rfl⟩, fun other => absurd rfl other, here⟩
  · rename_i same
    simp only [ne_eq, not_not] at same
    exact .done fun w here => ⟨.inl ⟨same.symm, rfl⟩, fun other => absurd rfl other, here⟩

theorem renameBack_meets {err : String} (named : final = dst ∨ final = src)
    (free : final ≠ src → before.files (site.place final) = none) :
    Meets (resizeHost site) (Holds site before image cfg src final)
      (renameBack err src dst final target) (Recorded site before image cfg src final cfg') := by
  unfold renameBack
  split
  · rename_i other
    obtain rfl := named.resolve_right other
    exact .call (fun _ => Rests site before image cfg src)
      (fun _ _ _ _ => undo_step (free other)) fun _ => .done fun _ => id
  · rename_i same
    simp only [ne_eq, not_not] at same
    subst same
    exact .done fun _ => id

theorem saveResized_meets (named : final = dst ∨ final = src)
    (free : final ≠ src → before.files (site.place final) = none) :
    Meets (resizeHost site) (Holds site before image cfg src final)
      (saveResized cfg' src dst final current target)
      (Recorded site before image cfg src final cfg') := by
  refine .call (Either (Holds _ _ _ cfg' src final) (Holds _ _ _ cfg src final))
    (fun _ _ _ _ => saveConfig_stores) fun saved => ?_
  cases saved with
  | ok _ => exact .done fun w here => ⟨rfl, here⟩
  | error err => exact renameBack_meets named free

/-- The stored config names a path at which the image is, and no other file has been touched. If
the resize succeeds, the path is the one that it returns, and the stored size is the one that
the image has been given. -/
def Agrees (site : Site) (name spec : String) (before : World) (d : DiskConfig)
    (data : List UInt8) (result : Except String ResizeResult) (w : World) : Prop :=
  ∃ d' image, w.config.disks.find? resizable = some d' ∧
    w.bytes (site.place (site.diskPath name d')) = some image ∧
    (image = data ∨ ∃ size, image = site.qemuImg.grown data size) ∧
    (∀ place entry, place ≠ site.place (site.diskPath name d) →
      before.files place = some entry → w.files place = some entry) ∧
    ∀ r, result = .ok r → site.diskPath name d' = r.path ∧
      ∃ format current size, site.qemuImg.info data = .ok (format, current) ∧
        targetSize spec current = .ok size ∧ image = site.qemuImg.grown data size ∧
        parseDiskSize d'.size = .ok (false, (size : Int))

theorem resized_resizable (target : Nat) (pinned : Option String) (d : DiskConfig) :
    resizable (resized target pinned d) = resizable d := rfl

theorem diskPath_resized (meets : resizable d = true) (target : Nat) :
    site.diskPath name (resized target (some (site.diskPath name d)) d) = site.diskPath name d := by
  have format : d.format = "qcow2" ∨ d.format = "raw" ∨ d.format = "" := by
    simp only [resizable, Bool.and_eq_true, Bool.or_eq_true, decide_eq_true_eq] at meets
    tauto
  exact diskPath_of_file site (diskPath_isFile site format) (diskPath_rooted site name d)

theorem look_meets {α : Type} {p : Disk α} (does : p.Makes Op.Looks) :
    Meets (resizeHost site) (Rests site before data cfg path) p
      fun _ => Rests site before data cfg path :=
  (Meets.of_does (fun _ looks _ _ _ _ here ran => here.keep ran looks) does).weaken
    (fun _ => id) fun _ _ ended => ended.2

theorem imageVirtualSize_meets :
    Meets (resizeHost site) (Rests site before data cfg path) (imageVirtualSize path)
      fun result w => (∀ info, result = .ok info → site.qemuImg.info data = .ok info) ∧
        Rests site before data cfg path w := by
  refine .call (fun answer w => (∀ info, answer = .ok info → site.qemuImg.info data = .ok info) ∧
    Rests site before data cfg path w) ?_ fun answer => ?_
  · intro w ans answer w' here ran
    refine ⟨?_, here.keep ran trivial⟩
    rintro info rfl
    obtain ⟨-, ran⟩ := resizeHost_exec ran
    simp only [Op.exec, here.whole, map_some] at ran
    split at ran
    · cases ran
    · split at ran
      · rename_i format size said
        split at ran <;> cases ran
        exact some.inj said
      · cases ran
  · cases answer with
    | error text => exact .done fun w here => ⟨by simp [Except.mapError], here.2⟩
    | ok info => exact .done fun _ => id

theorem loadConfig_yields : Meets (resizeHost site) (Rests site before data cfg path) loadConfig
      (Yields cfg (Rests site before data cfg path)) := by
  refine .call (Yields cfg (Rests site before data cfg path)) ?_ fun _ => .orThrow fun _ _ => id
  intro w ans answer w' here ran
  have kept := here.keep ran trivial
  obtain ⟨-, ran⟩ := resizeHost_exec ran
  simp only [Op.exec, Answer.orFail] at ran
  split at ran <;> cases ran
  · exact kept
  · exact ⟨here.config, kept⟩

section

variable (found : cfg.disks.find? resizable = some d)

include found

theorem Holds.agrees {text : String}
    (known : image = data ∨ ∃ size, image = site.qemuImg.grown data size) {w : World}
    (here : Rests site before image cfg (site.diskPath name d) w) :
    Agrees site name spec before d data (.error text) w := by
  refine ⟨d, image, by rw [here.config, found], here.whole, known, here.others, ?_⟩
  rintro r ⟨⟩

theorem find_resized (target : Nat) (pinned : Option String) :
    (updateFirst resizable (resized target pinned) cfg.disks).find? resizable =
      some (resized target pinned d) := by
  rw [find_updateFirst resizable (resized target pinned)
    (fun d meets => (resized_resizable target pinned d).trans meets), found]
  rfl

theorem recordResize_meets {format : String} (info : site.qemuImg.info data = .ok (format, current))
    (wanted : targetSize spec current = .ok target) :
    Meets (resizeHost site)
      (Rests site before (site.qemuImg.grown data target) cfg (site.diskPath name d))
      (recordResize site name cfg d current target) (Agrees site name spec before d data) := by
  refine .bind renameResized_meets (fun text w none => none.elim) fun named => ?_
  obtain ⟨final, pinned⟩ := named
  refine .given fun which => .given fun free => ?_
  have resolves : site.diskPath name (resized target pinned d) = final := by
    rcases which with ⟨rfl, rfl⟩ | ⟨rfl, rfl⟩
    · rfl
    · exact diskPath_resized (find?_some found) target
  refine (saveResized_meets (which.imp And.left And.left) free).weaken (fun _ => id) ?_
  intro result w recorded
  cases result with
  | error text => exact recorded.agrees found (.inr ⟨target, rfl⟩)
  | ok r =>
    obtain ⟨path, here⟩ := recorded
    refine ⟨resized target pinned d, _, ?_, ?_, .inr ⟨target, rfl⟩, here.others, ?_⟩
    · rw [here.config]
      exact find_resized found target pinned
    · rw [resolves]
      exact here.whole
    · rintro r ⟨⟩
      obtain ⟨larger, small⟩ := targetSize_spec wanted
      have denoted := parseDiskSize_humanDiskSize false (Nat.zero_lt_of_lt larger) small
      rw [signed_false] at denoted
      exact ⟨resolves.trans path.symm, format, current, target, info, wanted, rfl, denoted⟩

theorem resizeFrom_meets {info : String × Nat} (known : site.qemuImg.info data = .ok info) :
    Meets (resizeHost site) (Rests site before data cfg (site.diskPath name d))
      (resizeFrom site name spec cfg d info) (Agrees site name spec before d data) := by
  unfold resizeFrom
  split
  · exact .done fun w here => here.agrees found (.inl rfl)
  · rename_i target wanted
    refine .bind growImage_meets ?_ fun _ => recordResize_meets found known wanted
    rintro text w ⟨image, origin, here⟩
    exact here.agrees found origin

theorem resizeDisk_meets :
    Meets (resizeHost site) (Rests site before data cfg (site.diskPath name d))
      (resizeDisk site name spec cfg d) (Agrees site name spec before d data) := by
  have stat : (statDisk (site.diskPath name d)).Makes Op.Looks :=
    .bind (.ask trivial) fun _ _ => .orThrow
  have tool : lookQemuImg.Makes Op.Looks :=
    .bind (.ask trivial) fun _ _ => .orThrow
  refine .bind (look_meets stat) (fun _ w here => here.agrees found (.inl rfl)) fun _ => ?_
  refine .bind (look_meets tool) (fun _ w here => here.agrees found (.inl rfl)) fun _ => ?_
  refine .bind imageVirtualSize_meets (fun _ w here => here.2.agrees found (.inl rfl))
    fun info => ?_
  exact .given fun known => resizeFrom_meets found (known info rfl)

end

/-- However `ResizeBootDisk` ends, the stored config names a path at which the image is, and no
other file has been overwritten; if it succeeds, path and size are the new ones. -/
theorem resizeBootDisk_agrees (site : Site) (name spec : String) {w w' : World}
    {result : Except String ResizeResult} {d : DiskConfig} {data : List UInt8}
    (found : w.config.disks.find? resizable = some d)
    (whole : w.bytes (site.place (site.diskPath name d)) = some data)
    (ran : Ran (resizeHost site) (resizeBootDisk site name spec) w result w') :
    Agrees site name spec w d data result w' := by
  have here : Rests site w data w.config (site.diskPath name d) w := ⟨whole, fun _ _ _ => id, rfl⟩
  have meets : Meets (resizeHost site) (Rests site w data w.config (site.diskPath name d))
      (resizeBootDisk site name spec) (Agrees site name spec w d data) := by
    refine .bind (look_meets (requireStopped_looks name))
      (fun text v here => here.agrees found (.inl rfl)) fun _ => ?_
    refine .bind loadConfig_yields (fun text v here => Holds.agrees found (.inl rfl) here)
      fun cfg => ?_
    refine .given fun known => ?_
    have same : resizeWith site name spec cfg = resizeDisk site name spec w.config d := by
      simp only [resizeWith, known, found]
    rw [same]
    exact resizeDisk_meets found
  exact meets here ran

/-- A disk of three bytes grows to eight, under its new name. -/
theorem grown_disk_agrees :
    ∃ result w', Ran (resizeHost laptop) (resizeBootDisk laptop "work" "8") imageWorld result w' ∧
      result.isOk = true ∧
      w'.bytes (laptop.place "/vms/work/disk-work-8.qcow2") = some [1, 2, 3, 0, 0, 0, 0, 0] ∧
      Agrees laptop "work" "8" imageWorld imageDisk [1, 2, 3] result w' := by
  obtain ⟨result, w', ran, ok, grown⟩ := Ran.exists_of_play (M := resizeHost laptop)
    (smooth 9) (resizeBootDisk laptop "work" "8") imageWorld
    (fun result w => result.isOk = true ∧
      w.bytes (laptop.place "/vms/work/disk-work-8.qcow2") = some [1, 2, 3, 0, 0, 0, 0, 0])
    (by decide)
  exact ⟨result, w', ran, ok, grown,
    resizeBootDisk_agrees laptop "work" "8" (by decide) (by decide) ran⟩

end Whole

end Vee.BootDisk
