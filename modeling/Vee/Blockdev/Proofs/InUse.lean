import Mathlib
import Vee.Blockdev.Mounts
import Vee.Misc.Results

/-!
# Disks in use are not offered

`parentDisk` takes a name apart by its last `p` first. For the letter-style disks whose name
ends in `p` that is wrong: the parent of `sdp1` comes out as `sd`, that of `sdap1` as `sda`.
For all other names it is the inverse of the kernel's naming.
-/

namespace Vee.Blockdev

open List

section Parent

variable {stem : Text} {c : Char}

theorem isDigit_ne_p {c : Char} (digit : c.isDigit) : c ≠ 'p' := by
  rintro rfl
  exact absurd digit (by decide)

variable (n : Digits)

theorem Digits.all : n.chars.all Char.isDigit = true := all_eq_true.mpr n.digits

theorem Digits.allDigits : Blockdev.allDigits n.chars = true := by
  have some : n.chars.isEmpty = false := by simpa using n.nonempty
  rw [Blockdev.allDigits, some, n.all]
  rfl

/-- The digits at the end of a name hold no `p`. -/
theorem takeWhile_reverse_append : (stem ++ n.chars).reverse.takeWhile (· ≠ 'p') =
      n.chars.reverse ++ stem.reverse.takeWhile (· ≠ 'p') := by
  rw [reverse_append, takeWhile_append_of_pos]
  intro c mem
  have digit := n.digits c (mem_reverse.mp mem)
  simpa using isDigit_ne_p digit

theorem parentDisk_p (some : stem ≠ []) (n : Digits) :
    parentDisk (stem ++ ['p'] ++ n.chars) = stem := by
  have tail : (stem ++ ['p'] ++ n.chars).reverse.takeWhile (· ≠ 'p') = n.chars.reverse := by
    rw [takeWhile_reverse_append, reverse_append]
    simp
  have front : (stem ++ ['p'] ++ n.chars).reverse.drop n.chars.reverse.length =
      'p' :: stem.reverse := by
    rw [reverse_append, drop_left, reverse_append]
    rfl
  unfold parentDisk
  simp only [tail, front]
  cases reversed : stem.reverse with
  | nil => exact absurd (reverse_eq_nil_iff.mp reversed) some
  | cons c before =>
    simp only [reverse_reverse, n.allDigits, if_true]
    rw [← reversed, reverse_reverse]

/-- Without a `p` before them, the trailing digits go. -/
theorem stripDigits_append (noDigit : c.isDigit = false) (n : Digits) :
    stripDigits (stem ++ [c] ++ n.chars) = stem ++ [c] := by
  have left : (stem ++ [c] ++ n.chars).reverse.dropWhile Char.isDigit = c :: stem.reverse := by
    rw [reverse_append, dropWhile_append_of_pos]
    · rw [reverse_append]
      simp [noDigit]
    · intro d mem
      exact n.digits d (mem_reverse.mp mem)
  unfold stripDigits
  simp only [left, reverse_cons, reverse_reverse]
  rw [if_pos]
  have some := length_pos_iff.mpr n.nonempty
  simp only [length_append]
  omega

/-- The part of a name behind its last `p` is no number if a letter stands in it. -/
theorem parentDisk_of_tail {name : Text}
    (letter : ∃ c ∈ name.reverse.takeWhile (· ≠ 'p'), c.isDigit = false) :
    parentDisk name = stripDigits name := by
  have noNumber : allDigits (name.reverse.takeWhile (· ≠ 'p')).reverse = false := by
    obtain ⟨c, mem, noDigit⟩ := letter
    have some : ((name.reverse.takeWhile (· ≠ 'p')).reverse.all Char.isDigit) = false := by
      rw [all_eq_false]
      exact ⟨c, mem_reverse.mpr mem, by simp [noDigit]⟩
    rw [allDigits, some, Bool.and_false]
  unfold parentDisk
  simp only [noNumber]
  split
  · rfl
  · rfl

theorem parentDisk_letter (noDigit : c.isDigit = false) (noP : c ≠ 'p') (n : Digits) :
    parentDisk (stem ++ [c] ++ n.chars) = stem ++ [c] := by
  rw [parentDisk_of_tail, stripDigits_append noDigit n]
  refine ⟨c, ?_, noDigit⟩
  rw [takeWhile_reverse_append, reverse_append]
  simp [noP]

theorem parentDisk_whole (noDigit : c.isDigit = false) : parentDisk (stem ++ [c]) = [] := by
  have nothing : stripDigits (stem ++ [c]) = [] := by
    simp [stripDigits, noDigit]
  by_cases isP : c = 'p'
  · subst isP
    unfold parentDisk
    simp only [reverse_append, reverse_singleton, singleton_append]
    simp only [takeWhile_cons, ne_eq, not_true_eq_false, decide_false, Bool.false_eq_true,
      if_false, length_nil, drop_zero, reverse_nil]
    split
    · exact nothing
    · exact nothing
  · rw [parentDisk_of_tail, nothing]
    refine ⟨c, ?_, noDigit⟩
    simp [isP]

end Parent

section Names

theorem isDigit_of_isAlpha {c : Char} (alpha : c.isAlpha) : c.isDigit = false := by
  simp only [Char.isAlpha, Char.isUpper, Char.isLower, Char.isDigit] at *
  grind

theorem getLast?_append_digits (stem : Text) (n : Digits) :
    ∃ d, (stem ++ n.chars).getLast? = some d ∧ d.isDigit = true := by
  refine ⟨n.chars.getLast n.nonempty, ?_, n.digits _ (getLast_mem _)⟩
  rw [getLast?_append_of_ne_nil _ n.nonempty, getLast?_eq_getLast_of_ne_nil]

namespace Disk

/-- The disks whose partitions are named by appending a number. -/
def letterStyle : Disk → Bool
  | .sd _ | .vd _ => true
  | .nvme _ _ | .mmcblk _ => false

theorem head_ne {d e : Disk} (letter : d.letterStyle) (digit : e.letterStyle = false) :
    d.name.head? ≠ e.name.head? := by
  cases d with
  | nvme | mmcblk => cases letter
  | sd | vd =>
    cases e with
    | sd | vd => cases digit
    | nvme | mmcblk => simp [name]

theorem name_letter {d : Disk} (letter : d.letterStyle) :
    ∃ stem c, d.name = stem ++ [c] ∧ stem ≠ [] ∧ c.isAlpha = true := by
  have ends : ∀ (a b : Char) (l : Letters), ∃ stem c,
      [a, b] ++ l.chars = stem ++ [c] ∧ stem ≠ [] ∧ c.isAlpha = true := by
    intro a b l
    refine ⟨[a, b] ++ l.chars.dropLast, l.chars.getLast l.nonempty, ?_, by simp,
      l.letters _ (getLast_mem _)⟩
    rw [append_assoc, dropLast_append_getLast]
  cases d with
  | sd letters => exact ends 's' 'd' letters
  | vd letters => exact ends 'v' 'd' letters
  | nvme | mmcblk => cases letter

theorem name_digit {d : Disk} (digit : d.letterStyle = false) :
    ∃ stem c n, d.name = stem ++ [c] ++ Digits.chars n ∧ stem.head? = d.name.head? ∧
      c.isDigit = false ∧ c ≠ 'p' := by
  cases d with
  | nvme x y => exact ⟨['n', 'v', 'm', 'e'] ++ x.chars, 'n', y, rfl, rfl, by decide, by decide⟩
  | mmcblk x => exact ⟨['m', 'm', 'c', 'b', 'l'], 'k', x, rfl, rfl, by decide, by decide⟩
  | sd | vd => cases digit

variable (e d : Disk) (n : Digits)

theorem name_ne_nil : d.name ≠ [] := by
  cases d <;> simp [name]

/-- No digit-style name has a `p`. -/
theorem p_notMem {d : Disk} (digit : d.letterStyle = false) : 'p' ∉ d.name := by
  have number : ∀ n : Digits, 'p' ∉ n.chars :=
    fun n mem => isDigit_ne_p (n.digits 'p' mem) rfl
  cases d with
  | nvme x y => simp [name, number x, number y]
  | mmcblk x => simp [name, number x]
  | sd | vd => cases digit

theorem slash_notMem : '/' ∉ d.name := by
  have number : ∀ n : Digits, '/' ∉ n.chars :=
    fun n mem => absurd (n.digits '/' mem) (by decide)
  have text : ∀ l : Letters, '/' ∉ l.chars :=
    fun l mem => absurd (l.letters '/' mem) (by decide)
  cases d with
  | sd l => simp [name, text l]
  | vd l => simp [name, text l]
  | nvme x y => simp [name, number x, number y]
  | mmcblk x => simp [name, number x]

theorem partition_letter {d : Disk} (letter : d.letterStyle) (n : Digits) :
    d.partition n = d.name ++ n.chars := by
  cases d with
  | sd | vd => rfl
  | nvme | mmcblk => cases letter

theorem partition_digit {d : Disk} (digit : d.letterStyle = false) (n : Digits) :
    d.partition n = d.name ++ ['p'] ++ n.chars := by
  cases d with
  | sd | vd => cases digit
  | nvme | mmcblk => rfl

theorem letterStyle_eq {d e : Disk} (same : d.name = e.name) : d.letterStyle = e.letterStyle := by
  cases styleD : d.letterStyle <;> cases styleE : e.letterStyle
  · rfl
  · exact absurd (congrArg head? same.symm) (head_ne styleE styleD)
  · exact absurd (congrArg head? same) (head_ne styleD styleE)
  · rfl

theorem partition_congr {d e : Disk} (same : d.name = e.name) (n : Digits) :
    d.partition n = e.partition n := by
  have style := letterStyle_eq same
  cases styleD : d.letterStyle with
  | true => rw [partition_letter styleD, partition_letter (style ▸ styleD), same]
  | false => rw [partition_digit styleD, partition_digit (style ▸ styleD), same]

theorem partition_ne_nil : d.partition n ≠ [] := by
  cases d <;> simp [partition, name]

theorem slash_notMem_partition : '/' ∉ d.partition n := by
  have number : '/' ∉ n.chars := fun mem => absurd (n.digits '/' mem) (by decide)
  cases style : d.letterStyle with
  | true => simp [partition_letter style, d.slash_notMem, number]
  | false => simp [partition_digit style, d.slash_notMem, number]

theorem partition_ne_name : e.partition n ≠ d.name := by
  intro same
  have ends : ∃ c, (e.partition n).getLast? = some c ∧ c.isDigit = true := by
    cases style : e.letterStyle with
    | true =>
      rw [partition_letter style]
      exact getLast?_append_digits _ n
    | false =>
      rw [partition_digit style]
      exact getLast?_append_digits _ n
  cases styleD : d.letterStyle with
  | true =>
    obtain ⟨stem, c, shape, -, alpha⟩ := name_letter styleD
    obtain ⟨d', last, digit⟩ := ends
    rw [same, shape, getLast?_concat] at last
    cases last
    rw [isDigit_of_isAlpha alpha] at digit
    cases digit
  | false =>
    cases style : e.letterStyle with
    | true =>
      have first : (e.partition n).head? = e.name.head? := by
        rw [partition_letter style, head?_append_of_ne_nil _ e.name_ne_nil]
      rw [same] at first
      exact head_ne style styleD first.symm
    | false =>
      have mem : 'p' ∈ e.partition n := by simp [partition_digit style]
      rw [same] at mem
      exact p_notMem styleD mem

theorem parentDisk_name_ne : parentDisk e.name ≠ d.name := by
  intro same
  cases style : e.letterStyle with
  | true =>
    obtain ⟨stem, c, shape, -, alpha⟩ := name_letter style
    rw [shape, parentDisk_whole (isDigit_of_isAlpha alpha)] at same
    exact d.name_ne_nil same.symm
  | false =>
    obtain ⟨stem, c, n, shape, first, noDigit, noP⟩ := name_digit style
    rw [shape, parentDisk_letter noDigit noP] at same
    cases styleD : d.letterStyle with
    | true =>
      have some : stem ≠ [] := by
        rintro rfl
        exact e.name_ne_nil (head?_eq_none_iff.mp first.symm)
      have front : d.name.head? = stem.head? := by
        rw [← same, head?_append_of_ne_nil _ some]
      exact head_ne styleD style (front.trans first)
    | false =>
      obtain ⟨stem', c', n', shape', -, -, -⟩ := name_digit styleD
      obtain ⟨digit, last, isDigit⟩ := getLast?_append_digits (stem' ++ [c']) n'
      rw [← shape', ← same, getLast?_concat] at last
      cases last
      rw [noDigit] at isDigit
      cases isDigit

/-- The parent of a partition is its disk, unless the disk's name ends in `p`. -/
theorem parentDisk_partition : (parentDisk (e.partition n) = e.name ∧ e.name.getLast? ≠ some 'p') ∨
      ∃ stem, e.name = stem ++ ['p'] ∧ parentDisk (e.partition n) = stem := by
  cases style : e.letterStyle with
  | false =>
    refine .inl ⟨?_, ?_⟩
    · rw [partition_digit style]
      exact parentDisk_p e.name_ne_nil n
    · intro last
      exact p_notMem style (mem_of_getLast? last)
  | true =>
    obtain ⟨stem, c, shape, some, alpha⟩ := name_letter style
    rw [partition_letter style, shape]
    by_cases isP : c = 'p'
    · subst isP
      exact .inr ⟨stem, rfl, parentDisk_p some n⟩
    · refine .inl ⟨parentDisk_letter (isDigit_of_isAlpha alpha) isP n, ?_⟩
      simpa using isP

end Disk

theorem basePath_path {name : Text} (some : name ≠ []) (noSlash : '/' ∉ name) :
    basePath (Disk.path name) = name := by
  have untouched : ∀ c ∈ name.reverse, c ≠ '/' := by
    intro c mem
    rintro rfl
    exact noSlash (mem_reverse.mp mem)
  have whole :
      ((Disk.path name).reverse.dropWhile (· = '/')).takeWhile (· ≠ '/') = name.reverse := by
    -- of the directory, only that it ends in a slash counts
    obtain ⟨above, ends⟩ : ∃ above, "/dev/".toList.reverse = '/' :: above :=
      ⟨['v', 'e', 'd', '/'], by decide⟩
    show ((("/dev/".toList ++ name).reverse.dropWhile (· = '/')).takeWhile (· ≠ '/')) = _
    rw [reverse_append, ends]
    cases reversed : name.reverse with
    | nil => exact absurd (reverse_eq_nil_iff.mp reversed) some
    | cons c rest =>
      rw [reversed] at untouched
      have first : c ≠ '/' := untouched c mem_cons_self
      rw [cons_append, dropWhile_cons_of_neg (by simpa using first), ← cons_append,
        takeWhile_append_of_pos (fun d mem => by simpa using untouched d mem)]
      simp
  have given : Disk.path name ≠ [] :=
    append_ne_nil_of_left_ne_nil (by decide : "/dev/".toList ≠ []) name
  unfold basePath
  rw [if_neg given, whole]
  cases reversed : name.reverse with
  | nil => exact absurd (reverse_eq_nil_iff.mp reversed) some
  | cons c rest =>
    change (c :: rest).reverse = name
    rw [← reversed, reverse_reverse]

end Names

section Mounts

/-- The device fields of the entries of `/proc/mounts`. -/
def deviceFields (mounts : Text) : List Text :=
  ((textLines mounts).map dropCR).filterMap deviceField

def LinesFit (text : Text) : Prop := ∀ line ∈ textLines text, tooLong line = false

def Mounted (mounts name : Text) : Prop := Disk.path name ∈ deviceFields mounts

/-- The entries for devices under `/dev` name disks and partitions. -/
def KernelNamed (mounts : Text) : Prop :=
  ∀ dev ∈ deviceFields mounts, "/dev/".toList.isPrefixOf dev →
    ∃ d : Disk, dev = Disk.path d.name ∨ ∃ n, dev = Disk.path (d.partition n)

def Disk.InUse (mounts : Text) (d : Disk) : Prop :=
  Mounted mounts d.name ∨ ∃ n, Mounted mounts (d.partition n)

/-- A partition is mounted of the disk whose name is this one's with a `p` behind. -/
def Disk.Mistaken (mounts : Text) (d : Disk) : Prop :=
  ∃ (e : Disk) (n : Digits), e.name = d.name ++ ['p'] ∧ Mounted mounts (e.partition n)

/-- `ListUnmounted` returns the device. -/
def Offered (devices : List Device) (mounts : Text) (dev : Device) : Prop :=
  ∃ out, listUnmounted (.ok devices) (.ok mounts) = .ok out ∧ dev ∈ out

variable {mounts : Text}

theorem Disk.inUse_congr {d e : Disk} (same : d.name = e.name) :
    d.InUse mounts ↔ e.InUse mounts := by
  unfold Disk.InUse
  simp only [same, Disk.partition_congr same]

theorem mem_marks_path {name k : Text} (some : name ≠ []) (noSlash : '/' ∉ name) :
    k ∈ marks (Disk.path name) ↔ k = name ∨ (k ≠ [] ∧ k = parentDisk name) := by
  have under : "/dev/".toList.isPrefixOf (Disk.path name) = true :=
    isPrefixOf_iff_prefix.mpr (prefix_append _ _)
  unfold marks
  rw [if_pos under, basePath_path some noSlash]
  by_cases parent : parentDisk name = []
  · simp only [parent, ne_eq, not_true_eq_false, if_false, mem_singleton]
    grind
  · simp only [parent, ne_eq, not_false_eq_true, if_true, mem_cons, not_mem_nil, or_false]
    grind

/-- A field that is no path under `/dev` marks nothing. -/
theorem under_dev_of_mem_marks {dev k : Text} (mem : k ∈ marks dev) :
    "/dev/".toList.isPrefixOf dev = true := by
  unfold marks at mem
  split at mem
  · assumption
  · cases mem

theorem marked_iff (named : KernelNamed mounts) (d : Disk) :
    d.name ∈ (deviceFields mounts).flatMap marks ↔
      Mounted mounts d.name ∨
        ((∃ n, Mounted mounts (d.partition n)) ∧ d.name.getLast? ≠ some 'p') ∨
          d.Mistaken mounts := by
  rw [mem_flatMap]
  constructor
  · rintro ⟨dev, field, marked⟩
    obtain ⟨e, rfl | ⟨n, rfl⟩⟩ := named dev field (under_dev_of_mem_marks marked)
    · rw [mem_marks_path e.name_ne_nil e.slash_notMem] at marked
      rcases marked with same | ⟨-, parent⟩
      · rw [same]
        exact .inl field
      · exact absurd parent.symm (e.parentDisk_name_ne d)
    · rw [mem_marks_path (e.partition_ne_nil n) (e.slash_notMem_partition n)] at marked
      rcases marked with same | ⟨-, parent⟩
      · exact absurd same.symm (e.partition_ne_name d n)
      rcases e.parentDisk_partition n with ⟨own, last⟩ | ⟨stem, ends, other⟩
      · have same : d.name = e.name := parent.trans own
        refine .inr (.inl ⟨⟨n, ?_⟩, same ▸ last⟩)
        rw [Disk.partition_congr same]
        exact field
      · have same : d.name = stem := parent.trans other
        exact .inr (.inr ⟨e, n, same ▸ ends, field⟩)
  · -- what marks the disk: its own entry, that of a partition, or one mistaken for it
    have byParent : ∀ (e : Disk) (n : Digits), Mounted mounts (e.partition n) →
        parentDisk (e.partition n) = d.name → ∃ dev ∈ deviceFields mounts, d.name ∈ marks dev := by
      intro e n field parent
      refine ⟨_, field, ?_⟩
      rw [mem_marks_path (e.partition_ne_nil n) (e.slash_notMem_partition n)]
      exact .inr ⟨d.name_ne_nil, parent.symm⟩
    rintro (own | ⟨⟨n, field⟩, last⟩ | ⟨e, n, ends, field⟩)
    · exact ⟨_, own, (mem_marks_path d.name_ne_nil d.slash_notMem).mpr (.inl rfl)⟩
    · rcases d.parentDisk_partition n with ⟨own, -⟩ | ⟨stem, ends, -⟩
      · exact byParent d n field own
      · exact absurd (by rw [ends, getLast?_concat]) last
    · rcases e.parentDisk_partition n with ⟨-, last⟩ | ⟨stem, ends', other⟩
      · exact absurd (by rw [ends, getLast?_concat]) last
      · have same : d.name = stem := append_cancel_right (ends.symm.trans ends')
        exact byParent e n field (other.trans same.symm)

theorem listUnmounted_ok (devices : List Device) (mounts : Text) :
    listUnmounted (.ok devices) (.ok mounts) =
      (mountedKernelNames mounts).map fun mounted =>
        devices.filter fun d => !mounted.contains d.name := by
  unfold listUnmounted Except.map
  cases names : mountedKernelNames mounts with
  | ok mounted => simp only [bind, Except.bind, names]; rfl
  | error text => simp only [bind, Except.bind, names]

/-- Which devices `ListUnmounted` returns. -/
theorem offered_iff {devices : List Device} {dev : Device} : Offered devices mounts dev ↔
      LinesFit mounts ∧ dev ∈ devices ∧ dev.name ∉ (deviceFields mounts).flatMap marks := by
  by_cases fits : LinesFit mounts
  · have scanned : scanLines mounts = .ok ((textLines mounts).map dropCR) := by
      rw [scanLines, if_neg]
      simpa using (show ∀ line ∈ textLines mounts, tooLong line = false from fits)
    have returned : listUnmounted (.ok devices) (.ok mounts) =
        .ok (devices.filter fun d => !((deviceFields mounts).flatMap marks).contains d.name) := by
      rw [listUnmounted_ok, mountedKernelNames, scanned]
      rfl
    unfold Offered
    rw [returned]
    simp [fits]
  · have scanned : scanLines mounts = .error "bufio.Scanner: token too long" := by
      rw [scanLines, if_pos]
      simpa [LinesFit] using fits
    have returned : listUnmounted (.ok devices) (.ok mounts) =
        .error "bufio.Scanner: token too long" := by
      rw [listUnmounted_ok, mountedKernelNames, scanned]
      rfl
    unfold Offered
    rw [returned]
    simp [fits]

/-- `ListUnmounted` returns the disks that are not in use, and no others, exactly if no
disk whose name ends in `p` is in use by its partitions alone, and nothing is
mounted from the disk that the name of a free one would be mistaken for. -/
theorem offered_iff_not_in_use (devices : List Device) (mounts : Text)
    (named : KernelNamed mounts) :
    (∀ (dev : Device) (d : Disk), dev.name = d.name →
        (Offered devices mounts dev ↔ dev ∈ devices ∧ ¬ d.InUse mounts)) ↔
      ∀ dev ∈ devices, ∀ d : Disk, dev.name = d.name →
        (d.InUse mounts → d.name.getLast? = some 'p' →
          Mounted mounts d.name ∨ d.Mistaken mounts ∨ ¬ LinesFit mounts) ∧
        (¬ d.InUse mounts → LinesFit mounts ∧ ¬ d.Mistaken mounts) := by
  have one : ∀ (dev : Device) (d : Disk), dev.name = d.name →
      (Offered devices mounts dev ↔ LinesFit mounts ∧ dev ∈ devices ∧
        ¬ (Mounted mounts d.name ∨
          ((∃ n, Mounted mounts (d.partition n)) ∧ d.name.getLast? ≠ some 'p') ∨
            d.Mistaken mounts)) := by
    intro dev d same
    rw [offered_iff, same, marked_iff named]
  constructor
  · intro correct dev listed d same
    have equiv := (one dev d same).symm.trans (correct dev d same)
    refine ⟨fun used ends => ?_, fun free => ?_⟩
    · by_contra none
      simp only [not_or, not_not] at none
      obtain ⟨noMount, noMistake, fit⟩ := none
      refine (equiv.mp ⟨fit, listed, ?_⟩).2 used
      rintro (mount | ⟨_, other⟩ | mistake)
      · exact noMount mount
      · exact other ends
      · exact noMistake mistake
    · obtain ⟨fit, _, unmarked⟩ := equiv.mpr ⟨listed, free⟩
      exact ⟨fit, fun mistake => unmarked (.inr (.inr mistake))⟩
  · intro condition dev d same
    rw [one dev d same]
    by_cases listed : dev ∈ devices
    · obtain ⟨ofUsed, ofFree⟩ := condition dev listed d same
      constructor
      · rintro ⟨fit, _, unmarked⟩
        refine ⟨listed, fun used => ?_⟩
        by_cases ends : d.name.getLast? = some 'p'
        · rcases ofUsed used ends with mount | mistake | unfit
          · exact unmarked (.inl mount)
          · exact unmarked (.inr (.inr mistake))
          · exact unfit fit
        · rcases used with mount | partition
          · exact unmarked (.inl mount)
          · exact unmarked (.inr (.inl ⟨partition, ends⟩))
      · rintro ⟨_, free⟩
        obtain ⟨fit, noMistake⟩ := ofFree free
        refine ⟨fit, listed, ?_⟩
        rintro (mount | ⟨partition, _⟩ | mistake)
        · exact free (.inl mount)
        · exact free (.inr partition)
        · exact noMistake mistake
    · simp [listed]

def firstPartition : Digits := ⟨['1'], by decide, List.forall_mem_singleton.mpr rfl⟩

/-- The mounts of a host whose root is on the first partition of a disk. -/
def rootOn (d : Disk) : Text :=
  Disk.path (d.partition firstPartition) ++ " / ext4 rw 0 0\nproc /proc proc rw 0 0\n".toList

theorem rootOn_named {d : Disk} (fields : deviceFields (rootOn d) =
    [Disk.path (d.partition firstPartition), "proc".toList]) :
    KernelNamed (rootOn d) ∧ d.InUse (rootOn d) := by
  constructor
  · intro dev field under
    rw [fields, mem_cons, mem_singleton] at field
    rcases field with root | rfl
    · exact ⟨d, .inr ⟨firstPartition, root⟩⟩
    · exact absurd under (by decide)
  · refine .inr ⟨firstPartition, ?_⟩
    rw [Mounted, fields]
    exact mem_cons_self

def sda : Disk := .sd ⟨['a'], by decide, List.forall_mem_singleton.mpr rfl⟩

def sdp : Disk := .sd ⟨['p'], by decide, List.forall_mem_singleton.mpr rfl⟩

theorem sda_in_use_withheld :
    sda.InUse (rootOn sda) ∧
      ¬ Offered [{ name := sda.name }] (rootOn sda) { name := sda.name } := by
  obtain ⟨named, used⟩ := rootOn_named (d := sda) (by decide)
  refine ⟨used, ?_⟩
  have correct := (offered_iff_not_in_use [{ name := sda.name }] (rootOn sda) named).mpr
  rw [correct _ { name := sda.name } sda rfl]
  · exact fun ⟨_, free⟩ => free used
  · intro dev listed d same
    rw [mem_singleton.mp listed] at same
    refine ⟨fun _ last => ?_, fun free => absurd ((Disk.inUse_congr same).mp used) free⟩
    rw [← same] at last
    exact absurd last (by decide)

theorem sdp_in_use_offered : KernelNamed (rootOn sdp) ∧ sdp.InUse (rootOn sdp) ∧
      Offered [{ name := sdp.name }] (rootOn sdp) { name := sdp.name } := by
  obtain ⟨named, used⟩ := rootOn_named (d := sdp) (by decide)
  exact ⟨named, used, _, rfl, by decide⟩

end Mounts

end Vee.Blockdev
