import Mathlib.Data.List.Nodup
import Mathlib.Data.List.Pairwise
import Vee.QEMU.VFIO

/-!
# The PCIe topology of passed-through devices

The root ports of a machine are always distinct and declared before they are used. Two functions
of one host device sit on one port as the same functions only if one is the GPU, as function 0,
and the address of the other is written like the GPU's.
-/

namespace Vee.QEMU

open List

/-- A host address: a PCI address with the domain written or left out. -/
structure HostAddress where
  domain : Option Text
  bus : Text
  slot : Text
  function : Fin 8
  plain : ∀ part ∈ domain.toList ++ [bus, slot], ':' ∉ part ∧ '.' ∉ part

namespace HostAddress

variable (a b : HostAddress)

/-- What stands before the function. -/
def stem : Text := [':'].intercalate (a.domain.toList ++ [a.bus, a.slot])

/-- The address as it is written. -/
def text : Text := a.stem ++ ['.', Nat.digitChar a.function]

/-- The address with its domain written. -/
def normalised : HostAddress where
  domain := some (a.domain.getD "0000".toList)
  bus := a.bus
  slot := a.slot
  function := a.function
  plain := by
    intro part member
    rcases List.mem_cons.mp member with rfl | member
    · cases given : a.domain with
      | none => decide
      | some domain => exact a.plain domain (by simp [given])
    · exact a.plain part (List.mem_append_right _ member)

/-- The same physical device: domain, bus and slot are the same. -/
def SameDevice : Prop := a.normalised.stem = b.normalised.stem
deriving Decidable

end HostAddress

def rootPorts (args : List DeviceArg) : List (String × Nat) :=
  args.filterMap fun
    | .rootPort id slot => some (id, slot)
    | .vfio _ => none

structure ValidTopology (devices : List VFIODevice) : Prop where
  ids_distinct : ((rootPorts (devices.flatMap VFIODevice.declares)).map Prod.fst).Nodup
  slots_distinct : ((rootPorts (devices.flatMap VFIODevice.declares)).map Prod.snd).Nodup
  functions_distinct : (devices.map fun d => (d.busID, d.guestFunction)).Nodup
  /-- Two functions of one physical device share a root port and keep their numbers. -/
  together : ∀ d ∈ devices, ∀ e ∈ devices, ∀ a b : HostAddress, d.pciAddr = a.text →
    e.pciAddr = b.text → a.SameDevice b → a.function ≠ b.function →
    d.busID = e.busID ∧ d.guestFunction = (a.function : Nat) ∧ e.guestFunction = (b.function : Nat)
  /-- A root port is declared before the devices that use it. -/
  declared : ∀ before d behind, devices.flatMap VFIODevice.declares = before ++ .vfio d :: behind →
    ∃ slot, .rootPort d.busID slot ∈ before

/-- The other functions of the GPU's device are written like it, and it is function 0 then; no two
functions of another device are passed through, nor the GPU a second time with one of its
functions. -/
structure Placeable (primary : HostAddress) (extras : List HostAddress) : Prop where
  spelled : ∀ x ∈ extras, primary.SameDevice x → x.function ≠ primary.function →
    x.domain = primary.domain ∧ primary.function = 0
  others : ∀ x ∈ extras, ∀ y ∈ extras, x.SameDevice y → x.function ≠ y.function →
    primary.SameDevice x ∧ x.function ≠ primary.function

namespace Passthrough

section Addresses

variable {a b : HostAddress}

theorem stem_eq_iff : a.stem = b.stem ↔ a.domain = b.domain ∧ a.bus = b.bus ∧ a.slot = b.slot := by
  constructor
  · intro same
    have split : ∀ c : HostAddress, c.stem.splitOn ':' = c.domain.toList ++ [c.bus, c.slot] := by
      intro c
      exact splitOn_intercalate ':' (fun part mem => (c.plain part mem).1) (by simp)
    have parts := congrArg (splitOn ':') same
    rw [split, split] at parts
    cases given : a.domain <;> cases given' : b.domain <;> simp_all
  · rintro ⟨domain, bus, slot⟩
    rw [HostAddress.stem, HostAddress.stem, domain, bus, slot]

theorem sameDevice_iff : a.SameDevice b ↔
    a.domain.getD "0000".toList = b.domain.getD "0000".toList ∧
      a.bus = b.bus ∧ a.slot = b.slot := by
  rw [HostAddress.SameDevice, stem_eq_iff]
  simp only [HostAddress.normalised, Option.some.injEq]

theorem dot_not_mem_digit (f : Fin 8) : '.' ∉ [Nat.digitChar f] := by
  revert f
  decide

theorem cutLast_text (a : HostAddress) :
    cutLast '.' a.text = some (a.stem, [Nat.digitChar a.function]) := by
  have other : Nat.digitChar a.function ≠ '.' := by
    intro same
    exact dot_not_mem_digit a.function (same ▸ mem_cons_self)
  simp [cutLast, cutFirst, HostAddress.text, other]

theorem functionNumber_text (a : HostAddress) : functionNumber a.text = (a.function : Nat) := by
  have read : ∀ f : Fin 8, (scanInt [Nat.digitChar f]).getD 0 = (f : Nat) := by decide
  rw [functionNumber, cutLast_text]
  exact read a.function

theorem text_eq_iff : a.text = b.text ↔ a.stem = b.stem ∧ a.function = b.function := by
  constructor
  · intro same
    have cut := congrArg (cutLast '.') same
    have number := congrArg functionNumber same
    rw [cutLast_text, cutLast_text] at cut
    rw [functionNumber_text, functionNumber_text] at number
    exact ⟨(Prod.mk.inj (Option.some.inj cut)).1, Fin.ext (Int.ofNat_inj.mp number)⟩
  · rintro ⟨stem, function⟩
    rw [HostAddress.text, HostAddress.text, stem, function]

/-- `normalizePCIAddr` writes the domain. -/
theorem normalizePCIAddr_text (a : HostAddress) : normalizePCIAddr a.text = a.normalised.text := by
  have count : ∀ part ∈ a.domain.toList ++ [a.bus, a.slot], part.count ':' = 0 :=
    fun part member => count_eq_zero.mpr (a.plain part member).1
  have digit : Nat.digitChar a.function ≠ ':' := by
    generalize a.function = f
    revert f
    decide
  cases given : a.domain with
  | none =>
    rw [given] at count
    have one : a.text.count ':' = 1 := by
      simp [HostAddress.text, HostAddress.stem, given, intercalate_cons_cons,
        count a.bus (by simp), count a.slot (by simp), digit]
    rw [normalizePCIAddr, if_pos (.inr one)]
    simp [HostAddress.text, HostAddress.stem, HostAddress.normalised, given,
      intercalate_cons_cons]
  | some domain =>
    rw [given] at count
    have two : a.text.count ':' = 2 := by
      simp [HostAddress.text, HostAddress.stem, given, intercalate_cons_cons,
        count domain (by simp), count a.bus (by simp), count a.slot (by simp), digit]
    have present : ':' ∈ a.text := count_pos_iff.mp (by omega)
    rw [normalizePCIAddr, if_neg (by simp [present, two])]
    simp [HostAddress.text, HostAddress.stem, HostAddress.normalised, given]

theorem sameSlot_text :
    sameSlot a.text b.text = true ↔ a.stem = b.stem ∧ a.function ≠ b.function := by
  simp only [sameSlot, cutLast_text, Bool.and_eq_true, decide_eq_true_eq, ne_eq, text_eq_iff,
    not_and]
  exact ⟨fun ⟨stem, other⟩ => ⟨stem, other stem⟩, fun ⟨stem, other⟩ => ⟨stem, fun _ => other⟩⟩

theorem sameDevice_of_stem (same : a.stem = b.stem) : a.SameDevice b := by
  obtain ⟨domain, bus, slot⟩ := stem_eq_iff.mp same
  exact sameDevice_iff.mpr ⟨by rw [domain], bus, slot⟩

end Addresses

section Devices

variable {primary : VFIODevice} {addrs : List Text} {nextSlot : Nat} {d : VFIODevice}

theorem rootPortID_injective : Function.Injective rootPortID := by
  intro n m same
  have texts := congrArg String.toList same
  simp only [rootPortID, String.toList_append, append_cancel_left_eq] at texts
  exact toString_injective (String.toList_inj.mp texts)

/-- An extra device is a function on the GPU's port or has a port of its own. -/
theorem mem_extraVFIODevices (mem : d ∈ extraVFIODevices primary nextSlot addrs) :
    d.pciAddr ∈ addrs ∧ (sameSlot primary.pciAddr d.pciAddr = true ∧ d.busID = primary.busID ∧
          d.guestFunction = functionNumber d.pciAddr ∨
        sameSlot primary.pciAddr d.pciAddr = false ∧ d.emitRootPort = true ∧ d.guestFunction = 0 ∧
          ∃ slot, nextSlot ≤ slot ∧ d.busID = rootPortID slot) := by
  induction addrs generalizing nextSlot with
  | nil => cases mem
  | cons addr addrs ih =>
    unfold extraVFIODevices at mem
    split at mem
    · rename_i same
      rcases mem_cons.mp mem with rfl | mem
      · exact ⟨mem_cons_self, .inl ⟨same, rfl, rfl⟩⟩
      · obtain ⟨inAddrs, kind⟩ := ih mem
        exact ⟨mem_cons_of_mem addr inAddrs, kind⟩
    · rename_i other
      rcases mem_cons.mp mem with rfl | mem
      · have other := Bool.eq_false_iff.mpr other
        exact ⟨mem_cons_self, .inr ⟨other, rfl, rfl, nextSlot, le_rfl, rfl⟩⟩
      · obtain ⟨inAddrs, kind⟩ := ih mem
        refine ⟨mem_cons_of_mem addr inAddrs, kind.imp_right ?_⟩
        rintro ⟨other, emits, first, slot, beyond, named⟩
        exact ⟨other, emits, first, slot, Nat.le_of_succ_le beyond, named⟩

theorem exists_extraVFIODevice (primary : VFIODevice) (nextSlot : Nat) {addr : Text}
    (mem : addr ∈ addrs) :
    ∃ d ∈ extraVFIODevices primary nextSlot addrs, d.pciAddr = addr := by
  induction addrs generalizing nextSlot with
  | nil => cases mem
  | cons first addrs ih =>
    unfold extraVFIODevices
    rcases mem_cons.mp mem with rfl | mem
    · split <;> exact ⟨_, mem_cons_self, rfl⟩
    · split
      · obtain ⟨d, found, same⟩ := ih nextSlot mem
        exact ⟨d, mem_cons_of_mem _ found, same⟩
      · obtain ⟨d, found, same⟩ := ih (nextSlot + 1) mem
        exact ⟨d, mem_cons_of_mem _ found, same⟩

theorem rootPorts_extra (primary : VFIODevice) (addrs : List Text) (nextSlot : Nat) :
    ∃ count, rootPorts ((extraVFIODevices primary nextSlot addrs).flatMap VFIODevice.declares) =
      (List.range' nextSlot count).map fun slot => (rootPortID slot, slot) := by
  induction addrs generalizing nextSlot with
  | nil => exact ⟨0, rfl⟩
  | cons addr addrs ih =>
    unfold extraVFIODevices
    split
    · exact ih nextSlot
    · obtain ⟨count, ports⟩ := ih (nextSlot + 1)
      refine ⟨count + 1, ?_⟩
      rw [range'_succ, map_cons, ← ports]
      rfl

theorem extra_functions_distinct (own : primary.busID = rootPortID 1) (later : 1 < nextSlot)
    (apart : addrs.Pairwise fun x y => sameSlot primary.pciAddr x = true →
      sameSlot primary.pciAddr y = true → functionNumber x ≠ functionNumber y) :
    ((extraVFIODevices primary nextSlot addrs).map fun d => (d.busID, d.guestFunction)).Nodup := by
  induction addrs generalizing nextSlot with
  | nil => exact nodup_nil
  | cons addr addrs ih =>
    obtain ⟨first, rest⟩ := pairwise_cons.mp apart
    unfold extraVFIODevices
    split
    · rename_i isSibling
      rw [map_cons, nodup_cons]
      refine ⟨fun mem => ?_, ih later rest⟩
      obtain ⟨d, found, same⟩ := mem_map.mp mem
      obtain ⟨sameBus, sameFunction⟩ := Prod.mk.inj same
      obtain ⟨inAddrs, kind⟩ := mem_extraVFIODevices found
      rcases kind with ⟨isSibling', -, function⟩ | ⟨-, -, -, slot, beyond, named⟩
      · exact first d.pciAddr inAddrs isSibling isSibling' (sameFunction.symm.trans function)
      · have shared : slot = 1 := rootPortID_injective (named.symm.trans (sameBus.trans own))
        omega
    · rw [map_cons, nodup_cons]
      refine ⟨fun mem => ?_, ih (Nat.lt_succ_of_lt later) rest⟩
      obtain ⟨d, found, same⟩ := mem_map.mp mem
      have sameBus : d.busID = rootPortID nextSlot := (Prod.mk.inj same).1
      obtain ⟨-, kind⟩ := mem_extraVFIODevices found
      rcases kind with ⟨-, onPrimary, -⟩ | ⟨-, -, -, slot, beyond, named⟩
      · have shared : nextSlot = 1 :=
          rootPortID_injective (sameBus.symm.trans (onPrimary.trans own))
        omega
      · have shared : slot = nextSlot := rootPortID_injective (named.symm.trans sameBus)
        omega

end Devices

section Topology

variable {p x : HostAddress} {extras : List HostAddress} {romBar : Bool} {romFile : String}
  {d : VFIODevice}

def gpu (p : HostAddress) (romBar : Bool) (romFile : String) : VFIODevice :=
  { newVFIODevice p.text with romBar := romBar || romFile ≠ "", romFile := romFile }

def extraDevices (p : HostAddress) (romBar : Bool) (romFile : String)
    (extras : List HostAddress) : List VFIODevice :=
  extraVFIODevices (gpu p romBar romFile) 2 (extras.map HostAddress.text)

/-- Where the device of an extra address is: it is a function on the GPU's port, or it has a port of
its own. -/
inductive Placed (p x : HostAddress) (d : VFIODevice) : Prop where
  | shared (stem : p.stem = x.stem) (differs : p.function ≠ x.function)
      (bus : d.busID = rootPortID 1) (function : d.guestFunction = (x.function : Nat))
  | own (other : ¬ (p.stem = x.stem ∧ p.function ≠ x.function)) (emits : d.emitRootPort = true)
      (first : d.guestFunction = 0) (slot : Nat) (beyond : 1 < slot)
      (bus : d.busID = rootPortID slot)

theorem text_injective {a b : HostAddress} (same : a.text = b.text) : a = b := by
  obtain ⟨stem, function⟩ := text_eq_iff.mp same
  obtain ⟨domain, bus, slot⟩ := stem_eq_iff.mp stem
  cases a
  cases b
  cases domain
  cases bus
  cases slot
  cases function
  rfl

theorem placed_of_mem (mem : d ∈ extraDevices p romBar romFile extras)
    (named : d.pciAddr = x.text) : x ∈ extras ∧ Placed p x d := by
  obtain ⟨inAddrs, kind⟩ := mem_extraVFIODevices mem
  obtain ⟨y, isExtra, same⟩ := mem_map.mp inAddrs
  obtain rfl : y = x := text_injective (same.trans named)
  rw [named] at kind
  refine ⟨isExtra, ?_⟩
  rcases kind with ⟨isSibling, bus, function⟩ | ⟨other, emits, first, slot, beyond, bus⟩
  · obtain ⟨stem, differs⟩ := sameSlot_text.mp isSibling
    exact .shared stem differs bus (function.trans (functionNumber_text y))
  · refine .own (fun isSibling => ?_) emits first slot beyond bus
    have shared : sameSlot p.text y.text = true := sameSlot_text.mpr isSibling
    exact absurd (shared.symm.trans other) (by decide)

theorem exists_placed (p : HostAddress) (romBar : Bool) (romFile : String) (mem : x ∈ extras) :
    ∃ d ∈ extraDevices p romBar romFile extras, d.pciAddr = x.text ∧ Placed p x d := by
  obtain ⟨d, found, named⟩ := exists_extraVFIODevice (gpu p romBar romFile) 2
    (mem_map_of_mem (f := HostAddress.text) mem)
  exact ⟨d, found, named, (placed_of_mem found named).2⟩

theorem Placed.together (placed : Placed p x d) (placeable : Placeable p extras)
    (isExtra : x ∈ extras) (same : p.SameDevice x) (differs : x.function ≠ p.function) :
    d.busID = rootPortID 1 ∧ d.guestFunction = (x.function : Nat) ∧ p.function = 0 := by
  obtain ⟨domain, first⟩ := placeable.spelled x isExtra same differs
  cases placed with
  | shared _ _ bus function => exact ⟨bus, function, first⟩
  | own other =>
    obtain ⟨-, bus, slot⟩ := sameDevice_iff.mp same
    exact absurd ⟨stem_eq_iff.mpr ⟨domain.symm, bus, slot⟩, Ne.symm differs⟩ other

theorem SameDevice.symm {a b : HostAddress} (same : a.SameDevice b) : b.SameDevice a := Eq.symm same

theorem together_of_placeable (placeable : Placeable p extras) {d e : VFIODevice}
    (first : d ∈ gpu p romBar romFile :: extraDevices p romBar romFile extras)
    (second : e ∈ gpu p romBar romFile :: extraDevices p romBar romFile extras) {a b : HostAddress}
    (named : d.pciAddr = a.text) (named' : e.pciAddr = b.text) (same : a.SameDevice b)
    (differs : a.function ≠ b.function) :
    d.busID = e.busID ∧ d.guestFunction = (a.function : Nat) ∧
      e.guestFunction = (b.function : Nat) := by
  rcases mem_cons.mp first with rfl | first
  · obtain rfl : p = a := text_injective named
    rcases mem_cons.mp second with rfl | second
    · exact absurd (congrArg HostAddress.function (text_injective named')) differs
    · obtain ⟨isExtra, placed⟩ := placed_of_mem second named'
      obtain ⟨bus, function, zero⟩ := placed.together placeable isExtra same (Ne.symm differs)
      exact ⟨bus.symm, by rw [zero]; rfl, function⟩
  · obtain ⟨isExtra, placed⟩ := placed_of_mem first named
    rcases mem_cons.mp second with rfl | second
    · obtain rfl : p = b := text_injective named'
      obtain ⟨bus, function, zero⟩ :=
        placed.together placeable isExtra (SameDevice.symm same) differs
      exact ⟨bus, function, by rw [zero]; rfl⟩
    · obtain ⟨isExtra', placed'⟩ := placed_of_mem second named'
      obtain ⟨near, other⟩ := placeable.others a isExtra b isExtra' same differs
      obtain ⟨near', other'⟩ :=
        placeable.others b isExtra' a isExtra (SameDevice.symm same) (Ne.symm differs)
      obtain ⟨bus, function, -⟩ := placed.together placeable isExtra near other
      obtain ⟨bus', function', -⟩ := placed'.together placeable isExtra' near' other'
      exact ⟨bus.trans bus'.symm, function, function'⟩

theorem functions_distinct (distinct : (extras.map HostAddress.normalised).Nodup)
    (placeable : Placeable p extras) :
    ((gpu p romBar romFile :: extraDevices p romBar romFile extras).map
      fun d => (d.busID, d.guestFunction)).Nodup := by
  rw [map_cons, nodup_cons]
  constructor
  · intro mem
    obtain ⟨d, found, same⟩ := mem_map.mp mem
    obtain ⟨onPort, zero⟩ : d.busID = rootPortID 1 ∧ d.guestFunction = 0 := Prod.mk.inj same
    obtain ⟨x, -, named⟩ := mem_map.mp (mem_extraVFIODevices found).1
    obtain ⟨isExtra, placed⟩ := placed_of_mem found named.symm
    cases placed with
    | own _ _ _ slot beyond bus =>
      have isFirst := rootPortID_injective (bus.symm.trans onPort)
      omega
    | shared stem differs _ function =>
      -- the GPU would have to be function 0 as well
      obtain ⟨-, first⟩ := placeable.spelled x isExtra (sameDevice_of_stem stem) (Ne.symm differs)
      have isZero : x.function = 0 := Fin.ext (Int.ofNat_inj.mp (function.symm.trans zero))
      exact differs (first.trans isZero.symm)
  · refine extra_functions_distinct rfl (by decide) ?_
    rw [pairwise_map]
    refine (pairwise_map.mp distinct).imp fun differ near near' same => differ ?_
    obtain ⟨stem, -⟩ := sameSlot_text.mp near
    obtain ⟨stem', -⟩ := sameSlot_text.mp near'
    rw [functionNumber_text, functionNumber_text] at same
    have function := Fin.ext (Int.ofNat_inj.mp same)
    rw [text_injective (text_eq_iff.mpr ⟨stem.symm.trans stem', function⟩)]

/-- A root port is declared before its devices, if each device declares its port or finds it
declared. -/
theorem declared_before {devices : List VFIODevice} (earlier : List DeviceArg)
    (known : ∀ d ∈ devices, d.emitRootPort = true ∨ ∃ slot, .rootPort d.busID slot ∈ earlier)
    {before behind : List DeviceArg}
    (split : devices.flatMap VFIODevice.declares = before ++ .vfio d :: behind) :
    ∃ slot, .rootPort d.busID slot ∈ earlier ++ before := by
  induction devices generalizing before with
  | nil => simp at split
  | cons first devices ih =>
    have rest := @ih fun e mem => known e (mem_cons_of_mem first mem)
    rw [flatMap_cons, VFIODevice.declares] at split
    cases before with
    | nil =>
      split at split
      · cases (cons.inj split).1
      · rename_i silent
        obtain rfl : first = d := by simpa using (cons.inj split).1
        rcases known first mem_cons_self with emits | ⟨slot, found⟩
        · exact absurd emits silent
        · exact ⟨slot, mem_append_left _ found⟩
    | cons arg before =>
      split at split
      · obtain ⟨isPort, tail⟩ := cons.inj split
        cases before with
        | nil =>
          obtain rfl : first = d := by simpa using (cons.inj tail).1
          rw [← isPort]
          exact ⟨first.slot, mem_append_right _ mem_cons_self⟩
        | cons arg' before =>
          obtain ⟨slot, found⟩ := rest (cons.inj tail).2
          refine ⟨slot, ?_⟩
          rcases mem_append.mp found with found | found
          · exact mem_append_left _ found
          · exact mem_append_right _ (mem_cons_of_mem _ (mem_cons_of_mem _ found))
      · obtain ⟨slot, found⟩ := rest (cons.inj split).2
        refine ⟨slot, ?_⟩
        rcases mem_append.mp found with found | found
        · exact mem_append_left _ found
        · exact mem_append_right _ (mem_cons_of_mem _ found)

/-- The GPU declares its port first, and every other device its own one or the GPU's. -/
theorem gpu_declared_before {before behind : List DeviceArg}
    (split : (gpu p romBar romFile :: extraDevices p romBar romFile extras).flatMap
      VFIODevice.declares = before ++ .vfio d :: behind) :
    ∃ slot, .rootPort d.busID slot ∈ before := by
  cases before with
  | nil => cases (cons.inj split).1
  | cons arg before =>
    obtain ⟨isPort, tail⟩ := cons.inj split
    cases before with
    | nil =>
      obtain rfl : gpu p romBar romFile = d := by simpa using (cons.inj tail).1
      exact ⟨1, isPort ▸ mem_cons_self⟩
    | cons arg' before =>
      obtain ⟨isGPU, others⟩ := cons.inj tail
      rw [← isPort, ← isGPU]
      refine declared_before (gpu p romBar romFile).declares (fun d mem => ?_) others
      obtain ⟨x, -, named⟩ := mem_map.mp (mem_extraVFIODevices mem).1
      cases (placed_of_mem mem named.symm).2 with
      | shared _ _ bus => exact .inr ⟨1, bus ▸ mem_cons_self⟩
      | own _ emits => exact .inl emits

theorem placeable_of_valid
    (valid : ValidTopology (gpu p romBar romFile :: extraDevices p romBar romFile extras)) :
    Placeable p extras := by
  constructor
  · intro x isExtra same differs
    obtain ⟨d, found, named, placed⟩ := exists_placed p romBar romFile isExtra
    obtain ⟨bus, zero, -⟩ := valid.together _ mem_cons_self d
      (mem_cons_of_mem _ found) p x rfl named same (Ne.symm differs)
    have first : p.function = 0 := Fin.ext (Int.ofNat_inj.mp zero).symm
    cases placed with
    | shared stem => exact ⟨(stem_eq_iff.mp stem).1.symm, first⟩
    | own _ _ _ slot beyond own =>
      have isFirst : slot = 1 := rootPortID_injective (own.symm.trans bus.symm)
      omega
  · intro x isExtra y isExtra' same differs
    obtain ⟨d, found, named, placed⟩ := exists_placed p romBar romFile isExtra
    obtain ⟨e, found', named', placed'⟩ := exists_placed p romBar romFile isExtra'
    obtain ⟨bus, function, function'⟩ := valid.together d (mem_cons_of_mem _ found) e
      (mem_cons_of_mem _ found') x y named named' same differs
    cases placed with
    | shared stem other => exact ⟨sameDevice_of_stem stem, Ne.symm other⟩
    | own _ _ first slot beyond own =>
      cases placed' with
      | shared _ _ onFirst =>
        have isFirst : slot = 1 := rootPortID_injective (own.symm.trans (bus.trans onFirst))
        omega
      | own _ _ first' =>
        -- both would be function 0
        refine absurd (Fin.ext (Int.ofNat_inj.mp ?_)) differs
        rw [← function, ← function', first, first']

theorem valid_of_placeable (distinct : (extras.map HostAddress.normalised).Nodup)
    (placeable : Placeable p extras) :
    ValidTopology (gpu p romBar romFile :: extraDevices p romBar romFile extras) := by
  obtain ⟨count, ports⟩ := rootPorts_extra (gpu p romBar romFile) (extras.map HostAddress.text) 2
  have allPorts : rootPorts ((gpu p romBar romFile ::
      extraDevices p romBar romFile extras).flatMap VFIODevice.declares) =
        (range' 1 (count + 1)).map fun slot => (rootPortID slot, slot) := by
    rw [range'_succ, map_cons, ← ports]
    rfl
  refine ⟨?_, ?_, functions_distinct distinct placeable, ?_, ?_⟩
  · rw [allPorts, map_map]
    exact (nodup_range' _).map rootPortID_injective
  · rw [allPorts, map_map]
    exact (nodup_range' _).map fun _ _ => id
  · exact fun d first e second a b => together_of_placeable placeable first second
  · exact fun before d behind => gpu_declared_before

end Topology

end Passthrough

/-- The devices of a GPU and distinct extra addresses form a valid topology exactly if the other
functions of the GPU's device are written like it, with the GPU as function 0, and there are no
two functions of another device. -/
theorem valid_topology_iff (p : HostAddress) (extras : List HostAddress)
    (distinct : (extras.map HostAddress.normalised).Nodup) (romBar : Bool) (romFile : String) :
    ValidTopology (vfioDevices p.text romBar romFile (extras.map HostAddress.text)) ↔
      Placeable p extras := by
  exact ⟨Passthrough.placeable_of_valid, Passthrough.valid_of_placeable distinct⟩

/-- Function 0 of the device at 08:00, with the domain. -/
def vga : HostAddress := ⟨some "0000".toList, "08".toList, "00".toList, 0, by decide⟩

def audio : HostAddress := ⟨some "0000".toList, "08".toList, "00".toList, 1, by decide⟩

def shortVGA : HostAddress := ⟨none, "08".toList, "00".toList, 0, by decide⟩

/-- A GPU with its domain and its audio function. -/
theorem gpu_with_audio_valid :
    String.ofList vga.text = "0000:08:00.0" ∧ String.ofList audio.text = "0000:08:00.1" ∧
      ValidTopology (vfioDevices vga.text false "" ([audio].map HostAddress.text)) := by
  refine ⟨by decide, by decide, ?_⟩
  refine (valid_topology_iff vga [audio] (nodup_singleton _) false "").mpr ⟨?_, ?_⟩
  · intro x member _ _
    cases mem_singleton.mp member
    exact ⟨rfl, rfl⟩
  · intro x member y member' _ differs
    cases mem_singleton.mp member
    cases mem_singleton.mp member'
    exact absurd rfl differs

/-- Without the domain, the GPU and its audio function get two root ports. -/
theorem short_address_split :
    ¬ ValidTopology (vfioDevices shortVGA.text false "" ([audio].map HostAddress.text)) := by
  intro valid
  have devices : vfioDevices shortVGA.text false "" ([audio].map HostAddress.text) =
      [newVFIODevice shortVGA.text, newVFIOPeerDevice audio.text "pcie.2" 2] := by decide
  obtain ⟨bus, -⟩ := valid.together _ mem_cons_self _
    (mem_cons_of_mem _ mem_cons_self) shortVGA audio rfl rfl (by decide) (by decide)
  exact absurd bus (by decide)

end Vee.QEMU
