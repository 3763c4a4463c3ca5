import Vee.Misc.GoText

/-!
# Passed-through PCI devices

`VFIODevice` of `internal/qemu/vfio.go`, and the devices that `buildMachine` makes of the GPU's
address and the extra ones (`internal/vm/manager.go`). An extra address that reads like the GPU's
up to the function shares its root port; every other one gets a port of its own.
-/

namespace Vee.QEMU

/-- A host device that is passed through. -/
structure VFIODevice where
  pciAddr : Text
  busID : String
  slot : Nat := 0
  emitRootPort : Bool
  guestFunction : Int
  romBar : Bool := false
  romFile : String := ""
  multifunction : Bool := false
  deriving DecidableEq, Repr

/-- The id of the root port in a slot. -/
def rootPortID (slot : Nat) : String := "pcie." ++ toString slot

variable (pciAddr : Text)

/-- The GPU: function 0 of a multifunction device on the first root port. -/
def newVFIODevice : VFIODevice where
  pciAddr := pciAddr
  busID := "pcie.1"
  slot := 1
  emitRootPort := true
  guestFunction := 0
  multifunction := true

/-- A device on a root port of its own. -/
def newVFIOPeerDevice (busID : String) (slot : Nat) : VFIODevice where
  pciAddr := pciAddr
  busID := busID
  slot := slot
  emitRootPort := true
  guestFunction := 0

/-- A further function on the GPU's root port. -/
def newVFIOSiblingFunction (busID : String) (fn : Int) : VFIODevice where
  pciAddr := pciAddr
  busID := busID
  emitRootPort := false
  guestFunction := fn

/-- One `-device` of the command line. -/
inductive DeviceArg where
  | rootPort (id : String) (slot : Nat)
  | vfio (device : VFIODevice)

/-- What stands behind `-device`. -/
def DeviceArg.text : DeviceArg → String
  | .rootPort id slot => "pcie-root-port,id=" ++ id ++ ",slot=" ++ toString slot
  | .vfio v =>
    "vfio-pci,host=" ++ String.ofList v.pciAddr ++ ",bus=" ++ v.busID ++ "," ++
      (if v.guestFunction > 0 then "addr=0." ++ toString v.guestFunction else "addr=0x0") ++
      (if v.multifunction then ",multifunction=on" else "") ++
      (if v.romBar then "" else ",rombar=0") ++
      (if v.romFile ≠ "" then ",romfile=" ++ v.romFile else "")

namespace VFIODevice

/-- What a device declares: its root port, if it has one of its own, and itself. -/
def declares (v : VFIODevice) : List DeviceArg :=
  if v.emitRootPort then [.rootPort v.busID v.slot, .vfio v] else [.vfio v]

/-- `Args` of a device. -/
def args (v : VFIODevice) : List String := v.declares.flatMap fun arg => ["-device", arg.text]

end VFIODevice

/-- The function of an address; 0 if there is none. -/
def functionNumber : Int :=
  match cutLast '.' pciAddr with
  | none => 0
  | some (_, behind) => (scanInt behind).getD 0

/-- Two functions of one slot, as the texts are written. -/
def sameSlot (a b : Text) : Bool :=
  match cutLast '.' a, cutLast '.' b with
  | some (stem, _), some (stem', _) => stem = stem' && a ≠ b
  | _, _ => false

/-- `normalizePCIAddr` of `internal/gpu/driver.go`. -/
def normalizePCIAddr (addr : Text) : Text :=
  if ':' ∉ addr ∨ addr.count ':' = 1 then "0000:".toList ++ addr else addr

/-- The devices of the extra addresses; `nextSlot` is the slot of the next root port. -/
def extraVFIODevices (primary : VFIODevice) : Nat → List Text → List VFIODevice
  | _, [] => []
  | nextSlot, addr :: addrs =>
    if sameSlot primary.pciAddr addr then
      newVFIOSiblingFunction addr primary.busID (functionNumber addr) ::
        extraVFIODevices primary nextSlot addrs
    else
      newVFIOPeerDevice addr (rootPortID nextSlot) nextSlot ::
        extraVFIODevices primary (nextSlot + 1) addrs

/-- The devices of a GPU's address and the extra ones, in the order of the command line. -/
def vfioDevices (romBar : Bool) (romFile : String)
    (extraVFIOAddrs : List Text) : List VFIODevice :=
  let primary := { newVFIODevice pciAddr with
    romBar := romBar || romFile ≠ ""
    romFile := romFile }
  primary :: extraVFIODevices primary 2 extraVFIOAddrs

end Vee.QEMU
