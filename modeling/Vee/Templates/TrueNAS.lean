import Vee.QEMU.Disk
import Vee.Templates.Windows

/-!
# The truenas template

`NewTruenasConfig`, `ParseDataDisk` and `truenasSerialFromPath` of
`internal/templates/truenas.go`, with `guestArchOn` (`helpers.go`). The download of the
installer is one step of the host here.
-/

namespace Vee.Templates

/-- A disk of the user, with the serial that the guest is to see. -/
structure DataDisk where
  path : String
  serial : String := ""
  deriving DecidableEq, Repr

/-- `ParseDataDisk`: a path, and a serial behind the last colon. -/
def parseDataDisk (s : String) : DataDisk :=
  match cutLast ':' s.toList with
  | some (path, serial) =>
    if path ≠ [] then { path := String.ofList path, serial := String.ofList serial }
    else { path := s }
  | none => { path := s }

/-- The serial of a disk that has none of its own. -/
def truenasSerialFromPath (devPath : String) : String := QEMU.serialFromPath devPath

/-- The passed-through disk for one data disk. -/
def truenasDataDisk (raw : String) : DiskConfig :=
  let dd := parseDataDisk raw
  { path := dd.path
    format := "raw"
    interface := "virtio"
    media := "disk"
    cache := "none"
    passthrough := true
    serial := if dd.serial = "" then truenasSerialFromPath dd.path else dd.serial }

/-- The installer and the OS disk. -/
def truenasSystemDisks (isoPath vmDir : String) : List DiskConfig :=
  [{ path := isoPath, format := "raw", interface := "none", media := "cdrom", cache := "none"
     readonly := true, installISO := true },
    { path := joinPath [vmDir, "storage", "disk-os.qcow2"], size := "16G", format := "qcow2"
      interface := "ahci", media := "disk", cache := "none" }]

def guestArchOn (hostArch imageArch distro : String) (emulate : Bool) : Except String String :=
  if imageArch = hostArch then .ok ""
  else if !emulate then
    .error ("the " ++ distro ++ " image is " ++ imageArch ++
      "-only and this host's native guest arch is " ++ hostArch ++
      " — pass --emulate to run it under TCG emulation " ++
      "(functional, but slower than a native guest)")
  else .ok imageArch

/-- What `NewTruenasConfig` asks the host. -/
structure TruenasHost where
  /-- `platform.DefaultGuestArch`. -/
  arch : String
  /-- The path of the installer of a version, downloaded. -/
  image : String → Except String String

def newTruenasConfig (host : TruenasHost) (conf : ProviderConfig) (name version bridge : String)
    (dataDisks : List String) (emulate : Bool) : Except String VMConfig := do
  let version := if version = "" then "latest" else version
  let bridge := if bridge = "" then "br0" else bridge
  let _ ← guestArchOn host.arch "x86_64" "truenas" emulate
  let isoPath ← host.image version
  let vmDir := joinPath [conf.storagePath, name]
  return {
    name := name
    template := "truenas"
    memory := "6G"
    cpus := 2
    sockets := 1
    cores := 1
    threads := 2
    cpuModel := conf.defaultCPUModel
    nic := { mode := "bridge", bridge := bridge, model := "virtio-net-pci" }
    gpu := { mode := .none }
    guestAgent := true
    uefi := { enabled := true }
    spice := some { port := 0, disableTicketing := true }
    services := [{ name := "spice", port := 0, protocol := .spice },
      { name := "truenas-ui", port := 443, protocol := .https }]
    disks := truenasSystemDisks isoPath vmDir ++ dataDisks.map truenasDataDisk }

end Vee.Templates
