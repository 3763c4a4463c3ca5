import Vee.Misc.GoText
import Vee.VM.Config

/-!
# The windows template

`NewWindowsConfig` and `windowsARM64Config` of `internal/templates/windows.go`, with
`applyHelios` (`windows_helios.go`) and `ParseDiskSize` (`internal/vm/resize.go`). The
install media is one step of the host here: it yields its path or an error. What goes into
the answer file and the first-logon script is left out, for no config depends on it.
-/

namespace Vee

/-- The fields of `provider.Config` that templates and overrides read. -/
structure ProviderConfig where
  storagePath : String
  isoCachePath : String
  defaultCPUModel : String := ""
  defaultDiskSize : String := ""
  ovmfCodePath : String := ""
  ovmfSecbootCodePath : String := ""

/-- `images.WindowsHostArch`. -/
inductive WindowsArch where
  | amd64
  | arm64
  deriving DecidableEq, Repr

/-- `images.WindowsVersion`; the flag is a free text. -/
inductive WindowsVersion where
  | windows11
  | windows10
  | windowsServer2025
  | windowsServer2022
  | other (name : String)
  deriving DecidableEq, Repr

namespace WindowsVersion

def text : WindowsVersion → String
  | .windows11 => "win11"
  | .windows10 => "win10"
  | .windowsServer2025 => "server2025"
  | .windowsServer2022 => "server2022"
  | .other name => name

/-- The version that a text names. -/
def ofString (name : String) : WindowsVersion :=
  if name = "win11" then .windows11
  else if name = "win10" then .windows10
  else if name = "server2025" then .windowsServer2025
  else if name = "server2022" then .windowsServer2022
  else .other name

end WindowsVersion

def knownWindowsVersionsForArch : WindowsArch → List WindowsVersion
  | .arm64 => [.windows11, .windows10]
  | .amd64 => [.windows11, .windows10, .windowsServer2025, .windowsServer2022]

structure HeliosOptions where
  setupExe : String
  qemuBinary : String
  hostMem : String
  vnc : String
  renderNode : String
  bootstrapVGA : Bool

/-- What the template asks the host for: its architecture, whether a path is a
directory, and the install media. -/
structure WindowsHost where
  arch : WindowsArch
  isDir : String → Except String Bool
  installMedia : Except String String

/-- `HeliosOptions.validate`. -/
def HeliosOptions.validate (h : HeliosOptions) (host : WindowsHost) : Except String Unit := do
  if h.setupExe = "" then
    throw ("helios: --helios-setup is required " ++
      "(path to HeliosSetup.exe from the Helios Windows bundle)")
  else if (pathExt h.setupExe).toLower ≠ ".exe" then
    throw ("helios: --helios-setup " ++ goQuote h.setupExe ++
      " is not an .exe — unzip helios-windows-x64-*.zip and pass HeliosSetup.exe")
  else
    match host.isDir h.setupExe with
    | .error text => throw ("helios: --helios-setup: " ++ text)
    | .ok true => throw ("helios: --helios-setup " ++ goQuote h.setupExe ++ " is a directory")
    | .ok false =>
      if h.qemuBinary = "" then
        throw ("helios: --qemu-binary is required (the qemu-helios fork's " ++
          "qemu-system-x86_64; stock QEMU cannot drive the Helios display path)")
      else
        match host.isDir h.qemuBinary with
        | .error text => throw ("helios: --qemu-binary: " ++ text)
        | .ok _ => return ()

/-- The 32-bit FNV-1a hash. -/
def fnv32a (text : String) : UInt32 :=
  text.toUTF8.data.foldl (fun hash byte => (hash ^^^ byte.toUInt32) * 16777619) 2166136261

def deterministicSSHPort (name : String) : Int := 2200 + (fnv32a name).toNat % 100

/-- The binary multiple that a size suffix stands for. -/
def sizeSuffix : Char → Option Nat
  | 'k' | 'K' => some (2 ^ 10)
  | 'm' | 'M' => some (2 ^ 20)
  | 'g' | 'G' => some (2 ^ 30)
  | 't' | 'T' => some (2 ^ 40)
  | _ => none

theorem sizeSuffix_of_isDigit {c : Char} (digit : c.isDigit = true) : sizeSuffix c = none := by
  unfold sizeSuffix
  split <;> first | rfl | exact absurd digit (by decide)

def parseDiskSize (spec : String) : Except String (Bool × Int) :=
  let trimmed := trimSpace spec.toList
  let relative := trimmed.head? = some '+'
  let s := if relative then trimmed.drop 1 else trimmed
  match s.getLast? with
  | none => .error ("empty disk size " ++ goQuote spec)
  | some last =>
    let mult := (sizeSuffix last).getD 1
    let digits := if mult > 1 then s.dropLast else s
    match parseInt64 digits with
    | some n =>
      if n ≤ 0 then
        .error ("invalid disk size " ++ goQuote spec ++ " (expected forms: 60G, 512M, +40G)")
      else if n > (2 ^ 63 - 1) / mult then .error ("disk size " ++ goQuote spec ++ " overflows")
      else .ok (relative, n * mult)
    | none => .error ("invalid disk size " ++ goQuote spec ++ " (expected forms: 60G, 512M, +40G)")

variable (conf : ProviderConfig)

def windowsOSDiskSize : String :=
  match parseDiskSize conf.defaultDiskSize with
  | .ok (relative, bytes) => if !relative && bytes ≥ 2 ^ 36 then conf.defaultDiskSize else "64G"
  | .error _ => "64G"

/-- The install media and the extras, on the interface that the board has for them. -/
def windowsInstallISO (interface path : String) : DiskConfig where
  path := path
  interface := interface
  media := "cdrom"
  cache := "none"
  readonly := true
  installISO := true

def windowsOSDisk (interface vmDir : String) : DiskConfig where
  path := joinPath [vmDir, "storage", "disk-os.qcow2"]
  size := windowsOSDiskSize conf
  format := "qcow2"
  interface := interface
  media := "disk"
  cache := "writeback"

/-- The scratch disk, which `startnet.cmd` formats. -/
def windowsScratchDisk (interface vmDir : String) : DiskConfig where
  path := joinPath [vmDir, "storage", "disk-scratch.qcow2"]
  size := "8G"
  format := "qcow2"
  interface := interface
  media := "disk"
  cache := "writeback"
  scratch := true

/-- The disks of either variant, the scratch disk last. -/
def windowsDisks (isoInterface diskInterface vmDir installISOPath
    extrasISO : String) : List DiskConfig :=
  [windowsInstallISO isoInterface installISOPath, windowsInstallISO isoInterface extrasISO,
    windowsOSDisk conf diskInterface vmDir, windowsScratchDisk diskInterface vmDir]

/-- The fields on which the two variants agree. -/
def windowsConfig (name cpuModel : String) (disks : List DiskConfig) : VMConfig where
  name := name
  template := "windows"
  memory := "8G"
  cpus := 4
  sockets := 1
  cores := 4
  threads := 1
  cpuModel := cpuModel
  nic := { mode := "user", model := "virtio-net-pci" }
  sshPort := deterministicSSHPort name
  sshUser := "vee"
  gpu := { mode := .none }
  uefi := { enabled := true }
  extraDevices := ["qemu-xhci,id=xhci", "usb-kbd,bus=xhci.0", "usb-tablet,bus=xhci.0"]
  disks := disks
  rtc := "base=localtime,clock=host"

def windowsARM64Config (name vmDir installISOPath extrasISO : String) : VMConfig :=
  let disks := windowsDisks conf "usb" "nvme" vmDir installISOPath extrasISO
  let cfg := windowsConfig name "host" disks
  { cfg with extraDevices := "ramfb" :: cfg.extraDevices }

/-- The x86 config, before `applyHelios`. -/
def windowsAMD64Config (name vmDir installISOPath extrasISO : String)
    (spicePort : Int) : VMConfig :=
  let disks := windowsDisks conf "ide" "virtio" vmDir installISOPath extrasISO
  { windowsConfig name conf.defaultCPUModel disks with
    cpuFlags := ["hv-relaxed=on", "hv-vapic=on", "hv-time=on", "hv-spinlocks=0x1fff"]
    machineType := "q35,smm=on"
    globals := ["driver=cfi.pflash01,property=secure,value=on"]
    guestAgent := true
    uefi :=
      { enabled := true
        codePath :=
          if conf.ovmfSecbootCodePath = "" then conf.ovmfCodePath else conf.ovmfSecbootCodePath }
    tpm := some { enabled := true }
    spice := some { port := spicePort, disableTicketing := true } }

def heliosVNCAddr (name : String) : String :=
  "127.0.0.1:" ++ toString (deterministicSSHPort name - 2200 + 10)

def applyHelios (h : HeliosOptions) (cfg : VMConfig) : VMConfig :=
  { cfg with
    uefi := { cfg.uefi with
      codePath := if conf.ovmfCodePath ≠ "" then conf.ovmfCodePath else cfg.uefi.codePath }
    globals := []
    spice := none
    qemuBinary := h.qemuBinary
    gpu :=
      { mode := .helios
        hostMem := h.hostMem
        vnc := if h.vnc = "" then heliosVNCAddr cfg.name else h.vnc
        renderNode := h.renderNode }
    installDevices :=
      if h.bootstrapVGA then cfg.installDevices ++ ["VGA,id=bootstrap-gpu,bus=pcie.0,addr=0x1"]
      else cfg.installDevices
    memory := "16G"
    cpus := 8
    cores := 8 }

/-- The checks of `NewWindowsConfig` that come before any download. -/
def checkWindows (host : WindowsHost) (version : WindowsVersion) (helios : Option HeliosOptions) :
    Except String Unit := do
  match helios with
  | none => pure ()
  | some h => do
    h.validate host
    if host.arch = .arm64 then
      throw "helios: the Helios driver is x64 only; arm64 Windows guests cannot use it"
  if host.arch = .arm64 ∧ version ∉ knownWindowsVersionsForArch host.arch then
    throw ("windows " ++ version.text ++
      " has no arm64 build (UUP dump publishes no arm64 Windows Server media); " ++
      "available on arm64: win11, win10")

def newWindowsConfig (host : WindowsHost) (conf : ProviderConfig) (version : WindowsVersion)
    (name : String) (spicePort : Int) (helios : Option HeliosOptions) : Except String VMConfig := do
  checkWindows host version helios
  let installISOPath ← host.installMedia
  let vmDir := joinPath [conf.storagePath, name]
  let extrasISO := joinPath [conf.isoCachePath, "win-extras-" ++ name ++ ".iso"]
  match host.arch, helios with
  | .arm64, _ => return windowsARM64Config conf name vmDir installISOPath extrasISO
  | .amd64, none => return windowsAMD64Config conf name vmDir installISOPath extrasISO spicePort
  | .amd64, some h =>
    return applyHelios conf h
      (windowsAMD64Config conf name vmDir installISOPath extrasISO spicePort)

end Vee
