import Mathlib.Logic.Basic

/-!
# VM configurations

The persistent description of a VM, from `internal/vm/config.go` and
`internal/backend/backend.go`. Only the fields that a modelled function reads or
writes are here.
-/

namespace Vee

/-- `backend.Name`: the two known backends, and whatever else a hand-edited file
may hold. -/
inductive Backend where
  | qemu
  | vz
  | unknown (name : String)
  deriving DecidableEq, Repr

/-- The text in the file. -/
def Backend.text : Backend → String
  | .qemu => "qemu"
  | .vz => "vz"
  | .unknown name => name

/-- `BackendName`, of a config or of a state: an empty field means QEMU. -/
def backendName (field : String) : Backend :=
  if field = "" ∨ field = "qemu" then .qemu
  else if field = "vz" then .vz
  else .unknown field

/-- A disk of a VM. -/
structure DiskConfig where
  path : String := ""
  size : String := ""
  format : String := ""
  interface : String := ""
  media : String := ""
  cache : String := ""
  readonly : Bool := false
  backingFile : String := ""
  serial : String := ""
  passthrough : Bool := false
  imageFile : Bool := false
  bootIndex : Nat := 0
  installISO : Bool := false
  scratch : Bool := false
  deriving DecidableEq, Repr

namespace DiskConfig

/-- One-shot installer image: flagged as such, or any cdrom (configs written
before the flag existed). -/
def isInstallISO (d : DiskConfig) : Bool := d.installISO || d.media == "cdrom"

/-- One-shot install scratch space. -/
def isScratch (d : DiskConfig) : Bool := d.scratch

end DiskConfig

/-- The extensions of a path that names a file; other paths name a directory. -/
def diskFileSuffixes : List String :=
  ["qcow2", "qcow", "img", "raw", "iso", "vmdk", "vdi", "vhd"]

/-- The name of a disk in a directory. -/
def generatedName (vmName size format : String) : String :=
  "disk-" ++ vmName ++ "-" ++ size ++ "." ++ format

/-- The network card of a VM. -/
structure NICConfig where
  mode : String := ""
  bridge : String := ""
  model : String := ""
  mac : String := ""
  deriving DecidableEq, Repr

/-- `GPUMode`; the field is a free text in the file. -/
inductive GPUMode where
  | unset
  | none
  | virtio
  | passthrough
  | appleGFX
  | helios
  | other (name : String)
  deriving DecidableEq, Repr

namespace GPUMode

/-- The text in the file. -/
def text : GPUMode → String
  | .unset => ""
  | .none => "none"
  | .virtio => "virtio"
  | .passthrough => "passthrough"
  | .appleGFX => "apple-gfx"
  | .helios => "helios"
  | .other name => name

/-- The mode a text names. -/
def ofString (name : String) : GPUMode :=
  if name = "" then .unset
  else if name = "none" then .none
  else if name = "virtio" then .virtio
  else if name = "passthrough" then .passthrough
  else if name = "apple-gfx" then .appleGFX
  else if name = "helios" then .helios
  else .other name

end GPUMode

/-- `GPUConfig`. `disableGL` is never persisted. -/
structure GPUConfig where
  mode : GPUMode := .unset
  pciAddr : String := ""
  extraVFIOAddrs : List String := []
  antiDetect : Bool := false
  glBackend : String := ""
  venus : Bool := false
  hostMem : String := ""
  pointer : String := ""
  vnc : String := ""
  renderNode : String := ""
  disableGL : Bool := false
  deriving DecidableEq, Repr

/-- `MacOSConfig`, without the restore blobs. -/
structure MacOSConfig where
  screenSharingGrantPending : Bool := false
  screenSharingUnsupported : Bool := false
  minCPUs : Nat := 0
  minMemoryBytes : Nat := 0
  deriving DecidableEq, Repr

/-- The firmware of a VM. -/
structure UEFIConfig where
  enabled : Bool := false
  codePath : String := ""
  deriving DecidableEq, Repr

/-- The SPICE display of a VM. -/
structure SPICEConfig where
  port : Int := 0
  disableTicketing : Bool := false
  deriving DecidableEq, Repr

/-- A directory of the host that the guest mounts by its tag. -/
structure VirtiofsMount where
  sharedDir : String
  tag : String
  readonly : Bool := false
  deriving DecidableEq, Repr

/-- `CloudInitConfig`, as far as overrides touch it. -/
structure CloudInitConfig where
  password : String := ""
  deriving DecidableEq, Repr

/-- The software TPM of a VM. -/
structure TPMConfig where
  enabled : Bool
  deriving DecidableEq, Repr

/-- `ServiceProtocol`; other texts are legal in the file and are never HTTP. -/
inductive ServiceProtocol where
  | http
  | https
  | spice
  | tcp
  | other (name : String)
  deriving DecidableEq, Repr

/-- A service that the guest offers on a port. -/
structure ServiceEntry where
  name : String
  port : Int
  protocol : ServiceProtocol
  deriving DecidableEq, Repr

/-- What is saved of a VM. -/
structure VMConfig where
  name : String := ""
  template : String := ""
  backend : String := ""
  qemuBinary : String := ""
  qemuEnv : List String := []
  memory : String := ""
  cpus : Int := 0
  sockets : Int := 0
  cores : Int := 0
  threads : Int := 0
  cpuModel : String := ""
  cpuFlags : List String := []
  machineType : String := ""
  nested : Bool := false
  globals : List String := []
  disks : List DiskConfig := []
  nic : NICConfig := {}
  gpu : GPUConfig := {}
  uefi : UEFIConfig := {}
  macOS : Option MacOSConfig := none
  spice : Option SPICEConfig := none
  virtiofsMounts : List VirtiofsMount := []
  cloudInit : Option CloudInitConfig := none
  tpm : Option TPMConfig := none
  sshUser : String := ""
  sshShare : Bool := false
  vsock : Bool := false
  headless : Bool := false
  sshPort : Int := 0
  guestAgent : Bool := false
  extraDevices : List String := []
  installDevices : List String := []
  hostname : String := ""
  trueNASAPIKey : String := ""
  trueNASUser : String := ""
  services : List ServiceEntry := []
  rtc : String := ""
  autoStart : Bool := false
  skipInstall : Bool := false
  kernel : String := ""
  deriving DecidableEq, Repr

namespace VMConfig

variable (cfg : VMConfig)

/-- `VMConfig.BackendName`. -/
def backendName : Backend := Vee.backendName cfg.backend

/-- Some disk is a one-shot installer image. -/
def hasInstallISO : Bool := cfg.disks.any (·.isInstallISO)

/-- The disks that stay once the install is over. -/
def installedDisks : List DiskConfig :=
  cfg.disks.filter fun d => !d.isScratch && !d.isInstallISO

/-- No disk of the config belongs to the installer. -/
def NoInstaller : Prop :=
  ∀ d ∈ cfg.disks, d.isInstallISO = false ∧ d.isScratch = false
deriving Decidable

/-- What is left after stripping holds nothing of the installer. -/
theorem noInstaller_installedDisks :
    ({ cfg with disks := cfg.installedDisks } : VMConfig).NoInstaller := by
  intro d mem
  simp only [installedDisks, List.mem_filter, Bool.and_eq_true, Bool.not_eq_true'] at mem
  exact ⟨mem.2.2, mem.2.1⟩

end VMConfig

end Vee
