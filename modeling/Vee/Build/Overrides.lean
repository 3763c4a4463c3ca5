import Vee.Templates.TrueNAS

/-!
# Overrides on a template's config

`applyOverrides` of `internal/vm/build/build.go` with its checks, section by section in
the source's order, and the windows case of `configFromTemplate`.
-/

namespace Vee

open Templates (parseDataDisk)

/-- The fields of `Opts` that the windows template and `applyOverrides` read. -/
structure Opts where
  name : String := ""
  template : String := ""
  backend : String := ""
  memory : String := ""
  cpus : Int := 0
  distroVersion : String := ""
  nicMode : String := ""
  nicBridge : String := ""
  disk : String := ""
  dataDisks : List String := []
  bootDisk : String := ""
  bootDiskPath : String := ""
  spicePort : Option Int := none
  headless : Option Bool := none
  uefi : Option Bool := none
  gpuMode : String := ""
  gpuPCI : String := ""
  antiDetect : Option Bool := none
  glBackend : String := ""
  venus : Option Bool := none
  hostMem : String := ""
  pointer : String := ""
  heliosSetup : String := ""
  qemuBinary : String := ""
  qemuEnv : List String := []
  vnc : String := ""
  renderNode : String := ""
  heliosBootstrapVGA : Bool := false
  virtiofsDir : String := ""
  virtiofsTag : String := ""
  virtiofsReadonly : Bool := false
  sshShare : Option Bool := none
  sshPort : Int := 0
  vsock : Option Bool := none
  hostname : String := ""
  password : String := ""
  nested : Bool := false
  noAutoInstall : Bool := false

/-- `gpu.PCIDevice`, as far as the companion search reads it. -/
structure PCIDevice where
  address : String
  deviceClass : String

/-- What `os.Stat` says of a path. -/
inductive FileKind where
  | device
  | regular
  | other (mode : String)
  deriving DecidableEq, Repr

/-- What `applyOverrides` asks the host for. -/
structure BuildHost where
  iommuGroupPeers : String → List PCIDevice := fun _ => []
  siblingFunctions : String → List PCIDevice := fun _ => []
  stat : String → Except String FileKind
  probeImageFormat : String → Except String String

/-- A text, unless it is empty and the default stays. -/
def orDefault (given default : String) : String := if given ≠ "" then given else default

variable (host : BuildHost) (conf : ProviderConfig) (opts : Opts) (cfg : VMConfig)

/-- The overrides up to the QEMU binary. -/
def overrideMachine : VMConfig :=
  { cfg with
    backend := orDefault opts.backend cfg.backend
    memory := orDefault opts.memory cfg.memory
    cpus := if opts.cpus > 0 then opts.cpus else cfg.cpus
    cores := if opts.cpus > 0 then opts.cpus else cfg.cores
    nic := { cfg.nic with
      mode := orDefault opts.nicMode cfg.nic.mode
      bridge := orDefault opts.nicBridge cfg.nic.bridge }
    uefi := { cfg.uefi with enabled := opts.uefi.getD cfg.uefi.enabled }
    gpu := { cfg.gpu with
      mode := if opts.gpuMode ≠ "" then .ofString opts.gpuMode else cfg.gpu.mode }
    qemuBinary := orDefault opts.qemuBinary cfg.qemuBinary }

/-- One entry passes `ValidateQemuEnv`: it has a key before its first `=`, and no NUL. -/
def validQemuEnv (entry : String) : Bool :=
  let key := entry.toList.takeWhile (· ≠ '=')
  entry.toList.contains '=' && !key.isEmpty && !entry.toList.contains '\x00'

def validateQemuEnv (env : List String) : Except String Unit :=
  match env.find? (!validQemuEnv ·) with
  | some entry => .error ("qemu_env entry " ++ goQuote entry ++ ": want KEY=VALUE")
  | none => .ok ()

def overrideQemuEnv : Except String VMConfig :=
  if opts.qemuEnv = [] then .ok cfg
  else do
    validateQemuEnv opts.qemuEnv
    return { cfg with qemuEnv := opts.qemuEnv }

/-- `gpu.IsAudioDevice`. -/
def isAudioDevice (d : PCIDevice) : Bool :=
  let classHex := match d.deviceClass.toList with
    | '0' :: 'x' :: rest => (String.ofList rest).toLower
    | _ => d.deviceClass.toLower
  classHex.startsWith "0403" || classHex.startsWith "0480"

/-- The audio functions among some devices, each address once. -/
def audioFunctions (seen : List String) : List PCIDevice → List String
  | [] => []
  | peer :: rest =>
    if peer.address ∈ seen then audioFunctions seen rest
    else if isAudioDevice peer then peer.address :: audioFunctions (peer.address :: seen) rest
    else audioFunctions (peer.address :: seen) rest

/-- The PCI address of a passed-through GPU, with its audio companion. -/
def overrideGPUPCI (gpu : GPUConfig) : GPUConfig :=
  if opts.gpuPCI = "" then gpu
  else
    { gpu with
      pciAddr := opts.gpuPCI
      extraVFIOAddrs :=
        if gpu.extraVFIOAddrs = [] then
          audioFunctions [opts.gpuPCI]
            (host.iommuGroupPeers opts.gpuPCI ++ host.siblingFunctions opts.gpuPCI)
        else gpu.extraVFIOAddrs }

/-- The other GPU overrides. -/
def overrideGPU : VMConfig :=
  let gpu := overrideGPUPCI host opts { cfg.gpu with
    vnc := orDefault opts.vnc cfg.gpu.vnc
    renderNode := orDefault opts.renderNode cfg.gpu.renderNode }
  { cfg with
    gpu := { gpu with
      antiDetect := opts.antiDetect.getD gpu.antiDetect
      glBackend := orDefault opts.glBackend gpu.glBackend
      venus := opts.venus.getD gpu.venus
      pointer := orDefault opts.pointer gpu.pointer
      hostMem := orDefault opts.hostMem gpu.hostMem }
    nested := cfg.nested || opts.nested }

def overrideSPICE : VMConfig :=
  match opts.spicePort with
  | none => cfg
  | some port =>
    if port > 0 then
      { cfg with spice := some { (cfg.spice.getD { disableTicketing := true }) with port := port } }
    else cfg

/-- The virtiofs share: the template's own entry for the directory, or a new one. -/
def overrideVirtiofs : VMConfig :=
  if opts.virtiofsDir = "" then cfg
  else
    match cfg.virtiofsMounts.findIdx? (·.sharedDir = opts.virtiofsDir) with
    | some existing =>
      { cfg with virtiofsMounts := cfg.virtiofsMounts.modify existing fun mount =>
          { mount with
            tag := orDefault opts.virtiofsTag mount.tag
            readonly := opts.virtiofsReadonly } }
    | none =>
      { cfg with virtiofsMounts := cfg.virtiofsMounts ++ [
          { sharedDir := opts.virtiofsDir
            tag := orDefault opts.virtiofsTag "share"
            readonly := opts.virtiofsReadonly }] }

/-- The extra disk of `--disk`. -/
def extraDisk : DiskConfig where
  path := joinPath [conf.storagePath, opts.name, "storage", "disk-extra-" ++ opts.disk ++ ".qcow2"]
  size := opts.disk
  format := "qcow2"
  interface := "virtio"
  media := "disk"
  cache := "none"

def addDisk : VMConfig :=
  if opts.disk ≠ "" ∧ (cfg.backendName ≠ .vz ∨ cfg.macOS = none) then
    { cfg with disks := cfg.disks ++ [extraDisk conf opts] }
  else cfg

/-- Drop the disks that vee would create, when the user's disk is the OS disk. -/
def stripManaged : VMConfig :=
  if opts.noAutoInstall ∧ opts.bootDisk ≠ "" then
    { cfg with disks := cfg.disks.filter fun d => !(!d.passthrough && d.format = "qcow2") }
  else cfg

inductive DiskKind where
  | device
  | image
  deriving DecidableEq, Repr

def classifyDisk (path : String) : Except String (DiskKind × String) :=
  match host.stat path with
  | .error text =>
    .error ("disk " ++ goQuote path ++ ": " ++ text ++
      " (expected a host block device such as /dev/disk/by-id/..., or an existing disk image file)")
  | .ok .device => .ok (.device, "raw")
  | .ok .regular =>
    match host.probeImageFormat path with
    | .error text => .error ("disk " ++ goQuote path ++ ": " ++ text)
    | .ok format => .ok (.image, format)
  | .ok (.other mode) =>
    .error ("disk " ++ goQuote path ++ " is neither a block device nor a regular file (mode " ++
      mode ++ "); pass a host block device such as /dev/disk/by-id/..., or a disk image file")

/-- The entry for one disk of the user. -/
def userDisk (raw : String) : Except String DiskConfig := do
  let dd := parseDataDisk raw
  let (kind, format) ← classifyDisk host dd.path
  return {
    path := dd.path
    format := format
    interface := "virtio"
    media := "disk"
    cache := "none"
    serial := dd.serial
    passthrough := kind = .device
    imageFile := kind = .image
    bootIndex := if opts.bootDisk ≠ "" ∧ dd.path = opts.bootDisk then 1 else 0 }

/-- The data disks, and the boot disk unless it is one of them. -/
def userDisks : List String :=
  if opts.bootDisk ≠ "" ∧
      ¬ opts.dataDisks.any (fun raw => (parseDataDisk raw).path = opts.bootDisk) then
    opts.dataDisks ++ [opts.bootDisk]
  else opts.dataDisks

def attachDisks : Except String VMConfig :=
  if opts.template = "truenas" then .ok cfg
  else do
    let disks ← (userDisks opts).mapM (userDisk host opts)
    return { cfg with disks := cfg.disks ++ disks }

/-- A disk whose file vee creates. -/
def DiskConfig.managed (d : DiskConfig) : Bool :=
  !(d.passthrough || d.imageFile || d.media ≠ "disk" || d.format ≠ "qcow2")

def relocateFirst (path : String) : List DiskConfig → List DiskConfig
  | [] => []
  | d :: rest => if d.managed then { d with path := path } :: rest else d :: relocateFirst path rest

/-- `--boot-disk-path`. -/
def relocateBootDisk : VMConfig :=
  if opts.bootDiskPath ≠ "" then { cfg with disks := relocateFirst opts.bootDiskPath cfg.disks }
  else cfg

/-- The overrides after the disks. -/
def overrideAccess : VMConfig :=
  { cfg with
    sshShare := opts.sshShare.getD cfg.sshShare
    vsock := opts.vsock.getD cfg.vsock
    headless := opts.headless.getD cfg.headless
    sshPort := if opts.sshPort > 0 then opts.sshPort else cfg.sshPort
    hostname := orDefault opts.hostname (orDefault cfg.hostname opts.name)
    cloudInit := cfg.cloudInit.map fun ci =>
      { ci with password := orDefault opts.password ci.password }
    skipInstall :=
      cfg.skipInstall || opts.noAutoInstall || (opts.template = "" && opts.bootDisk ≠ "") }

def validatePointer (p : String) : Except String Unit :=
  if p = "" ∨ p = "tablet" ∨ p = "mouse" then .ok ()
  else .error ("unknown pointer " ++ goQuote p ++
    ": use tablet (absolute, desktop default) or mouse (relative, for pointer-locked games)")

def validateHelios : Except String Unit :=
  if cfg.gpu.mode ≠ .helios then
    .error ("--helios-setup, --helios-bootstrap-vga, --vnc and --render-node apply to " ++
      "--gpu-mode=helios only")
  else if cfg.template ≠ "windows" then
    .error ("--gpu-mode=helios is a Windows driver and needs --template windows (got " ++
      goQuote cfg.template ++ ")")
  else if cfg.headless then
    .error "--gpu-mode=helios renders through egl-headless + VNC already; drop --headless"
  else if cfg.spice.isSome then
    .error "--gpu-mode=helios shows the guest on VNC, not SPICE; drop --spice-port"
  else if opts.glBackend ≠ "" ∨ opts.venus.isSome ∨ opts.pointer ≠ "" then
    .error ("--gpu-gl-backend/--gpu-venus/--pointer do not apply to --gpu-mode=helios " ++
      "(Venus is always on; input is USB HID)")
  else if cfg.qemuBinary = "" then
    .error "--gpu-mode=helios needs --qemu-binary pointing at the qemu-helios fork"
  else .ok ()

/-- The error of a flag that only the virtio mode reads. -/
def virtioOnly (flag : String) (cfg : VMConfig) : Except String Unit :=
  .error (flag ++ " applies to GPU mode \"virtio\" only (got " ++ goQuote cfg.gpu.mode.text ++
    ") — add --gpu-mode=virtio")

/-- The flags that a GPU mode other than virtio refuses. -/
def validateNoVirtio : Except String Unit :=
  if opts.pointer ≠ "" then virtioOnly "--pointer" cfg
  else if opts.glBackend ≠ "" then virtioOnly "--gpu-gl-backend" cfg
  else if opts.venus = some true then virtioOnly "--gpu-venus" cfg
  else if opts.hostMem ≠ "" then virtioOnly "--gpu-hostmem" cfg
  else .ok ()

/-- The checks of the virtio mode. -/
def validateVirtio : Except String Unit :=
  let asked := opts.glBackend ≠ "" ∨ opts.venus = some true ∨ opts.hostMem ≠ ""
  let needsDisplay := "virtio-GPU acceleration (--gpu-gl-backend/--gpu-venus/--gpu-hostmem) " ++
    "needs a windowed display, "
  if asked ∧ cfg.headless then
    .error (needsDisplay ++ "but this VM is headless — drop --headless")
  else if asked ∧ cfg.spice.isSome then
    .error (needsDisplay ++ "but this VM uses SPICE, which boots with -display none — " ++
      "SPICE and host GL are mutually exclusive")
  else if opts.hostMem ≠ "" ∧ !cfg.gpu.venus then
    .error ("--gpu-hostmem sizes the Venus blob-resource window and is ignored without it — " ++
      "add --gpu-venus or drop --gpu-hostmem")
  else if cfg.gpu.glBackend ∈ ["", "on", "es", "core"] then .ok ()
  else
    .error ("invalid --gpu-gl-backend " ++ goQuote cfg.gpu.glBackend ++
      ": want on (Linux EGL), es (ANGLE/Metal, macOS) or core (native macOS, unstable)")

def validateGPUAccel : Except String Unit := do
  validatePointer opts.pointer
  if cfg.gpu.mode = .helios ∨ opts.heliosSetup ≠ "" ∨ opts.vnc ≠ "" ∨ opts.renderNode ≠ "" ∨
      opts.heliosBootstrapVGA then
    validateHelios opts cfg
  else if cfg.gpu.mode ≠ .virtio then validateNoVirtio opts cfg
  else validateVirtio opts cfg

/-- `vzhelper.ParseMemoryBytes`; the product wraps as a `uint64`. -/
def parseMemoryBytes (s : String) : Except String Nat :=
  let trimmed := trimSpace s.toList
  match trimmed.getLast? with
  | none => .error "empty memory size"
  | some last =>
    let mult := (sizeSuffix last).getD (2 ^ 20)
    let digits := if (sizeSuffix last).isSome then trimmed.dropLast else trimmed
    match parseUint (trimSpace digits) with
    | .ok n => .ok (n * mult % 2 ^ 64)
    | .error text => .error ("parse memory size " ++ goQuote s ++ ": " ++ text)

/-- `int(n)` of a `uint64`. -/
def intOfUint64 (n : Nat) : Int := Int.bmod n (2 ^ 64)

/-- `ClampMacOSMinimums`: a macOS guest gets what the restored image needs at least. -/
def clampMacOSMinimums : VMConfig :=
  match cfg.macOS with
  | none => cfg
  | some mac =>
    { cfg with
      cpus :=
        if mac.minCPUs > 0 ∧ (cfg.cpus ≤ 0 ∨ cfg.cpus < mac.minCPUs) then intOfUint64 mac.minCPUs
        else cfg.cpus
      memory :=
        if mac.minMemoryBytes > 0 ∧
            (parseMemoryBytes cfg.memory).toOption.all (· < mac.minMemoryBytes) then
          toString (mac.minMemoryBytes / 2 ^ 20) ++ "M"
        else cfg.memory }

def applyOverrides : Except String VMConfig := do
  let cfg ← overrideQemuEnv opts (overrideMachine opts cfg)
  let cfg := overrideVirtiofs opts (overrideSPICE opts (overrideGPU host opts cfg))
  let cfg ← attachDisks host opts (stripManaged opts (addDisk conf opts cfg))
  let cfg := overrideAccess opts (relocateBootDisk opts cfg)
  validateGPUAccel opts cfg
  return clampMacOSMinimums cfg

/-- The windows case of `configFromTemplate`. -/
def windowsFromTemplate (host : WindowsHost) (conf : ProviderConfig) (opts : Opts) :
    Except String VMConfig :=
  let version :=
    if opts.distroVersion ≠ "" ∧ opts.distroVersion ≠ "latest" then
      WindowsVersion.ofString opts.distroVersion
    else if host.arch = .arm64 then .windows11
    else .windows10
  let helios : Option HeliosOptions :=
    if opts.gpuMode = "helios" then
      some
        { setupExe := opts.heliosSetup
          qemuBinary := opts.qemuBinary
          hostMem := opts.hostMem
          vnc := opts.vnc
          renderNode := opts.renderNode
          bootstrapVGA := opts.heliosBootstrapVGA }
    else none
  newWindowsConfig host conf version opts.name (opts.spicePort.getD 0) helios

end Vee
