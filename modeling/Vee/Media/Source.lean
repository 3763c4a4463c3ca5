import Vee.QEMU.Disk

/-!
# Media sources

`Source`, `Patch` and `Plan` of `internal/media/source.go`, and `ParseSpec` of
`internal/media/spec.go`.
-/

namespace Vee.Media

/-- `Kind`; a source that is not made by `ParseSpec` may hold any text. -/
inductive Kind where
  | hostDir
  | nfs
  | smb
  | block
  | usb
  | other (name : String)
  deriving DecidableEq, Repr

/-- `Distro`, with the others under one name. -/
inductive Distro where
  | ubuntu
  | arch
  | fedora
  | other
  deriving DecidableEq, Repr

structure NFSSource where
  server : String
  exportPath : String
  version : String := ""
  options : String := ""
  deriving DecidableEq, Repr

structure SMBSource where
  server : String
  share : String
  domain : String := ""
  username : String := ""
  deriving DecidableEq, Repr

structure BlockSource where
  devPath : String
  serial : String := ""
  fsType : String := ""
  deriving DecidableEq, Repr

structure USBSource where
  vendorID : String := ""
  productID : String := ""
  hostBus : String := ""
  hostAddr : String := ""
  mountFSType : String := ""
  deriving DecidableEq, Repr

structure Source where
  kind : Kind
  guestPath : String
  readOnly : Bool := false
  hostDir : String := ""
  nfs : Option NFSSource := none
  smb : Option SMBSource := none
  block : Option BlockSource := none
  usb : Option USBSource := none
  deriving DecidableEq, Repr

/-- `CloudInitWriteFile`, with the fields that the planner sets. -/
structure WriteFile where
  path : String
  content : String
  permissions : String

structure Patch where
  virtiofsMounts : List VirtiofsMount := []
  disks : List DiskConfig := []
  extraDevices : List String := []
  packages : List String := []
  runCmds : List String := []
  writeFiles : List WriteFile := []

def Patch.merge (p other : Patch) : Patch where
  virtiofsMounts := p.virtiofsMounts ++ other.virtiofsMounts
  disks := p.disks ++ other.disks
  extraDevices := p.extraDevices ++ other.extraDevices
  packages := p.packages ++ other.packages
  runCmds := p.runCmds ++ other.runCmds
  writeFiles := p.writeFiles ++ other.writeFiles

structure PendingPrompt where
  key : String
  prompt : String
  secret : Bool

/-- A patch and the prompts that are still open. -/
abbrev Planned := Except String (Patch × List PendingPrompt)

/-- Replace characters of a path without the slashes around it, or take `empty`. -/
def flattenPath (empty : String) (replace : Char → Text) (path : String) : String :=
  let trimmed := trimChar '/' path.toList
  if trimmed = [] then empty else String.ofList (trimmed.flatMap replace)

def unitName : String → String :=
  flattenPath "-" fun c => if c = '/' then ['-'] else if c = ' ' then "\\x20".toList else [c]

def virtiofsTag : String → String :=
  flattenPath "share" fun c => if c = '/' then ['-'] else if c = ' ' then ['_'] else [c]

/-- The command that adds a line to the guest's fstab, once for each mount point. -/
def fstabCmd (guestPath line : String) : String :=
  "grep -qF " ++ goQuote guestPath ++ " /etc/fstab || echo " ++ goQuote line ++ " >> /etc/fstab"

variable (s : Source) (distro : Distro) (secrets : String → Option String)

def planHostDir : Planned :=
  if s.hostDir = "" then .error "media: HostDir is required for kind=host-dir"
  else
    let tag := virtiofsTag s.guestPath
    let mountOpts := if s.readOnly then "ro,defaults" else "defaults"
    .ok ({
      virtiofsMounts := [{ sharedDir := s.hostDir, tag }]
      runCmds := ["mkdir -p " ++ s.guestPath,
        "mount -t virtiofs " ++ tag ++ " " ++ s.guestPath ++ " -o " ++ mountOpts,
        fstabCmd s.guestPath
          (tag ++ " " ++ s.guestPath ++ " virtiofs " ++ mountOpts ++ " 0 0")] }, [])

def mountUnit (kind what fsType guestPath : String) (opts : List String) : WriteFile where
  path := "/etc/systemd/system/" ++ unitName guestPath ++ ".mount"
  content := "[Unit]\nDescription=" ++ kind ++ " mount for " ++ guestPath ++
    "\nAfter=network-online.target\nWants=network-online.target\n\n[Mount]\nWhat=" ++ what ++
    "\nWhere=" ++ guestPath ++ "\nType=" ++ fsType ++ "\nOptions=" ++ String.intercalate "," opts ++
    "\n\n[Install]\nWantedBy=multi-user.target\n"
  permissions := "0644"

def automountUnit (guestPath : String) : WriteFile where
  path := "/etc/systemd/system/" ++ unitName guestPath ++ ".automount"
  content := "[Unit]\nDescription=Automount for " ++ guestPath ++ "\n\n[Automount]\nWhere=" ++
    guestPath ++ "\nTimeoutIdleSec=600\n\n[Install]\nWantedBy=multi-user.target\n"
  permissions := "0644"

/-- The commands that turn an automount unit on. -/
def automountCmds (guestPath : String) : List String :=
  ["mkdir -p " ++ guestPath,
    "systemctl daemon-reload && systemctl enable --now " ++ unitName guestPath ++ ".automount"]

def nfsPackages : Distro → List String
  | .ubuntu => ["nfs-common"]
  | .arch => ["nfs-utils"]
  | .fedora => ["nfs-utils"]
  | .other => ["nfs-common"]

def planNFS : Planned :=
  match s.nfs with
  | none => .error "media: NFSSource Server and Export are required"
  | some nfs =>
    if nfs.server = "" ∨ nfs.exportPath = "" then
      .error "media: NFSSource Server and Export are required"
    else
      let version := if nfs.version = "" then "4.2" else nfs.version
      let opts := ["_netdev", "nofail", "soft", "timeo=30", "retrans=2", "vers=" ++ version] ++
        (if s.readOnly then ["ro"] else []) ++ if nfs.options ≠ "" then [nfs.options] else []
      .ok ({
        packages := nfsPackages distro
        writeFiles :=
          [mountUnit "NFS" (nfs.server ++ ":" ++ nfs.exportPath) "nfs4" s.guestPath opts,
          automountUnit s.guestPath]
        runCmds := automountCmds s.guestPath }, [])

def smbPackages : Distro → List String
  | .ubuntu => ["cifs-utils"]
  | .arch => ["cifs-utils"]
  | .fedora => ["cifs-utils"]
  | .other => ["cifs-utils"]

def planSMB : Planned :=
  match s.smb with
  | none => .error "media: SMBSource Server and Share are required"
  | some smb =>
    if smb.server = "" ∨ smb.share = "" then .error "media: SMBSource Server and Share are required"
    else
      let user := if smb.username = "" then "guest" else smb.username
      let promptKey := "smb-password:" ++ smb.server ++ "/" ++ smb.share
      let prompts : List PendingPrompt :=
        match secrets promptKey with
        | some _ => []
        | none =>
          [{ key := promptKey
             prompt := "SMB password for //" ++ smb.server ++ "/" ++ smb.share ++
               " (user " ++ user ++ ")"
             secret := true }]
      let password := (secrets promptKey).getD ""
      let credsContent := "username=" ++ user ++ "\npassword=" ++ password ++ "\n" ++
        if smb.domain ≠ "" then "domain=" ++ smb.domain ++ "\n" else ""
      let credsPath := "/etc/cifs-credentials-" ++ unitName s.guestPath
      let opts := ["_netdev", "nofail", "credentials=" ++ credsPath, "iocharset=utf8", "uid=0",
        "gid=0"] ++ if s.readOnly then ["ro"] else []
      .ok ({
        packages := smbPackages distro
        writeFiles := [{ path := credsPath, content := credsContent, permissions := "0600" },
          mountUnit "SMB" ("//" ++ smb.server ++ "/" ++ smb.share) "cifs" s.guestPath opts,
          automountUnit s.guestPath]
        runCmds := automountCmds s.guestPath }, prompts)

def blockSerialFromPath (devPath : String) : String := QEMU.serialFromPath devPath

def BlockSource.diskSerial (block : BlockSource) : String :=
  if block.serial = "" then blockSerialFromPath block.devPath else block.serial

def BlockSource.disk (block : BlockSource) (readOnly : Bool) : DiskConfig where
  path := block.devPath
  format := "raw"
  interface := "virtio"
  media := "disk"
  cache := "none"
  passthrough := true
  serial := block.diskSerial
  readonly := readOnly

def planBlock : Planned :=
  match s.block with
  | none => .error "media: BlockSource DevPath is required"
  | some block =>
    if block.devPath = "" then .error "media: BlockSource DevPath is required"
    else
      let opts := if s.readOnly then "ro,nofail" else "defaults,nofail"
      let guestDev := "/dev/disk/by-id/virtio-" ++ block.diskSerial
      .ok ({
        disks := [block.disk s.readOnly]
        runCmds :=
          if block.fsType ≠ "" then
            ["mkdir -p " ++ s.guestPath,
              fstabCmd s.guestPath (guestDev ++ " " ++ s.guestPath ++ " " ++ block.fsType ++ " " ++
                opts ++ " 0 2"),
              "mount " ++ s.guestPath ++ " || true"]
          else [] }, [])

/-- The QEMU device for a USB source, if it names one. -/
def USBSource.device (usb : USBSource) : Option String :=
  if usb.vendorID ≠ "" ∧ usb.productID ≠ "" then
    some ("usb-host,vendorid=0x" ++ usb.vendorID ++ ",productid=0x" ++ usb.productID)
  else if usb.hostBus ≠ "" ∧ usb.hostAddr ≠ "" then
    some ("usb-host,hostbus=" ++ usb.hostBus ++ ",hostaddr=" ++ usb.hostAddr)
  else none

def planUSB : Planned :=
  match s.usb with
  | none => .error "media: USBSource is required for kind=usb"
  | some usb =>
    match usb.device with
    | none => .error "media: USBSource requires VendorID+ProductID or HostBus+HostAddr"
    | some qdev =>
      let opts :=
        if s.readOnly then "ro,nofail,x-systemd.automount"
        else "defaults,nofail,x-systemd.automount"
      .ok ({
        extraDevices := [qdev]
        runCmds :=
          if usb.mountFSType ≠ "" then
            ["mkdir -p " ++ s.guestPath,
              "USBDEV=$(lsblk -ndo NAME,TRAN | " ++
                "awk '$2==\"usb\"\x7bprint \"/dev/\"$1; exit\x7d'); " ++
                "if [ -n \"$USBDEV\" ]; then grep -qF " ++ goQuote s.guestPath ++
                " /etc/fstab || echo \"$USBDEV " ++ s.guestPath ++ " " ++ usb.mountFSType ++ " " ++
                opts ++ " 0 0\" >> /etc/fstab; mount " ++ s.guestPath ++ " || true; fi"]
          else [] }, [])

/-- The switch over the kinds. -/
def Source.planKind : Planned :=
  match s.kind with
  | .hostDir => planHostDir s
  | .nfs => planNFS s distro
  | .smb => planSMB s distro secrets
  | .block => planBlock s
  | .usb => planUSB s
  | .other name => .error ("media: unknown Kind " ++ goQuote name)

def Source.plan : Planned :=
  if s.guestPath = "" then .error "media: GuestPath is required"
  else if s.guestPath.toList.head? ≠ some '/' then
    .error ("media: GuestPath must be absolute, got " ++ goQuote s.guestPath)
  else s.planKind distro secrets

def Kind.text : Kind → String
  | .hostDir => "host-dir"
  | .nfs => "nfs"
  | .smb => "smb"
  | .block => "block"
  | .usb => "usb"
  | .other name => name

/-- One round of the loop in `NewJellyfinConfig` that gathers the patches. -/
def gatherPatch (secrets : String → Option String) (gathered : Patch × List PendingPrompt)
    (library : Source × Nat) : Planned :=
  match library.1.plan .ubuntu secrets with
  | .error err =>
    .error ("jellyfin: media[" ++ toString library.2 ++ "] (" ++ library.1.kind.text ++ "): " ++
      err)
  | .ok (patch, prompts) => .ok (gathered.1.merge patch, gathered.2 ++ prompts)

/-- The combined patch of `NewJellyfinConfig`. -/
def planLibraries (libraries : List Source) (secrets : String → Option String) :
    Except String Patch := do
  let (combined, missing) ← libraries.zipIdx.foldlM (gatherPatch secrets) ({}, [])
  if missing ≠ [] then
    throw ("jellyfin: missing secrets: [" ++ String.intercalate " " (missing.map (·.key)) ++ "]")
  return combined

/-! ## Specs -/

/-- The guest path and what follows its last colon. -/
def splitSuffix (tail : Text) : Text × Text :=
  match cutLast ':' tail with
  | some (before, suffix) => if before = [] then (tail, []) else (before, suffix)
  | none => (tail, [])

/-- The fields of a USB spec, from its comma-separated settings. -/
def usbSettings (body : Text) : USBSource :=
  (body.splitOn ',').foldl (fun usb setting =>
    match cutFirst '=' setting with
    | none => usb
    | some (key, value) =>
      if trimSpace key = "bus".toList then { usb with hostBus := String.ofList value }
      else if trimSpace key = "addr".toList then { usb with hostAddr := String.ofList value }
      else usb) {}

section

variable (spec : String) (guestPath suffix : Text)

/-- The branch for `hostdir:`. -/
def parseHostDir (hostDir : Text) : Except String Source :=
  if hostDir = [] then
    .error ("media spec: hostdir: missing host path in " ++ goQuote spec)
  else
    .ok { kind := .hostDir, hostDir := String.ofList hostDir
          guestPath := String.ofList guestPath, readOnly := suffix = "ro".toList }

/-- The branch for `nfs://`. -/
def parseNFS (rest : Text) : Except String Source :=
  match cutFirst '/' rest with
  | none => .error ("media spec: nfs needs server/export, got " ++ goQuote spec)
  | some (server, exportPath) =>
    if server = [] ∨ exportPath = [] then
      .error ("media spec: nfs needs server/export, got " ++ goQuote spec)
    else
      .ok { kind := .nfs, guestPath := String.ofList guestPath, readOnly := suffix = "ro".toList
            nfs := some
              { server := String.ofList server, exportPath := String.ofList ('/' :: exportPath) } }

/-- The branch for `smb://`. -/
def parseSMB (rest : Text) : Except String Source :=
  let (user, rest) := (cutFirst '@' rest).getD ([], rest)
  match cutFirst '/' rest with
  | none => .error ("media spec: smb needs server/share, got " ++ goQuote spec)
  | some (server, share) =>
    if server = [] ∨ share = [] then
      .error ("media spec: smb needs server/share, got " ++ goQuote spec)
    else
      .ok { kind := .smb, guestPath := String.ofList guestPath, readOnly := suffix = "ro".toList
            smb := some { server := String.ofList server, share := String.ofList share
                          username := String.ofList user } }

/-- The branch for `block:`. -/
def parseBlock (devPath : Text) : Except String Source :=
  if devPath = [] then .error ("media spec: block: missing device path in " ++ goQuote spec)
  else
    let fsType := if suffix = "ro".toList then [] else suffix
    .ok { kind := .block, guestPath := String.ofList guestPath
          block := some { devPath := String.ofList devPath, fsType := String.ofList fsType } }

/-- The device that a USB spec names. -/
def parseUSBDevice (body : Text) : Except String USBSource :=
  if containsText body "bus=".toList || containsText body "addr=".toList then .ok (usbSettings body)
  else
    match cutFirst ':' body with
    | none =>
      .error ("media spec: usb needs VENDOR:PRODUCT or bus=N,addr=M, got " ++ goQuote spec)
    | some (vendor, product) =>
      if vendor = [] ∨ product = [] then
        .error ("media spec: usb needs VENDOR:PRODUCT or bus=N,addr=M, got " ++ goQuote spec)
      else .ok { vendorID := String.ofList vendor, productID := String.ofList product }

/-- The branch for `usb:`. -/
def parseUSB (body : Text) : Except String Source := do
  let usb ← parseUSBDevice spec body
  let mountFSType := if suffix ≠ [] ∧ suffix ≠ "ro".toList then String.ofList suffix else ""
  let usb := some { usb with mountFSType }
  return { kind := .usb, guestPath := String.ofList guestPath, usb }

/-- The switch over the kinds. -/
def parseHead (head : Text) : Except String Source :=
  if let some hostDir := "hostdir:".toList.isPrefixOf? head then
    parseHostDir spec guestPath suffix hostDir
  else if let some rest := "nfs://".toList.isPrefixOf? head then
    parseNFS spec guestPath suffix rest
  else if let some rest := "smb://".toList.isPrefixOf? head then
    parseSMB spec guestPath suffix rest
  else if let some devPath := "block:".toList.isPrefixOf? head then
    parseBlock spec guestPath suffix devPath
  else if let some body := "usb:".toList.isPrefixOf? head then
    parseUSB spec guestPath suffix body
  else
    .error ("media spec: unknown kind in " ++ goQuote spec ++
      " (expected hostdir:, nfs://, smb://, block:, usb:)")

end

def parseSpec (spec : String) : Except String Source :=
  match cutLast '@' spec.toList with
  | none => .error ("media spec: missing @<guest-path> in " ++ goQuote spec)
  | some (head, tail) =>
    if head = [] ∨ tail = [] then
      .error ("media spec: empty source or guest path in " ++ goQuote spec)
    else
      let (guestPath, suffix) := splitSuffix tail
      if guestPath.head? ≠ some '/' then
        .error ("media spec: guest path must be absolute, got " ++
          goQuote (String.ofList guestPath))
      else parseHead spec guestPath suffix head

end Vee.Media
