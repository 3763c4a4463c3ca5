import Vee.Misc.GoText

/-!
# What is written into a macOS guest

`Options`, `Validate` and `payloadFiles` of `internal/vzfirstboot`. The script itself is rendered
by `text/template`; here it is a text.
-/

namespace Vee.Firstboot

structure Options where
  user : String
  password : String := ""
  sshPublicKeys : List String := []
  hostname : String := ""
  enableScreenSharing : Bool := false

/-- A character of an account name. -/
def accountChar (c : Char) : Bool :=
  ('a' ≤ c && c ≤ 'z') || ('0' ≤ c && c ≤ '9') || c = '-' || c = '_'

def Options.validate (opts : Options) : Except String Unit :=
  if opts.user = "" then .error "first-boot user is required"
  else if opts.user.toList.all accountChar then .ok ()
  else .error ("first-boot user " ++ goQuote opts.user ++
    " must be lowercase alphanumeric, - or _")

def launchDaemonLabel : String := "io.vee.firstboot"

/-- Skips the system Setup Assistant. -/
def appleSetupDonePath : String := "private/var/db/.AppleSetupDone"

def skipBuddyPath : String := "Library/User Template/.skipbuddy"

def scriptPath : String := "usr/local/sbin/vee-firstboot.sh"

/-- The launch daemon that runs the script. -/
def plistPath : String := "Library/LaunchDaemons/" ++ launchDaemonLabel ++ ".plist"

def sudoersPath : String := "private/etc/sudoers.d/vee-shutdown"

def launchDaemonPlist : String :=
  "<?xml version=\"1.0\" encoding=\"UTF-8\"?>\n" ++
  "<!DOCTYPE plist PUBLIC \"-//Apple//DTD PLIST 1.0//EN\" " ++
  "\"http://www.apple.com/DTDs/PropertyList-1.0.dtd\">\n" ++
  "<plist version=\"1.0\">\n<dict>\n" ++
  "\t<key>Label</key>\n\t<string>" ++ launchDaemonLabel ++ "</string>\n" ++
  "\t<key>ProgramArguments</key>\n\t<array>\n" ++
  "\t\t<string>/usr/local/sbin/vee-firstboot.sh</string>\n\t</array>\n" ++
  "\t<key>RunAtLoad</key>\n\t<true/>\n" ++
  "\t<key>StandardOutPath</key>\n\t<string>/var/log/vee-firstboot.log</string>\n" ++
  "\t<key>StandardErrorPath</key>\n\t<string>/var/log/vee-firstboot.log</string>\n" ++
  "</dict>\n</plist>\n"

structure PayloadFile where
  path : String
  mode : Nat
  data : String := ""
  /-- A directory. -/
  dir : Bool := false
  /-- It existed before, so a roll-back does not remove it. -/
  keep : Bool := false

def renderSudoers (user : String) : String :=
  if user = "" then ""
  else
    "# Written by vee so \x60vee stop\x60 can ask the guest to power itself off.\n" ++
    "# macOS guests ignore the framework's stop request, and the alternative\n" ++
    "# is killing the VM, which is an unclean shutdown.\n" ++
    user ++ " ALL=(ALL) NOPASSWD: /sbin/shutdown\n"

/-- `payloadFiles`, in creation order. -/
def payloadFiles (script sudoers : String) : List PayloadFile :=
  [{ path := appleSetupDonePath, mode := 0o400 },
    { path := skipBuddyPath, mode := 0o400 },
    { path := String.ofList (dirPath scriptPath.toList), mode := 0o755, dir := true, keep := true },
    { path := scriptPath, mode := 0o700, data := script },
    { path := plistPath, mode := 0o644, data := launchDaemonPlist }] ++
  if sudoers = "" then [] else [{ path := sudoersPath, mode := 0o440, data := sudoers }]

end Vee.Firstboot
