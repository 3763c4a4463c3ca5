import Mathlib.Data.List.Basic
import Vee.Misc.GoText

/-!
# The arguments of ssh

What `vee ssh` calls ssh with (`cmd/ssh.go`). ssh hands the remote command to a shell of the guest
as one text, so `buildSSHArgs` quotes its words: for a POSIX shell, or for `cmd.exe` and the
programs behind it.
-/

namespace Vee.Cmd

/-- A letter, a digit or one of the others. -/
def bare (others : String) (c : Char) : Bool :=
  ('a' ≤ c && c ≤ 'z') || ('A' ≤ c && c ≤ 'Z') || ('0' ≤ c && c ≤ '9') || others.toList.contains c

/-- One word for a POSIX shell. -/
def shellQuote (s : Text) : Text :=
  if s = [] then "''".toList
  else if s.all (bare "@%_-+=:,./") then s
  else '\'' :: s.flatMap (fun c => if c = '\'' then "'\\''".toList else [c]) ++ ['\'']

/-- The loop of `cmdQuote`, behind some backslashes, and the closing quote. -/
def quoteLoop (slashes : Nat) : Text → Text
  | [] => List.replicate slashes '\\' ++ ['"']
  | c :: s =>
    if c = '\\' then c :: quoteLoop (slashes + 1) s
    else if c = '"' then List.replicate slashes '\\' ++ '"' :: c :: quoteLoop 0 s
    else c :: quoteLoop 0 s

/-- One word for the shell of Windows. -/
def cmdQuote (s : Text) : Text :=
  if s = [] then "\"\"".toList
  else if s.all (bare "@%_-+=:,./\\") then s
  else '"' :: quoteLoop 0 s

def remoteText (windowsGuest : Bool) (remoteCmd : List Text) : Text :=
  [' '].intercalate (remoteCmd.map (if windowsGuest then cmdQuote else shellQuote))

/-- The arguments of the `ssh` that `vee ssh` runs. -/
def buildSSHArgs (user host : Text) (port : Int) (identity knownHosts : Text)
    (remoteCmd extra : List Text) (windowsGuest : Bool) : List Text :=
  (if port ≠ 22 then ["-p".toList, (toString port).toList] else []) ++
    (if identity ≠ [] then ["-i".toList, identity] else []) ++ extra ++
    (if knownHosts ≠ [] then
      ["-o".toList, "UserKnownHostsFile=".toList ++ knownHosts, "-o".toList,
        "StrictHostKeyChecking=accept-new".toList]
    else []) ++
    [if user ≠ [] then user ++ '@' :: host else host] ++
    if remoteCmd ≠ [] then [remoteText windowsGuest remoteCmd] else []

end Vee.Cmd
