import Vee.Misc.GoPath
import Vee.Misc.Shell
import Vee.Runner.Creds

/-!
# Archives that escape the credential files

The names of the entries come from the guest, and `Restore` only cleans them as paths. They go
into the commands as they are: a name with `..` leaves the directory, and one with an operator
of the shell adds a command.
-/

namespace Vee.Runner

open List

/-- `remoteRunnerDir`, in front of a name. -/
def runnerDir : Text := "/opt/actions-runner/".toList

variable (content : List UInt8) (path : Text)

def credPath : Prop :=
  ∃ file ∈ credFiles, locate [] path = locate [] (runnerDir ++ file.toList)

/-- The commands that a restore is to consist of. -/
inductive Allowed : Shell.Script → Prop where
  /-- Write a credential file. -/
  | write (content : List UInt8) (path : Text) (cred : credPath path) :
    Allowed [[⟨["printf".toList, "%s".toList, Base64.encode content], []⟩,
      ⟨["base64".toList, "-d".toList], [path]⟩]]
  | chown :
    Allowed [[⟨["chown".toList, "-R".toList, "runner:runner".toList,
      "/opt/actions-runner".toList], []⟩]]
  | chmod :
    Allowed [[⟨["chmod".toList, "600".toList, "/opt/actions-runner/.credentials".toList,
      "/opt/actions-runner/.runner".toList], []⟩]]

theorem Allowed.length_eq_one {script : Shell.Script} (allowed : Allowed script) :
    script.length = 1 := by
  cases allowed <;> rfl

def Contained (command : Text) : Prop :=
  ∃ script, Shell.parse command = some script ∧ Allowed script

/-- The shell reads the name as the rest of a word that names a credential file. -/
def Harmless (name : Text) : Prop :=
  ∃ word, Shell.Completes name word ∧ credPath (runnerDir ++ word)

theorem goQuote_encode : (goQuote (String.ofList (Base64.encode content))).toList =
      '"' :: (Base64.encode content ++ ['"']) := by
  have each := Base64.encode_forall (fun c => decide (quoteChar c = [c])) (by decide) (by decide)
    content
  exact goQuote_kept fun c mem => of_decide_eq_true (each c mem)

theorem lex_restoreCommand (file : RestoredFile) : Shell.lex (.plain none) (restoreCommand file) =
      (Shell.lex (.plain (some runnerDir)) file.relPath).map
        ([.word "printf".toList, .word "%s".toList, .word (Base64.encode file.content), .pipe,
          .word "base64".toList, .word "-d".toList, .out] ++ ·) := by
  have plain := Base64.encode_forall Shell.ordinary (by decide) (by decide) file.content
  have start : Shell.scan (.plain none) "printf %s \"".toList =
      some ([.word "printf".toList, .word "%s".toList], .double []) := by decide
  have behind : Shell.scan (.plain (some (Base64.encode file.content)))
      " | base64 -d > /opt/actions-runner/".toList =
      some ([.word (Base64.encode file.content), .pipe, .word "base64".toList, .word "-d".toList,
        .out], .plain (some runnerDir)) := by
    rfl
  have text : restoreCommand file = "printf %s \"".toList ++ (Base64.encode file.content ++
      '"' :: (" | base64 -d > /opt/actions-runner/".toList ++ file.relPath)) := by
    unfold restoreCommand
    rw [goQuote_encode]
    simp
  rw [text, Shell.lex_append start, Shell.lex_quoted plain, nil_append,
    Shell.lex_append behind, Option.map_map]
  rfl

/-- What the parser has seen of the command of a file, with the path that it writes to. -/
def pending : Shell.Progress where
  commands := [⟨["printf".toList, "%s".toList, Base64.encode content], []⟩]
  current := ⟨["base64".toList, "-d".toList], [path]⟩

theorem pending_size : (pending content path).size = 6 := rfl

theorem parse_restoreCommand {file : RestoredFile} {word : Text} {rest : List Shell.Token}
    (read : Shell.lex (.plain (some [])) file.relPath = some (.word word :: rest)) :
    Shell.parse (restoreCommand file) =
      Shell.parseTokens (pending file.content (runnerDir ++ word)) rest := by
  have behind : Shell.lex (.plain (some runnerDir)) file.relPath =
      some (.word (runnerDir ++ word) :: rest) := by
    have moved := Shell.lex_behind runnerDir (.plain (some [])) trivial file.relPath
    rw [read] at moved
    simpa [Shell.Reading.behind, Shell.lengthen] using moved
  rw [Shell.parse, lex_restoreCommand, behind]
  rfl

theorem contained_restoreCommand_iff (file : RestoredFile) :
    Contained (restoreCommand file) ↔ Harmless file.relPath := by
  constructor
  · rintro ⟨script, parsed, allowed⟩
    cases read : Shell.lex (.plain (some [])) file.relPath with
    | none =>
      have moved := Shell.lex_behind runnerDir (.plain (some [])) trivial file.relPath
      rw [read] at moved
      have unread : Shell.lex (.plain (some runnerDir)) file.relPath = none := by
        simpa [Shell.Reading.behind] using moved
      rw [Shell.parse, lex_restoreCommand, unread] at parsed
      cases parsed
    | some tokens =>
      obtain ⟨word, rest, rfl⟩ := Shell.lex_word (.plain (some [])) trivial read
      rw [parse_restoreCommand read] at parsed
      have size := Shell.parseTokens_size parsed
      rw [pending_size] at size
      cases allowed with
      | write content path cred =>
        obtain ⟨ends, same⟩ := (Shell.parseTokens_ends_iff rfl rfl).mp parsed
        refine ⟨word, ⟨rest, read, ends⟩, ?_⟩
        simp only [Shell.Progress.endPipeline, pending, nil_append, cons_append,
          cons.injEq, Shell.Command.mk.injEq, and_true, true_and] at same
        rw [← same.2]
        exact cred
      | chown | chmod =>
        change 4 = _ at size
        omega
  · rintro ⟨word, ⟨rest, read, ends⟩, cred⟩
    refine ⟨_, ?_, .write file.content (runnerDir ++ word) cred⟩
    rw [parse_restoreCommand read]
    exact Shell.parseTokens_trailing rfl ends

theorem restoredFiles_relPaths {entries : List TarEntry} {files : List RestoredFile}
    (restored : restoredFiles entries = .ok files) :
    files.map RestoredFile.relPath =
      (entries.filter TarEntry.regular).map fun entry => cleanPath entry.name := by
  induction entries generalizing files with
  | nil =>
    cases restored
    rfl
  | cons entry rest ih =>
    simp only [restoredFiles] at restored
    split at restored
    · rename_i irregular
      rw [filter_cons_of_neg (by simpa using irregular)]
      exact ih restored
    rename_i regular
    split at restored
    · cases restored
    cases later : restoredFiles rest with
    | error text =>
      rw [later] at restored
      cases restored
    | ok more =>
      rw [later] at restored
      cases restored
      rw [filter_cons_of_pos (by simpa using regular)]
      simp [ih later]

theorem restore_files {path : String} {archive : Archive} {files : List RestoredFile}
    (restored : restore path archive = .ok files) :
    restoredFiles archive.entries = .ok files := by
  unfold restore at restored
  split at restored
  · cases restored
  · rename_i read
    split at restored
    · cases restored
    · split at restored <;> cases restored
      exact read

/-- The commands that restore a runner from an archive write the credential files and do nothing
else exactly if the name of every regular entry, cleaned, is harmless. -/
theorem restoreCommands_contained_iff (path : String) {archive : Archive}
    {files : List RestoredFile} (restored : restore path archive = .ok files) :
    (∀ command ∈ restoreCommands files, Contained command) ↔
      ∀ entry ∈ archive.entries, entry.regular = true → Harmless (cleanPath entry.name) := by
  have paths := restoredFiles_relPaths (restore_files restored)
  have chown : Contained "chown -R runner:runner /opt/actions-runner".toList :=
    ⟨_, by decide, .chown⟩
  have chmod : Contained
      "chmod 600 /opt/actions-runner/.credentials /opt/actions-runner/.runner".toList :=
    ⟨_, by decide, .chmod⟩
  have byFile : (∀ command ∈ restoreCommands files, Contained command) ↔
      ∀ name ∈ files.map RestoredFile.relPath, Harmless name := by
    rw [forall_mem_map]
    constructor
    · intro contained file member
      rw [← contained_restoreCommand_iff]
      exact contained _ (mem_append_left _ (mem_map_of_mem member))
    · intro harmless command member
      rcases mem_append.mp member with written | fixed
      · obtain ⟨file, found, rfl⟩ := mem_map.mp written
        exact (contained_restoreCommand_iff file).mpr (harmless file found)
      · rcases mem_pair.mp fixed with rfl | rfl
        · exact chown
        · exact chmod
  rw [byFile, paths, forall_mem_map]
  simp only [mem_filter, and_imp]

def honestArchive : Archive where
  entries := [⟨".credentials".toList, true, 0o600, .ok [1, 2, 3]⟩,
    ⟨".runner".toList, true, 0o600, .ok [4]⟩]

theorem honest_archive_is_contained : ∃ files, restore "work.age" honestArchive = .ok files ∧
      ∀ command ∈ restoreCommands files, Contained command := by
  have restored : ∃ files, restore "work.age" honestArchive = .ok files := ⟨_, rfl⟩
  obtain ⟨files, restored⟩ := restored
  refine ⟨files, restored, (restoreCommands_contained_iff "work.age" restored).mpr ?_⟩
  intro entry member _
  rcases mem_pair.mp member with rfl | rfl
  · exact ⟨".credentials".toList, ⟨[], by decide, rfl⟩, ".credentials", by decide, rfl⟩
  · exact ⟨".runner".toList, ⟨[], by decide, rfl⟩, ".runner", by decide, rfl⟩

/-- One entry of this archive leaves the directory, and the other one adds a command. -/
def hostileArchive : Archive where
  entries := [⟨"../../etc/cron.d/job".toList, true, 0o644, .ok [1]⟩,
    ⟨".runner; reboot".toList, true, 0o600, .ok [2]⟩]

/-- The shell would run `reboot`, and write a file outside the directory of the runner. -/
theorem hostile_archive_escapes : ∃ files, restore "work.age" hostileArchive = .ok files ∧
      (∃ command ∈ restoreCommands files, ∃ script, Shell.parse command = some script ∧
        ⟨["reboot".toList], []⟩ ∈ script.flatten) ∧
      ¬ ∀ command ∈ restoreCommands files, Contained command := by
  have parsed : Shell.parse (restoreCommand ⟨cleanPath ".runner; reboot".toList, [2], 0o600⟩) =
      some [[⟨["printf".toList, "%s".toList, "Ag==".toList], []⟩,
        ⟨["base64".toList, "-d".toList], ["/opt/actions-runner/.runner".toList]⟩],
        [⟨["reboot".toList], []⟩]] := by decide
  refine ⟨_, rfl, ⟨_, by simp [restoreCommands], _, parsed, by simp⟩, fun contained => ?_⟩
  obtain ⟨script, again, allowed⟩ := contained _
    (mem_append_left _ (mem_map_of_mem (mem_cons_of_mem _ mem_cons_self)))
  rw [parsed] at again
  cases again
  cases allowed.length_eq_one

end Vee.Runner
