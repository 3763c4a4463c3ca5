import Vee.Backup.Run
import Vee.Misc.GoPath

/-!
# Backups that leave their destination

The paths come from the guest, and a `..` in them goes back over the names of the destination.
A backup stays under its destination, with one directory for each path, exactly if each path
repeats the names that it goes back over and no two come to the same place.
-/

namespace Vee.Backup

open List

/-- The local directories are the destination or under it, and guest paths that are different
after normalisation have different ones. -/
structure Confined (cwd : Place) (dest : Text) (log : Log) : Prop where
  inside : ∀ dir ∈ log.created ++ log.handed.map Prod.snd, locate cwd dest <+: locate cwd dir
  apart : ∀ first ∈ log.handed, ∀ second ∈ log.handed,
    cleanPath first.1 ≠ cleanPath second.1 → locate cwd first.2 ≠ locate cwd second.2

/-- A guest path goes back over names of the destination only to repeat them. -/
def Stays (place : Place) (guestPath : Text) : Prop :=
  place.drop (place.length - stepsUp (relative guestPath)) <+: namesOf (relative guestPath)

/-- The names of a guest path without those that it repeats. -/
def position (place : Place) (guestPath : Text) : Place :=
  (namesOf (relative guestPath)).drop (min (stepsUp (relative guestPath)) place.length)

/-- The guest paths up to the first one that names no local directory: the destination is empty,
and the path consists of slashes. -/
def reached (dest : Text) (dirs : List Text) : List Text :=
  dirs.takeWhile fun guestPath => localDest dest guestPath ≠ []

/-! ### Places -/

section Places

variable (cwd : Place) (dest guestPath : Text)

theorem relative_head : (relative guestPath).head? ≠ some '/' := by
  unfold relative
  induction guestPath with
  | nil => simp
  | cons c rest ih =>
    by_cases slash : c = '/'
    · simpa [slash] using ih
    · simp [slash]

theorem locate_localDest : locate cwd (localDest dest guestPath) =
      (locate cwd dest).take ((locate cwd dest).length - stepsUp (relative guestPath)) ++
        namesOf (relative guestPath) := by
  rw [localDest, locate_join_relative (relative_head guestPath),
    locate_relative (relative_head guestPath)]

theorem inside_iff : locate cwd dest <+: locate cwd (localDest dest guestPath) ↔
      Stays (locate cwd dest) guestPath := by
  rw [locate_localDest, Stays]
  generalize locate cwd dest = place
  generalize place.length - stepsUp (relative guestPath) = kept
  have whole : place.take kept ++ place.drop kept <+:
      place.take kept ++ namesOf (relative guestPath) ↔
        place.drop kept <+: namesOf (relative guestPath) := prefix_append_right_inj _
  rwa [take_append_drop] at whole

variable {cwd dest guestPath}

theorem locate_of_stays (stays : Stays (locate cwd dest) guestPath) :
    locate cwd (localDest dest guestPath) =
      locate cwd dest ++ position (locate cwd dest) guestPath := by
  rw [locate_localDest, position]
  generalize locate cwd dest = place at stays
  obtain ⟨rest, names⟩ := stays
  have count : (place.drop (place.length - stepsUp (relative guestPath))).length =
      min (stepsUp (relative guestPath)) place.length := by
    rw [length_drop]
    omega
  rw [← names, ← count, drop_left, ← append_assoc, take_append_drop]

end Places

/-! ### Runs -/

def rsyncDest (dest guestPath : Text) : Text := localDest dest guestPath ++ ['/']

structure Within (dest : Text) (paths : List Text) (log : Log) : Prop where
  created : ∀ dir ∈ log.created, ∃ path ∈ paths, dir = localDest dest path
  handed : ∀ pair ∈ log.handed, ∃ path ∈ paths, pair = (path, rsyncDest dest path)

section Runs

variable {conn : SSHConn} {runID : Int} {dest : Text} {dirs paths : List Text} {guestPath : Text}
  {log : Log}

theorem Within.create (within : Within dest paths log) (mem : guestPath ∈ paths) :
    Within dest paths { log with created := log.created ++ [localDest dest guestPath] } := by
  refine ⟨fun dir made => ?_, within.handed⟩
  rcases mem_append.mp made with before | now
  · exact within.created dir before
  · exact ⟨guestPath, mem, mem_singleton.mp now⟩

theorem Within.hand (within : Within dest paths log) (mem : guestPath ∈ paths) :
    Within dest paths
      { log with handed := log.handed ++ [(guestPath, rsyncDest dest guestPath)] } := by
  refine ⟨within.created, fun pair given => ?_⟩
  rcases mem_append.mp given with before | now
  · exact within.handed pair before
  · exact ⟨guestPath, mem, mem_singleton.mp now⟩

theorem makeDir_meets (mem : localDest dest guestPath ≠ [] → guestPath ∈ paths) :
    Meets backupHost (Within dest paths) (makeDir (localDest dest guestPath))
      (Outcome (fun _ log => localDest dest guestPath ≠ [] ∧ Within dest paths log)
        (Within dest paths)) := by
  refine .call (Outcome (fun _ log => localDest dest guestPath ≠ [] ∧ Within dest paths log)
    (Within dest paths)) ?_ fun res => ?_
  · intro log ans res log' within ran
    replace ran : Op.exec (.mkdirAll _) ans log = some (res, log') := ran
    simp only [Op.exec] at ran
    split at ran
    · cases ran
      exact within
    · split at ran <;> cases ran
      rename_i named
      exact ⟨named, within.create (mem named)⟩
  · cases res <;> exact .done fun _ => id

theorem runRsyncCmd_meets {localDest : Text} :
    Meets backupHost (Within dest paths) (runRsyncCmd conn guestPath localDest)
      (Outcome (fun command log => command.getLastD [] = localDest ++ ['/'] ∧ Within dest paths log)
        (Within dest paths)) := by
  refine .call (fun _ => Within dest paths) ?_ fun res => ?_
  · intro log ans res log' within ran
    cases ran
    exact within
  · cases res with
    | ok rsync => exact .done fun _ within => ⟨rfl, within⟩
    | error text => exact .done fun _ => id

theorem run_meets {command : List Text} (mem : guestPath ∈ paths)
    (last : command.getLastD [] = rsyncDest dest guestPath) :
    Meets backupHost (Within dest paths) (run guestPath command)
      (Either (Within dest paths) (Within dest paths)) := by
  refine .call (fun _ => Within dest paths) ?_ fun res => ?_
  · intro log ans res log' within ran
    cases ran
    rw [last]
    exact within.hand mem
  · cases res <;> exact .done fun _ => id

theorem mirror_meets (mem : localDest dest guestPath ≠ [] → guestPath ∈ paths) :
    Meets backupHost (Within dest paths) (mirror conn dest guestPath)
      (Outcome (fun _ log => localDest dest guestPath ≠ [] ∧ Within dest paths log)
        (Within dest paths)) := by
  refine .seq (makeDir_meets mem) fun _ => .given fun named => ?_
  refine .seq runRsyncCmd_meets fun command => .given fun last => ?_
  refine (run_meets (mem named) last).weaken (fun _ => id) fun result log ended => ?_
  cases result with
  | ok _ => exact ⟨named, ended⟩
  | error _ => exact ended

theorem mem_reached {front rest : List Text} (named : ∀ path ∈ front, localDest dest path ≠ [])
    (this : localDest dest guestPath ≠ []) :
    guestPath ∈ reached dest (front ++ guestPath :: rest) := by
  unfold reached
  rw [takeWhile_append_of_pos (by simpa using named), takeWhile_cons_of_pos (by simpa using this)]
  simp

/-- What `Execute` does is for guest paths that it reaches. -/
theorem execute_within (conn : SSHConn) (runID : Int) (dest : Text) (dirs : List Text) :
    Meets backupHost (fun log => log = {}) (execute conn runID dest dirs)
      fun _ => Within dest (reached dest dirs) := by
  have start : Meets backupHost (fun log => log = {}) (markRunning runID)
      fun _ => Within dest (reached dest dirs) := by
    refine .call (fun _ => Within dest (reached dest dirs)) ?_ fun res => ?_
    · rintro log ans res log' rfl ran
      cases ran
      exact ⟨by simp, by simp⟩
    · cases res <;> exact .done fun _ => id
  have loop := Meets.forEach (M := backupHost) (f := mirror conn dest)
    (fun front _ log => (∀ path ∈ front, localDest dest path ≠ []) ∧
      Within dest (reached dest dirs) log)
    (Within dest (reached dest dirs)) dirs ?_
  · refine .bind start (fun _ _ => id) fun _ => ?_
    refine .bind_ok (loop.attempt.pre (fun log within => ⟨by simp, within⟩)) fun result => ?_
    have ended : ∀ result : Except String (List Unit),
        Meets backupHost (Within dest (reached dest dirs)) (finish runID result)
          fun _ => Within dest (reached dest dirs) := by
      intro result
      cases result with
      | error text =>
        exact .call (fun _ => Within dest (reached dest dirs))
          (fun _ _ _ _ within ran => by cases ran; exact within)
          fun _ => .done fun _ => id
      | ok _ =>
        refine .call (fun _ => Within dest (reached dest dirs))
          (fun _ _ _ _ within ran => by cases ran; exact within) fun res => ?_
        cases res <;> exact .done fun _ => id
    refine (ended result).pre (fun log after => ?_)
    cases result with
    | ok _ => exact after.2
    | error _ => exact after
  · intro front path rest out split
    refine .given fun named => ?_
    refine (mirror_meets fun this => split ▸ mem_reached named this).weaken
      (fun _ => id) fun result log ended => ?_
    cases result with
    | ok _ =>
      refine ⟨fun other mem => ?_, ended.2⟩
      rcases mem_append.mp mem with before | now
      · exact named other before
      · exact mem_singleton.mp now ▸ ended.1
    | error _ => exact ended

/-- The log of a run in which everything that can succeed does. -/
def fullLog (dest : Text) (paths : List Text) : Log where
  created := paths.map (localDest dest)
  handed := paths.map fun path => (path, rsyncDest dest path)

theorem succeed_look (log : Log) :
    backupHost.exec 0 .lookRsync ({} : Answer) log = some (.ok "", log) := rfl

theorem succeed_rsync (guestPath : Text) (command : List Text) (log : Log) :
    backupHost.exec 0 (.rsync guestPath command) ({} : Answer) log =
      some (.ok (), { log with handed := log.handed ++ [(guestPath, command.getLastD [])] }) := rfl

theorem succeed_setStatus (runID : Int) (status : Status) (text : String) (log : Log) :
    backupHost.exec 0 (.setStatus runID status text) ({} : Answer) log = some (.ok (), log) := rfl

theorem fail_mkdirAll (path : Text) (log : Log) :
    backupHost.exec 0 (.mkdirAll path) ({ error := some "no such file" } : Answer) log =
      some (.error "no such file", log) := rfl

theorem mirror_ran (conn : SSHConn) (named : localDest dest guestPath ≠ []) (log : Log) :
    Ran backupHost (mirror conn dest guestPath) log (.ok ())
      ⟨log.created ++ [localDest dest guestPath],
        log.handed ++ [(guestPath, rsyncDest dest guestPath)]⟩ := by
  have made : backupHost.exec 0 (.mkdirAll (localDest dest guestPath)) ({} : Answer) log =
      some (.ok (), { log with created := log.created ++ [localDest dest guestPath] }) := by
    simp [backupHost, Op.exec, named]
  refine .call made (.call (succeed_look _) ?_)
  exact .call (succeed_rsync _ _ _) .done

/-- There is a run of the loop that does all it can. -/
theorem forEach_mirror_ran (conn : SSHConn) (dest : Text) (dirs : List Text) (log : Log) :
    ∃ result, Ran backupHost (Prog.forEach (mirror conn dest) dirs) log result
      ⟨log.created ++ (fullLog dest (reached dest dirs)).created,
        log.handed ++ (fullLog dest (reached dest dirs)).handed⟩ := by
  induction dirs generalizing log with
  | nil =>
    refine ⟨.ok [], ?_⟩
    simp only [reached, takeWhile_nil, fullLog, map_nil, append_nil]
    exact .done
  | cons path dirs ih =>
    by_cases named : localDest dest path = []
    · have none : reached dest (path :: dirs) = [] := by simp [reached, named]
      refine ⟨.error ("mkdir " ++ String.ofList (localDest dest path) ++ ": " ++ "no such file"),
        ?_⟩
      rw [none]
      simp only [fullLog, map_nil, append_nil]
      exact .bind_error (.bind_error (.call (fail_mkdirAll _ _) .done))
    · obtain ⟨result, ran⟩ := ih ⟨log.created ++ [localDest dest path],
        log.handed ++ [(path, rsyncDest dest path)]⟩
      have more : reached dest (path :: dirs) = path :: reached dest dirs := by
        simp [reached, named]
      rw [more]
      simp only [fullLog, map_cons, append_assoc, singleton_append] at ran ⊢
      cases result with
      | ok values => exact ⟨.ok (() :: values), (mirror_ran conn named log).bind (ran.bind .done)⟩
      | error text => exact ⟨.error text, (mirror_ran conn named log).bind ran.bind_error⟩

theorem execute_ran (conn : SSHConn) (runID : Int) (dest : Text) (dirs : List Text) :
    ∃ result, Ran backupHost (execute conn runID dest dirs) {} result
      (fullLog dest (reached dest dirs)) := by
  obtain ⟨result, ran⟩ := forEach_mirror_ran conn dest dirs {}
  have started : Ran backupHost (markRunning runID) {} (.ok ()) {} :=
    .call (succeed_setStatus _ _ _ _) .done
  cases result with
  | ok values =>
    exact ⟨.ok (), started.bind (ran.attempt.bind (.call (succeed_setStatus _ _ _ _) .done))⟩
  | error text =>
    exact ⟨.error text, started.bind (ran.attempt.bind (.call (succeed_setStatus _ _ _ _) .done))⟩

end Runs

/-- Every local directory that `Execute` creates or gives to rsync is under the destination, and
different guest paths have different ones, exactly if each path that is reached stays and no
two of them that normalisation keeps apart have the same position. -/
theorem execute_confined_iff (cwd : Place) (conn : SSHConn) (runID : Int) (dest : Text)
    (dirs : List Text) :
    (∀ result log, Ran backupHost (execute conn runID dest dirs) {} result log →
        Confined cwd dest log) ↔
      (∀ path ∈ reached dest dirs, Stays (locate cwd dest) path) ∧
        ∀ first ∈ reached dest dirs, ∀ second ∈ reached dest dirs,
          position (locate cwd dest) first = position (locate cwd dest) second →
            cleanPath first = cleanPath second := by
  have named : ∀ path ∈ reached dest dirs, localDest dest path ≠ [] := by
    intro path member
    simpa using all_eq_true.mp all_takeWhile path member
  have place : ∀ path ∈ reached dest dirs,
      locate cwd (rsyncDest dest path) = locate cwd (localDest dest path) :=
    fun path member => locate_concat_slash (named path member) cwd
  constructor
  · intro confined
    obtain ⟨result, ran⟩ := execute_ran conn runID dest dirs
    obtain ⟨inside, apart⟩ := confined result _ ran
    have stays : ∀ path ∈ reached dest dirs, Stays (locate cwd dest) path := fun path member =>
      (inside_iff cwd dest path).mp (inside _ (mem_append_left _ (mem_map_of_mem member)))
    refine ⟨stays, fun first member second member' same => ?_⟩
    by_contra different
    refine apart _ (mem_map_of_mem member) _ (mem_map_of_mem member') different ?_
    rw [place first member, place second member', locate_of_stays (stays first member),
      locate_of_stays (stays second member'), same]
  · rintro ⟨stays, apart⟩ result log ran
    have within := execute_within conn runID dest dirs rfl ran
    have inside : ∀ path ∈ reached dest dirs,
        locate cwd dest <+: locate cwd (localDest dest path) :=
      fun path member => (inside_iff cwd dest path).mpr (stays path member)
    constructor
    · intro dir listed
      rcases mem_append.mp listed with made | given
      · obtain ⟨path, member, rfl⟩ := within.created dir made
        exact inside path member
      · obtain ⟨pair, found, rfl⟩ := mem_map.mp given
        obtain ⟨path, member, rfl⟩ := within.handed pair found
        rw [place path member]
        exact inside path member
    · intro first given second given' different same
      obtain ⟨path, member, rfl⟩ := within.handed first given
      obtain ⟨path', member', rfl⟩ := within.handed second given'
      rw [place path member, place path' member', locate_of_stays (stays path member),
        locate_of_stays (stays path' member')] at same
      exact different (apart path member path' member' (append_cancel_left same))

/-- What a guest prints that wants to be mirrored to `/etc`. -/
def hostileOutput : Text := "/home/me\n/home/me/../../../../etc\n".toList

def hostileBackup : Job Unit :=
  execute { host := "127.0.0.1", port := 2222 } 1 "/backup/work".toList
    ((enumerateHome hostileOutput).map DirEntry.path)

/-- The backup of the directories that it lists works on `/etc`. -/
theorem hostile_output_escapes : ∃ result log, Ran backupHost hostileBackup {} result log ∧
      ¬ Confined [] "/backup/work".toList log := by
  obtain ⟨result, log, ran, created⟩ := Ran.exists_of_play (M := backupHost)
    (replicate 8 ({} : Answer)) hostileBackup {} (fun _ log => "/etc".toList ∈ log.created)
    (by decide)
  refine ⟨result, log, ran, fun confined => ?_⟩
  exact absurd (confined.inside "/etc".toList (mem_append_left _ created)) (by decide)

end Vee.Backup
