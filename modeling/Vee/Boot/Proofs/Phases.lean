import Vee.Boot.PhaseWatcher

/-!
# What a watcher reports

The phases of a run only advance, and nothing follows the end of the boot. How the log grows
between two rounds makes no difference: the events are those of its lines.
-/

namespace Vee.Boot

variable {p : Progress} {w : Watch} {idleTimeout : Option String}

/-! ## The order of the phases -/

/-- One event may come before another: the boot is not over with it, and the later phase is a
failure, a higher one or a further stage of the install. -/
def Event.Precedes (a b : Event) : Prop :=
  a.phase ≠ .ready ∧ a.phase ≠ .failed ∧
    (b.phase = .failed ∨ a.phase.rank < b.phase.rank ∨ a.phase = .install ∧ b.phase = .install)

structure Ordered (p : Progress) : Prop where
  sorted : p.events.Pairwise Event.Precedes
  /-- A run that goes on has not come to an end of the boot. -/
  ahead : p.returned = none → p.last.rank ≤ Phase.install.rank ∧
    ∀ e ∈ p.events, e.phase ≠ .failed ∧ e.phase.rank ≤ p.last.rank

theorem Phase.eq_install {phase : Phase} (rank : phase.rank = Phase.install.rank) :
    phase = .install := by
  cases phase <;> first | rfl | cases rank

theorem Phase.rank_le_install {phase : Phase} (notReady : phase ≠ .ready) :
    phase.rank ≤ Phase.install.rank := by
  cases phase <;> first | decide | exact absurd rfl notReady

/-- The events so far may come before the next one. -/
theorem Ordered.add (ordered : Ordered p) (going : p.returned = none) {next : Event}
    (later : next.phase = .failed ∨ next.phase = .install ∨ p.last.rank < next.phase.rank) :
    (p.events ++ [next]).Pairwise Event.Precedes := by
  obtain ⟨low, all⟩ := ordered.ahead going
  refine List.pairwise_append.mpr ⟨ordered.sorted, by simp, ?_⟩
  simp only [List.mem_singleton, forall_eq]
  intro e mem
  obtain ⟨unfailed, reached⟩ := all e mem
  have below := reached.trans low
  refine ⟨fun finished => ?_, unfailed, later.imp_right fun later => ?_⟩
  · rw [finished] at below
    exact absurd below (by decide)
  · rcases later with install | higher
    · rw [install]
      exact below.lt_or_eq.imp_right fun level => ⟨Phase.eq_install level, rfl⟩
    · exact .inl (reached.trans_lt higher)

theorem Ordered.enter (ordered : Ordered p) (going : p.returned = none) {phase : Phase}
    (detail : String) (notReady : phase ≠ .ready) (known : phase ≠ .failed)
    (later : phase = .install ∨ p.last.rank < phase.rank) : Ordered (p.enter phase detail) := by
  obtain ⟨low, all⟩ := ordered.ahead going
  have high : p.last.rank ≤ phase.rank := by
    rcases later with rfl | higher
    · exact low
    · exact higher.le
  refine ⟨ordered.add going (.inr later), fun _ => ⟨Phase.rank_le_install notReady, ?_⟩⟩
  refine List.forall_mem_append.mpr ⟨fun e mem => ?_, by simpa [Progress.enter] using known⟩
  exact ⟨(all e mem).1, (all e mem).2.trans high⟩

theorem Ordered.take (ordered : Ordered p) (going : p.returned = none) (full : Text) :
    Ordered (p.take full).1 := by
  unfold Progress.take
  generalize classify full = found
  obtain ⟨phase, fail, panicLine, detail⟩ := found
  dsimp only
  split
  · exact ordered
  split
  · exact ⟨ordered.add going (.inl rfl), nofun⟩
  split
  · rename_i install
    exact ordered.enter going detail (by simp [install]) (by simp [install]) (.inl install)
  split
  · exact ordered
  rename_i higher
  have above := Nat.lt_of_not_le higher
  split
  · exact ⟨ordered.add going (.inr (.inr above)), nofun⟩
  · rename_i notReady
    refine ordered.enter going detail notReady ?_ (.inr above)
    rintro rfl
    exact absurd above (Nat.not_lt_zero _)

theorem Ordered.readLine (ordered : Ordered w.toProgress) (going : w.returned = none)
    (line : Text) : Ordered (w.readLine line).1.toProgress := by
  unfold Watch.readLine
  split
  · exact ordered
  · exact ordered.take going _

theorem Ordered.readLoop {reads : List Read} (ordered : Ordered w.toProgress)
    (going : w.returned = none) : Ordered (w.readLoop reads).toProgress := by
  induction reads generalizing w with
  | nil => exact ordered
  | cons r reads ih =>
    rw [Watch.readLoop]
    split
    · exact ordered
    have next := ordered.readLine going r.line
    dsimp only
    split
    · exact next
    rename_i goesOn
    split
    · split
      · exact next
      · exact ⟨next.sorted, nofun⟩
    · exact ih next (by simpa using goesOn)

theorem Ordered.poll (ordered : Ordered w.toProgress) (going : w.returned = none) (r : Round) :
    Ordered (w.poll r).toProgress := by
  unfold Watch.poll
  dsimp only
  split
  · exact Ordered.readLoop ordered going
  · exact ordered

theorem Ordered.round (ordered : Ordered w.toProgress) (r : Round) :
    Ordered (w.round idleTimeout r).toProgress := by
  unfold Watch.round
  split
  · exact ordered
  rename_i going
  have read := ordered.poll (by simpa using going) r
  split
  · exact ⟨ordered.sorted, nofun⟩
  generalize w.poll r = next at read ⊢
  dsimp only
  split
  · rename_i goesOn
    split
    · exact ⟨read.add goesOn (.inl rfl), nofun⟩
    · exact read
  · exact read

/-- The phases of a boot only advance, the install apart, and the boot is over with the first
one that says so. -/
theorem phases_advance (rounds : List Round) :
    (run idleTimeout rounds).events.Pairwise Event.Precedes := by
  suffices runs : ∀ w : Watch, Ordered w.toProgress →
      Ordered (rounds.foldl (Watch.round idleTimeout) w).toProgress from
    (runs {} ⟨.nil, fun _ => ⟨by decide, nofun⟩⟩).sorted
  induction rounds with
  | nil => exact fun _ => id
  | cons r rounds ih => exact fun w ordered => ih _ (ordered.round r)

/-! ## The growth of the log -/

/-- What the calls of `ReadString` return on a text, when a line has already been begun. -/
def readsFrom : Text → Text → List Read
  | line, [] => [{ line := line, err := some "EOF" }]
  | line, c :: text =>
    if c = '\n' then { line := line ++ [c] } :: readsFrom [] text else readsFrom (line ++ [c]) text

/-- A round that reads what has been appended to the log. -/
def reading (chunk : Text) : Round := { reads := readsFrom [] chunk }

/-- The log character by character, with the line that has been begun: each line is dealt with
when it ends, unless `Run` has returned. -/
def Progress.follow : Progress × Text → Char → Progress × Text
  | (p, line), c =>
    if c = '\n' then (if p.returned.isSome then p else (p.take (line ++ [c])).1, [])
    else (p, line ++ [c])

theorem follow_returned (finished : p.returned.isSome) (line text : Text) :
    (text.foldl Progress.follow (p, line)).1 = p := by
  induction text generalizing line with
  | nil => rfl
  | cons c text ih =>
    rw [List.foldl_cons, Progress.follow]
    split <;> simp [ih]

/-- The watcher has come to the same, and keeps the same line unless it has returned. -/
structure Follows (s : Progress × Text) (w : Watch) : Prop where
  progress : w.toProgress = s.1
  leftover : w.returned = none → w.leftover = s.2

theorem readLoop_line {line : Text} (named : line ≠ []) (reads : List Read) :
    w.readLoop ({ line := line } :: reads) =
      let next : Watch := { w with
        toProgress := (w.toProgress.take (w.leftover ++ line)).1, leftover := [] }
      if next.returned.isSome then next else next.readLoop reads := by
  rw [Watch.readLoop, if_neg (by simp), Watch.readLine, if_neg named]
  generalize w.toProgress.take (w.leftover ++ line) = taken
  obtain ⟨p, looks⟩ := taken
  cases looks <;> rfl

theorem readLoop_follows (line text : Text) (going : w.returned = none) :
    Follows (text.foldl Progress.follow (w.toProgress, w.leftover ++ line))
      (w.readLoop (readsFrom line text)) := by
  induction text generalizing line w with
  | nil =>
    by_cases empty : line = []
    · have stays : w.readLoop (readsFrom line []) = w := by
        simp [readsFrom, Watch.readLoop, Watch.readLine, empty, going]
      rw [stays, empty, List.append_nil]
      exact ⟨rfl, fun _ => rfl⟩
    · rw [readsFrom, Watch.readLoop, if_pos ⟨empty, rfl⟩]
      exact ⟨rfl, fun _ => rfl⟩
  | cons c text ih =>
    by_cases ended : c = '\n'
    · simp only [readsFrom, List.foldl_cons, Progress.follow, if_pos ended, going,
        Option.isSome_none, Bool.false_eq_true, if_false, List.append_assoc,
        readLoop_line (List.append_ne_nil_of_right_ne_nil line (List.cons_ne_nil c []))]
      split
      · rename_i finished
        refine ⟨(follow_returned finished [] text).symm, fun goesOn => ?_⟩
        rw [goesOn] at finished
        cases finished
      · rename_i goesOn
        let next : Watch := { w with
          toProgress := (w.toProgress.take (w.leftover ++ (line ++ [c]))).1, leftover := [] }
        exact ih (w := next) [] (by simpa [next] using goesOn)
    · simpa [readsFrom, Progress.follow, ended] using ih (line ++ [c]) going

theorem round_follows {s : Progress × Text} (follows : Follows s w) (chunk : Text) :
    Follows (chunk.foldl Progress.follow s) (w.round idleTimeout (reading chunk)) := by
  obtain ⟨p, line⟩ := s
  obtain rfl : w.toProgress = p := follows.progress
  cases finished : w.returned with
  | some result =>
    have stays : w.round idleTimeout (reading chunk) = w := by simp [Watch.round, finished]
    rw [stays]
    exact ⟨(follow_returned (by simp [finished]) line chunk).symm, by simp [finished]⟩
  | none =>
    have reads : w.round idleTimeout (reading chunk) =
        { w with opened := true }.readLoop (readsFrom [] chunk) := by
      simp [Watch.round, Watch.poll, reading, finished]
      split <;> rfl
    obtain rfl : w.leftover = line := follows.leftover finished
    rw [reads]
    simpa using readLoop_follows (w := { w with opened := true }) [] chunk finished

/-- However the log appears and grows between the rounds, if the watch is not cancelled and the idle
timeout does not fire, the watcher comes to what the whole text comes to, character by character. -/
theorem watch_follows_log (missing : Nat) (chunks : List Text) :
    (run idleTimeout
      (List.replicate missing { opens := false } ++ chunks.map reading)).toProgress =
      (chunks.flatten.foldl Progress.follow ({}, [])).1 := by
  have waits : (List.replicate missing { opens := false }).foldl (Watch.round idleTimeout) {} =
      {} := by
    induction missing with
    | zero => rfl
    | succ missing ih =>
      have stays : Watch.round idleTimeout {} { opens := false } = {} := by
        cases idleTimeout <;> rfl
      rw [List.replicate_succ, List.foldl_cons, stays, ih]
  have follows : ∀ s w, Follows s w → Follows (chunks.flatten.foldl Progress.follow s)
      ((chunks.map reading).foldl (Watch.round idleTimeout) w) := by
    induction chunks with
    | nil => exact fun _ _ => id
    | cons chunk chunks ih =>
      intro s w follows
      simpa using ih _ _ (round_follows follows chunk)
  rw [run, List.foldl_append, waits]
  exact (follows ({}, []) {} ⟨rfl, fun _ => rfl⟩).progress

example : (run none [reading "Linux ver".toList, reading "sion 6\nend Ker".toList]).events =
    [{ phase := .kernelBoot }] := by decide +kernel

end Vee.Boot
