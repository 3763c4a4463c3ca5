import Vee.Misc.Program

/-!
# Programs that run alone

`Ran M p w r w'` says that program `p`, with nothing else on the machine, can go from world `w`
to world `w'` and end with `r`. `Meets` is the triple over such runs, with one rule for each way to
build a program. `Prog.subst` carries out each call of a program by a program over other calls.
-/

namespace Vee

variable {Op Op' : Type} {Res : Op → Type} {Res' : Op' → Type} {α β γ W V : Type}

namespace Prog

/-- A program whose calls are carried out by other programs; an error of one of those ends it. -/
def subst (handler : (op : Op) → Prog Op' Res' (Res op)) : Prog Op Res α → Prog Op' Res' α
  | .done result => .done result
  | .call op next => handler op >>= fun answer => (next answer).subst handler

variable {handler : (op : Op) → Prog Op' Res' (Res op)}

theorem subst_bind (p : Prog Op Res α) (f : α → Prog Op Res β) :
    (p >>= f).subst handler = p.subst handler >>= fun value => (f value).subst handler := by
  induction p with
  | done result => cases result <;> rfl
  | call op next ih =>
    change (handler op >>= fun res => (next res >>= f).subst handler) = _
    simp only [ih]
    exact (bind_assoc _ _ _).symm

/-- What the programs that carry out the calls do is all that is done. -/
theorem Does.subst {allowed : Op' → Prop}
    (each : ∀ op, (handler op).Completes allowed) (p : Prog Op Res α) :
    (p.subst handler).Does allowed fun _ => True := by
  induction p with
  | done result => exact trivial
  | call op next ih => exact (each op).bind fun res _ => ih res

/-- More calls are allowed, and more results. -/
theorem Does.mono {allowed allowed' : Op → Prop} {ends ends' : Except String α → Prop}
    {p : Prog Op Res α} (does : p.Does allowed ends) (more : ∀ op, allowed op → allowed' op)
    (weaker : ∀ result, ends result → ends' result) : p.Does allowed' ends' := by
  induction p with
  | done result => exact weaker result does
  | call op next ih => exact ⟨more op does.1, fun res => ih res (does.2 res)⟩

end Prog

/-- Program `p`, alone on the machine, goes from `w` to `w'` and ends with `r`. -/
inductive Ran (M : Machine Op Res W) :
    Prog Op Res α → W → Except String α → W → Prop
  | done {result : Except String α} {w : W} : Ran M (.done result) w result w
  | call {op : Op} {next : Res op → Prog Op Res α} {ans : M.Ans} {answer : Res op} {w w' w'' : W}
      {result : Except String α} :
      M.exec 0 op ans w = some (answer, w') → Ran M (next answer) w' result w'' →
      Ran M (.call op next) w result w''

namespace Machine

/-- The run of a program with the host's choices given one by one. -/
def play (M : Machine Op Res W) : Prog Op Res α → List M.Ans → W → Option (Except String α × W)
  | .done result, [], w => some (result, w)
  | .call op next, ans :: choices, w =>
    (M.exec 0 op ans w).bind fun out => M.play (next out.1) choices out.2
  | _, _, _ => none

/-- The world at the end of such a run. -/
def after (M : Machine Op Res W) (p : Prog Op Res α) (choices : List M.Ans) (w : W) : W :=
  ((M.play p choices w).map (·.2)).getD w

/-- The machine on which every call may have any answer. -/
def anything (Op : Type) (Res : Op → Type) : Machine Op Res Unit where
  Ans := (op : Op) → Res op
  exec _ op ans w := some (ans op, w)

/-- A machine with a record of what its calls have done. The calls do not depend on it. -/
def observe (M : Machine Op Res W) {H : Type} (note : (op : Op) → Res op → W → W → H → H) :
    Machine Op Res (W × H) where
  Ans := M.Ans
  Event := M.Event
  exec i op ans w := (M.exec i op ans w.1).map fun out =>
    (out.1, out.2, note op out.1 w.1 out.2 w.2)
  env event w := (M.env event w.1).map fun world => (world, w.2)

variable {M : Machine Op Res W}

variable {op : Op} {ans : M.Ans} {allowed : Op → M.Ans → Bool} {w w' : W}

theorem observe_exec {H : Type} {note : (op : Op) → Res op → W → W → H → H} {res : Res op}
    {w w' : W × H} (executed : (M.observe note).exec 0 op ans w = some (res, w')) :
    ∃ world, M.exec 0 op ans w.1 = some (res, world) ∧
      w' = (world, note op res w.1 world w.2) := by
  obtain ⟨⟨result, world⟩, ran, same⟩ := Option.map_eq_some_iff.mp executed
  cases same
  exact ⟨world, ran, rfl⟩

/-- A machine whose host makes only some of its choices. -/
def only (M : Machine Op Res W) (allowed : Op → M.Ans → Bool) : Machine Op Res W where
  Ans := M.Ans
  Event := M.Event
  exec i op ans w := if allowed op ans then M.exec i op ans w else none
  env := M.env

theorem only_exec {res : Res op} (ran : (M.only allowed).exec 0 op ans w = some (res, w')) :
    allowed op ans = true ∧ M.exec 0 op ans w = some (res, w') := by
  simp only [only] at ran
  split at ran
  · rename_i chosen
    exact ⟨chosen, ran⟩
  · cases ran

end Machine

namespace Ran

variable {M : Machine Op Res W} {p : Prog Op Res α} {result : Except String α}
  {f : α → Prog Op Res β}

variable {w w' : W}

variable (choices : List M.Ans)

theorem of_play (played : M.play p choices w = some (result, w')) : Ran M p w result w' := by
  induction choices generalizing p w with
  | nil =>
    cases p with
    | done ended => cases played; exact .done
    | call op next => cases played
  | cons ans choices ih =>
    cases p with
    | done ended => cases played
    | call op next =>
      obtain ⟨⟨res, middle⟩, ran, rest⟩ := Option.bind_eq_some_iff.mp played
      exact .call ran (ih rest)

theorem after (p : Prog Op Res α) (choices : List M.Ans) (w : W)
    (played : (M.play p choices w).isSome = true) :
    ∃ result, Ran M p w result (M.after p choices w) := by
  obtain ⟨out, final⟩ := Option.isSome_iff_exists.mp played
  refine ⟨out.1, of_play choices ?_⟩
  simp [Machine.after, final]

/-- Playing a program to its end shows that it has a run with some property. -/
theorem exists_of_play (p : Prog Op Res α) (w : W) (holds : Except String α → W → Prop)
    (played : ∃ out ∈ M.play p choices w, holds out.1 out.2) :
    ∃ result w', Ran M p w result w' ∧ holds result w' := by
  obtain ⟨out, final, held⟩ := played
  exact ⟨out.1, out.2, of_play choices final, held⟩

/-- Playing a program to a value with some property shows that it has such a run. -/
theorem exists_ok_of_play (p : Prog Op Res α) (w : W) (holds : α → W → Prop)
    (played : ∃ out ∈ M.play p choices w, ∃ value ∈ out.1.toOption, holds value out.2) :
    ∃ value w', Ran M p w (.ok value) w' ∧ holds value w' := by
  obtain ⟨⟨result, w'⟩, final, value, ended, held⟩ := played
  cases result with
  | ok found =>
    cases ended
    exact ⟨value, w', of_play choices final, held⟩
  | error text => cases ended

theorem ask_inv {op : Op} {next : Res op → Prog Op Res α}
    (ran : Ran M (Prog.ask op >>= next) w result w') :
    ∃ ans answer middle, M.exec 0 op ans w = some (answer, middle) ∧
      Ran M (next answer) middle result w' := by
  cases ran with
  | call executed rest => exact ⟨_, _, _, executed, rest⟩

/-- A run of two programs in sequence is a run of the first, and of the second if the first has
a value. -/
theorem bind_inv {result : Except String β} (ran : Ran M (p >>= f) w result w') :
    (∃ text, Ran M p w (.error text) w' ∧ result = .error text) ∨
      ∃ value middle, Ran M p w (.ok value) middle ∧ Ran M (f value) middle result w' := by
  induction p generalizing w with
  | done ended =>
    cases ended with
    | ok value => exact .inr ⟨value, w, .done, ran⟩
    | error text =>
      cases ran
      exact .inl ⟨text, .done, rfl⟩
  | call op next ih =>
    cases ran with
    | call ran rest =>
      rcases ih _ rest with ⟨text, first, same⟩ | ⟨value, middle, first, second⟩
      · exact .inl ⟨text, .call ran first, same⟩
      · exact .inr ⟨value, middle, .call ran first, second⟩

theorem bind {middle : W} {value : α} {result : Except String β}
    (first : Ran M p w (.ok value) middle) (rest : Ran M (f value) middle result w') :
    Ran M (p >>= f) w result w' := by
  generalize ended : Except.ok value = final at first
  induction first with
  | done =>
    cases ended
    exact rest
  | call ran _ ih => exact .call ran (ih rest ended)

theorem bind_error {text : String} (failed : Ran M p w (.error text) w') :
    Ran M (p >>= f) w (.error text) w' := by
  generalize ended : (Except.error text : Except String α) = final at failed
  induction failed with
  | done =>
    cases ended
    exact .done
  | call ran _ ih => exact .call ran (ih ended)

theorem attempt (ran : Ran M p w result w') : Ran M p.attempt w (.ok result) w' := by
  induction ran with
  | done => exact .done
  | call ran _ ih => exact .call ran ih

theorem attempt_inv {result : Except String (Except String α)} (ran : Ran M p.attempt w result w') :
    ∃ r, result = .ok r ∧ Ran M p w r w' := by
  induction p generalizing w with
  | done ended =>
    cases ran
    exact ⟨ended, rfl, .done⟩
  | call op next ih =>
    cases ran with
    | call ran rest =>
      obtain ⟨r, same, first⟩ := ih _ rest
      exact ⟨r, same, .call ran first⟩

/-- If each call is carried out, up to a relation between the worlds, as the machine could have
answered it, then so is the whole program. -/
theorem simulate {N : Machine Op' Res' V} {handler : (op : Op) → Prog Op' Res' (Res op)}
    {R : V → W → Prop} (each : ∀ op v v' w result, R v w → Ran N (handler op) v result v' →
      ∃ ans res w', result = .ok res ∧ M.exec 0 op ans w = some (res, w') ∧ R v' w')
    {v v' : V} (related : R v w) (ran : Ran N (p.subst handler) v result v') :
    ∃ w', Ran M p w result w' ∧ R v' w' := by
  induction p generalizing v w with
  | done ended =>
    cases ran
    exact ⟨w, .done, related⟩
  | call op next ih =>
    rcases ran.bind_inv with ⟨text, carried, _⟩ | ⟨value, middle, carried, rest⟩
    · obtain ⟨ans, res, w', impossible, -⟩ := each op _ _ _ _ related carried
      cases impossible
    · obtain ⟨ans, res, w₁, same, executed, related⟩ := each op _ _ _ _ related carried
      cases same
      obtain ⟨w', ran, related⟩ := ih _ related rest
      exact ⟨w', .call executed ran, related⟩

/-- A program alone in its pool can take every run of it. -/
theorem reach (ran : Ran M p w result w') : Reach M (.none M) ⟨[p], w⟩ ⟨[.done result], w'⟩ := by
  have further : ∀ start : Config Op Res α W, Reach M (.none M) start ⟨[p], w⟩ →
      Reach M (.none M) start ⟨[.done result], w'⟩ := by
    induction ran with
    | done => exact fun _ => id
    | call ran _ ih => exact fun start reached => ih start (.run reached rfl trivial ran)
  exact further _ .refl

end Ran

/-- From a world that satisfies `pre`, the program can only end as `post` says. -/
def Meets (M : Machine Op Res W) (pre : W → Prop) (p : Prog Op Res α)
    (post : Except String α → W → Prop) : Prop :=
  ∀ ⦃w result w'⦄, pre w → Ran M p w result w' → post result w'

namespace Meets

variable {M : Machine Op Res W} {before before' : W → Prop}
  {post post' : Except String α → W → Prop}
  {f : γ → Prog Op Res α} {middle : γ → W → Prop} {p : Prog Op Res α} {calls : Op → Prop}

theorem done {result : Except String α} (holds : ∀ w, before w → post result w) :
    Meets M before (.done result) post := by
  intro w r w' before ran
  cases ran
  exact holds w before

variable {op : Op} {N : Machine Op' Res' V} {handler : (op : Op) → Prog Op' Res' (Res op)}
  {after : α → W → Prop} {failed assertion : W → Prop}

/-- The rule for a call, with what holds after it. -/
theorem call {next : Res op → Prog Op Res α} (middle : Res op → W → Prop)
    (step : ∀ w ans res w', before w → M.exec 0 op ans w = some (res, w') → middle res w')
    (rest : ∀ res, Meets M (middle res) (next res) post) :
    Meets M before (.call op next) post := by
  intro w r w' before ran
  cases ran with
  | call ran after => exact rest _ (step _ _ _ _ before ran) after

theorem bind {middle : Except String γ → W → Prop} {p : Prog Op Res γ}
    (first : Meets M before p middle)
    (thrown : ∀ text w, middle (.error text) w → post (.error text) w)
    (rest : ∀ value, Meets M (middle (.ok value)) (f value) post) :
    Meets M before (p >>= f) post := by
  intro w r w' before ran
  rcases ran.bind_inv with ⟨text, failed, rfl⟩ | ⟨value, between, ended, after⟩
  · exact thrown text w' (first before failed)
  · exact rest value (first before ended) after

/-- Sequencing of programs whose calls are carried out by other programs. -/
theorem subst_bind {before : V → Prop} {middle : Except String γ → V → Prop}
    {after : Except String α → V → Prop} {p : Prog Op Res γ}
    (first : Meets N before (p.subst handler) middle)
    (thrown : ∀ text v, middle (.error text) v → after (.error text) v)
    (rest : ∀ value, Meets N (middle (.ok value)) ((f value).subst handler) after) :
    Meets N before ((p >>= f).subst handler) after := by
  rw [Prog.subst_bind]
  exact bind first thrown rest

/-- Sequencing after a program that does not throw. -/
theorem bind_ok {p : Prog Op Res γ}
    (first : Meets M before p fun result w => ∃ value, result = .ok value ∧ middle value w)
    (rest : ∀ value, Meets M (middle value) (f value) post) : Meets M before (p >>= f) post := by
  refine bind first ?_ fun value => ?_
  · rintro text w ⟨value, impossible, -⟩
    cases impossible
  · rintro w result w' ⟨value', same, holds⟩ ran
    cases same
    exact rest value holds ran

theorem weaken (meets : Meets M before p post) (stronger : ∀ w, before' w → before w)
    (weaker : ∀ result w, post result w → post' result w) : Meets M before' p post' :=
  fun _ _ _ before ran => weaker _ _ (meets (stronger _ before) ran)

/-- Going on with what may be an error. -/
theorem either {ε β : Type} {middle : Except ε β → W → Prop} {f : Except ε β → Prog Op Res α}
    (failed : ∀ err, Meets M (middle (.error err)) (f (.error err)) post)
    (went : ∀ v, Meets M (middle (.ok v)) (f (.ok v)) post) (result : Except ε β) :
    Meets M (middle result) (f result) post := by
  cases result with
  | ok v => exact went v
  | error err => exact failed err

/-- The context of an error is not seen where nothing is said of its text. -/
theorem orThrow {context : String} {res : Except String α}
    (texts : ∀ text w, post (.error text) w → post (.error (context ++ text)) w) :
    Meets M (post res) (Prog.orThrow context res) post := by
  cases res with
  | ok value => exact done fun _ => id
  | error text => exact done (texts text)

/-- More is known before. -/
theorem pre (meets : Meets M before p post) (stronger : ∀ w, before' w → before w) :
    Meets M before' p post := meets.weaken stronger fun _ _ => id

/-- Less is said of the value. -/
theorem ends {after' : α → W → Prop} (meets : Meets M before p (Outcome after failed))
    (weaker : ∀ value w, after value w → after' value w) :
    Meets M before p (Outcome after' failed) := by
  refine meets.weaken (fun _ => id) fun result w ended => ?_
  cases result with
  | ok value => exact weaker value w ended
  | error text => exact ended

/-- What holds after a program that does not fail. -/
theorem of_ends (meets : Meets M before p (Ends after))
    (holds : ∀ value w, after value w → post (.ok value) w) : Meets M before p post := by
  refine meets.weaken (fun _ => id) fun result w ended => ?_
  cases result with
  | ok value => exact holds value w ended
  | error text => exact ended.elim

/-- Going on with a value that is known. -/
theorem bind_value {context : String} {value : γ} (rest : Meets M before (f value) post) :
    Meets M before (Prog.orThrow context (.ok value) >>= f) post := rest

/-- A fact about the values at hand can be used at once. -/
theorem given {fact : Prop} (meets : fact → Meets M before p post) :
    Meets M (fun w => fact ∧ before w) p post :=
  fun _ _ _ before ran => meets before.1 before.2 ran

/-- An assertion with a witness is one for each witness. -/
theorem of_exists {ι : Type} {holds : ι → W → Prop}
    (each : ∀ x, Meets M (holds x) p post) : Meets M (fun w => ∃ x, holds x w) p post := by
  rintro w result w' ⟨x, before⟩ ran
  exact each x before ran

/-- Case distinction on what holds before. -/
theorem of_or (first : Meets M before p post) (second : Meets M before' p post) :
    Meets M (fun w => before w ∨ before' w) p post :=
  fun _ _ _ before ran => before.elim (first · ran) (second · ran)

/-- What a single call comes to. -/
theorem ask {after : Res op → W → Prop}
    (step : ∀ w ans res w', before w → M.exec 0 op ans w = some (res, w') → after res w') :
    Meets M before (Prog.ask op) fun result w => ∃ res, result = .ok res ∧ after res w :=
  call after step fun res => done fun _ holds => ⟨res, rfl, holds⟩

theorem ask_ends {after : Res op → W → Prop}
    (step : ∀ w ans res w', before w → M.exec 0 op ans w = some (res, w') → after res w') :
    Meets M before (Prog.ask op) (Ends after) := call after step fun _ => done fun _ => id

/-- Running a program for its result. -/
theorem attempt (meets : Meets M before p post) :
    Meets M before p.attempt fun result w => ∃ r, result = .ok r ∧ post r w := by
  intro w result w' before ran
  obtain ⟨r, same, first⟩ := ran.attempt_inv
  exact ⟨r, same, meets before first⟩

/-- Sequencing of programs that fail in the same way. -/
theorem seq {p : Prog Op Res γ} (first : Meets M before p (Outcome middle failed))
    (rest : ∀ value, Meets M (middle value) (f value) (Outcome after failed)) :
    Meets M before (p >>= f) (Outcome after failed) :=
  bind first (fun _ _ => id) rest

/-- Going on with the result of a program that does not fail. -/
theorem bind_attempt {p : Prog Op Res γ}
    {f : Except String γ → Prog Op Res α} (first : Meets M before p (Ends middle))
    (rest : ∀ value, Meets M (middle value) (f (.ok value)) post) :
    Meets M before (p.attempt >>= f) post := by
  refine bind_ok first.attempt fun result => ?_
  cases result with
  | ok value => exact rest value
  | error text => exact fun _ _ _ impossible => impossible.elim

/-- Sequencing after a program that does not fail. -/
theorem bind_ends {p : Prog Op Res γ}
    (first : Meets M before p (Ends middle))
    (rest : ∀ value, Meets M (middle value) (f value) post) :
    Meets M before (p >>= f) post :=
  bind first (fun _ _ impossible => impossible.elim) rest

/-- The rule for a loop: an invariant of the elements handled so far and of their values, and
what holds if one of them fails. -/
theorem forEach (inv : List γ → List α → W → Prop) (failed : W → Prop)
    (xs : List γ) (each : ∀ front x rest out, xs = front ++ x :: rest →
      Meets M (inv front out) (f x) (Outcome (fun y => inv (front ++ [x]) (out ++ [y])) failed)) :
    Meets M (inv [] []) (Prog.forEach f xs) (Outcome (inv xs) failed) := by
  -- what is left of the list, after any part of it
  have rest : ∀ left front out, xs = front ++ left → Meets M (inv front out)
      (Prog.forEach f left) (Outcome (fun ys => inv xs (out ++ ys)) failed) := by
    intro left
    induction left with
    | nil =>
      intro front out split
      refine done fun w before => ?_
      show inv xs (out ++ []) w
      simpa [split] using before
    | cons x left ih =>
      intro front out split
      refine seq (each front x left out split) fun y => ?_
      have collected : Meets M (inv (front ++ [x]) (out ++ [y])) (Prog.forEach f left)
          (Outcome (fun ys => inv xs (out ++ y :: ys)) failed) := by
        simpa using ih (front ++ [x]) (out ++ [y]) (by simpa using split)
      exact seq collected fun ys => done fun _ => id
  exact rest xs [] [] rfl

/-- A loop that keeps an assertion, with what is known of every value. -/
theorem forEach_all {holds : W → Prop} {fact : α → Prop} {xs : List γ}
    (each : ∀ x ∈ xs, Meets M holds (f x) (Outcome (fun y w => fact y ∧ holds w) failed)) :
    Meets M holds (Prog.forEach f xs)
      (Outcome (fun ys w => (∀ y ∈ ys, fact y) ∧ holds w) failed) := by
  refine (forEach (fun _ out w => (∀ y ∈ out, fact y) ∧ holds w) failed xs
    fun front x rest out split => ?_).weaken (fun w now => ⟨nofun, now⟩) fun _ _ => id
  have mem : x ∈ xs := by simp [split]
  refine given fun known => (each x mem).ends fun value w now => ⟨?_, now.2⟩
  exact List.forall_mem_append.mpr ⟨known, List.forall_mem_singleton.mpr now.1⟩

/-- A program whose calls are carried out one by one, each of them keeping an assertion. -/
theorem of_does_subst {ends : Except String α → Prop} {assertion : V → Prop}
    (keeps : ∀ op, calls op → Meets N assertion (handler op) fun result v =>
      ∃ res, result = .ok res ∧ assertion v)
    (does : p.Does calls ends) :
    Meets N assertion (p.subst handler) fun result v => ends result ∧ assertion v := by
  induction p with
  | done result => exact done fun v holds => ⟨does, holds⟩
  | call op next ih => exact bind_ok (keeps op does.1) fun res => ih res (does.2 res)

/-- A program whose calls all keep an assertion. -/
theorem of_does {ends : Except String α → Prop}
    (keeps : ∀ op, calls op → ∀ w ans res w', assertion w →
      M.exec 0 op ans w = some (res, w') → assertion w')
    (does : p.Does calls ends) : Meets M assertion p fun result w => ends result ∧ assertion w := by
  induction p with
  | done result => exact done fun w holds => ⟨does, holds⟩
  | call op next ih =>
    exact call (fun _ => assertion) (keeps op does.1) fun res => ih res (does.2 res)

/-- The same for a program that does not throw. -/
theorem of_returns {value : α → Prop} (keeps : ∀ op, calls op → ∀ w ans res w', assertion w →
      M.exec 0 op ans w = some (res, w') → assertion w')
    (does : p.Does calls (Prog.returns value)) :
    Meets M assertion p (Ends fun v w => value v ∧ assertion w) := by
  refine (of_does keeps does).weaken (fun _ => id) fun result w ended => ?_
  cases result with
  | ok value => exact ended
  | error text => exact ended.1

end Meets

end Vee
