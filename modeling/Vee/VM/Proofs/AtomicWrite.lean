import Vee.Misc.RelyGuarantee
import Vee.Misc.Sequential
import Vee.VM.FileStore

/-!
# Concurrent writes of one file

`atomicWrite` renames a temporary file into place, so that no reader sees a file that is half
written. But the temporary file has one fixed name: a second writer truncates the file of the
first, and the one that is still writing then writes into the file that readers open.
-/

namespace Vee.FileStore

open OpenFiles List Option

/-- A temporary file is opened only if no other program is still at work on it. -/
def inTurn (w : World) : Op StorePath UInt8 → Prop
  | .create path => w.2.writer path = none
  | _ => True

def oneWriter : Guard storeFiles where
  run _ op _ w := inTurn w op

instance : oneWriter.Decides where
  run _ op _ w := by
    cases op with
    | create path => exact inferInstanceAs (Decidable (w.2.writer path = none))
    | _ => exact isTrue trivial
  env _ _ := isTrue trivial

namespace AtomicWrite

/-- No temporary file, so nobody writes to it any more. -/
structure Frozen (file : Nat) (bytes : Bytes) (w : Files StorePath UInt8) : Prop where
  known : file < w.next
  noTemp : ∀ f, w.entry ⟨f, true⟩ ≠ some file
  data : w.data file = bytes

/-- What program `j` leaves alone. -/
structure Leaves (j : Nat) (w w' : World) : Prop where
  frozen : ∀ file bytes, Frozen file bytes w.1 → Frozen file bytes w'.1
  writer : ∀ f k, k ≠ j → w.2.writer ⟨f, true⟩ = some k → w'.2.writer ⟨f, true⟩ = some k
  entry : ∀ f k, k ≠ j → w.2.writer ⟨f, true⟩ = some k →
    w'.1.entry ⟨f, true⟩ = w.1.entry ⟨f, true⟩
  data : ∀ f k file, k ≠ j → w.2.writer ⟨f, true⟩ = some k → w.1.entry ⟨f, true⟩ = some file →
    w'.1.data file = w.1.data file
  installed : ∀ e ∈ w.2.installed, e ∈ w'.2.installed

/-- The entries are in order, and the file of every other entry is one of those that may be read. -/
structure Inv (good : StoreFile → Bytes → Prop) (w : World) : Prop where
  formed : WellFormed w.1
  current : ∀ f bytes, w.1.content ⟨f, false⟩ = some bytes → good f bytes

def protocol (good : StoreFile → Bytes → Prop) : Protocol storeFiles where
  guard := oneWriter
  inv := Inv good
  guar := Leaves

variable {good : StoreFile → Bytes → Prop} {i : Nat} {f : StoreFile} {file : Nat} {bytes : Bytes}
  {w w' : World}

theorem hostKeeps : (protocol good).HostKeeps := fun event => event.elim

theorem interferes (step : (protocol good).Interferes i w w') : ∃ j, j ≠ i ∧ Leaves j w w' := by
  obtain ⟨-, -, ⟨j, other, leaves⟩ | ⟨event, -, -⟩⟩ := step
  · exact ⟨j, other, leaves⟩
  · exact event.elim

/-- Program `i` is at work on the temporary file, which has these bytes. -/
structure Writing (i : Nat) (f : StoreFile) (file : Nat) (bytes : Bytes) (w : World) : Prop where
  writer : w.2.writer ⟨f, true⟩ = some i
  entry : w.1.entry ⟨f, true⟩ = some file
  data : w.1.data file = bytes

theorem writing_stable : (protocol good).Stable i (Writing i f file bytes) := by
  intro w w' writing step
  obtain ⟨j, other, leaves⟩ := interferes step
  have mine : i ≠ j := fun same => other same.symm
  refine ⟨leaves.writer f i mine writing.writer, ?_, ?_⟩
  · rw [leaves.entry f i mine writing.writer, writing.entry]
  · rw [leaves.data f i file mine writing.writer writing.entry, writing.data]

theorem frozen_stable : (protocol good).Stable i fun w => Frozen file bytes w.1 := by
  intro w w' frozen step
  obtain ⟨j, -, leaves⟩ := interferes step
  exact leaves.frozen file bytes frozen

theorem installed_stable (entry : Nat × StorePath × Bytes) :
    (protocol good).Stable i fun w => entry ∈ w.2.installed := by
  intro w w' mem step
  obtain ⟨j, -, leaves⟩ := interferes step
  exact leaves.installed entry mem

/-! ### Calls that leave the files alone -/

theorem finish_writer {h : History} {path : StorePath} {k : Nat} (other : k ≠ i)
    (writes : h.writer path = some k) : (h.finish i).writer path = some k := by
  simp only [History.finish, writes]
  exact if_neg fun same => other (some.inj same)

structure Extends (i : Nat) (h h' : History) : Prop where
  writer : ∀ f k, k ≠ i → h.writer ⟨f, true⟩ = some k → h'.writer ⟨f, true⟩ = some k
  installed : ∀ e ∈ h.installed, e ∈ h'.installed

theorem Extends.refl (i : Nat) (h : History) : Extends i h h :=
  ⟨fun _ _ _ => id, fun _ => id⟩

theorem Extends.finish (i : Nat) (h : History) : Extends i h (h.finish i) :=
  ⟨fun _ _ => finish_writer, fun _ => id⟩

section Steps

variable {w : Files StorePath UInt8} {h h' : History}

theorem idle_step (inv : Inv good (w, h)) (history : Extends i h h') :
    Inv good (w, h') ∧ Leaves i (w, h) (w, h') :=
  ⟨⟨inv.formed, inv.current⟩, fun _ _ => id, history.writer, fun _ _ _ _ => rfl,
    fun _ _ _ _ _ _ => rfl, history.installed⟩

def readsOnly : Op StorePath UInt8 → Bool
  | .mkdirAll | .close _ | .openRead _ | .read _ _ => true
  | _ => false

theorem reads_call {op : Op StorePath UInt8} (reads : readsOnly op = true)
    {before : World → Prop} {after : op.Res → World → Prop}
    (stable : (protocol good).Stable i before)
    (post : ∀ w h ans res, Inv good (w, h) → before (w, h) → op.exec ans w = some (res, w) →
      after res (w, h.log i op res w)) : (protocol good).Triple i before op after := by
  refine .logged stable fun w h ans res w' inv holds _ ran => ?_
  have same : w' = w := by
    cases op with
    | create | write | rename | block => cases reads
    | mkdirAll | close | openRead | read =>
      cases ans <;> exact (Prod.mk.inj (some.inj ran)).2.symm
  subst same
  have history : Extends i h (h.log i op res w') := by
    cases op with
    | close file =>
      cases res with
      | ok _ => exact .refl i h
      | error text => exact .finish i h
    | mkdirAll | openRead | read => exact .refl i h
    | create | write | rename | block => cases reads
  obtain ⟨inv', leaves⟩ := idle_step inv history
  exact ⟨inv', leaves, post w' h ans res inv holds ran⟩

/-! ### Calls that change a file -/

theorem temp_other (formed : WellFormed w) (entry : w.entry ⟨f, true⟩ = some file)
    {g : StoreFile} {other : Nat} (differs : g ≠ f) (found : w.entry ⟨g, true⟩ = some other) :
    other ≠ file := by
  rintro rfl
  cases formed.distinct _ _ _ entry found
  exact differs rfl

/-- The bytes of a temporary file change, of which no other program is the writer. -/
theorem set_step (inv : Inv good (w, h)) (entry : w.entry ⟨f, true⟩ = some file)
    (free : ∀ k, k ≠ i → h.writer ⟨f, true⟩ ≠ some k) (history : Extends i h h') :
    Inv good (w.set file bytes, h') ∧ Leaves i (w, h) (w.set file bytes, h') := by
  refine ⟨⟨⟨inv.formed.known, inv.formed.distinct⟩, fun g data content => ?_⟩, ?_⟩
  · refine inv.current g data ?_
    obtain ⟨other, found, read⟩ := map_eq_some_iff.mp content
    have differs : other ≠ file := by
      rintro rfl
      cases inv.formed.distinct _ _ _ entry found
    rw [Files.set_other bytes differs] at read
    exact map_eq_some_iff.mpr ⟨other, found, read⟩
  · refine ⟨fun other data frozen => ⟨frozen.known, frozen.noTemp, ?_⟩, history.writer,
      fun g k _ _ => rfl, fun g k other isOther writes found => ?_, history.installed⟩
    · have differs : other ≠ file := fun same => frozen.noTemp f (same ▸ entry)
      exact (Files.set_other bytes differs).trans frozen.data
    · have differs : g ≠ f := fun same => free k isOther (same ▸ writes)
      exact Files.set_other bytes (temp_other inv.formed entry differs found)

/-- One entry may be new; every other one is an old one, of another file. -/
def OneNew (path : StorePath) (file : Nat) (w w' : Files StorePath UInt8) : Prop :=
  ∀ other other', w'.entry other = some other' →
    (other = path ∧ other' = file) ∨ (w.entry other = some other' ∧ other' ≠ file)

theorem OneNew.formed {w' : Files StorePath UInt8} {path : StorePath}
    (entries : OneNew path file w w') (formed : WellFormed w) (grown : w.next ≤ w'.next)
    (known : file < w'.next) : WellFormed w' := by
  refine ⟨fun path file found => ?_, fun path path' file found found' => ?_⟩
  · rcases entries path file found with ⟨-, rfl⟩ | ⟨kept, -⟩
    · exact known
    · exact Nat.lt_of_lt_of_le (formed.known _ _ kept) grown
  · rcases entries path file found with ⟨new, rfl⟩ | ⟨kept, differs⟩
    · rcases entries path' _ found' with ⟨new', -⟩ | ⟨-, differs⟩
      · rw [new, new']
      · exact absurd rfl differs
    · rcases entries path' _ found' with ⟨-, same⟩ | ⟨kept', -⟩
      · exact absurd same differs
      · exact formed.distinct path path' file kept kept'

theorem create_step (inv : Inv good (w, h)) (free : h.writer ⟨f, true⟩ = none)
    (history : Extends i h h') :
    let made := { (w.set w.next []).link ⟨f, true⟩ (some w.next) with next := w.next + 1 }
    Inv good (made, h') ∧ Leaves i (w, h) (made, h') := by
  intro made
  have old : ∀ path, path ≠ ⟨f, true⟩ → made.entry path = w.entry path :=
    fun _ => Files.link_other _
  have unchanged : ∀ file, file ≠ w.next → made.data file = w.data file :=
    fun file => Files.set_other _
  have apart : ∀ {file}, file < w.next → file ≠ w.next := Nat.ne_of_lt
  have entries : OneNew ⟨f, true⟩ w.next w made := by
    intro path file found
    by_cases new : path = ⟨f, true⟩
    · rw [new, Files.link_entry] at found
      exact .inl ⟨new, (some.inj found).symm⟩
    · rw [old path new] at found
      exact .inr ⟨found, apart (inv.formed.known path file found)⟩
  have next := Nat.lt_succ_self w.next
  refine ⟨⟨entries.formed inv.formed (Nat.le_of_lt next) next, fun g data content => ?_⟩, ?_⟩
  · refine inv.current g data ?_
    obtain ⟨other, found, read⟩ := map_eq_some_iff.mp content
    rcases entries _ other found with ⟨impossible, -⟩ | ⟨found, known⟩
    · cases impossible
    · exact map_eq_some_iff.mpr ⟨other, found, (unchanged other known).symm.trans read⟩
  · refine ⟨fun other data frozen => ⟨Nat.lt_succ_of_lt frozen.known, fun g found => ?_, ?_⟩,
      history.writer, fun g k isOther writes => ?_, fun g k other isOther writes found => ?_,
      history.installed⟩
    · rcases entries _ other found with ⟨-, rfl⟩ | ⟨found, -⟩
      · exact absurd frozen.known (Nat.lt_irrefl _)
      · exact frozen.noTemp g found
    · exact (unchanged other (apart frozen.known)).trans frozen.data
    · refine old _ fun same => ?_
      cases same
      rw [free] at writes
      cases writes
    · exact unchanged other (apart (inv.formed.known _ _ found))

theorem rename_step (inv : Inv good (w, h)) (writing : Writing i f file bytes (w, h))
    (fine : good f bytes) (history : Extends i h h') :
    let moved := (w.link ⟨f, false⟩ (some file)).link ⟨f, true⟩ none
    Inv good (moved, h') ∧ Leaves i (w, h) (moved, h') := by
  intro moved
  have old : ∀ path : StorePath, path.file ≠ f → moved.entry path = w.entry path := by
    intro path differs
    rw [Files.link_other _ fun same => differs (by rw [same]),
      Files.link_other _ fun same => differs (by rw [same])]
  have entries : OneNew ⟨f, false⟩ file w moved := by
    rintro ⟨g, tmp⟩ other found
    by_cases here : g = f
    · subst here
      cases tmp with
      | true =>
        rw [Files.link_entry] at found
        cases found
      | false =>
        rw [Files.link_other _ (by simp), Files.link_entry] at found
        exact .inl ⟨rfl, (some.inj found).symm⟩
    · rw [old ⟨g, tmp⟩ here] at found
      refine .inr ⟨found, ?_⟩
      -- the file was the temporary one, so no entry of another file is the same
      rintro rfl
      exact here (congrArg StorePath.file (inv.formed.distinct _ _ _ found writing.entry))
  have known := inv.formed.known _ _ writing.entry
  refine ⟨⟨entries.formed inv.formed (Nat.le_refl _) known, fun g data content => ?_⟩, ?_⟩
  · obtain ⟨other, found, read⟩ := map_eq_some_iff.mp content
    rcases entries _ other found with ⟨new, rfl⟩ | ⟨found, -⟩
    · cases new
      rw [← read]
      exact writing.data ▸ fine
    · exact inv.current g data (map_eq_some_iff.mpr ⟨other, found, read⟩)
  · refine ⟨fun other data frozen => ⟨frozen.known, fun g found => ?_, frozen.data⟩,
      history.writer, fun g k isOther writes => ?_, fun _ _ _ _ _ _ => rfl, history.installed⟩
    · rcases entries _ other found with ⟨impossible, -⟩ | ⟨found, -⟩
      · cases impossible
      · exact frozen.noTemp g found
    · refine old _ fun same => ?_
      cases same
      rw [writing.writer] at writes
      exact isOther (some.inj writes).symm

end Steps

/-! ### The programs -/

/-- If the program has a value, then one like this. -/
abbrev Gives (good : StoreFile → Bytes → Prop) (i : Nat) {α : Type} (post : α → World → Prop) :
    Store α → World → Prop := Safe (protocol good) i (Returns post)

theorem fails {α : Type} {text : String} {post : α → World → Prop} :
    Gives good i post (.done (.error text)) w := fun _ _ => trivial

theorem orThrow_bind {α β : Type} {context : String} {res : Except String α}
    {f : α → Store β} {ok : α → World → Prop} {post : β → World → Prop} (after : Returns ok res w)
    (rest : ∀ value, ok value w → Gives good i post (f value) w) :
    Gives good i post (Prog.orThrow context res >>= f) w := by
  cases res with
  | error text => exact fails
  | ok value => exact rest value after

theorem looks {op : Op StorePath UInt8} (reads : readsOnly op = true) :
    (protocol good).Triple i (fun _ => True) op fun _ _ => True :=
  reads_call reads ((protocol good).const_stable i True) fun _ _ _ _ _ _ _ => trivial

theorem create_call : (protocol good).Triple i (fun _ => True) (.create ⟨f, true⟩)
    (Returns fun file => Writing i f file []) := by
  refine .logged ((protocol good).const_stable i True) fun w h ans res w' inv _ allowed ran => ?_
  have free : h.writer ⟨f, true⟩ = none := allowed
  have begins : ∀ file, Extends i h (h.log i (.create ⟨f, true⟩) (.ok file) w) := by
    refine fun file => ⟨fun g k _ writes => ?_, fun _ => id⟩
    have differs : (⟨g, true⟩ : StorePath) ≠ ⟨f, true⟩ := fun same => by
      rw [same, free] at writes
      cases writes
    exact (if_neg differs).trans writes
  cases ans with
  | some text =>
    cases ran
    obtain ⟨inv', leaves⟩ := idle_step inv (.refl i h)
    exact ⟨inv', leaves, trivial⟩
  | none =>
    simp only [fileHost, Op.exec] at ran
    split at ran <;> cases ran
    · rename_i file found
      obtain ⟨inv', leaves⟩ := set_step inv found (by simp [free]) (begins file)
      exact ⟨inv', leaves, if_pos rfl, found, Files.set_data _ _⟩
    · obtain ⟨inv', leaves⟩ := create_step inv free (begins w.next)
      exact ⟨inv', leaves, if_pos rfl, Files.link_entry _ _, Files.set_data _ _⟩

theorem write_call (byte : UInt8) :
    (protocol good).Triple i (Writing i f file bytes) (.write file bytes.length byte)
      (Returns fun _ => Writing i f file (bytes ++ [byte])) := by
  refine .logged writing_stable fun w h ans res w' inv writing _ ran => ?_
  cases ans with
  | some text =>
    cases ran
    obtain ⟨inv', leaves⟩ := idle_step inv (.finish i h)
    exact ⟨inv', leaves, trivial⟩
  | none =>
    have data : w.data file = bytes := writing.data
    simp only [fileHost, Op.exec, data, overwrite_length] at ran
    cases ran
    have mine : ∀ k, k ≠ i → h.writer ⟨f, true⟩ ≠ some k := fun k other writes =>
      other (some.inj (writes.symm.trans writing.writer))
    obtain ⟨inv', leaves⟩ := set_step inv writing.entry mine (.refl i h)
    exact ⟨inv', leaves, writing.writer, writing.entry, Files.set_data _ _⟩

theorem rename_call (fine : good f bytes) :
    (protocol good).Triple i (Writing i f file bytes) (.rename ⟨f, true⟩ ⟨f, false⟩)
      (Returns fun _ w => (i, ⟨f, false⟩, bytes) ∈ w.2.installed) := by
  refine .logged writing_stable fun w h ans res w' inv writing _ ran => ?_
  cases ans with
  | some text =>
    cases ran
    obtain ⟨inv', leaves⟩ := idle_step inv (.finish i h)
    exact ⟨inv', leaves, trivial⟩
  | none =>
    have entry : w.entry ⟨f, true⟩ = some file := writing.entry
    simp only [fileHost, Op.exec, entry] at ran
    cases ran
    have data : w.data file = bytes := writing.data
    have history : Extends i h (h.log i (.rename ⟨f, true⟩ ⟨f, false⟩) (.ok ()) w) :=
      ⟨(Extends.finish i h).writer, fun _ => mem_append_left _⟩
    obtain ⟨inv', leaves⟩ := rename_step inv writing fine history
    refine ⟨inv', leaves, ?_⟩
    simp [Outcome, History.log, Files.content, entry, data]

theorem writeBytes_safe (rest : Bytes) : ∀ (bytes : Bytes) (w : World), Writing i f file bytes w →
    Gives good i (fun _ => Writing i f file (bytes ++ rest))
      (writeBytes file bytes.length rest) w := by
  induction rest with
  | nil =>
    intro bytes w writing
    rw [append_nil]
    exact .done writing_stable writing
  | cons byte rest ih =>
    intro bytes w writing
    refine Safe.triple (write_call byte) writing fun res w written => ?_
    refine orThrow_bind written fun _ writing => ?_
    have next := ih (bytes ++ [byte]) w writing
    rw [length_append, append_assoc] at next
    exact next

theorem writeFile_safe (data : Bytes) :
    Gives good i (fun _ w => ∃ file, Writing i f file data w) (writeFile ⟨f, true⟩ data) w := by
  refine Safe.triple create_call trivial fun res w created => ?_
  refine orThrow_bind created fun file writing => ?_
  refine Safe.attempt_bind (writeBytes_safe data [] w writing) fun result w written => ?_
  cases result with
  | error text => exact Safe.triple (looks rfl) trivial fun _ w _ => fails
  | ok _ =>
    have close : (protocol good).Triple i (Writing i f file data) (.close file)
        (Returns fun _ => Writing i f file data) := by
      refine reads_call rfl writing_stable fun w h ans res _ writing _ => ?_
      cases res with
      | error text => trivial
      | ok _ => exact writing
    refine Safe.triple close written fun res w closed => ?_
    cases res with
    | error text => exact fails
    | ok _ =>
      refine .done (fun _ _ holds step => ?_) ⟨file, closed⟩
      obtain ⟨file, writing⟩ := holds
      exact ⟨file, writing_stable _ _ writing step⟩

theorem atomicWrite_safe {marshalled : Except String Bytes}
    (fine : ∀ data, marshalled = .ok data → good f data) :
    Gives good i (fun _ w => ∀ data, marshalled = .ok data → (i, ⟨f, false⟩, data) ∈ w.2.installed)
      (atomicWrite f marshalled) w := by
  cases marshalled with
  | error text => exact fails
  | ok data =>
    change Safe _ i _ (writeFile (⟨f, true⟩ : StorePath) data >>= _) w
    refine Safe.bind (writeFile_safe data) (fun _ _ _ => trivial) fun _ w written => ?_
    obtain ⟨file, writing⟩ := written
    refine Safe.triple (rename_call (fine data rfl)) writing fun res w renamed => ?_
    cases res with
    | error text => exact fails
    | ok _ =>
      refine .done (fun _ _ holds step data' same => ?_) fun data' same => ?_
      · exact installed_stable _ _ _ (holds data' same) step
      · cases same
        exact renamed

variable (rounds : Nat) (call : StoreCall)

theorem readBytes_safe : ∀ (got : Bytes) (w : World), got <+: bytes → Frozen file bytes w.1 →
    Gives good i (fun value _ => value = bytes) (readBytes file rounds got) w := by
  induction rounds with
  | zero =>
    intro got w _ _
    have never : (protocol good).Triple i (fun _ => True) .block fun _ _ => False :=
      .logged ((protocol good).const_stable i True) fun _ _ _ _ _ _ _ _ ran => by cases ran
    exact Safe.triple never trivial fun _ _ impossible => impossible.elim
  | succ rounds ih =>
    intro got w sofar frozen
    have read : (protocol good).Triple i (fun w => Frozen file bytes w.1) (.read file got.length)
        (Returns fun value w => Frozen file bytes w.1 ∧ value = bytes[got.length]?) := by
      refine reads_call rfl frozen_stable fun w h ans res _ frozen ran => ?_
      cases ans <;> cases ran
      · exact ⟨frozen, by rw [frozen.data]⟩
      · trivial
    refine Safe.triple read frozen fun res w after => ?_
    refine orThrow_bind after fun value after => ?_
    rw [after.2]
    obtain ⟨rest, rfl⟩ := sofar
    cases rest with
    | nil =>
      have beyond : (got ++ [])[got.length]? = none := by simp
      rw [beyond]
      exact .done ((protocol good).const_stable i _) (append_nil got).symm
    | cons byte rest =>
      have here : (got ++ byte :: rest)[got.length]? = some byte := by simp
      rw [here]
      exact ih (got ++ [byte]) w ⟨rest, by simp⟩ after.1

theorem Inv.frozen (inv : Inv good w) (found : w.1.entry ⟨f, false⟩ = some file) :
    Frozen file (w.1.data file) w.1 ∧ good f (w.1.data file) := by
  refine ⟨⟨inv.formed.known _ _ found, fun g temp => ?_, rfl⟩, inv.current f _ ?_⟩
  · cases inv.formed.distinct _ _ _ found temp
  · exact map_eq_some_iff.mpr ⟨file, found, rfl⟩

theorem readFile_safe :
    Gives good i (fun value _ => ∀ data ∈ value, good f data) (readFile ⟨f, false⟩ rounds) w := by
  have opens : (protocol good).Triple i (fun _ => True) (.openRead ⟨f, false⟩)
      (Returns fun found w => ∀ file ∈ found, ∃ bytes, Frozen file bytes w.1 ∧ good f bytes) := by
    refine reads_call rfl ((protocol good).const_stable i True) fun w h ans res inv _ ran => ?_
    cases ans <;> cases ran
    · exact fun file found => ⟨w.data file, inv.frozen found⟩
    · trivial
  refine Safe.triple opens trivial fun res w opened => ?_
  refine orThrow_bind opened fun found opened => ?_
  cases found with
  | none => exact .done ((protocol good).const_stable i _) fun _ some => by cases some
  | some file =>
    obtain ⟨bytes, frozen, fine⟩ := opened file rfl
    refine Safe.attempt_bind (readBytes_safe rounds [] w nil_prefix frozen) fun result w read => ?_
    refine Safe.triple (looks rfl) trivial fun _ w _ => ?_
    cases result with
    | error text => exact fails
    | ok data =>
      refine .done ((protocol good).const_stable i _) fun data' same => ?_
      cases same
      exact read ▸ fine

def Kept (good : StoreFile → Bytes → Prop) (i : Nat) (call : StoreCall)
    (result : Except String (Option Bytes)) (w : World) : Prop :=
  (∀ f data, call.loads = some f → result = .ok (some data) → good f data) ∧
    ∀ f data, call.saves = some (f, data) → result = .ok none →
      (i, ⟨f, false⟩, data) ∈ w.2.installed

theorem kept_stable (result : Except String (Option Bytes)) :
    (protocol good).Stable i (Kept good i call result) := fun _ _ kept step =>
  ⟨kept.1, fun f data saves ended => installed_stable _ _ _ (kept.2 f data saves ended) step⟩

theorem kept_error (text : String) : Kept good i call (.error text) w :=
  ⟨fun _ _ _ => nofun, fun _ _ _ => nofun⟩

theorem save_safe {call : StoreCall} (f : StoreFile) (marshalled : Except String Bytes)
    {p : Store Unit} (noLoad : call.loads = none)
    (saves : ∀ g data, call.saves = some (g, data) → g = f ∧ marshalled = .ok data)
    (saved : Gives good i (fun _ w => ∀ data, marshalled = .ok data →
      (i, ⟨f, false⟩, data) ∈ w.2.installed) p w) :
    Safe (protocol good) i (Kept good i call) (do p; return none) w := by
  refine saved.bind (fun text w _ => kept_error call text) fun value w installed => ?_
  refine .done (kept_stable call _) ⟨fun g data loads => ?_, fun g data isSaved _ => ?_⟩
  · rw [noLoad] at loads
    cases loads
  · obtain ⟨rfl, same⟩ := saves g data isSaved
    exact installed data same

theorem load_safe {call : StoreCall} (f : StoreFile) (noSave : call.saves = none)
    (loads : ∀ g, call.loads = some g → g = f) {p : Store (Option Bytes)}
    (loaded : Gives good i (fun value _ => ∀ data ∈ value, good f data) p w) :
    Safe (protocol good) i (Kept good i call) p w := by
  refine loaded.mono fun result w fine =>
    ⟨fun g data isLoaded ended => ?_, fun g data isSaved => ?_⟩
  · rw [loads g isLoaded]
    rw [ended] at fine
    exact fine data rfl
  · rw [noSave] at isSaved
    cases isSaved

theorem prog_safe (fine : ∀ f data, call.saves = some (f, data) → good f data) :
    Safe (protocol good) i (Kept good i call) call.prog w := by
  cases call with
  | saveConfig marshalled =>
    refine save_safe .config marshalled rfl (fun g data saves => ?_) ?_
    · cases marshalled <;> cases saves
      exact ⟨rfl, rfl⟩
    · refine Safe.triple (looks rfl) trivial fun res w _ => ?_
      cases res with
      | error text => exact fails
      | ok _ => exact atomicWrite_safe fun data same => fine .config data (by rw [same]; rfl)
  | saveState marshalled =>
    refine save_safe .state marshalled rfl (fun g data saves => ?_) ?_
    · cases marshalled <;> cases saves
      exact ⟨rfl, rfl⟩
    · exact atomicWrite_safe fun data same => fine .state data (by rw [same]; rfl)
  | loadConfig rounds =>
    refine load_safe .config rfl (fun g loads => by cases loads; rfl) ?_
    refine (readFile_safe rounds).bind (fun _ _ _ => trivial) fun value w read => ?_
    cases value with
    | none => exact fails
    | some data => exact .done ((protocol good).const_stable i _) read
  | loadState rounds =>
    exact load_safe .state rfl (fun g loads => by cases loads; rfl) (readFile_safe rounds)

end AtomicWrite

/-- If no temporary file is opened while another program is still at work on it, then in every
interleaving a load reads the bytes of one save, and a save that succeeds has put its own
bytes in place. -/
theorem writes_atomic (w₀ : Files StorePath UInt8) (calls : List StoreCall)
    (c : Config (Op StorePath UInt8) Op.Res (Option Bytes) World) (formed : WellFormed w₀)
    (reached : Reach storeFiles oneWriter (concurrently calls w₀) c) : Atomic w₀ calls c := by
  let good : StoreFile → Bytes → Prop := fun f data =>
    w₀.content ⟨f, false⟩ = some data ∨ ∃ save ∈ calls, save.saves = some (f, data)
  have pool : SafePool (AtomicWrite.protocol good)
      (fun i result w => ∀ call, calls[i]? = some call → AtomicWrite.Kept good i call result w)
      (concurrently calls w₀) := by
    refine ⟨⟨formed, fun _ _ => .inl⟩, fun i p found => ?_⟩
    rw [concurrently, getElem?_map] at found
    obtain ⟨call, at_i, rfl⟩ := map_eq_some_iff.mp found
    refine (AtomicWrite.prog_safe call fun f data saves => .inr ⟨call, ?_, saves⟩).mono
      fun result w kept other at_i' => ?_
    · rw [at_i] at at_i'
      cases at_i'
      exact kept
    · exact mem_of_getElem? at_i
  have final := Reach.safe pool AtomicWrite.hostKeeps reached
  refine ⟨fun i call f data at_i loads ended => ?_, fun i call f data at_i saves ended => ?_⟩
  · exact (final.of_ended ended call at_i).1 f data loads rfl
  · exact (final.of_ended ended call at_i).2 f data saves rfl

/-! ### One writer, and two -/

def noFiles : Files StorePath UInt8 := ⟨fun _ => none, fun _ => [], 0⟩

theorem noFiles_formed : WellFormed noFiles := ⟨fun _ _ => nofun, fun _ _ _ => nofun⟩

/-- The record is saved twice, one time after the other, and then read. -/
theorem saves_in_turn : ∃ c, Reach storeFiles oneWriter
        (concurrently [.saveState (.ok [1, 2]), .saveState (.ok [3]), .loadState 9] noFiles) c ∧
      c.world.1.content ⟨.state, false⟩ = some [3] ∧
      Atomic noFiles [.saveState (.ok [1, 2]), .saveState (.ok [3]), .loadState 9] c := by
  refine Reach.exists_of_runs (replicate 5 (.run 0 none) ++ replicate 4 (.run 1 none) ++
      replicate 4 (.run 2 none))
    (fun c => c.world.1.content ⟨.state, false⟩ = some [3]) (by decide) ?_
  exact fun c reached saved => ⟨saved, writes_atomic _ _ c noFiles_formed reached⟩

/-- One writer is half done when the other one opens, writes and renames the same temporary file;
the first then writes into the file that is in place. -/
theorem writers_mix : WellFormed noFiles ∧ ∃ c, Reach storeFiles (.none _)
        (concurrently [.saveState (.ok [1, 2]), .saveState (.ok [3]), .loadState 9] noFiles) c ∧
      (c.pool[2]?.bind Prog.result).bind Except.toOption = some (some [3, 2]) :=
  ⟨noFiles_formed, Reach.of_runs _ _ _ (replicate 2 (.run 0 none) ++ replicate 4 (.run 1 none) ++
    [.run 0 none] ++ replicate 5 (.run 2 none)) _ (by decide)⟩

end Vee.FileStore
