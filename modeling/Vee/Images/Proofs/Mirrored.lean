import Vee.Images.Mirrors
import Vee.Misc.GoPath
import Vee.Misc.RelyGuarantee

/-!
# Images from the mirrors are verified

Arch, Fedora, Bazzite and Omarchy compare the file with the checksum that they have just
read. Alpine does not look at the file that it finds under its stable name, but a file gets
there only by a rename, after it has been compared; unless an entry of the directory listing
resolves to the stable name itself.
-/

namespace Vee.Images

open List Option Function

/-- The checksum that a response gives, if it answers the request for one. -/
def Mirror.takes (m : Mirror) (url : Text) (resp : Response) : List Text :=
  match decide (url = m.checksumURL), m.checkStatus "checksum" url resp, resp.readAll with
  | true, .ok _, .ok body => [m.targetChecksum body]
  | _, _, _ => []

def AlpineImage.isChecksumURL (a : AlpineImage) (url : Text) : Bool :=
  a.indexURL.isPrefixOf url && ".sha512".toList.isSuffixOf url

def AlpineImage.takes (a : AlpineImage) (url : Text) (resp : Response) : List Text :=
  match a.isChecksumURL url && resp.status = 200, resp.readAll with
  | true, .ok body => (AlpineImage.targetChecksum url body).toOption.toList
  | _, _ => []

/-- The checksum that an image's `Download` takes from a response. -/
def MirrorImage.takes (url : Text) (resp : Response) : MirrorImage → List Text
  | .arch a => a.mirror.takes url resp
  | .fedora f => f.mirror.takes url resp
  | .bazzite b => b.mirror.takes url resp
  | .omarchy o => o.mirror.takes url resp
  | .alpine a => a.takes url resp

/-- What a sequence of attempts leaves to know: the checksums that the present attempt
has taken, those of the attempt that installed the file at a path, and whether an
attempt returned nil for a file with another digest. -/
structure MirrorHistory where
  image : Option MirrorImage := none
  taken : List Text := []
  installed : Text → List Text := fun _ => []
  unsound : Bool := false

section Host

variable (sha256 sha512 : Text → Text)

/-- The whole file has a checksum that the attempt has taken; for Alpine, that the
attempt has taken which installed the file. -/
def MirrorImage.sound (w : Cache) (h : MirrorHistory) (image : MirrorImage) : Bool :=
  (w.files image.absolutePath).any fun content =>
    match image with
    | .alpine a => sha512 content ∈ h.installed a.absolutePath
    | _ => sha256 content ∈ h.taken

def MirrorHistory.log (op : MirrorCall) (answer : op.Res) (w : Cache) (h : MirrorHistory) :
    MirrorHistory :=
  match op, answer with
  | .enter image, _ => { h with image := some image, taken := [] }
  | .host (.get url), .ok resp =>
    { h with taken := h.image.elim [] (MirrorImage.takes url resp) ++ h.taken }
  | .rename _ target, .ok _ => { h with installed := Function.update h.installed target h.taken }
  | .leave image true, _ =>
    { h with unsound := h.unsound || !image.sound sha256 sha512 w h }
  | _, _ => h

/-- The host of the downloads, with the history of the attempts. -/
def pullHost : Machine MirrorCall MirrorCall.Res (Cache × MirrorHistory) :=
  (mirrorHost sha256 sha512).withHistory (fun _ op answer w h => h.log sha256 sha512 op answer w)
    fun event _ _ => nomatch event

end Host

def MirrorImage.stableName : MirrorImage → Option Text
  | .alpine a => some a.absolutePath
  | _ => none

def stableNames (attempts : List MirrorAttempt) : List Text :=
  attempts.filterMap fun attempt => attempt.image.stableName

/-- A directory listing has no entry that resolves to a stable cache name. -/
def entriesApart (stable : List Text) (op : MirrorCall) (ans : Answer)
    (image : Option MirrorImage) : Bool :=
  match op, image with
  | .host (.get url), some (.alpine a) =>
    url ≠ a.indexURL || ans.error.isSome ||
      (AlpineImage.entries (ans.response.readAll.toOption.getD [])).all fun entry =>
        joinElements [a.basePath, entry] ∉ stable
  | _, _ => true

/-- The runs in which no entry of a listing resolves to a stable cache name. -/
def listingsApart (sha256 sha512 : Text → Text) (stable : List Text) :
    Guard (pullHost sha256 sha512) where
  run _ op ans w := entriesApart stable op ans w.2.image = true

instance (sha256 sha512 : Text → Text) (stable : List Text) :
    (listingsApart sha256 sha512 stable).Decides :=
  ⟨fun _ op ans w => inferInstanceAs (Decidable (entriesApart stable op ans w.2.image = true)),
    fun _ _ => isTrue trivial⟩

def pullsFromEmptyCache (attempts : List MirrorAttempt) :
    Config MirrorCall MirrorCall.Res Unit (Cache × MirrorHistory) :=
  ⟨[mirrorDownloads attempts], {}, {}⟩

namespace Mirrored

section Steps

variable {sha256 sha512 : Text → Text} {stable : List Text}

/-- Every file under a stable name has a checksum that was taken by the attempt which
installed it; and no attempt has returned nil for a file with another digest. -/
structure Inv (sha512 : Text → Text) (stable : List Text)
    (w : Cache × MirrorHistory) : Prop where
  covered : ∀ path ∈ stable, ∀ content, w.1.files path = some content →
    sha512 content ∈ w.2.installed path
  sound : w.2.unsound = false

/-- The present attempt's checksums only become more. -/
structure Grows (w w' : Cache × MirrorHistory) : Prop where
  image : w'.2.image = w.2.image
  taken : w.2.taken ⊆ w'.2.taken
  installed : w'.2.installed = w.2.installed
  unsound : w'.2.unsound = w.2.unsound

variable {ans : Answer} {op : Call} {path : Text}

theorem exec {i : Nat} {op : MirrorCall} {res : op.Res} {w w' : Cache × MirrorHistory}
    (ran : (pullHost sha256 sha512).exec i op ans w = some (res, w')) :
    op.exec sha256 sha512 ans w.1 = (res, w'.1) ∧
      w'.2 = w.2.log sha256 sha512 op res w.1 := by
  obtain ⟨ran, logged⟩ := Machine.withHistory_exec ran
  exact ⟨some.inj ran, logged⟩

def touched : Call → Option Text
  | .create path | .write path _ | .remove path => some path
  | _ => none

/-- The calls that leave the files under the stable names alone. -/
def Apart (stable : List Text) (op : Call) : Prop :=
  ∀ path ∈ touched op, path ∉ stable

theorem apart_of_untouched (untouched : touched op = none) : Apart stable op := by
  intro path mem
  rw [untouched] at mem
  cases mem

theorem apart_of_touched (changes : touched op = some path) (other : path ∉ stable) :
    Apart stable op := by
  intro path' mem
  rw [changes] at mem
  cases mem
  exact other

theorem exec_files {res : op.Res} {w w' : Cache} (ran : op.exec sha256 ans w = (res, w'))
    (other : path ∉ touched op) : w'.files path = w.files path := by
  cases op with
  | stat | get | mkdirAll | sha256sum | resolvedName | resolve | enter | leave =>
    simp only [Call.exec] at ran
    first
    | (cases ran; rfl)
    | (split at ran <;> cases ran <;> rfl)
  | create touchedPath | remove touchedPath | write touchedPath =>
    have different : path ≠ touchedPath := fun same => other (same ▸ rfl)
    simp only [Call.exec] at ran
    split at ran <;> cases ran
    · first
      | rfl
      | exact update_of_ne different _ _
    · exact update_of_ne different _ _

theorem host_grows {res : op.Res} {w w' : Cache × MirrorHistory}
    (logged : w'.2 = w.2.log sha256 sha512 (.host op) res w.1) : Grows w w' := by
  have same : w'.2 = w.2 → Grows w w' := by
    intro same
    constructor <;> rw [same]
    exact fun _ => id
  cases op with
  | get url =>
    cases res with
    | error text => exact same logged
    | ok resp =>
      change w'.2 =
        { w.2 with taken := w.2.image.elim [] (MirrorImage.takes url resp) ++ w.2.taken }
        at logged
      constructor <;> rw [logged]
      exact subset_append_right _ _
  | _ => exact same logged

theorem Inv.host {res : op.Res} {w w' : Cache × MirrorHistory} (inv : Inv sha512 stable w)
    (apart : Apart stable op) (ran : op.exec sha256 ans w.1 = (res, w'.1)) (grows : Grows w w') :
    Inv sha512 stable w' where
  covered := by
    intro path mem content found
    have other : path ∉ touched op := fun isTouched => apart path isTouched mem
    rw [exec_files ran other] at found
    rw [grows.installed]
    exact inv.covered path mem content found
  sound := grows.unsound.trans inv.sound

def protocol (sha256 sha512 : Text → Text) (stable : List Text) :
    Protocol (pullHost sha256 sha512) :=
  .alone (listingsApart sha256 sha512 stable) (Inv sha512 stable)

abbrev Pulls (sha256 sha512 : Text → Text) (stable : List Text) {α : Type}
    (post : Except String α → Cache × MirrorHistory → Prop) (p : MirrorFetch α)
    (w : Cache × MirrorHistory) : Prop :=
  Safe (protocol sha256 sha512 stable) 0 post p w

instance : IsEmpty (pullHost sha256 sha512).Event := inferInstanceAs (IsEmpty Empty)

variable {α : Type} {post : Except String α → Cache × MirrorHistory → Prop}
  {w : Cache × MirrorHistory}

theorem ended {result : Except String α} (holds : post result w) :
    Pulls sha256 sha512 stable post (.done result) w := Safe.done_alone holds

theorem logged_call {op : MirrorCall} {next : op.Res → MirrorFetch α}
    (step : ∀ ans res cache, Inv sha512 stable w → entriesApart stable op ans w.2.image = true →
      op.exec sha256 sha512 ans w.1 = (res, cache) →
      Inv sha512 stable (cache, w.2.log sha256 sha512 op res w.1) ∧
        Pulls sha256 sha512 stable post (next res)
          (cache, w.2.log sha256 sha512 op res w.1)) :
    Pulls sha256 sha512 stable post (.call op next) w := by
  refine Safe.call_alone fun ans res w' inv allowed ran => ?_
  obtain ⟨cache, history⟩ := w'
  obtain ⟨ran, rfl⟩ := exec ran
  exact step ans res cache inv allowed ran

theorem host_call (apart : Apart stable op) {next : op.Res → MirrorFetch α}
    (rest : ∀ ans res w', Inv sha512 stable w →
      entriesApart stable (.host op) ans w.2.image = true →
      op.exec sha256 ans w.1 = (res, w'.1) →
      w'.2 = w.2.log sha256 sha512 (.host op) res w.1 → Grows w w' →
      Pulls sha256 sha512 stable post (next res) w') :
    Pulls sha256 sha512 stable post (.call (.host op) next) w := by
  refine Safe.call_alone fun ans res w' inv allowed ran => ?_
  obtain ⟨ran, logged⟩ := exec ran
  have grows := host_grows logged
  exact ⟨inv.host apart ran grows, rest ans res w' inv allowed ran logged grows⟩

theorem onHost_call (apart : Apart stable op) {next : op.Res → Fetch α}
    (rest : ∀ ans res w', op.exec sha256 ans w.1 = (res, w'.1) →
      w'.2 = w.2.log sha256 sha512 (.host op) res w.1 → Grows w w' →
      Pulls sha256 sha512 stable post (onHost (next res)) w') :
    Pulls sha256 sha512 stable post (onHost (.call op next)) w :=
  host_call apart fun ans res w' _ _ => rest ans res w'

theorem onHost_orThrow {β : Type} {context : String} {res : Except String β} {next : β → Fetch α}
    (failed : ∀ text, res = .error text → post (.error (context ++ text)) w)
    (rest : ∀ value, res = .ok value →
      Pulls sha256 sha512 stable post (onHost (next value)) w) :
    Pulls sha256 sha512 stable post
      (onHost (Prog.orThrow context res >>= next)) w := by
  cases res with
  | error text => exact ended (failed text rfl)
  | ok value => exact rest value rfl

end Steps

section Saving

variable {sha256 sha512 : Text → Text} {stable : List Text}
  {image : MirrorImage} {path target : Text} {w : Cache × MirrorHistory}

/-- The attempt is for this image, and has taken this checksum. -/
structure Knows (image : MirrorImage) (target : Text) (w : Cache × MirrorHistory) : Prop where
  image : w.2.image = some image
  taken : target ∈ w.2.taken

variable {w' : Cache × MirrorHistory} {resp : Response}

theorem Knows.grows (knows : Knows image target w) (grows : Grows w w') : Knows image target w' :=
  ⟨grows.image.trans knows.image, grows.taken knows.taken⟩

/-- A program that leaves the stable names alone forgets no checksum. -/
theorem onHost_keeps {α : Type} {p : Fetch α} (does : p.Does (Apart stable) fun _ => True) :
    ∀ w, Knows image target w →
      Pulls sha256 sha512 stable (fun _ => Knows image target) (onHost p) w := by
  induction p with
  | done result => exact fun w knows => ended knows
  | call op next ih =>
    intro w knows
    refine onHost_call does.1 fun _ res w' _ _ grows => ?_
    exact ih res (does.2 res) w' (knows.grows grows)

theorem createImage_apart (other : path ∉ stable) (broken : Option String)
    (chunks : List Text) :
    (createImage path broken chunks).Does (Apart stable) fun _ => True := by
  induction chunks with
  | nil => cases broken <;> exact trivial
  | cons chunk chunks ih =>
    refine ⟨apart_of_touched rfl other, fun res => ?_⟩
    cases res with
    | error text => exact trivial
    | ok _ => exact ih

/-- The whole file at the path has a checksum that the attempt has taken. -/
def Holds (sha256 : Text → Text) (path : Text) (w : Cache × MirrorHistory) : Prop :=
  ∃ content, w.1.files path = some content ∧ sha256 content ∈ w.2.taken

abbrev Ends (sha256 : Text → Text) (path : Text) :
    Except String Unit → Cache × MirrorHistory → Prop := Returns fun _ => Holds sha256 path

theorem summed_holds {ans : Answer} (taken : target ∈ w.2.taken)
    (ran : (Call.sha256sum path).exec sha256 ans w.1 = (.ok target, w'.1)) (grows : Grows w w') :
    Holds sha256 path w' := by
  simp only [Call.exec] at ran
  split at ran
  · cases ran
  · rename_i content _ found
    obtain ⟨digest, same⟩ := Prod.mk.inj ran
    have isTarget : sha256 content = target := Except.ok.inj digest
    refine ⟨content, ?_, ?_⟩
    · rw [← same, found]
    · rw [isTarget]
      exact grows.taken taken
  · cases ran

/-- A download that gets to its end has compared the file with the checksum. -/
theorem saveVerified_safe (basePath : Text) (resp : Response) (other : path ∉ stable)
    (knows : Knows image target w) :
    Pulls sha256 sha512 stable (Ends sha256 path)
      (onHost (saveVerified basePath path target resp)) w := by
  refine onHost_call (apart_of_untouched rfl) fun _ res w _ _ grows => ?_
  have knows := knows.grows grows
  refine onHost_orThrow (fun _ _ => trivial) fun _ _ => ?_
  refine onHost_call (apart_of_touched rfl other) fun _ res w _ _ grows => ?_
  have knows := knows.grows grows
  refine onHost_orThrow (fun _ _ => trivial) fun _ _ => ?_
  rw [onHost, Prog.subst_bind]
  refine Safe.bind (onHost_keeps (createImage_apart other _ _) w knows) (fun _ _ _ => trivial) ?_
  intro _ w knows
  refine onHost_call (apart_of_untouched rfl) fun ans res w' ran _ grows => ?_
  refine onHost_orThrow (fun _ _ => trivial) fun sum read => ?_
  subst read
  split
  · exact ended trivial
  · rename_i same
    have same : sum = target := not_not.mp same
    subst same
    exact ended (summed_holds knows.taken ran grows)

/-- A file that exists is kept for its checksum or fetched again. -/
theorem recheck_safe {fetch : Fetch Unit} (other : path ∉ stable) (knows : Knows image target w)
    (rest : ∀ w', Knows image target w' →
      Pulls sha256 sha512 stable (Ends sha256 path) (onHost fetch) w') :
    Pulls sha256 sha512 stable (Ends sha256 path)
      (onHost (recheck path target fetch)) w := by
  refine onHost_call (apart_of_untouched rfl) fun ans res w' ran _ grows => ?_
  refine onHost_orThrow (fun _ _ => trivial) fun sum read => ?_
  subst read
  split
  · rename_i same
    subst same
    exact ended (summed_holds knows.taken ran grows)
  · refine onHost_call (apart_of_touched rfl other) fun _ res w'' _ _ grows' => ?_
    refine onHost_orThrow (fun _ _ => trivial) fun _ _ => ?_
    exact rest w'' ((knows.grows grows).grows grows')

theorem get_takes {url : Text} (current : w.2.image = some image)
    (logged : w'.2 = w.2.log sha256 sha512 (.host (.get url)) (.ok resp) w.1)
    (mem : target ∈ image.takes url resp) : Knows image target w' := by
  change w'.2 = { w.2 with taken := w.2.image.elim [] (MirrorImage.takes url resp) ++ w.2.taken }
    at logged
  constructor
  · rw [logged, current]
  · rw [logged, current]
    exact mem_append_left _ mem

theorem mem_takes {m : Mirror} {body : Text}
    (status : m.checkStatus "checksum" m.checksumURL resp = .ok ())
    (read : resp.readAll = .ok body) : m.targetChecksum body ∈ m.takes m.checksumURL resp := by
  rw [Mirror.takes, decide_eq_true rfl, status, read]
  exact mem_singleton.mpr rfl

theorem fetchISO_safe (m : Mirror) (other : m.absolutePath ∉ stable)
    (knows : Knows image target w) :
    Pulls sha256 sha512 stable (Ends sha256 m.absolutePath)
      (onHost (m.fetchISO target)) w := by
  refine onHost_call (apart_of_untouched rfl) fun _ res w' _ _ grows => ?_
  refine onHost_orThrow (fun _ _ => trivial) fun resp _ => ?_
  refine onHost_orThrow (fun _ _ => trivial) fun _ _ => ?_
  exact saveVerified_safe _ resp other (knows.grows grows)

/-- `Download` of the images that are compared whenever they are found. -/
theorem mirror_safe (m : Mirror) (own : ∀ url resp, image.takes url resp = m.takes url resp)
    (other : m.absolutePath ∉ stable) (current : w.2.image = some image) :
    Pulls sha256 sha512 stable (Ends sha256 m.absolutePath) (onHost m.download) w := by
  refine onHost_call (apart_of_untouched rfl) fun _ res w' _ logged _ => ?_
  refine onHost_orThrow (fun _ _ => trivial) fun resp got => ?_
  subst got
  refine onHost_orThrow (fun _ _ => trivial) fun _ status => ?_
  refine onHost_orThrow (fun _ _ => trivial) fun body read => ?_
  have knows : Knows image (m.targetChecksum body) w' := by
    refine get_takes current logged ?_
    rw [own]
    exact mem_takes status read
  split
  · exact ended trivial
  · refine onHost_call (apart_of_untouched rfl) fun _ found w'' _ _ grows => ?_
    have knows := knows.grows grows
    cases found with
    | false => exact fetchISO_safe m other knows
    | true => exact recheck_safe other knows fun _ => fetchISO_safe m other

end Saving

section Alpine

variable {sha256 sha512 : Text → Text} {stable : List Text}
  {a : AlpineImage} {path target : Text} {w : Cache × MirrorHistory}

/-- The file under the stable name has a checksum of the attempt that installed it. -/
def Installed (sha512 : Text → Text) (path : Text)
    (w : Cache × MirrorHistory) : Prop :=
  ∃ content, w.1.files path = some content ∧ sha512 content ∈ w.2.installed path

abbrev AlpineEnds (sha512 : Text → Text) (path : Text) :
    Except String Unit → Cache × MirrorHistory → Prop := Returns fun _ => Installed sha512 path

theorem sha512sum_call {α : Type} {post : Except String α → Cache × MirrorHistory → Prop}
    {next : Except String Text → MirrorFetch α}
    (failed : ∀ text, Pulls sha256 sha512 stable post (next (.error text)) w)
    (rest : ∀ content, w.1.files path = some content →
      Pulls sha256 sha512 stable post (next (.ok (sha512 content))) w) :
    Pulls sha256 sha512 stable post (.call (.sha512sum path) next) w := by
  refine logged_call fun ans res cache inv _ ran => ?_
  simp only [MirrorCall.exec] at ran
  split at ran <;> cases ran
  · exact ⟨inv, failed _⟩
  · rename_i content _ found
    exact ⟨inv, rest content found⟩
  · exact ⟨inv, failed _⟩

variable {source content body : Text} {resp : Response}

theorem Inv.rename (inv : Inv sha512 stable w) (other : source ∉ stable)
    (taken : sha512 content ∈ w.2.taken) :
    Inv sha512 stable ({ w.1 with
          files := Function.update (Function.update w.1.files source none) path (some content) },
        { w.2 with installed := Function.update w.2.installed path w.2.taken }) where
  covered := by
    intro q mem c found
    change update (update w.1.files source none) path (some content) q = some c at found
    change sha512 c ∈ update w.2.installed path w.2.taken q
    by_cases same : q = path
    · subst same
      rw [update_self] at found ⊢
      cases found
      exact taken
    · have apart : q ≠ source := fun isSource => other (isSource ▸ mem)
      rw [update_of_ne same, update_of_ne apart] at found
      rw [update_of_ne same]
      exact inv.covered q mem c found
  sound := inv.sound

theorem rename_safe (other : source ∉ stable) (found : w.1.files source = some content)
    (taken : sha512 content ∈ w.2.taken) :
    Pulls sha256 sha512 stable (AlpineEnds sha512 path)
      (do Prog.orThrow "" (← require (.rename source path))) w := by
  refine logged_call fun ans res cache inv _ ran => ?_
  simp only [MirrorCall.exec, found] at ran
  split at ran
  · cases ran
    exact ⟨inv, ended trivial⟩
  · rename_i moved _ same
    cases same
    cases ran
    refine ⟨inv.rename other taken, ended ⟨_, update_self _ _ _, ?_⟩⟩
    change _ ∈ update w.2.installed path w.2.taken path
    rw [update_self]
    exact taken
  · rename_i missing
    cases missing

/-- The file that is renamed has been compared with the checksum. -/
theorem install_safe (resp : Response) (other : path ∉ stable)
    (knows : Knows (.alpine a) target w) :
    Pulls sha256 sha512 stable (AlpineEnds sha512 a.absolutePath)
      (a.install path target resp) w := by
  refine host_call (apart_of_untouched rfl) fun _ res w _ _ _ _ grows => ?_
  have knows := knows.grows grows
  refine .checked_alone fun _ _ => ?_
  refine host_call (apart_of_touched rfl other) fun _ res w _ _ _ _ grows => ?_
  have knows := knows.grows grows
  refine .checked_alone fun _ _ => ?_
  refine (onHost_keeps (createImage_apart other _ _) w knows).bind (fun _ _ _ => trivial) ?_
  intro _ w knows
  refine sha512sum_call (fun text => ended trivial) fun content found => ?_
  refine .checked_alone fun sum read => ?_
  cases read
  split
  · exact ended trivial
  · rename_i same
    have same : sha512 content = target := not_not.mp same
    exact rename_safe other found (same ▸ knows.taken)

theorem mem_alpine_takes {digest : Text} (status : resp.status = 200)
    (read : resp.readAll = .ok body)
    (known : AlpineImage.targetChecksum (a.checksumURL target) body = .ok digest) :
    digest ∈ a.takes (a.checksumURL target) resp := by
  have isSidecar : a.isChecksumURL (a.checksumURL target) = true := by
    rw [AlpineImage.isChecksumURL, AlpineImage.checksumURL, Bool.and_eq_true_iff]
    constructor
    · rw [append_assoc]
      exact isPrefixOf_iff_prefix.mpr (prefix_append _ _)
    · exact isSuffixOf_iff_suffix.mpr (suffix_append _ _)
  rw [AlpineImage.takes, isSidecar, decide_eq_true status, read]
  change digest ∈ (AlpineImage.targetChecksum (a.checksumURL target) body).toOption.toList
  rw [known]
  exact mem_singleton.mpr rfl

theorem fetchImage_safe (other : joinElements [a.basePath, target] ∉ stable)
    (current : w.2.image = some (.alpine a)) :
    Pulls sha256 sha512 stable (AlpineEnds sha512 a.absolutePath)
      (a.fetchImage target) w := by
  refine host_call (apart_of_untouched rfl) fun _ res w _ _ _ logged _ => ?_
  refine .checked_alone fun resp got => ?_
  subst got
  split
  · exact ended trivial
  rename_i status
  refine .checked_alone fun body read => ?_
  refine .checked_alone fun digest known => ?_
  have knows : Knows (.alpine a) digest w :=
    get_takes current logged (mem_alpine_takes (not_not.mp status) read known)
  refine host_call (apart_of_untouched rfl) fun _ res w _ _ _ _ grows => ?_
  refine .checked_alone fun resp _ => ?_
  exact install_safe resp other (knows.grows grows)

theorem newest_apart {ans : Answer} {cache : Cache} (current : w.2.image = some (.alpine a))
    (allowed : entriesApart stable (.host (.get a.indexURL)) ans w.2.image = true)
    (answered : (Call.get a.indexURL).exec sha256 ans w.1 = (.ok resp, cache))
    (read : resp.readAll = .ok body) (found : AlpineImage.newestImage body ≠ []) :
    joinElements [a.basePath, AlpineImage.newestImage body] ∉ stable := by
  simp only [Call.exec] at answered
  split at answered
  · cases answered
  rename_i fine
  have got := Except.ok.inj (Prod.mk.inj answered).1
  subst got
  have all : ∀ entry ∈ AlpineImage.entries body, joinElements [a.basePath, entry] ∉ stable := by
    simpa [entriesApart, current, fine, read, Except.toOption] using allowed
  rcases greatest_mem [] (AlpineImage.entries body) with none | mem
  · exact absurd none found
  · exact all _ mem

theorem alpine_safe (a : AlpineImage) (isStable : a.absolutePath ∈ stable)
    (current : w.2.image = some (.alpine a)) :
    Pulls sha256 sha512 stable (AlpineEnds sha512 a.absolutePath) a.download w := by
  refine host_call (apart_of_untouched rfl) fun ans found w' inv _ ran _ grows => ?_
  have sameCache : w'.1 = w.1 := (congrArg Prod.snd ran).symm
  cases found with
  | true =>
    have found : (ans.error.isNone && (w.1.files a.absolutePath).isSome) = true :=
      congrArg Prod.fst ran
    obtain ⟨content, found⟩ := isSome_iff_exists.mp (Bool.and_eq_true_iff.mp found).2
    refine ended ⟨content, ?_, ?_⟩
    · rw [sameCache, found]
    · rw [grows.installed]
      exact inv.covered _ isStable content found
  | false =>
    have current := grows.image.trans current
    refine host_call (apart_of_untouched rfl) fun ans res w'' _ allowed ran _ grows => ?_
    refine .checked_alone fun resp got => ?_
    subst got
    refine .checked_alone fun body read => ?_
    split
    · exact ended trivial
    · rename_i some
      exact fetchImage_safe (newest_apart current allowed ran read some) (grows.image.trans current)

end Alpine

section Sequences

variable {sha256 sha512 : Text → Text} {attempts : List MirrorAttempt}
  {w : Cache × MirrorHistory}

theorem stable_suffix {path : Text} (mem : path ∈ stableNames attempts) :
    "r0.qcow2".toList <:+ path := by
  obtain ⟨attempt, -, named⟩ := mem_filterMap.mp mem
  cases shape : attempt.image with
  | alpine a =>
    rw [shape] at named
    cases named
    have ending : "r0.qcow2".toList <:+ "-x86_64-bios-cloudinit-r0.qcow2".toList := by decide
    exact extension_join (ending.trans (suffix_append _ _)) (by decide) (by decide) a.basePath
  | _ =>
    rw [shape] at named
    cases named

theorem not_stable {m : Mirror} {ext : Text} (ends : ext <:+ m.name) (whole : '/' ∉ ext)
    (long : 2 < ext.length) (differs : ¬ ("r0.qcow2".toList <:+ ext ∨ ext <:+ "r0.qcow2".toList)) :
    m.absolutePath ∉ stableNames attempts := by
  intro mem
  exact differs (suffix_or_suffix_of_suffix (stable_suffix mem)
    (extension_join ends whole long m.basePath))

theorem fedora_suffix (f : FedoraCloudImage) : "64.qcow2".toList <:+ f.name := by
  have ending : "64.qcow2".toList <:+ f.arch.text ++ ".qcow2".toList := by
    cases f.arch <;> decide
  unfold FedoraCloudImage.name
  generalize "Fedora-Cloud-Base-Generic-".toList ++ f.version ++ "-".toList ++ f.compose ++
    ".".toList = front
  rw [append_assoc]
  exact ending.trans (suffix_append front _)

abbrev ImageEnds (sha256 sha512 : Text → Text) (image : MirrorImage) :
    Except String Unit → Cache × MirrorHistory → Prop :=
  Returns fun _ w => image.sound sha256 sha512 w.1 w.2 = true

variable {image : MirrorImage}

theorem compared_safe (m : Mirror) (kind : image.stableName = none)
    (here : image.absolutePath = m.absolutePath)
    (own : ∀ url resp, image.takes url resp = m.takes url resp)
    (other : m.absolutePath ∉ stableNames attempts) (current : w.2.image = some image) :
    Pulls sha256 sha512 (stableNames attempts) (ImageEnds sha256 sha512 image)
      (onHost m.download) w := by
  refine (mirror_safe m own other current).mono fun result w ends => ?_
  cases result with
  | error text => trivial
  | ok _ =>
    obtain ⟨content, found, taken⟩ := ends
    change image.sound sha256 sha512 w.1 w.2 = true
    rw [MirrorImage.sound, here, found, any_some]
    cases image with
    | alpine a => cases kind
    | _ => exact decide_eq_true taken

theorem sound_of_installed {a : AlpineImage} (result : Except String Unit)
    (w : Cache × MirrorHistory) (ends : AlpineEnds sha512 a.absolutePath result w) :
    ImageEnds sha256 sha512 (.alpine a) result w := by
  cases result with
  | error text => trivial
  | ok _ =>
    obtain ⟨content, found, installed⟩ := ends
    change (w.1.files a.absolutePath).any (fun content => decide _) = true
    rw [found, any_some]
    exact decide_eq_true installed

theorem download_safe (listed : ∀ name ∈ image.stableName, name ∈ stableNames attempts)
    (current : w.2.image = some image) :
    Pulls sha256 sha512 (stableNames attempts) (ImageEnds sha256 sha512 image)
      image.download w := by
  cases image with
  | arch a =>
    refine compared_safe a.mirror rfl rfl (fun _ _ => rfl) ?_ current
    exact not_stable (suffix_append _ _) (by decide) (by decide) (by decide)
  | fedora f =>
    rw [MirrorImage.download, FedoraCloudImage.download]
    split
    · exact ended trivial
    · refine compared_safe f.mirror rfl rfl (fun _ _ => rfl) ?_ current
      exact not_stable (fedora_suffix f) (by decide) (by decide) (by decide)
  | bazzite b =>
    refine compared_safe b.mirror rfl rfl (fun _ _ => rfl) ?_ current
    exact not_stable (suffix_append _ _) (by decide) (by decide) (by decide)
  | omarchy o =>
    refine compared_safe o.mirror rfl rfl (fun _ _ => rfl) ?_ current
    exact not_stable (suffix_append _ _) (by decide) (by decide) (by decide)
  | alpine a => exact (alpine_safe a (listed _ rfl) current).mono sound_of_installed

/-- An attempt ends in what its `Download` ends in, also if it is killed. -/
theorem prog_safe (attempt : MirrorAttempt)
    (listed : ∀ name ∈ attempt.image.stableName, name ∈ stableNames attempts)
    (current : w.2.image = some attempt.image) :
    Pulls sha256 sha512 (stableNames attempts)
      (ImageEnds sha256 sha512 attempt.image) attempt.prog w := by
  have whole : Pulls sha256 sha512 (stableNames attempts)
      (ImageEnds sha256 sha512 attempt.image) attempt.image.download w :=
    download_safe listed current
  unfold MirrorAttempt.prog
  split
  · exact whole.cut (fun _ _ => trivial) _
  · exact whole

theorem run_safe (attempt : MirrorAttempt) (mem : attempt ∈ attempts) (w : Cache × MirrorHistory) :
    Keeps (protocol sha256 sha512 (stableNames attempts)) 0 attempt.run w := by
  have listed : ∀ name ∈ attempt.image.stableName, name ∈ stableNames attempts :=
    fun name named => mem_filterMap.mpr ⟨attempt, mem, named⟩
  refine logged_call fun ans res cache inv _ ran => ?_
  cases ran
  refine ⟨⟨inv.covered, inv.sound⟩, ?_⟩
  refine (prog_safe attempt listed rfl).attempt_bind fun result w1 ends => ?_
  refine logged_call fun ans res cache inv _ ran => ?_
  cases ran
  cases result with
  | error text => exact ⟨inv, Keeps.ended _⟩
  | ok _ =>
    refine ⟨⟨inv.covered, ?_⟩, Keeps.ended _⟩
    change (w1.2.unsound || !attempt.image.sound sha256 sha512 w1.1 w1.2) = false
    rw [inv.sound, ends]
    rfl

theorem initially (attempts : List MirrorAttempt) :
    SafePool (protocol sha256 sha512 (stableNames attempts)) (fun _ _ _ => True)
      (pullsFromEmptyCache attempts) := by
  refine .single ⟨fun _ _ _ found => (nomatch found), rfl⟩ ?_
  exact (Keeps.forEach_mem attempts run_safe _).bind fun _ _ => Keeps.ended _

end Sequences

end Mirrored

/-- Whenever an attempt of a sequence returns nil, the whole file at the image's path has the
checksum that this attempt has taken; for Alpine, the checksum that the attempt has taken
which installed the file, if no entry of a listing resolves to a stable cache name. -/
theorem mirrored_images_verified (sha256 sha512 : Text → Text)
    (attempts : List MirrorAttempt)
    {c : Config MirrorCall MirrorCall.Res Unit (Cache × MirrorHistory)}
    (reached : Reach (pullHost sha256 sha512)
      (listingsApart sha256 sha512 (stableNames attempts)) (pullsFromEmptyCache attempts) c) :
    c.world.2.unsound = false :=
  (Reach.safe (Mirrored.initially attempts) (fun event => nomatch event) reached).inv.sound

def page (text : String) : Answer := { response := { chunks := [text.toList] } }

def arch2026 : MirrorImage := .arch ⟨"/iso".toList, "2026.07.01".toList⟩

def alpine321 : MirrorImage := .alpine ⟨"/iso".toList, "3.21".toList⟩

def padded (content : Text) : Text :=
  content ++ List.replicate (128 - content.length) '0'

/-- Both images are killed when they have created a file, and then fetched again. The last
attempt takes the file that the one before it has installed. -/
def retriedPulls : List MirrorAttempt :=
  [⟨arch2026, some 5⟩, ⟨arch2026, none⟩, ⟨alpine321, some 6⟩, ⟨alpine321, none⟩,
    ⟨alpine321, none⟩]

theorem retried_pulls_verified :
    ∃ c, Reach (pullHost id padded) (listingsApart id padded (stableNames retriedPulls))
        (pullsFromEmptyCache retriedPulls) c ∧
      c.Finished ∧ c.world.1.files arch2026.absolutePath = some "iso".toList ∧
      c.world.1.files alpine321.absolutePath = some "image".toList ∧
      c.world.2.unsound = false := by
  let sums := page "iso  archlinux-2026.07.01-x86_64.iso\n"
  let listing := page "<a href=\"nocloud_alpine-3.21.3-x86_64-bios-cloudinit-r0.qcow2\">qcow2</a>\n"
  let sidecar := page (String.ofList (padded "image".toList))
  refine Reach.exists_of_runs
    ([{}, sums, {}, page "iso", {}, {}, {}, {}, sums, {}, {}, {}, page "iso", {}, {}, {}, {}, {},
      {}, {}, listing, sidecar, page "image", {}, {}, {}, {}, {}, listing, sidecar, page "image",
      {}, {}, {}, {}, {}, {}, {}, {}, {}].map (.run 0))
    (fun c => c.Finished ∧ c.world.1.files arch2026.absolutePath = some "iso".toList ∧
      c.world.1.files alpine321.absolutePath = some "image".toList) (by decide +kernel) ?_
  rintro c reached ⟨finished, iso, image⟩
  exact ⟨finished, iso, image, mirrored_images_verified id padded retriedPulls reached⟩

end Vee.Images
