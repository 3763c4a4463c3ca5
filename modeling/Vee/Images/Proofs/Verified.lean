import Vee.Images.Download
import Vee.Misc.RelyGuarantee

/-!
# Downloaded images are verified

A `Download` that returns nil leaves a file whose digest has been published, unless it took
over a file that an earlier attempt left behind: Ubuntu's take every file that exists, and
TrueNAS's does so when the checksum cannot be fetched. Besides, the cloud image takes its
checksum from the first line in which its name occurs, whatever the status of the response.
-/

namespace Vee.Images

open List Function

/-- The file and the checksum of a line in the format of `SHA256SUMS`. -/
def listedLine (line : Text) : Option (Text × Text) :=
  match goFields line with
  | [digest, file] => some (trimStar file, digest)
  | _ => none

/-- The files that a text in this format lists, with their checksums. -/
def listed (sums : Text) : List (Text × Text) :=
  (sums.splitOn '\n').filterMap listedLine

/-- The text of a response that is complete and not an error page. -/
def Response.text (resp : Response) : Option Text :=
  if resp.status = 200 ∧ resp.broken = none then some resp.chunks.flatten else none

def TrueNASImage.isChecksumURL (t : TrueNASImage) (url : Text) : Bool :=
  t.codename.toOption.any (t.checksumURL · = url)

/-- The checksums that a response to an image's request publishes, for which paths of
the cache. -/
def Image.publishes (url : Text) (resp : Response) : Image → List (Text × Text)
  | .ubuntu u => if url = u.checksumURL then sums u.basePath else []
  | .ubuntuCloud u => if url = u.checksumURL then sums u.basePath else []
  | .trueNAS t =>
    if t.isChecksumURL url then
      match resp.text.map goFields with
      | some (digest :: _) => [(t.absolutePath, digest)]
      | _ => []
    else []
where
  sums (basePath : Text) : List (Text × Text) :=
    (resp.text.elim [] listed).map fun entry => (joinElements [basePath, entry.1], entry.2)

/-- What a sequence of attempts leaves to know: what has been published, the files that
the present attempt has created and those that earlier ones created and did not
return nil for, and whether an attempt returned nil for a file with no published
digest. -/
structure History where
  image : Option Image := none
  published : List (Text × Text) := []
  created : List Text := []
  left : List Text := []
  unverified : Bool := false

section Host

variable (sha256 : Text → Text)

/-- The whole content at a path has a digest that was published for it. -/
def verified (w : Cache) (published : List (Text × Text)) (path : Text) : Bool :=
  (w.files path).any fun content => (path, sha256 content) ∈ published

def History.log (op : Call) (answer : op.Res) (w : Cache) (h : History) : History :=
  match op, answer with
  -- what the attempt before has created and not returned nil for is left behind
  | .enter image, _ =>
    { h with image := some image, left := h.created ++ h.left, created := [] }
  | .get url, .ok resp =>
    { h with published := h.image.elim [] (Image.publishes url resp) ++ h.published }
  | .create path, .ok _ => { h with created := path :: h.created }
  | .leave object image true, _ =>
    let path := image.absolutePath (w.resolved object)
    { h with
      unverified := h.unverified || !verified sha256 w h.published path
      left := h.left.filter (· ≠ path)
      created := [] }
  | _, _ => h

def downloadHost : Machine Call Call.Res (Cache × History) :=
  (cacheHost sha256).withHistory (fun _ op answer w h => h.log sha256 op answer w)
    fun event _ _ => nomatch event

end Host

/-- There is a file that an attempt without success has left behind. -/
def leftover (w : Cache × History) (path : Text) : Bool :=
  (w.1.files path).isSome && w.2.left.contains path

/-- The image's `Download` takes a file that exists without asking a server. -/
def Image.trusts : Image → Bool
  | .ubuntu _ | .ubuntuCloud _ => true
  | .trueNAS t => !t.codename.isOk

/-- The first line in which the image's name occurs is its own, and the response is no
error page. -/
def UbuntuCloudImage.ownLineFirst (u : UbuntuCloudImage) (resp : Response) : Bool :=
  (u.sumsLine resp.chunks.flatten).all fun line =>
    resp.status = 200 && (listedLine line).any (·.1 = u.name)

def Response.hasChecksum (resp : Response) : Bool :=
  resp.text.any (goFields · ≠ [])

/-- A call that meets no file left behind which is taken over unchecked, and no
checksum of another file. -/
def untempted (op : Call) (ans : Answer) (w : Cache × History) : Bool :=
  match op, w.2.image with
  | .stat path, some image => !(image.trusts && leftover w path)
  | .get url, some (.ubuntuCloud u) =>
    url ≠ u.checksumURL || ans.error.isSome || u.ownLineFirst ans.response
  | .get url, some (.trueNAS t) =>
    !(t.isChecksumURL url && leftover w t.absolutePath) ||
      (ans.error.isNone && ans.response.hasChecksum)
  | _, _ => true

/-- The runs in which no file left behind is taken over unchecked. -/
def leftoversChecked (sha256 : Text → Text) : Guard (downloadHost sha256) where
  run _ op ans w := untempted op ans w = true

instance (sha256 : Text → Text) : (leftoversChecked sha256).Decides :=
  ⟨fun _ op ans w => inferInstanceAs (Decidable (untempted op ans w = true)),
    fun _ _ => isTrue trivial⟩

def fromEmptyCache (attempts : List Attempt) : Config Call Call.Res Unit (Cache × History) :=
  ⟨[downloads attempts], {}, {}⟩

namespace Verified

section Steps

variable {sha256 : Text → Text}

/-- Every file has been left behind, is being written, or has a published digest; and no
attempt has returned nil for another. -/
structure Inv (sha256 : Text → Text) (w : Cache × History) : Prop where
  covered : ∀ path content, w.1.files path = some content →
    path ∈ w.2.left ∨ path ∈ w.2.created ∨ (path, sha256 content) ∈ w.2.published
  sound : w.2.unverified = false

structure Later (w w' : Cache × History) : Prop where
  cache : w'.1 = w.1
  image : w'.2.image = w.2.image
  created : w'.2.created = w.2.created
  left : w'.2.left = w.2.left
  unverified : w'.2.unverified = w.2.unverified
  published : w.2.published ⊆ w'.2.published

theorem Later.refl (w : Cache × History) : Later w w :=
  ⟨rfl, rfl, rfl, rfl, rfl, fun _ => id⟩

variable {op : Call} {ans : Answer}

theorem exec {i : Nat} {res : op.Res} {w w' : Cache × History}
    (ran : (downloadHost sha256).exec i op ans w = some (res, w')) :
    op.exec sha256 ans w.1 = (res, w'.1) ∧ w'.2 = w.2.log sha256 op res w.1 := by
  obtain ⟨ran, logged⟩ := Machine.withHistory_exec ran
  exact ⟨Option.some.inj ran, logged⟩

def quiet : Call → Bool
  | .stat _ | .get _ | .mkdirAll _ | .sha256sum _ | .resolvedName _ => true
  | _ => false

theorem Inv.quiet {res : op.Res} {cache : Cache} {w : Cache × History} (inv : Inv sha256 w)
    (isQuiet : quiet op = true) (ran : op.exec sha256 ans w.1 = (res, cache)) :
    cache = w.1 ∧ Inv sha256 (w.1, w.2.log sha256 op res w.1) := by
  cases op with
  | stat path => cases ran; exact ⟨rfl, inv⟩
  | resolvedName object => cases ran; exact ⟨rfl, inv⟩
  | mkdirAll path =>
    simp only [Call.exec] at ran
    split at ran <;> cases ran <;> exact ⟨rfl, inv⟩
  | sha256sum path =>
    simp only [Call.exec] at ran
    split at ran <;> cases ran <;> exact ⟨rfl, inv⟩
  | get url =>
    simp only [Call.exec] at ran
    split at ran <;> cases ran
    · exact ⟨rfl, inv⟩
    · refine ⟨rfl, fun path content found => ?_, inv.sound⟩
      exact (inv.covered path content found).imp_right (.imp_right (mem_append_right _))
  | create | write | remove | resolve | enter | leave => cases isQuiet

def protocol (sha256 : Text → Text) : Protocol (downloadHost sha256) :=
  .alone (leftoversChecked sha256) (Inv sha256)

instance : IsEmpty (downloadHost sha256).Event := inferInstanceAs (IsEmpty Empty)

abbrev Pulls (sha256 : Text → Text) {α : Type}
    (post : Except String α → Cache × History → Prop) : Fetch α → Cache × History → Prop :=
  Safe (protocol sha256) 0 post

variable {α : Type} {post : Except String α → Cache × History → Prop} {w : Cache × History}

theorem ended {result : Except String α} (holds : post result w) :
    Pulls sha256 post (.done result) w := Safe.done_alone holds

theorem logged_call {next : op.Res → Fetch α}
    (step : ∀ ans res cache, Inv sha256 w → untempted op ans w = true →
      op.exec sha256 ans w.1 = (res, cache) →
      Inv sha256 (cache, w.2.log sha256 op res w.1) ∧
        Pulls sha256 post (next res) (cache, w.2.log sha256 op res w.1)) :
    Pulls sha256 post (.call op next) w := by
  refine Safe.call_alone fun ans res w' inv allowed ran => ?_
  obtain ⟨cache, history⟩ := w'
  obtain ⟨ran, rfl⟩ := exec ran
  exact step ans res cache inv allowed ran

theorem quiet_call (isQuiet : quiet op = true) {next : op.Res → Fetch α}
    (rest : ∀ ans res, Inv sha256 w → untempted op ans w = true →
      op.exec sha256 ans w.1 = (res, w.1) →
      Pulls sha256 post (next res) (w.1, w.2.log sha256 op res w.1)) :
    Pulls sha256 post (.call op next) w := by
  refine logged_call fun ans res cache inv allowed ran => ?_
  obtain ⟨rfl, kept⟩ := inv.quiet isQuiet ran
  exact ⟨kept, rest ans res inv allowed ran⟩

end Steps

section Saving

variable {sha256 : Text → Text} {object : Nat} {image : Image}
  {path target : Text} {w : Cache × History}

theorem verified_iff {cache : Cache} {published : List (Text × Text)} :
    verified sha256 cache published path = true ↔
      ∃ content, cache.files path = some content ∧ (path, sha256 content) ∈ published := by
  unfold verified
  cases cache.files path with
  | none => simp
  | some content => simp

/-- What an attempt may end in: nil only for a verified file, and then no other file has
been created. -/
abbrev Ends (sha256 : Text → Text) (object : Nat) (image : Image) :
    Except String Unit → Cache × History → Prop :=
  Returns fun _ w =>
    verified sha256 w.1 w.2.published (image.absolutePath (w.1.resolved object)) = true ∧
      ∀ path ∈ w.2.created, path = image.absolutePath (w.1.resolved object)

/-- The image's file is being written, and its checksum is known. -/
structure Writing (object : Nat) (image : Image) (path target : Text)
    (w : Cache × History) : Prop where
  here : image.absolutePath (w.1.resolved object) = path
  created : w.2.created = [path]
  published : (path, target) ∈ w.2.published

theorem Inv.overwrite (inv : Inv sha256 w) (created : path ∈ w.2.created) (content : Text) :
    Inv sha256 ({ w.1 with files := Function.update w.1.files path (some content) }, w.2) where
  covered := by
    intro p c found
    by_cases same : p = path
    · rw [same]
      exact .inr (.inl created)
    · change update w.1.files path (some content) p = some c at found
      rw [update_of_ne same] at found
      exact inv.covered p c found
  sound := inv.sound

theorem Inv.remove (inv : Inv sha256 w) (path : Text) :
    Inv sha256 ({ w.1 with files := Function.update w.1.files path none }, w.2) where
  covered := by
    intro p c found
    change update w.1.files path none p = some c at found
    by_cases same : p = path
    · rw [same, update_self] at found
      cases found
    · rw [update_of_ne same] at found
      exact inv.covered p c found
  sound := inv.sound

theorem createImage_safe (broken : Option String) (chunks : List Text) :
    ∀ w, Writing object image path target w →
      Pulls sha256 (fun result w => result.isOk → Writing object image path target w)
        (createImage path broken chunks) w := by
  induction chunks with
  | nil =>
    intro w writing
    cases broken with
    | some text => exact ended fun impossible => by cases impossible
    | none => exact ended fun _ => writing
  | cons chunk chunks ih =>
    intro w writing
    refine logged_call fun ans res cache inv _ ran => ?_
    have isCreated : path ∈ w.2.created := by
      rw [writing.created]
      exact mem_singleton.mpr rfl
    simp only [Call.exec] at ran
    split at ran <;> cases ran
    · exact ⟨inv.overwrite isCreated _, ended fun impossible => by cases impossible⟩
    · refine ⟨inv.overwrite isCreated _, ih _ ?_⟩
      exact ⟨writing.here, writing.created, writing.published⟩

theorem summed_ends (here : image.absolutePath (w.1.resolved object) = path)
    (only : ∀ q ∈ w.2.created, q = path) (published : (path, target) ∈ w.2.published)
    (ans : Answer) (ran : (Call.sha256sum path).exec sha256 ans w.1 = (.ok target, w.1)) :
    Ends sha256 object image (.ok ()) w := by
  simp only [Call.exec] at ran
  split at ran
  · cases ran
  · rename_i content _ found
    have digest : sha256 content = target := by
      cases ran
      rfl
    constructor
    · rw [here, verified_iff]
      exact ⟨content, found, digest ▸ published⟩
    · rw [here]
      exact only
  · cases ran

/-- A download that gets to its end has compared the file with its checksum. -/
theorem saveVerified_safe (basePath : Text) (resp : Response)
    (here : image.absolutePath (w.1.resolved object) = path) (fresh : w.2.created = [])
    (published : (path, target) ∈ w.2.published) :
    Pulls sha256 (Ends sha256 object image)
      (saveVerified basePath path target resp) w := by
  refine quiet_call rfl fun _ res _ _ _ => ?_
  refine .checked_alone fun _ _ => ?_
  refine logged_call fun ans res cache inv _ ran => ?_
  simp only [Call.exec] at ran
  split at ran <;> cases ran
  · exact ⟨inv, ended trivial⟩
  have writing : Writing object image path target
      ({ w.1 with files := update w.1.files path (some []) },
        { w.2 with created := path :: w.2.created }) :=
    ⟨here, congrArg (path :: ·) fresh, published⟩
  have kept : Inv sha256 (w.1, { w.2 with created := path :: w.2.created }) := by
    refine ⟨fun q content found => ?_, inv.sound⟩
    exact (inv.covered q content found).imp_right (.imp_left (mem_cons_of_mem path))
  refine ⟨kept.overwrite mem_cons_self [], ?_⟩
  refine (createImage_safe resp.broken resp.chunks _ writing).bind (fun _ _ _ => trivial) ?_
  intro _ w written
  have writing := written rfl
  refine quiet_call rfl fun ans res _ _ ran => ?_
  refine .checked_alone fun sum read => ?_
  split
  · exact ended trivial
  rename_i same
  have same : sum = target := not_not.mp same
  refine ended (summed_ends (w := w) writing.here ?_ writing.published ans ?_)
  · intro q mem
    rw [writing.created] at mem
    exact mem_singleton.mp mem
  · rw [ran, read, same]

end Saving

section Downloads

variable {sha256 : Text → Text} {object : Nat} {image : Image}
  {path : Text} {w : Cache × History} {w' : Cache × History} {resp : Response}

/-- An attempt for the image that has not created its file yet. -/
structure Fresh (image : Image) (w : Cache × History) : Prop where
  image : w.2.image = some image
  created : w.2.created = []

theorem Fresh.later (fresh : Fresh image w) (later : Later w w') : Fresh image w' :=
  ⟨later.image.trans fresh.image, later.created.trans fresh.created⟩

variable {ans : Answer} {sums text url name target : Text}

theorem stat_true (ran : (Call.stat path).exec sha256 ans w.1 = (true, w.1)) :
    (w.1.files path).isSome := by
  have found : (ans.error.isNone && (w.1.files path).isSome) = true := congrArg Prod.fst ran
  exact (Bool.and_eq_true_iff.mp found).2

theorem existing_ends (inv : Inv sha256 w) (fresh : Fresh image w)
    (found : (w.1.files (image.absolutePath (w.1.resolved object))).isSome)
    (checked : leftover w (image.absolutePath (w.1.resolved object)) = false) :
    Ends sha256 object image (.ok ()) w := by
  obtain ⟨content, found⟩ := Option.isSome_iff_exists.mp found
  have notLeft : image.absolutePath (w.1.resolved object) ∉ w.2.left := by
    simpa [leftover, found] using checked
  constructor
  · rcases inv.covered _ content found with left | created | published
    · exact absurd left notLeft
    · rw [fresh.created] at created
      cases created
    · exact verified_iff.mpr ⟨content, found, published⟩
  · intro q mem
    rw [fresh.created] at mem
    cases mem

/-- The rule for the `Stat` of a `Download` that takes every file that exists. -/
theorem trusting_stat (inv : Inv sha256 w) (fresh : Fresh image w) (trusts : image.trusts)
    (allowed : untempted (.stat path) ans w = true)
    (here : image.absolutePath (w.1.resolved object) = path)
    (ran : (Call.stat path).exec sha256 ans w.1 = (true, w.1)) :
    Ends sha256 object image (.ok ()) w := by
  have checked : leftover w path = false := by
    simpa [untempted, fresh.image, trusts] using allowed
  subst here
  exact existing_ends inv fresh (stat_true ran) checked

theorem Ends.later {result : Except String Unit}
    (ends : Ends sha256 object image result w) (later : Later w w') :
    Ends sha256 object image result w' := by
  cases result with
  | error text => trivial
  | ok _ =>
    obtain ⟨isVerified, only⟩ := ends
    rw [Ends, Returns, Outcome, later.cache, later.created]
    refine ⟨?_, only⟩
    obtain ⟨content, found, published⟩ := verified_iff.mp isVerified
    exact verified_iff.mpr ⟨content, found, later.published published⟩

variable (u : UbuntuImage) (a : Attempt)

theorem considerLine_cases (found : Text × Text) (line : Text) :
    u.considerLine found line = found ∨ listedLine line = some (u.considerLine found line) := by
  unfold UbuntuImage.considerLine
  split
  · rename_i digest file fields
    have isListed : listedLine line = some (trimStar file, digest) := by rw [listedLine, fields]
    rw [isListed]
    dsimp only
    split
    · exact .inl rfl
    · split
      · exact .inr rfl
      · exact .inl rfl
  · exact .inl rfl

/-- The newest ISO is the one that the image value had before or one of the listed. -/
theorem foldl_considerLine (lines : List Text) (found : Text × Text) :
    lines.foldl u.considerLine found = found ∨
      lines.foldl u.considerLine found ∈ lines.filterMap listedLine := by
  induction lines generalizing found with
  | nil => exact .inl rfl
  | cons line lines ih =>
    rw [foldl_cons]
    rcases ih (u.considerLine found line) with same | mem
    · rw [same]
      rcases considerLine_cases u found line with kept | chosen
      · exact .inl kept
      · rw [filterMap_cons_some chosen]
        exact .inr mem_cons_self
    · refine .inr ?_
      rw [filterMap_cons]
      split
      · exact mem
      · exact mem_cons_of_mem _ mem

theorem newestISO_listed {u : UbuntuImage} {resolvedName : Text}
    (found : (u.newestISO sums resolvedName).2 ≠ []) :
    u.newestISO sums resolvedName ∈ listed sums := by
  rcases foldl_considerLine u (sums.splitOn '\n') (resolvedName, []) with same | mem
  · rw [UbuntuImage.newestISO, same] at found
    exact absurd rfl found
  · exact mem

theorem readAll_ok (read : resp.readAll = .ok text) :
    resp.broken = none ∧ resp.chunks.flatten = text := by
  unfold Response.readAll at read
  split at read
  · cases read
  · rename_i whole
    cases read
    exact ⟨whole, rfl⟩

theorem text_of_readAll (ok : resp.status = 200) (read : resp.readAll = .ok text) :
    resp.text = some text := by
  obtain ⟨whole, same⟩ := readAll_ok read
  rw [Response.text, if_pos ⟨ok, whole⟩, same]

theorem get_publishes (fresh : Fresh image w) {entry : Text × Text}
    (mem : entry ∈ image.publishes url resp) :
    entry ∈ w.2.image.elim [] (Image.publishes url resp) ++ w.2.published := by
  rw [fresh.image]
  exact mem_append_left _ mem

theorem get_ok (ran : (Call.get url).exec sha256 ans w.1 = (.ok resp, w.1)) :
    ans.error = none ∧ ans.response = resp := by
  simp only [Call.exec] at ran
  split at ran
  · cases ran
  · rename_i fine
    cases ran
    exact ⟨fine, rfl⟩

theorem mem_sums {basePath digest : Text} (text : resp.text = some sums)
    (mem : (name, digest) ∈ listed sums) :
    (joinElements [basePath, name], digest) ∈ Image.publishes.sums resp basePath := by
  unfold Image.publishes.sums
  rw [text]
  exact mem_map.mpr ⟨(name, digest), mem, rfl⟩

theorem resolve_call {α : Type} {post : Except String α → Cache × History → Prop}
    {next : Unit → Fetch α} (rest : Pulls sha256 post (next ())
      ({ w.1 with resolved := Function.update w.1.resolved object name }, w.2)) :
    Pulls sha256 post (.call (.resolve object name) next) w := by
  refine logged_call fun ans res cache inv _ ran => ?_
  cases ran
  exact ⟨⟨inv.covered, inv.sound⟩, rest⟩

theorem ubuntu_safe (object : Nat) (fresh : Fresh (.ubuntu u) w) :
    Pulls sha256 (Ends sha256 object (.ubuntu u)) (u.download object) w := by
  refine quiet_call rfl fun _ resolved _ _ loaded => ?_
  have isResolved : w.1.resolved object = resolved := congrArg Prod.fst loaded
  refine quiet_call rfl fun ans found inv allowed ran => ?_
  have here : (Image.ubuntu u).absolutePath (w.1.resolved object) = u.absolutePath resolved := by
    rw [isResolved]
    rfl
  cases found with
  | true => exact ended (trusting_stat inv fresh rfl allowed here ran)
  | false =>
    refine quiet_call rfl fun _ res _ _ ran => ?_
    refine .checked_alone fun resp got => ?_
    subst got
    split
    · exact ended trivial
    rename_i status
    refine .checked_alone fun sums read => ?_
    have text := text_of_readAll (not_not.mp status) read
    refine resolve_call ?_
    split
    · exact ended trivial
    rename_i found
    obtain ⟨named, known⟩ := not_or.mp found
    have published : (u.absolutePath (u.newestISO sums resolved).1,
        (u.newestISO sums resolved).2) ∈ (w.2.log sha256 (.get u.checksumURL) (.ok resp)
          w.1).published := by
      refine get_publishes fresh ?_
      rw [Image.publishes, if_pos rfl, UbuntuImage.absolutePath, UbuntuImage.name, if_pos named]
      exact mem_sums text (newestISO_listed known)
    have here : (Image.ubuntu u).absolutePath (update w.1.resolved object
        (u.newestISO sums resolved).1 object) =
          u.absolutePath (u.newestISO sums resolved).1 := by
      rw [update_self]
      rfl
    refine quiet_call rfl fun ans found inv allowed ran => ?_
    cases found with
    | true => exact ended (trusting_stat inv ⟨fresh.image, fresh.created⟩ rfl allowed here ran)
    | false =>
      refine quiet_call rfl fun _ res _ _ _ => ?_
      refine .checked_alone fun resp got => ?_
      subst got
      split
      · exact ended trivial
      · exact saveVerified_safe _ resp here fresh.created (mem_append_right _ published)

theorem targetChecksum_published {u : UbuntuCloudImage} (own : u.ownLineFirst resp = true)
    (read : resp.readAll = .ok sums) (known : u.targetChecksum sums ≠ []) :
    (u.absolutePath, u.targetChecksum sums) ∈
      (Image.ubuntuCloud u).publishes u.checksumURL resp := by
  obtain ⟨whole, same⟩ := readAll_ok read
  rw [UbuntuCloudImage.ownLineFirst, same] at own
  unfold UbuntuCloudImage.targetChecksum at known ⊢
  cases first : u.sumsLine sums with
  | none =>
    rw [first] at known
    exact absurd rfl known
  | some line =>
    rw [first, Option.all_some, Bool.and_eq_true_iff, decide_eq_true_iff] at own
    obtain ⟨status, isOwn⟩ := own
    have mem : line ∈ sums.splitOn '\n' := mem_of_find?_eq_some first
    unfold listedLine at isOwn
    split at isOwn
    · rename_i digest file fields
      have named : trimStar file = u.name := of_decide_eq_true isOwn
      have isListed : (u.name, digest) ∈ listed sums := by
        refine mem_filterMap.mpr ⟨line, mem, ?_⟩
        rw [listedLine, fields, ← named]
      rw [Image.publishes, if_pos rfl]
      dsimp only
      rw [fields]
      exact mem_sums (text_of_readAll status read) isListed
    · cases isOwn

/-- A file that exists is kept for its published digest or fetched again. -/
theorem recheck_safe {fetch : Fetch Unit} (here : image.absolutePath (w.1.resolved object) = path)
    (created : w.2.created = []) (published : (path, target) ∈ w.2.published)
    (rest : ∀ cache : Cache, cache.files path = none →
      Pulls sha256 (Ends sha256 object image) fetch (cache, w.2)) :
    Pulls sha256 (Ends sha256 object image) (recheck path target fetch) w := by
  refine quiet_call rfl fun ans res _ _ ran => ?_
  refine .checked_alone fun sum summed => ?_
  split
  · rename_i same
    refine ended (summed_ends (w := w) here ?_ published ans ?_)
    · intro q mem
      rw [created] at mem
      cases mem
    · rw [ran, summed, same]
  · refine logged_call fun ans res cache inv _ ran => ?_
    simp only [Call.exec] at ran
    split at ran <;> cases ran
    · exact ⟨inv, ended trivial⟩
    · exact ⟨inv.remove path, rest _ (update_self _ _ _)⟩

theorem cloud_fetch_safe (u : UbuntuCloudImage) (created : w.2.created = [])
    (published : (u.absolutePath, target) ∈ w.2.published) :
    Pulls sha256 (Ends sha256 object (.ubuntuCloud u)) (u.fetchImage target) w := by
  refine quiet_call rfl fun _ res _ _ _ => ?_
  refine .checked_alone fun resp got => ?_
  subst got
  exact saveVerified_safe _ resp rfl created (mem_append_right _ published)

theorem cloud_safe (u : UbuntuCloudImage) (object : Nat) (fresh : Fresh (.ubuntuCloud u) w) :
    Pulls sha256 (Ends sha256 object (.ubuntuCloud u)) u.download w := by
  refine quiet_call rfl fun ans found inv allowed ran => ?_
  cases found with
  | true => exact ended (trusting_stat inv fresh rfl allowed rfl ran)
  | false =>
    refine quiet_call rfl fun ans res _ allowed ran => ?_
    refine .checked_alone fun resp got => ?_
    subst got
    refine .checked_alone fun sums read => ?_
    split
    · exact ended trivial
    rename_i known
    obtain ⟨answered, response⟩ := get_ok ran
    have own : u.ownLineFirst resp = true := by
      simpa [untempted, History.log, fresh.image, answered, response] using allowed
    have published := get_publishes fresh (targetChecksum_published own read known)
    refine quiet_call rfl fun _ found _ _ _ => ?_
    cases found with
    | false => exact cloud_fetch_safe u fresh.created published
    | true =>
      refine recheck_safe rfl fresh.created published fun cache _ => ?_
      exact cloud_fetch_safe u fresh.created published

theorem codename_checksumURL {t : TrueNASImage} {cn : Text} (train : t.codename = .ok cn) :
    t.isChecksumURL (t.checksumURL cn) = true := by
  rw [TrueNASImage.isChecksumURL, train]
  exact decide_eq_true rfl

theorem hasChecksum_text (has : resp.hasChecksum = true) :
    resp.status = 200 ∧ ∃ text, resp.readAll = .ok text ∧ goFields text ≠ [] := by
  unfold Response.hasChecksum Response.text at has
  split at has
  · rename_i fine
    rw [Option.any_some, decide_eq_true_iff] at has
    refine ⟨fine.1, _, ?_, has⟩
    rw [Response.readAll, fine.2]
  · cases has

/-- A checksum that is fetched has been published; and for a file left behind one is
fetched. -/
def FetchEnds (t : TrueNASImage) (w : Cache × History) :
    Except String Text → Cache × History → Prop
  | .ok target, w' => Later w w' ∧ (t.absolutePath, target) ∈ w'.2.published
  | .error _, w' => Later w w' ∧ leftover w t.absolutePath = false

theorem fetchRemoteChecksum_safe (t : TrueNASImage) (fresh : Fresh (.trueNAS t) w)
    (train : (Image.trueNAS t).trusts → leftover w t.absolutePath = false) :
    Pulls sha256 (FetchEnds t w) t.fetchRemoteChecksum w := by
  refine .orThrow_alone (fun _ unknown => ⟨.refl w, train ?_⟩) fun cn known => ?_
  · rw [Image.trusts, unknown]
    rfl
  refine quiet_call rfl fun ans res inv allowed ran => ?_
  have later : Later w (w.1, w.2.log sha256 (.get (t.checksumURL cn)) res w.1) := by
    cases res with
    | error text => exact .refl w
    | ok resp => exact ⟨rfl, rfl, rfl, rfl, rfl, subset_append_right _ _⟩
  have isURL := codename_checksumURL known
  have notLeft : (ans.error = none → ans.response.hasChecksum = true → False) →
      leftover w t.absolutePath = false := by
    intro without
    have answers : leftover w t.absolutePath = false ∨
        ans.error = none ∧ ans.response.hasChecksum = true := by
      simpa [untempted, fresh.image, isURL] using allowed
    rcases answers with fine | ⟨answered, has⟩
    · exact fine
    · exact (without answered has).elim
  refine .orThrow_alone (fun text failed => ⟨later, notLeft fun answered _ => ?_⟩)
    fun resp got => ?_
  · simp [Call.exec, answered, failed] at ran
  subst got
  obtain ⟨-, rfl⟩ := get_ok ran
  split
  · rename_i status
    exact ended ⟨later, notLeft fun _ has => status (hasChecksum_text has).1⟩
  rename_i status
  refine .orThrow_alone (fun _ failed => ⟨later, notLeft fun _ has => ?_⟩) fun text read => ?_
  · obtain ⟨-, text, read, -⟩ := hasChecksum_text has
    rw [failed] at read
    cases read
  split
  · rename_i fields
    refine ended ⟨later, notLeft fun _ has => ?_⟩
    obtain ⟨-, text', read', some⟩ := hasChecksum_text has
    rw [read] at read'
    cases read'
    exact some fields
  · rename_i digest others fields
    refine ended ⟨later, get_publishes fresh ?_⟩
    rw [Image.publishes, if_pos isURL, text_of_readAll (not_not.mp status) read,
      Option.map_some, fields]
    exact mem_singleton.mpr rfl

theorem trueNAS_fetch_safe (t : TrueNASImage) (fresh : Fresh (.trueNAS t) w)
    (train : (Image.trueNAS t).trusts → leftover w t.absolutePath = false) :
    Pulls sha256 (Ends sha256 object (.trueNAS t)) t.fetchImage w := by
  refine (fetchRemoteChecksum_safe t fresh train).bind (fun _ _ _ => trivial) ?_
  rintro target w1 ⟨later, published⟩
  refine .checked_alone fun cn _ => ?_
  refine quiet_call rfl fun _ res _ _ _ => ?_
  refine .checked_alone fun resp got => ?_
  subst got
  split
  · exact ended trivial
  · exact saveVerified_safe _ resp rfl (later.created.trans fresh.created)
      (mem_append_right _ published)

theorem trueNAS_safe (t : TrueNASImage) (object : Nat) (fresh : Fresh (.trueNAS t) w) :
    Pulls sha256 (Ends sha256 object (.trueNAS t)) t.download w := by
  refine quiet_call rfl fun ans found inv allowed ran => ?_
  have train : (Image.trueNAS t).trusts → leftover w t.absolutePath = false := by
    intro trusts
    simpa [untempted, fresh.image, trusts] using allowed
  cases found with
  | false => exact trueNAS_fetch_safe t fresh train
  | true =>
    refine (fetchRemoteChecksum_safe t fresh train).attempt_bind fun result w' fetched => ?_
    cases result with
    | error text =>
      obtain ⟨later, answered⟩ := fetched
      exact ended (Ends.later (existing_ends inv fresh (stat_true ran) answered) later)
    | ok target =>
      obtain ⟨later, answered⟩ := fetched
      have fresh := fresh.later later
      refine recheck_safe rfl fresh.created answered fun cache removed => ?_
      refine trueNAS_fetch_safe t ⟨fresh.image, fresh.created⟩ fun _ => ?_
      rw [leftover, removed]
      rfl

theorem download_safe (object : Nat) (fresh : Fresh image w) :
    Pulls sha256 (Ends sha256 object image) (image.download object) w := by
  cases image with
  | ubuntu u => exact ubuntu_safe u object fresh
  | ubuntuCloud u => exact cloud_safe u object fresh
  | trueNAS t => exact trueNAS_safe t object fresh

/-- An attempt ends in what its `Download` ends in, also if it is killed. -/
theorem prog_safe (fresh : Fresh a.image w) :
    Pulls sha256 (Ends sha256 a.object a.image) a.prog w := by
  have whole : Pulls sha256 (Ends sha256 a.object a.image)
      (a.image.download a.object) w := download_safe a.object fresh
  unfold Attempt.prog
  split
  · exact whole.cut (fun _ _ => trivial) _
  · exact whole

/-- The invariant does not ask for a file that has been verified to count as created or
as left behind. -/
theorem Inv.leave_ok (inv : Inv sha256 w) (ends : Ends sha256 object image (.ok ()) w) :
    Inv sha256 (w.1, w.2.log sha256 (.leave object image true) () w.1) := by
  obtain ⟨isVerified, only⟩ := ends
  obtain ⟨content, found, published⟩ := verified_iff.mp isVerified
  constructor
  · intro q c found'
    by_cases same : q = image.absolutePath (w.1.resolved object)
    · subst same
      rw [found] at found'
      cases found'
      exact .inr (.inr published)
    · rcases inv.covered q c found' with left | created | listed
      · exact .inl (mem_filter.mpr ⟨left, decide_eq_true same⟩)
      · exact absurd (only q created) same
      · exact .inr (.inr listed)
  · change (w.2.unverified || !verified sha256 w.1 w.2.published _) = false
    rw [inv.sound, isVerified]
    rfl

theorem Inv.enter (inv : Inv sha256 w) (image : Image) :
    Inv sha256 (w.1, w.2.log sha256 (.enter image) () w.1) := by
  refine ⟨fun q content found => ?_, inv.sound⟩
  rcases inv.covered q content found with left | created | listed
  · exact .inl (mem_append_right _ left)
  · exact .inl (mem_append_left _ created)
  · exact .inr (.inr listed)

theorem run_safe (w : Cache × History) : Keeps (protocol sha256) 0 a.run w := by
  refine logged_call fun ans res cache inv _ ran => ?_
  cases ran
  refine ⟨inv.enter a.image, ?_⟩
  refine (prog_safe a ⟨rfl, rfl⟩).attempt_bind fun result w1 ends => ?_
  refine logged_call fun ans res cache inv _ ran => ?_
  cases ran
  cases result with
  | error text => exact ⟨inv, Keeps.ended _⟩
  | ok _ => exact ⟨inv.leave_ok ends, Keeps.ended _⟩

theorem initially (attempts : List Attempt) :
    SafePool (protocol sha256) (fun _ _ _ => True) (fromEmptyCache attempts) := by
  refine .single ⟨fun _ _ found => (nomatch found), rfl⟩ ?_
  exact (Keeps.forEach run_safe attempts _).bind fun _ _ => Keeps.ended _

end Downloads

end Verified

/-- In a run in which no file left behind is taken over unchecked, every `Download` that
returns nil leaves a file whose digest has been published. -/
theorem downloaded_images_verified (sha256 : Text → Text) (attempts : List Attempt)
    {c : Config Call Call.Res Unit (Cache × History)}
    (reached : Reach (downloadHost sha256) (leftoversChecked sha256) (fromEmptyCache attempts) c) :
    c.world.2.unverified = false :=
  (Reach.safe (Verified.initially attempts) (fun event => nomatch event) reached).inv.sound

def body (text : String) : Answer := { response := { chunks := [text.toList] } }

def trueNAS2510 : Image := .trueNAS ⟨"/iso".toList, "25.10.4".toList⟩

def ubuntuCloud2404 : Image := .ubuntuCloud ⟨"/iso".toList, "24.04".toList, "amd64".toList⟩

/-- The first attempt is killed when it has created the file. The second one finds that
the file has another digest, and fetches it again. -/
theorem killed_download_fetched_again : ∃ c, Reach (downloadHost id) (leftoversChecked id)
        (fromEmptyCache [⟨0, trueNAS2510, some 5⟩, ⟨1, trueNAS2510, none⟩]) c ∧
      c.Finished ∧ c.world.1.files "/iso/TrueNAS-SCALE-25.10.4.iso".toList = some "iso".toList ∧
      c.world.2.unverified = false := by
  refine Reach.exists_of_runs
    ([{}, {}, body "iso", body "iso", {}, {}, {}, {}, {}, body "iso", {}, {}, body "iso",
      body "iso", {}, {}, {}, {}, {}].map (.run 0))
    (fun c => c.Finished ∧
      c.world.1.files "/iso/TrueNAS-SCALE-25.10.4.iso".toList = some "iso".toList) (by decide) ?_
  rintro c reached ⟨finished, content⟩
  exact ⟨finished, content, downloaded_images_verified id _ reached⟩

/-- The first attempt is killed when it has created the file. The second one finds the
empty file, and returns nil. -/
theorem killed_download_taken_over : ∃ c, Reach (downloadHost id) (.none _)
        (fromEmptyCache [⟨0, ubuntuCloud2404, some 6⟩, ⟨1, ubuntuCloud2404, none⟩]) c ∧
      c.world.2.unverified = true :=
  Reach.of_runs _ _ _ ([{}, {}, body "d1ce *ubuntu-24.04-server-cloudimg-amd64.img\n", {},
    body "image", {}, {}, {}, {}, {}, {}].map (.run 0)) _ (by decide)

end Vee.Images
