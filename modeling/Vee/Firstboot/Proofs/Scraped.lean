import Vee.Firstboot.Patch

/-!
# The node that the last resort detaches

A field of the output is trimmed of angle brackets at its ends only: of the field
`<string>/dev/disk4</string>` the text `disk4</string` is left, and `hdiutil` is asked to detach it.
-/

namespace Vee.Firstboot

open List

/-- A field without the angle brackets at its ends. -/
def trimBrackets (field : Text) : Text :=
  let bracket := fun c => c = '<' ∨ c = '>'
  ((field.dropWhile bracket).reverse.dropWhile bracket).reverse

/-- The nodes in the output are those of the image with this number. Of a field, it is the first
one that counts. -/
structure OneImage (number out : Text) : Prop where
  digits : ∀ c ∈ number, c.isDigit
  nodes : ∀ field ∈ goFields out, ∀ found ∈ fromFirst "/dev/disk".toList (trimBrackets field),
    ∃ rest, found = "/dev/disk".toList ++ number ++ rest ∧ ∀ c ∈ rest.head?, ¬ c.isDigit

section Scraping

variable {number out node text : Text}

theorem byteLength_append (node rest : Text) :
    byteLength (node ++ rest) = byteLength node + byteLength rest := by
  simp [byteLength]

theorem eq_nil_of_byteLength (zero : byteLength text = 0) : text = [] := by
  cases text with
  | nil => rfl
  | cons c text =>
    have := c.utf8Size_pos
    simp only [byteLength, map_cons, sum_cons] at zero
    omega

/-- Of two texts that begin with a node, if they are there, the node itself is the shorter one. -/
theorem shorter_eq_node {first second : Text} (some : node ≠ [])
    (one : first = [] ∨ node <+: first) (other : second = [] ∨ node <+: second) :
    (shorter first second = [] ∨ node <+: shorter first second) ∧
      (shorter first second = node ↔ first = node ∨ second = node) := by
  rcases one with rfl | ⟨r, rfl⟩
  · rcases other with rfl | ⟨t, rfl⟩ <;> simp [shorter, some, some.symm]
  rcases other with rfl | ⟨t, rfl⟩
  · simp [shorter, some.symm]
  have nonempty : ∀ rest, node ++ rest ≠ [] := by simp [some]
  unfold shorter
  rw [if_neg (nonempty t)]
  split
  · rename_i less
    have less := less.resolve_left (nonempty r)
    refine ⟨.inr (prefix_append _ _), .inr, fun same => same.resolve_left fun same => ?_⟩
    rw [same, byteLength_append] at less
    omega
  · rename_i least
    refine ⟨.inr (prefix_append _ _), .inl, fun same => same.elim id fun same => ?_⟩
    rw [same, byteLength_append] at least
    have none : r = [] := eq_nil_of_byteLength (by omega)
    rw [none, append_nil]

theorem foldl_shorter_eq_node (some : node ≠ []) {texts : List Text}
    (all : ∀ text ∈ texts, text = [] ∨ node <+: text) : ∀ first, first = [] ∨ node <+: first →
      (texts.foldl shorter first = node ↔ first = node ∨ node ∈ texts) := by
  induction texts with
  | nil => simp
  | cons text texts ih =>
    intro first begins
    obtain ⟨here, rest⟩ := forall_mem_cons.mp all
    obtain ⟨begins, same⟩ := shorter_eq_node some begins here
    rw [foldl_cons, ih rest _ begins, same, mem_cons, eq_comm (a := node), or_assoc]

theorem detachScrapedFrom_eq_call {dev : Text} (some : dev ≠ []) :
    (∃ next, detachScrapedFrom out = .call (.detach .attachImage .caller dev) next) ↔
      scrapeDevice out = dev := by
  unfold detachScrapedFrom
  split
  · rename_i none
    exact iff_of_false nofun fun same => some (same.symm.trans none)
  · constructor
    · rintro ⟨next, same⟩
      injection same with op
      injection op
    · rintro rfl
      exact ⟨_, rfl⟩

/-- `detachScrapedFrom` asks for the whole disk exactly if, in some field, nothing but angle
brackets is behind its node. -/
theorem detachScrapedFrom_hits_disk_iff (image : OneImage number out) :
    (∃ next, detachScrapedFrom out =
        .call (.detach .attachImage .caller ("disk".toList ++ number)) next) ↔
      ∃ field ∈ goFields out, fromFirst "/dev/disk".toList (trimBrackets field) =
        some ("/dev/disk".toList ++ number) := by
  have scraped : ∀ field, scrapeField field = ((fromFirst "/dev/disk".toList
      (trimBrackets field)).map (trimStart "/dev/".toList)).getD [] := by
    intro field
    unfold scrapeField trimBrackets
    dsimp only
    split <;> rename_i read <;> rw [read] <;> rfl
  have begins : ∀ text ∈ (goFields out).map scrapeField,
      text = [] ∨ "disk".toList ++ number <+: text := by
    intro text mem
    obtain ⟨field, listed, rfl⟩ := mem_map.mp mem
    rw [scraped]
    cases found : fromFirst "/dev/disk".toList (trimBrackets field) with
    | none => exact .inl rfl
    | some found =>
      obtain ⟨rest, rfl, -⟩ := image.nodes field listed _ found
      exact .inr ⟨rest, rfl⟩
  have some : "disk".toList ++ number ≠ [] := by simp
  rw [detachScrapedFrom_eq_call some, scrapeDevice,
    foldl_shorter_eq_node some begins [] (.inl rfl), mem_map, or_iff_right (Ne.symm some)]
  refine exists_congr fun field => and_congr_right fun listed => ?_
  rw [scraped]
  cases first : fromFirst "/dev/disk".toList (trimBrackets field) with
  | none => simp
  | some found =>
    obtain ⟨rest, rfl, -⟩ := image.nodes field listed _ first
    change "disk".toList ++ number ++ rest = _ ↔ _
    simp

theorem OneImage.of_starts (digits : number.all Char.isDigit)
    (nodes : ∀ field ∈ goFields out, ∀ found ∈ fromFirst "/dev/disk".toList (trimBrackets field),
      "/dev/disk".toList ++ number <+: found ∧
        (found.drop ("/dev/disk".toList ++ number).length).head?.all (!·.isDigit)) :
    OneImage number out := by
  refine ⟨all_eq_true.mp digits, fun field listed found first => ?_⟩
  obtain ⟨⟨rest, rfl⟩, other⟩ := nodes field listed found first
  rw [drop_left, Option.all_eq_true] at other
  exact ⟨rest, rfl, by simpa using other⟩

end Scraping

/-- A disk on a line of its own is detached, also behind a partition and between elements. -/
theorem plain_disk_detached : ∃ next,
    detachScrapedFrom "<array>\n<string>/dev/disk4s1</string>\n/dev/disk4\n</array>\n".toList =
      .call (.detach .attachImage .caller "disk4".toList) next := by
  have image : OneImage ['4']
      "<array>\n<string>/dev/disk4s1</string>\n/dev/disk4\n</array>\n".toList :=
    .of_starts (by decide) (by decide)
  exact (detachScrapedFrom_hits_disk_iff image).mpr
    ⟨"/dev/disk4".toList, by decide, by decide⟩

/-- A node inside an element is not. -/
theorem closing_tag_detached : OneImage ['4'] "<string>/dev/disk4</string>".toList ∧
    ∃ next, detachScrapedFrom "<string>/dev/disk4</string>".toList =
      .call (.detach .attachImage .caller "disk4</string".toList) next :=
  ⟨.of_starts (by decide) (by decide), _, rfl⟩

end Vee.Firstboot
