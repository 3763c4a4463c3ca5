import Vee.Misc.GoText

/-!
# The devices of an attached image

How `internal/vzfirstboot/plistparse.go` finds the device nodes of an image in the values that
`hdiutil attach -plist` and `diskutil apfs list -plist` print, and the last resort of
`detachScrapedFrom`, which looks for them in the text.
-/

namespace Vee.Firstboot

/-- A decoded plist; numbers, booleans and `nil` are `other`. -/
inductive Plist where
  | dict (entries : List (String × Plist))
  | array (items : List Plist)
  | string (text : Text)
  | other

/-- `dictOf(v)[key]`. -/
def Plist.field (key : String) : Plist → Plist
  | .dict entries => (entries.lookup key).getD .other
  | _ => .other

def Plist.arrayOf : Plist → List Plist
  | .array items => items
  | _ => []

def Plist.stringOf : Plist → Text
  | .string text => text
  | _ => []

structure AttachedDisk where
  wholeDisk : Text := []
  container : Text := []
  data : Text := []

def byteLength (text : Text) : Nat := (text.map Char.utf8Size).sum

/-- The device node of an entity, without `/dev/`. -/
def deviceOf (entity : Plist) : Text :=
  trimStart "/dev/".toList (entity.field "dev-entry").stringOf

/-- What an entity says about the image. -/
def takeEntity (got : AttachedDisk) (entity : Plist) : AttachedDisk :=
  let dev := deviceOf entity
  if dev = [] then got
  else
    let hint := (entity.field "content-hint").stringOf
    let hinted :=
      if hint = "GUID_partition_scheme".toList then { got with wholeDisk := dev }
      else if hint = "Apple_APFS".toList then { got with container := dev }
      else got
    if (entity.field "role").stringOf = "Data".toList then { hinted with data := dev } else hinted

/-- The shorter one of two device nodes, of those that are there. -/
def shorter (shortest dev : Text) : Text :=
  if dev = [] then shortest
  else if shortest = [] ∨ byteLength dev < byteLength shortest then dev
  else shortest

def devicesFromAttach (root : Plist) : AttachedDisk :=
  let entities := (root.field "system-entities").arrayOf
  let got := entities.foldl takeEntity {}
  if got.wholeDisk = [] then { got with wholeDisk := (entities.map deviceOf).foldl shorter [] }
  else got

def containerHasStore (dev : Text) (container : Plist) : Bool :=
  (container.field "DesignatedPhysicalStore").stringOf = dev ||
    (container.field "PhysicalStores").arrayOf.any fun store =>
      (store.field "DeviceIdentifier").stringOf = dev

def isDataVolume (volume : Plist) : Bool :=
  (volume.field "Roles").arrayOf.any fun role => role.stringOf = "Data".toList

def dataVolumeForContainer (root : Plist) (containerDev : Text) : Except String Text :=
  match (root.field "Containers").arrayOf.find? (containerHasStore containerDev) with
  | none => .error ("no APFS container found for " ++ String.ofList containerDev)
  | some container =>
    match (container.field "Volumes").arrayOf.find? isDataVolume with
    | none =>
      .error ("APFS container " ++ String.ofList containerDev ++
        " has no Data-role volume — is the guest actually installed?")
    | some volume =>
      let dev := (volume.field "DeviceIdentifier").stringOf
      if dev = [] then .error "APFS Data volume has no device identifier" else .ok dev

/-- The device node that `detachImage` releases. -/
def AttachedDisk.node (attached : AttachedDisk) : Text :=
  if attached.wholeDisk ≠ [] then attached.wholeDisk
  else if attached.container ≠ [] then attached.container
  else attached.data

/-- A text from the first occurrence of a part on. -/
def fromFirst (part : Text) : Text → Option Text
  | [] => if part = [] then some [] else none
  | c :: rest => if part.isPrefixOf (c :: rest) then some (c :: rest) else fromFirst part rest

/-- The device node in a field of the output. -/
def scrapeField (field : Text) : Text :=
  let bracket := fun c => c = '<' ∨ c = '>'
  let trimmed := ((field.dropWhile bracket).reverse.dropWhile bracket).reverse
  match fromFirst "/dev/disk".toList trimmed with
  | none => []
  | some found => trimStart "/dev/".toList found

/-- The shortest device node in the output, if there is one. -/
def scrapeDevice (attachOutput : Text) : Text :=
  ((goFields attachOutput).map scrapeField).foldl shorter []

/-! ### What is found -/

theorem dataVolumeForContainer_ne_nil {root : Plist} {containerDev dev : Text}
    (found : dataVolumeForContainer root containerDev = .ok dev) : dev ≠ [] := by
  unfold dataVolumeForContainer at found
  split at found
  · cases found
  split at found
  · cases found
  · simp only at found
    split at found
    · cases found
    · rename_i named
      cases found
      exact named

theorem node_ne_nil {attached : AttachedDisk} (found : attached.data ≠ []) :
    attached.node ≠ [] := by
  unfold AttachedDisk.node
  split
  · assumption
  · split
    · assumption
    · exact found

end Vee.Firstboot
