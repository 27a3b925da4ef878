import Mathlib.Data.List.Pairwise

/-!
# Requested file changes

Translation of the data of `internal/usbgadget/changeset.go`: what a USB gadget
transaction asks the change set to do.  A Go string or byte slice is a list of
bytes; a `String` here stands for the text with these bytes as its characters.
Paths are absolute and cleaned, and given by their elements.
-/

namespace JetKvm

namespace UsbGadget

abbrev Bytes := List UInt8

/-- `[]byte(text)` -/
def bytesOf (text : String) : Bytes :=
  text.toList.map fun character => UInt8.ofNat character.toNat

abbrev Path := List String

/-- The path as the source writes it. -/
def pathText (path : Path) : String := "/" ++ "/".intercalate path

def joinPath (basePath : Path) (paths : List String) : Path :=
  basePath ++ paths

inductive FileState where
  | unknown
  | absent
  | directory
  | file
  | fileContentMatch
  | fileWrite
  | mounted
  | mountedConfigFS
  | symlink
  | symlinkInOrderConfigFS
  | symlinkNotInOrderConfigFS
  | touch
  deriving DecidableEq, Repr

/-- The path of a `symlink` of the source may be relative to the directory
the links are kept in.  The target is the text stored in the link. -/
structure Symlink where
  isAbs : Bool := true
  path : Path
  target : Bytes
  deriving DecidableEq, Repr

/-- An optional slice is `none` where the source tests it for nil.  A change
is conditional when its `when` is not empty. -/
structure RequestedFileChange where
  component : String := ""
  key : String := ""
  path : Path
  paramSymlinks : List Symlink := []
  expectedState : FileState
  expectedContent : Bytes := []
  dependsOn : List String := []
  beforeChange : Option (List String) := none
  description : String := ""
  ignoreErrors : Bool := false
  when : String := ""
  deriving DecidableEq, Repr

namespace RequestedFileChange

/-- The name other changes use for this one. -/
def resolvedKey (change : RequestedFileChange) : String :=
  if change.key = "" then pathText change.path else change.key

/-- The change as a component of the gadget requests it. -/
def ownedBy (change : RequestedFileChange) (component : String) :
    RequestedFileChange :=
  { change with component := component }

@[simp]
theorem resolvedKey_ownedBy (change : RequestedFileChange) (component : String) :
    (change.ownedBy component).resolvedKey = change.resolvedKey := rfl

def IsSame (change other : RequestedFileChange) : Prop :=
  change.path = other.path ∧
    change.expectedState = other.expectedState ∧
    change.expectedContent = other.expectedContent ∧
    change.dependsOn = other.dependsOn ∧
    change.ignoreErrors = other.ignoreErrors

instance (change other : RequestedFileChange) :
    Decidable (change.IsSame other) :=
  inferInstanceAs (Decidable (_ ∧ _ ∧ _ ∧ _ ∧ _))

/-- No change comes before one it depends on. -/
def DependenciesFirst (order : List RequestedFileChange) : Prop :=
  order.Pairwise fun earlier later =>
    later.resolvedKey ∉ earlier.dependsOn

instance (order : List RequestedFileChange) :
    Decidable (DependenciesFirst order) :=
  inferInstanceAs (Decidable (List.Pairwise _ _))

def unconditional (changes : List RequestedFileChange) :
    List RequestedFileChange :=
  changes.filter fun change => change.when = ""

/-- An order in which the changes may be applied: all the unconditional ones,
and those conditional ones that others ask for, dependencies first. -/
def OrderOf (changes order : List RequestedFileChange) : Prop :=
  (unconditional order).Perm (unconditional changes) ∧
    (∀ change ∈ order, change ∈ changes) ∧ DependenciesFirst order

instance (changes order : List RequestedFileChange) :
    Decidable (OrderOf changes order) :=
  inferInstanceAs (Decidable (_ ∧ _ ∧ _))

/-- Two different members of a list come in one of the two orders. -/
theorem rel_or_rel_of_pairwise {Element : Type*} {list : List Element}
    {before : Element → Element → Prop} (pairwise : list.Pairwise before)
    {one other : Element} (oneIn : one ∈ list) (otherIn : other ∈ list)
    (different : one ≠ other) : before one other ∨ before other one := by
  have symmetric : Std.Symm fun one other => before one other ∨ before other one :=
    ⟨fun _ _ => Or.symm⟩
  have either : list.Pairwise fun one other =>
      before one other ∨ before other one := pairwise.imp Or.inl
  exact either.forall oneIn otherIn different

/-- Distinct changes that each depend on those before them can be applied in one
order only. -/
theorem eq_of_perm_of_chained {order changes : List RequestedFileChange}
    (first : DependenciesFirst order) (distinct : changes.Nodup)
    (chained : changes.Pairwise fun earlier later =>
      earlier.resolvedKey ∈ later.dependsOn)
    (perm : order.Perm changes) : order = changes := by
  have apart : order.Pairwise fun earlier later => earlier ≠ later :=
    perm.nodup_iff.mpr distinct
  refine List.Perm.eq_of_pairwise ?_ ?_ chained perm
  · intro one other oneIn otherIn forth back
    by_contra different
    rcases rel_or_rel_of_pairwise first oneIn (perm.mem_iff.mpr otherIn)
      different with no | no
    · exact no back
    · exact no forth
  · refine (first.and apart).imp_of_mem ?_
    intro earlier later earlierIn laterIn ⟨notBefore, different⟩
    exact (rel_or_rel_of_pairwise chained (perm.mem_iff.mp earlierIn)
      (perm.mem_iff.mp laterIn) different).resolve_right notBefore

end RequestedFileChange

end UsbGadget

end JetKvm
