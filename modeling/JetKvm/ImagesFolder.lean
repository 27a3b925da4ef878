import JetKvm.GoFilepath
import Mathlib.Data.List.Infix

/-!
# The images folder

The names of the images that `usb_mass_storage.go` mounts and uploads.
-/

namespace JetKvm

namespace VirtualMedia

/-- A Go error: its text, and whether `errors.Is` finds `EBUSY` in it -/
structure Failure where
  message : String
  busy : Bool := false
  deriving DecidableEq, Repr

/-- `fmt.Errorf("context: %w", err)` -/
def Failure.wrap (context : String) (err : Failure) : Failure :=
  { err with message := context ++ ": " ++ err.message }

def imagesFolder : String := "/userdata/jetkvm/images"

def imagePath (filename : String) : String :=
  Filepath.join imagesFolder filename

def sanitizeFilename (filename : String) : Except Failure String :=
  let cleanPath := Filepath.clean filename
  if Filepath.isAbs cleanPath ∨ ['.', '.'] <:+: cleanPath.toList then
    .error { message := "invalid filename" }
  else
    let sanitized := Filepath.base cleanPath
    if sanitized = "." ∨ sanitized = "/" then
      .error { message := "invalid filename" }
    else .ok sanitized

open Filepath

theorem sanitizeFilename_eq_ok {filename name : String}
    (accepted : sanitizeFilename filename = .ok name) :
    IsElement name ∧ ¬ ['.', '.'] <:+: name.toList := by
  unfold sanitizeFilename at accepted
  dsimp only at accepted
  split at accepted
  · cases accepted
  rename_i plain
  obtain ⟨-, noDots⟩ := not_or.mp plain
  split at accepted
  · cases accepted
  rename_i entry
  obtain ⟨notSame, notRoot⟩ := not_or.mp entry
  cases accepted
  obtain ⟨nonempty, apart, inside⟩ :=
    ((base_spec _).resolve_left notSame).resolve_left notRoot
  have without : ¬ ['.', '.'] <:+: (base (clean filename)).toList :=
    fun dots => noDots (dots.trans inside)
  refine ⟨⟨nonempty, apart, notSame, fun parent => without ?_⟩, without⟩
  rw [parent]
  decide

/-- What was accepted is accepted again, as it is. -/
theorem sanitizeFilename_of_isElement {name : String} (element : IsElement name)
    (without : ¬ ['.', '.'] <:+: name.toList) :
    sanitizeFilename name = .ok name := by
  have notRoot : name ≠ "/" := fun root => element.apart (by simp [root])
  unfold sanitizeFilename
  dsimp only
  rw [element.clean_eq, element.isAbs_eq, element.base_eq,
    if_neg (by simpa using without),
    if_neg (by simpa using ⟨element.notSame, notRoot⟩)]

theorem imagePath_eq {name : String} (element : IsElement name) :
    imagePath name = imagesFolder ++ "/" ++ name := by
  let names := ["userdata", "jetkvm", "images", name]
  have path : imagesFolder ++ "/" ++ name = String.ofList
      ('/' :: ['/'].intercalate (names.map String.toList)) := by
    rw [← String.toList_inj]
    simp [names, imagesFolder, List.intercalate]
  have elements : ∀ entry ∈ names, IsElement entry := by
    have folder : ∀ entry ∈ ["userdata", "jetkvm", "images"],
        IsElement entry := by decide
    rw [show names = ["userdata", "jetkvm", "images"] ++ [name] from rfl]
    exact List.forall_mem_append.mpr ⟨folder, by simpa using element⟩
  rw [imagePath, join, if_neg (by decide), if_neg element.nonempty, path,
    clean_rooted elements (by simp [names])]

end VirtualMedia

end JetKvm
