import Mathlib.Data.List.TakeWhile
import Mathlib.Tactic.SplitIfs

/-!
# Go file paths

Lexical processing of slash-separated paths, as `path/filepath` does it.
-/

namespace JetKvm

namespace Filepath

def isAbs (path : String) : Bool :=
  path.toList.head? = some '/'

/-- One more element of a path, the last one first. -/
def push (rooted : Bool) (elements : List (List Char)) (element : List Char) :
    List (List Char) :=
  if element = [] ∨ element = ['.'] then elements
  else if element = ['.', '.'] then
    match elements with
    | [] => if rooted then [] else [element]
    | last :: rest =>
        if last = ['.', '.'] then element :: elements else rest
  else element :: elements

def clean (path : String) : String :=
  let rooted := isAbs path
  let elements := (path.toList.splitOn '/').foldl (push rooted) []
  let cleaned := ['/'].intercalate elements.reverse
  if rooted then String.ofList ('/' :: cleaned)
  else if cleaned = [] then "."
  else String.ofList cleaned

/-- `filepath.Join` of two elements -/
def join (first second : String) : String :=
  if first = "" then if second = "" then "" else clean second
  else if second = "" then clean first
  else clean (first ++ "/" ++ second)

def base (path : String) : String :=
  if path = "" then "."
  else
    match path.toList.reverse.dropWhile (· = '/') with
    | [] => "/"
    | trimmed => String.ofList (trimmed.takeWhile (· ≠ '/')).reverse

theorem isAbs_clean {path : String} (rooted : isAbs path = true) :
    isAbs (clean path) = true := by
  have cleaned : ∃ rest, clean path = String.ofList ('/' :: rest) := by
    rw [clean]
    simp only [rooted, if_true]
    exact ⟨_, rfl⟩
  obtain ⟨rest, cleaned⟩ := cleaned
  rw [cleaned, isAbs, String.toList_ofList]
  rfl

theorem isAbs_join {first : String} (rooted : isAbs first = true)
    (second : String) : isAbs (join first second) = true := by
  have nonempty : first ≠ "" := by
    rintro rfl
    cases rooted
  rw [join, if_neg nonempty]
  split_ifs
  · exact isAbs_clean rooted
  · apply isAbs_clean
    simp only [isAbs, decide_eq_true_eq] at rooted ⊢
    simp [rooted]

/-! ## Elements -/

/-- The name of an entry of a folder -/
structure IsElement (name : String) : Prop where
  nonempty : name ≠ ""
  apart : '/' ∉ name.toList
  notSame : name ≠ "."
  notParent : name ≠ ".."

instance : DecidablePred IsElement := fun name =>
  decidable_of_iff
    (name ≠ "" ∧ '/' ∉ name.toList ∧ name ≠ "." ∧ name ≠ "..")
    ⟨fun ⟨nonempty, apart, notSame, notParent⟩ =>
        ⟨nonempty, apart, notSame, notParent⟩,
      fun ⟨nonempty, apart, notSame, notParent⟩ =>
        ⟨nonempty, apart, notSame, notParent⟩⟩

theorem foldl_push {rooted : Bool} {names : List String}
    (elements : ∀ name ∈ names, IsElement name) (before : List (List Char)) :
    (names.map String.toList).foldl (push rooted) before =
      (names.map String.toList).reverse ++ before := by
  induction names generalizing before with
  | nil => rfl
  | cons name names ih =>
      obtain ⟨⟨nonempty, -, notSame, notParent⟩, others⟩ :=
        List.forall_mem_cons.mp elements
      have kept : push rooted before name.toList = name.toList :: before := by
        have stays : ¬ (name.toList = [] ∨ name.toList = ['.']) := by
          rintro (none | dot)
          · exact nonempty (String.toList_inj.mp none)
          · exact notSame (String.toList_inj.mp dot)
        have goesUp : name.toList ≠ ['.', '.'] := fun dots =>
          notParent (String.toList_inj.mp dots)
        unfold push
        rw [if_neg stays, if_neg goesUp]
      rw [List.map_cons, List.foldl_cons, kept, ih others, List.reverse_cons,
        List.append_assoc, List.singleton_append]

theorem splitOn_joined {names : List String}
    (elements : ∀ name ∈ names, IsElement name) (nonempty : names ≠ []) :
    (['/'].intercalate (names.map String.toList)).splitOn '/' =
      names.map String.toList := by
  refine List.splitOn_intercalate '/' (fun element present => ?_)
    (by simpa using nonempty)
  obtain ⟨name, here, rfl⟩ := List.mem_map.mp present
  exact (elements name here).apart

/-- A path from the root through elements is clean. -/
theorem clean_rooted {names : List String}
    (elements : ∀ name ∈ names, IsElement name) (nonempty : names ≠ []) :
    clean (String.ofList
        ('/' :: ['/'].intercalate (names.map String.toList))) =
      String.ofList ('/' :: ['/'].intercalate (names.map String.toList)) := by
  have rooted : isAbs (String.ofList
      ('/' :: ['/'].intercalate (names.map String.toList))) = true := by
    simp [isAbs]
  have split : ('/' :: ['/'].intercalate (names.map String.toList)).splitOn '/' =
      [] :: names.map String.toList := by
    rw [List.splitOn_cons_eq_if_modifyHead, if_pos (beq_self_eq_true _),
      splitOn_joined elements nonempty]
  rw [clean, rooted, String.toList_ofList, split, List.foldl_cons]
  have first : push true [] [] = [] := rfl
  simp only [first, foldl_push elements, List.append_nil, List.reverse_reverse,
    if_true]

theorem IsElement.isAbs_eq {name : String} (element : IsElement name) :
    isAbs name = false := by
  rw [isAbs, decide_eq_false_iff_not]
  exact fun first => element.apart (List.mem_of_mem_head? first)

theorem IsElement.clean_eq {name : String} (element : IsElement name) :
    clean name = name := by
  have split : name.toList.splitOn '/' = [name].map String.toList := by
    refine List.splitOnP_eq_singleton fun char present => ?_
    exact beq_false_of_ne fun same => element.apart (same ▸ present)
  have pushed := @foldl_push false [name] (by simpa using element) []
  have nonempty : name.toList ≠ [] := fun none =>
    element.nonempty (String.toList_inj.mp none)
  rw [clean, element.isAbs_eq, split, pushed]
  simp [nonempty]

theorem IsElement.base_eq {name : String} (element : IsElement name) :
    base name = name := by
  have other : ∀ char ∈ name.toList.reverse, decide (char ≠ '/') = true :=
    fun char present => decide_eq_true fun same =>
      element.apart (same ▸ List.mem_reverse.mp present)
  have kept : name.toList.reverse.dropWhile (· = '/') = name.toList.reverse := by
    cases reversed : name.toList.reverse with
    | nil => rfl
    | cons last front =>
        rw [reversed] at other
        have here := of_decide_eq_true (other last List.mem_cons_self)
        rw [List.dropWhile_cons, if_neg (by simpa using here)]
  rw [base, if_neg element.nonempty, kept]
  split
  · rename_i none
    rw [List.reverse_eq_nil_iff] at none
    exact absurd (String.toList_inj.mp none) element.nonempty
  · rw [List.takeWhile_eq_self_iff.mpr other, List.reverse_reverse,
      String.ofList_toList]

/-- The base of a path is an entry, or the path ends in no entry. -/
theorem base_spec (path : String) :
    base path = "." ∨ base path = "/" ∨
      base path ≠ "" ∧ '/' ∉ (base path).toList ∧
        (base path).toList <:+: path.toList := by
  rw [base]
  split
  · exact .inl rfl
  · split
    · exact .inr (.inl rfl)
    · rename_i trimmed present
      have inside : (path.toList.reverse.dropWhile (· = '/')).takeWhile
          (· ≠ '/') <:+: path.toList.reverse :=
        ((List.takeWhile_prefix _).isInfix).trans
          (List.dropWhile_suffix _).isInfix
      refine .inr (.inr ⟨fun none => ?_, ?_, ?_⟩)
      · have first := List.head?_dropWhile_not (· = '/') path.toList.reverse
        obtain ⟨last, front, here⟩ := List.exists_cons_of_ne_nil present
        rw [here, List.head?_cons] at first
        have kept : last ≠ '/' := of_decide_eq_false first
        rw [here, List.takeWhile_cons, if_pos (decide_eq_true kept)] at none
        simpa using congrArg String.toList none
      · rw [String.toList_ofList, List.mem_reverse]
        exact fun slash => absurd (List.mem_takeWhile_imp slash) (by simp)
      · rw [String.toList_ofList, ← List.reverse_infix, List.reverse_reverse]
        exact inside

example : clean "images//./a/../b.iso" = "images/b.iso" := by decide

example : base "images/b.iso" = "b.iso" := by decide

end Filepath

end JetKvm
