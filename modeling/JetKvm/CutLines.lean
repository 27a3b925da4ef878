import Mathlib.Data.List.Infix

/-!
# Texts cut into lines

A text is read from left to right, and a line is finished where what was read
of it passes a test.  A text may be read in parts, and what a line had before a
part may not matter to where the part is cut.
-/

namespace JetKvm

namespace CutLines

variable {α β : Type*}

/-- The lines that are finished, and what was read of the next one. -/
structure Cut (α : Type*) where
  finished : List (List α)
  begun : List α

namespace Cut

def lines (cut : Cut α) : List (List α) := cut.finished ++ [cut.begun]

/-- What the first line has in front of it -/
def after (front : List α) : Cut α → Cut α
  | ⟨[], begun⟩ => ⟨[], front ++ begun⟩
  | ⟨line :: finished, begun⟩ => ⟨(front ++ line) :: finished, begun⟩

def map (f : α → β) (cut : Cut α) : Cut β :=
  ⟨cut.finished.map (List.map f), cut.begun.map f⟩

theorem lines_map (f : α → β) (cut : Cut α) :
    (cut.map f).lines = cut.lines.map (List.map f) := by
  unfold lines
  rw [List.map_append]
  rfl

theorem tail_lines_after (front : List α) (cut : Cut α) :
    (cut.after front).lines.tail = cut.lines.tail := by
  obtain ⟨_ | ⟨line, finished⟩, begun⟩ := cut
  · rfl
  · rfl

end Cut

/-- The text is read on after what was begun. -/
def cut (ends : List α → Bool) : (begun : List α) → List α → Cut α
  | begun, [] => ⟨[], begun⟩
  | begun, a :: text =>
      if ends (begun ++ [a]) then
        ⟨(begun ++ [a]) :: (cut ends [] text).finished,
          (cut ends [] text).begun⟩
      else cut ends (begun ++ [a]) text

variable {ends : List α → Bool} {begun text : List α}

theorem cut_append (begun first second : List α) :
    cut ends begun (first ++ second) =
      ⟨(cut ends begun first).finished ++
          (cut ends (cut ends begun first).begun second).finished,
        (cut ends (cut ends begun first).begun second).begun⟩ := by
  induction first generalizing begun with
  | nil => rfl
  | cons a first ih =>
      rw [List.cons_append, cut, cut]
      split
      · rw [ih]
        rfl
      · exact ih (begun ++ [a])

/-- A test of the image of a line cuts the image of the text. -/
theorem cut_map (f : α → β) {ends : List β → Bool} (begun text : List α) :
    (cut (fun line => ends (line.map f)) begun text).map f =
      cut ends (begun.map f) (text.map f) := by
  induction text generalizing begun with
  | nil => rfl
  | cons a text ih =>
      have image : (begun ++ [a]).map f = begun.map f ++ [f a] :=
        List.map_append
      rw [cut, List.map_cons, cut, ← image]
      split
      · have later := ih []
        rw [List.map_nil] at later
        rw [← later]
        rfl
      · exact ih (begun ++ [a])

/-- What was begun only shifts the cut of a text on which the test gives the
same with it and without it. -/
theorem cut_after {front begun text : List α}
    (same : ∀ read, read <+: begun ++ text → begun.length < read.length →
      ends (front ++ read) = ends read) :
    cut ends (front ++ begun) text = (cut ends begun text).after front := by
  induction text generalizing begun with
  | nil => rfl
  | cons a text ih =>
      have here := same (begun ++ [a])
        (by rw [List.prefix_append_right_inj]
            exact ⟨text, rfl⟩)
        (by simp)
      rw [cut, cut, List.append_assoc, here]
      split
      · rfl
      · refine ih fun read within longer => same read ?_ ?_
        · rwa [List.append_assoc] at within
        · rw [List.length_append] at longer
          omega

theorem flatten_cut (begun text : List α) :
    (cut ends begun text).finished.flatten ++ (cut ends begun text).begun =
      begun ++ text := by
  induction text generalizing begun with
  | nil => rw [List.append_nil]; rfl
  | cons a text ih =>
      rw [cut]
      split
      · rw [List.flatten_cons, List.append_assoc, ih, List.nil_append,
          List.append_assoc, List.singleton_append]
      · rw [ih, List.append_assoc, List.singleton_append]

/-- The first line has what was begun in front of it, and the text is what
follows. -/
theorem exists_lines_eq_cons (begun text : List α) :
    ∃ more others, (cut ends begun text).lines = (begun ++ more) :: others ∧
      more ++ others.flatten = text := by
  induction text generalizing begun with
  | nil => exact ⟨[], [], by rw [List.append_nil]; rfl, rfl⟩
  | cons a text ih =>
      rw [cut]
      split
      · refine ⟨[a], (cut ends [] text).lines, rfl, ?_⟩
        unfold Cut.lines
        rw [List.flatten_append, List.flatten_singleton, flatten_cut]
        rfl
      · obtain ⟨more, others, same, whole⟩ := ih (begun ++ [a])
        refine ⟨a :: more, others, ?_, congrArg (List.cons a) whole⟩
        rw [same, List.append_assoc, List.singleton_append]

/-- What was read of a line does not finish it. -/
def Unfinished (ends : List α → Bool) (begun : List α) : Prop :=
  cut ends [] begun = ⟨[], begun⟩

theorem unfinished_nil : Unfinished ends [] := rfl

theorem Unfinished.concat (unfinished : Unfinished ends begun) {a : α}
    (goes : ends (begun ++ [a]) = false) : Unfinished ends (begun ++ [a]) := by
  unfold Unfinished at unfinished ⊢
  rw [cut_append, unfinished, cut, if_neg (by simp [goes])]
  rfl

theorem Unfinished.cut_goesOn (unfinished : Unfinished ends begun)
    (text : List α) : cut ends [] (begun ++ text) = cut ends begun text := by
  rw [cut_append, show cut ends [] begun = ⟨[], begun⟩ from unfinished]
  rfl

theorem Unfinished.cut_concat (unfinished : Unfinished ends begun) {a : α}
    (stops : ends (begun ++ [a]) = true) :
    cut ends [] (begun ++ [a]) = ⟨[begun ++ [a]], []⟩ := by
  unfold Unfinished at unfinished
  rw [cut_append, unfinished, cut, if_pos stops]
  rfl

theorem Unfinished.ends_eq_false (unfinished : Unfinished ends begun)
    (present : begun ≠ []) : ends begun = false := by
  obtain ⟨front, a, rfl⟩ := (List.eq_nil_or_concat' begun).resolve_left present
  unfold Unfinished at unfinished
  rw [cut_append] at unfinished
  obtain ⟨none, last⟩ := List.append_eq_nil_iff.mp
    (congrArg Cut.finished unfinished)
  have whole := @flatten_cut α ends [] front
  rw [none, List.flatten_nil, List.nil_append, List.nil_append] at whole
  rw [whole, cut] at last
  cases stops : ends (front ++ [a]) with
  | false => rfl
  | true =>
      rw [if_pos stops] at last
      cases last

theorem unfinished_of_finished_eq_nil
    (none : (cut ends [] begun).finished = []) : Unfinished ends begun := by
  have whole := @flatten_cut α ends [] begun
  rw [none, List.flatten_nil, List.nil_append, List.nil_append] at whole
  unfold Unfinished
  generalize cut ends [] begun = lines at none whole ⊢
  obtain ⟨finished, rest⟩ := lines
  rw [show finished = [] from none, show rest = begun from whole]

theorem unfinished_of_append {front back : List α}
    (unfinished : Unfinished ends (front ++ back)) : Unfinished ends front := by
  unfold Unfinished at unfinished
  rw [cut_append] at unfinished
  exact unfinished_of_finished_eq_nil
    (List.append_eq_nil_iff.mp (congrArg Cut.finished unfinished)).1

/-- Nothing before the end of a line finishes it. -/
theorem eq_nil_of_cut_eq {front back : List α}
    (single : cut ends [] (front ++ back) = ⟨[front ++ back], []⟩)
    (present : front ≠ []) (stops : ends front = true) : back = [] := by
  have whole := @flatten_cut α ends [] front
  rw [cut_append] at single
  rcases List.append_eq_singleton_iff.mp (congrArg Cut.finished single) with
    ⟨none, -⟩ | ⟨first, -⟩
  · rw [(unfinished_of_finished_eq_nil none).ends_eq_false present] at stops
    cases stops
  · rw [first, List.flatten_singleton, List.append_assoc, List.nil_append,
      List.append_right_eq_self] at whole
    exact (List.append_eq_nil_iff.mp whole).1

/-- Each line is cut out of the text as it would be by itself. -/
theorem Unfinished.cut_spec (unfinished : Unfinished ends begun)
    (text : List α) :
    (∀ line ∈ (cut ends begun text).finished,
        cut ends [] line = ⟨[line], []⟩ ∧ ends line = true) ∧
      Unfinished ends (cut ends begun text).begun := by
  induction text generalizing begun with
  | nil => exact ⟨List.forall_mem_nil _, unfinished⟩
  | cons a text ih =>
      rw [cut]
      split
      · rename_i stops
        obtain ⟨whole, rest⟩ := ih unfinished_nil
        refine ⟨List.forall_mem_cons.mpr ⟨?_, whole⟩, rest⟩
        exact ⟨unfinished.cut_concat stops, stops⟩
      · rename_i goes
        exact ih (unfinished.concat (Bool.not_eq_true _ ▸ goes))

end CutLines

end JetKvm
