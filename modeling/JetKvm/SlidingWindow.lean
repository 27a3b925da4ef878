import Mathlib.Data.List.Basic
import Mathlib.Tactic.Common

/-!
# Events in a sliding window

Events are listed by their times, the latest in front.  The window that ends
at a time `now` has a fixed width and contains `now` but not its other end.
-/

namespace JetKvm

namespace SlidingWindow

/-- The events in the window of the given width that ends at `now`. -/
def recent (width now : Nat) (times : List Nat) : List Nat :=
  times.filter fun time => time ≤ now ∧ now < time + width

/-- No window holds more than `limit` events. -/
def AtMost (limit width : Nat) (times : List Nat) : Prop :=
  ∀ now, (recent width now times).length ≤ limit

variable {limit width now later time : Nat} {times others : List Nat}

@[simp]
theorem mem_recent :
    time ∈ recent width now times ↔
      time ∈ times ∧ time ≤ now ∧ now < time + width := by
  simp [recent]

@[simp]
theorem recent_nil : recent width now [] = [] :=
  rfl

theorem recent_cons_self (positive : 0 < width) :
    recent width now (now :: times) = now :: recent width now times :=
  List.filter_cons_of_pos (by simp [positive])

theorem length_recent_le : (recent width now times).length ≤ times.length :=
  List.length_filter_le _ times

/-- A set of events that are all too old has none in the window. -/
theorem recent_eq_nil_of_old (old : ∀ time ∈ times, time + width ≤ now) :
    recent width now times = [] := by
  rw [List.eq_nil_iff_forall_not_mem]
  intro time isRecent
  obtain ⟨listed, -, inside⟩ := mem_recent.mp isRecent
  exact absurd inside (Nat.not_lt.mpr (old time listed))

/-- An event that falls out of the window does not come back into it. -/
theorem length_recent_mono (past : ∀ time ∈ times, time ≤ now)
    (ordered : now ≤ later) :
    (recent width later times).length ≤ (recent width now times).length := by
  induction times with
  | nil => exact Nat.le_refl _
  | cons time times ih =>
      have notAfter := past time (.head _)
      have shrinks := ih fun other listed => past other (.tail _ listed)
      by_cases inside : later < time + width
      · have wasInside : time ≤ now ∧ now < time + width := by omega
        have isInside : time ≤ later ∧ later < time + width := by omega
        simp only [recent] at shrinks ⊢
        rw [List.filter_cons_of_pos (by simpa using isInside),
          List.filter_cons_of_pos (by simpa using wasInside),
          List.length_cons, List.length_cons]
        omega
      · have isOutside : ¬ (time ≤ later ∧ later < time + width) := by omega
        have grows : (recent width now times).length ≤
            (recent width now (time :: times)).length :=
          ((List.sublist_cons_self time times).filter _).length_le
        simp only [recent] at shrinks grows ⊢
        rw [List.filter_cons_of_neg (by simpa using isOutside)]
        exact Nat.le_trans shrinks grows

theorem atMost_nil : AtMost limit width [] :=
  fun _ => Nat.zero_le _

/-- An event added at a time no earlier than the others keeps the bound
exactly when the window that ends with it has room. -/
theorem atMost_cons_iff (positive : 0 < width)
    (past : ∀ time ∈ times, time ≤ now) (bounded : AtMost limit width times) :
    AtMost limit width (now :: times) ↔
      (recent width now times).length < limit := by
  constructor
  · intro extended
    have full := extended now
    rw [recent_cons_self positive, List.length_cons] at full
    exact full
  · intro room later
    by_cases inside : now ≤ later ∧ later < now + width
    · have shrinks := @length_recent_mono width _ _ _ past inside.1
      simp only [recent] at shrinks room ⊢
      rw [List.filter_cons_of_pos (by simpa using inside), List.length_cons]
      omega
    · have same : recent width later (now :: times) = recent width later times :=
        List.filter_cons_of_neg (by simpa using inside)
      rw [same]
      exact bounded later

end SlidingWindow

end JetKvm
