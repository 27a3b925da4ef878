import Mathlib.Data.Fin.Basic
import Mathlib.Data.List.FinRange
import Mathlib.Data.List.OfFn
import Mathlib.Data.List.Perm.Subperm
import Mathlib.Logic.Function.Basic
import Mathlib.Tactic.ByContra

/-!
# The gamepad slot table

Translation of `gamepad_slots.go`.  A slot stores the id of the session that
holds it, or the empty string when it is free.  Each method is one critical
section of the manager's mutex.  Where the source returns -1 for a missing
slot, the result is `none`.
-/

namespace JetKvm

namespace Gamepad

/-- `MaxGamepads` -/
def maxGamepads : Nat := 4

structure SlotManager where
  occupied : Fin maxGamepads → String := fun _ => ""

namespace SlotManager

/-- The first slot with the given holder: the scan `claim` and `slotFor` make. -/
def firstHeldBy (slots : SlotManager) (holder : String) :
    Option (Fin maxGamepads) :=
  (List.finRange maxGamepads).find? fun i => slots.occupied i = holder

def assign (slots : SlotManager) (slot : Fin maxGamepads) (holder : String) :
    SlotManager :=
  { occupied := Function.update slots.occupied slot holder }

def claim (slots : SlotManager) (sessionID : String) :
    Option (Fin maxGamepads) × SlotManager :=
  if sessionID = "" then (none, slots)
  else
    match slots.firstHeldBy sessionID with
    | some slot => (some slot, slots)
    | none =>
        match slots.firstHeldBy "" with
        | some slot => (some slot, slots.assign slot sessionID)
        | none => (none, slots)

def release (slots : SlotManager) (sessionID : String) : SlotManager :=
  if sessionID = "" then slots
  else
    { occupied := fun slot =>
        if slots.occupied slot = sessionID then "" else slots.occupied slot }

def slotFor (slots : SlotManager) (sessionID : String) :
    Option (Fin maxGamepads) :=
  slots.firstHeldBy sessionID

/-- `resolveGamepadSlot` up to the end of `slotFor`: the slot to report on, or
nothing when it goes on to claim one. -/
def lookupSlot (multiPlayerGamepad : Bool) (slots : SlotManager)
    (sessionID : String) (padIndex : UInt8) : Option Nat :=
  if multiPlayerGamepad then (slots.slotFor sessionID).map Fin.val
  else some padIndex.toNat

/-- The session with this id holds the slot. -/
def Holds (slots : SlotManager) (slot : Fin maxGamepads) (id : String) : Prop :=
  id ≠ "" ∧ slots.occupied slot = id

/-- The session with this id holds some slot. -/
def Held (slots : SlotManager) (id : String) : Prop :=
  ∃ slot, slots.Holds slot id

def Free (slots : SlotManager) (slot : Fin maxGamepads) : Prop :=
  slots.occupied slot = ""

/-- No session holds two slots and no slot is held by two sessions. -/
def Exclusive (slots : SlotManager) : Prop :=
  ∀ first second a b, slots.Holds first a → slots.Holds second b →
    (first = second ↔ a = b)

theorem exclusive_empty : Exclusive {} := by
  rintro _ _ a _ ⟨nonempty, isEmpty⟩
  exact absurd isEmpty.symm nonempty

theorem not_held_empty (id : String) : ¬ Held {} id := by
  rintro ⟨_, nonempty, isEmpty⟩
  exact nonempty isEmpty.symm

variable {slots : SlotManager} {id other : String}

theorem firstHeldBy_eq_none_iff {holder : String} :
    slots.firstHeldBy holder = none ↔ ∀ slot, slots.occupied slot ≠ holder := by
  simp [firstHeldBy]

theorem occupied_of_firstHeldBy {holder : String} {slot : Fin maxGamepads}
    (found : slots.firstHeldBy holder = some slot) :
    slots.occupied slot = holder := by
  simpa using List.find?_some found

/-- A claim leaves the table alone or assigns a free slot to a session that
holds none. -/
theorem claim_cases (slots : SlotManager) (id : String) :
    ((slots.claim id).2 = slots ∧
      (slots.Held id ∨ id = "" ∨ ∀ slot, ¬ slots.Free slot)) ∨
    ∃ slot, id ≠ "" ∧ slots.Free slot ∧ ¬ slots.Held id ∧
      slots.claim id = (some slot, slots.assign slot id) := by
  unfold claim
  by_cases isEmpty : id = ""
  · rw [if_pos isEmpty]
    exact .inl ⟨rfl, .inr (.inl isEmpty)⟩
  · rw [if_neg isEmpty]
    cases held : slots.firstHeldBy id with
    | some slot =>
        exact .inl ⟨rfl, .inl ⟨slot, isEmpty, occupied_of_firstHeldBy held⟩⟩
    | none =>
        have notHeld : ¬ slots.Held id := by
          rintro ⟨slot, -, holds⟩
          exact firstHeldBy_eq_none_iff.mp held slot holds
        cases free : slots.firstHeldBy "" with
        | none =>
            exact .inl ⟨rfl, .inr (.inr (firstHeldBy_eq_none_iff.mp free))⟩
        | some slot =>
            exact .inr ⟨slot, isEmpty, occupied_of_firstHeldBy free, notHeld, rfl⟩

theorem holds_assign {slot assigned : Fin maxGamepads} (nonempty : id ≠ "")
    (free : slots.Free assigned) :
    (slots.assign assigned id).Holds slot other ↔
      (slot = assigned ∧ other = id) ∨ slots.Holds slot other := by
  unfold Holds assign
  by_cases same : slot = assigned
  · subst same
    have free : slots.occupied slot = "" := free
    simp only [Function.update_self, free, true_and]
    constructor
    · rintro ⟨-, rfl⟩
      exact .inl rfl
    · rintro (rfl | ⟨otherNonempty, isEmpty⟩)
      · exact ⟨nonempty, rfl⟩
      · exact absurd isEmpty.symm otherNonempty
  · simp [Function.update_of_ne, same]

theorem holds_release {slot : Fin maxGamepads} :
    (slots.release id).Holds slot other ↔ other ≠ id ∧ slots.Holds slot other := by
  unfold Holds release
  by_cases isEmpty : id = ""
  · subst isEmpty
    simp
  · rw [if_neg isEmpty]
    dsimp only
    by_cases holder : slots.occupied slot = id
    · constructor
      · rintro ⟨otherNonempty, released⟩
        rw [if_pos holder] at released
        exact absurd released.symm otherNonempty
      · rintro ⟨different, -, same⟩
        exact absurd (same.symm.trans holder) different
    · rw [if_neg holder]
      constructor
      · rintro ⟨otherNonempty, same⟩
        exact ⟨fun equal => holder (same.trans equal), otherNonempty, same⟩
      · exact And.right

@[simp]
theorem held_release : (slots.release id).Held other ↔
    other ≠ id ∧ slots.Held other := by
  simp only [Held, holds_release]
  exact exists_and_left

theorem held_assign {assigned : Fin maxGamepads} (nonempty : id ≠ "")
    (free : slots.Free assigned) :
    (slots.assign assigned id).Held other ↔ other = id ∨ slots.Held other := by
  simp only [Held, holds_assign nonempty free]
  constructor
  · rintro ⟨slot, ⟨-, same⟩ | holds⟩
    · exact .inl same
    · exact .inr ⟨slot, holds⟩
  · rintro (same | ⟨slot, holds⟩)
    · exact ⟨assigned, .inl ⟨rfl, same⟩⟩
    · exact ⟨slot, .inr holds⟩

/-- After a claim the session holds a slot if it held one before or if one was
free; nothing changes for the others. -/
theorem held_claim : (slots.claim id).2.Held other ↔
    slots.Held other ∨ (other = id ∧ id ≠ "" ∧ ∃ slot, slots.Free slot) := by
  obtain ⟨same, reason⟩ | ⟨slot, nonempty, free, -, assigned⟩ :=
    claim_cases slots id
  · rw [same]
    constructor
    · exact .inl
    · rintro (held | ⟨rfl, nonempty, slot, free⟩)
      · exact held
      · rcases reason with held | isEmpty | noFree
        · exact held
        · exact absurd isEmpty nonempty
        · exact absurd free (noFree slot)
  · rw [assigned, held_assign nonempty free]
    constructor
    · rintro (same | held)
      · exact .inr ⟨same, nonempty, slot, free⟩
      · exact .inl held
    · rintro (held | ⟨same, -⟩)
      · exact .inr held
      · exact .inl same

theorem Exclusive.assign {assigned : Fin maxGamepads}
    (exclusive : slots.Exclusive) (nonempty : id ≠ "")
    (free : slots.Free assigned) (notHeld : ¬ slots.Held id) :
    (slots.assign assigned id).Exclusive := by
  have notAssigned : ∀ {slot holder}, slots.Holds slot holder →
      slot ≠ assigned ∧ holder ≠ id := by
    rintro slot holder holds
    constructor
    · rintro rfl
      exact holds.1 (holds.2.symm.trans free)
    · rintro rfl
      exact notHeld ⟨slot, holds⟩
  intro first second a b firstHolds secondHolds
  rw [holds_assign nonempty free] at firstHolds secondHolds
  rcases firstHolds with ⟨rfl, rfl⟩ | firstHolds
  · rcases secondHolds with ⟨rfl, rfl⟩ | secondHolds
    · exact iff_of_true rfl rfl
    · have other := notAssigned secondHolds
      exact iff_of_false other.1.symm other.2.symm
  · rcases secondHolds with ⟨rfl, rfl⟩ | secondHolds
    · exact iff_of_false (notAssigned firstHolds).1 (notAssigned firstHolds).2
    · exact exclusive first second a b firstHolds secondHolds

theorem Exclusive.claim (exclusive : slots.Exclusive) (id : String) :
    (slots.claim id).2.Exclusive := by
  obtain ⟨same, -⟩ | ⟨slot, nonempty, free, notHeld, assigned⟩ :=
    claim_cases slots id
  · rwa [same]
  · rw [assigned]
    exact exclusive.assign nonempty free notHeld

theorem Exclusive.release (exclusive : slots.Exclusive) (id : String) :
    (slots.release id).Exclusive := by
  intro first second a b firstHolds secondHolds
  exact exclusive first second a b (holds_release.mp firstHolds).2
    (holds_release.mp secondHolds).2

/-- A claim returns a slot when the session holds one or one is free. -/
theorem claim_returns_slot (nonempty : id ≠ "")
    (available : slots.Held id ∨ ∃ slot, slots.Free slot) :
    ∃ slot, (slots.claim id).1 = some slot ∧ (slots.claim id).2.Holds slot id := by
  unfold claim
  rw [if_neg nonempty]
  cases held : slots.firstHeldBy id with
  | some slot =>
      exact ⟨slot, rfl, nonempty, occupied_of_firstHeldBy held⟩
  | none =>
      cases free : slots.firstHeldBy "" with
      | some slot =>
          refine ⟨slot, rfl, ?_⟩
          rw [holds_assign nonempty (occupied_of_firstHeldBy free)]
          exact .inl ⟨rfl, rfl⟩
      | none =>
          rcases available with ⟨slot, -, holds⟩ | ⟨slot, isFree⟩
          · exact absurd holds (firstHeldBy_eq_none_iff.mp held slot)
          · exact absurd isFree (firstHeldBy_eq_none_iff.mp free slot)

end SlotManager

end Gamepad

end JetKvm
