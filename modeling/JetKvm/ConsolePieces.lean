import JetKvm.ConsoleLines

/-!
# Pieces of a text of the serial console

`splitAfterAnyEOL` cuts a text at its line endings, with the other newline byte
of a pair taken along, and `endsWithEOL` tells the pieces that were cut from the
rest of the text.
-/

namespace JetKvm

namespace Console

open CutLines

/-! ### Pieces that were cut -/

/-- The piece ends with a line ending, and contains no other one.  With more of
the text that follows it the line ending would be none. -/
def CutAt (mode : LineEndingMode) (piece rest : Bytes) : Prop :=
  ∃ line eol, piece = line ++ eol ∧ eol ∈ eols mode ∧
    (∀ other ∈ eols mode, ∀ front back, piece = front ++ other ++ back →
      line.length ≤ front.length) ∧
    ∀ longer ∈ eols mode, longer <+: eol ++ rest → longer.length ≤ eol.length

/-- The text contains no line ending. -/
def Uncut (mode : LineEndingMode) (text : Bytes) : Prop :=
  ∀ eol ∈ eols mode, ¬ eol <:+: text

/-- The pieces are the text, each but the last was cut at a line ending, and
`endsWithEOL` tells which were. -/
structure Partitions (mode : LineEndingMode) (text : Bytes)
    (pieces : List Bytes) : Prop where
  whole : pieces.flatten = text
  cut : ∀ piece rest, piece :: rest <:+ pieces →
    CutAt mode piece rest.flatten ∨ rest = [] ∧ Uncut mode piece
  ends : ∀ piece rest, piece :: rest <:+ pieces →
    (endsWithEOL mode piece = true ↔
      piece ≠ [] ∧ CutAt mode piece rest.flatten)

section Pieces

variable {mode : LineEndingMode} {piece rest text : Bytes}

theorem CutAt.ends (isCut : CutAt mode piece rest) :
    endsWithEOL mode piece = true := by
  obtain ⟨line, eol, rfl, isEOL, -⟩ := isCut
  exact endsWithEOL_append_of_ends line (endsWithEOL_of_mem isEOL)

theorem CutAt.ne_nil (isCut : CutAt mode piece rest) : piece ≠ [] := by
  rintro rfl
  cases isCut.ends

theorem Uncut.ends_eq_false (uncut : Uncut mode text) :
    endsWithEOL mode text = false := by
  rw [Bool.eq_false_iff]
  intro ends
  obtain ⟨eol, isEOL, within⟩ := (endsWithEOL_iff mode text).mp ends
  exact uncut eol isEOL within.isInfix

/-- Of a text that is not finished no part is. -/
theorem uncut_of_unfinished (unfinished : Unfinished (endsWithEOL mode) text) :
    Uncut mode text := by
  rintro eol isEOL ⟨front, back, rfl⟩
  have ends : endsWithEOL mode (front ++ eol) = true :=
    endsWithEOL_append_of_ends front (endsWithEOL_of_mem isEOL)
  have present : front ++ eol ≠ [] := by
    intro empty
    rw [empty] at ends
    cases ends
  rw [(unfinished_of_append unfinished).ends_eq_false present] at ends
  cases ends

theorem eol_ne_nil {eol : Bytes} (isEOL : eol ∈ eols mode) : eol ≠ [] :=
  List.length_pos_iff.mp (length_le_two isEOL).1

theorem eq_of_suffix_singleton {last : Bytes} {rest : List Bytes}
    (within : piece :: rest <:+ [last]) : piece = last ∧ rest = [] := by
  rcases List.suffix_cons_iff.mp within with whole | none
  · exact List.cons.inj whole
  · cases List.suffix_nil.mp none

/-! ### Modes with one line ending -/

/-- A line that is finished by its last byte was cut there. -/
theorem cutAt_of_cut_eq {sep : Bytes} (same : eols mode = [sep])
    (single : cut (endsWithEOL mode) [] piece = ⟨[piece], []⟩)
    (stops : endsWithEOL mode piece = true) (rest : Bytes) :
    CutAt mode piece rest := by
  obtain ⟨eol, isEOL, line, rfl⟩ := (endsWithEOL_iff mode piece).mp stops
  have only : ∀ other ∈ eols mode, other = eol := by
    rw [same] at isEOL ⊢
    intro other isOther
    rw [List.mem_singleton.mp isOther, List.mem_singleton.mp isEOL]
  refine ⟨line, eol, rfl, isEOL, ?_, ?_⟩
  · intro other isOther front back decomposed
    obtain rfl := only other isOther
    rw [decomposed] at single
    have ended : back = [] := by
      refine eq_nil_of_cut_eq single ?_ ?_
      · exact List.append_ne_nil_of_right_ne_nil _ (eol_ne_nil isOther)
      · exact endsWithEOL_append_of_ends front (endsWithEOL_of_mem isOther)
    have lengths := congrArg List.length decomposed
    rw [ended] at lengths
    simp only [List.length_append, List.length_nil] at lengths
    omega
  · intro longer isLonger _
    rw [only longer isLonger]

theorem cut_lines {sep : Bytes} (same : eols mode = [sep])
    {finished : List Bytes} {begun : Bytes}
    (ended : ∀ line ∈ finished,
      cut (endsWithEOL mode) [] line = ⟨[line], []⟩ ∧
        endsWithEOL mode line = true)
    (unfinished : Unfinished (endsWithEOL mode) begun) {rest : List Bytes}
    (within : piece :: rest <:+ finished ++ [begun]) :
    CutAt mode piece rest.flatten ∨ rest = [] ∧ Uncut mode piece := by
  induction finished with
  | nil =>
      obtain ⟨rfl, rfl⟩ := eq_of_suffix_singleton within
      exact .inr ⟨rfl, uncut_of_unfinished unfinished⟩
  | cons line finished ih =>
      obtain ⟨here, later⟩ := List.forall_mem_cons.mp ended
      rcases List.suffix_cons_iff.mp within with whole | within
      · obtain ⟨rfl, -⟩ := List.cons.inj whole
        exact .inl (cutAt_of_cut_eq same here.1 here.2 rest.flatten)
      · exact ih later within

theorem cut_splitAfter {sep : Bytes} (same : eols mode = [sep]) (text : Bytes)
    {rest : List Bytes} (within : piece :: rest <:+ splitAfter sep text) :
    CutAt mode piece rest.flatten ∨ rest = [] ∧ Uncut mode piece := by
  have start : Unfinished (endsWithEOL mode) [] := unfinished_nil
  unfold splitAfter at within
  rw [isSuffixOf_eq_endsWithEOL same] at within
  exact cut_lines same (start.cut_spec text).1 (start.cut_spec text).2 within

/-! ### Line endings as they are -/

/-- A part that no newline byte has finished has none. -/
theorem plain_of_unfinished {part : Bytes}
    (unfinished : Unfinished (endsWithEOL .asIs) part) :
    ∀ x ∈ part, Plain x := by
  intro x member
  obtain ⟨front, back, rfl⟩ := List.append_of_mem member
  have first : Unfinished (endsWithEOL .asIs) (front ++ [x]) := by
    rw [← List.singleton_append, ← List.append_assoc] at unfinished
    exact unfinished_of_append unfinished
  have goes := first.ends_eq_false (List.concat_ne_nil x front)
  rw [Bool.eq_false_iff, ne_eq, endsWithEOL_asIs_concat, not_or] at goes
  exact goes

/-- A line ending after plain bytes was cut there, if no other newline byte that
would make it a pair comes next. -/
theorem cutAt_of_plain {part eol : Bytes} (plain : ∀ x ∈ part, Plain x)
    (isEOL : eol ∈ eols .asIs)
    (longest : ∀ longer ∈ eols .asIs, longer <+: eol ++ rest →
      longer.length ≤ eol.length) : CutAt .asIs (part ++ eol) rest := by
  refine ⟨part, eol, rfl, isEOL, ?_, longest⟩
  intro other isOther front back decomposed
  by_contra inside
  obtain ⟨x, more, rfl⟩ := List.exists_cons_of_ne_nil (eol_ne_nil isOther)
  have member : x ∈ part := by
    have here := congrArg (·[front.length]?) decomposed
    simp only [List.append_assoc, List.cons_append] at here
    rw [List.getElem?_append_left (Nat.not_le.mp inside),
      List.getElem?_append_right (Nat.le_refl _), Nat.sub_self,
      List.getElem?_cons_zero] at here
    exact List.mem_of_getElem? here
  exact not_plain_of_mem_eols isOther (List.mem_cons_self ..) (plain x member)

theorem newline_mem_eols {b : UInt8} (newline : b = cr ∨ b = lf) :
    [b] ∈ eols .asIs := by
  rcases newline with rfl | rfl
  · decide
  · decide

/-- A line ending that goes on after the first newline byte is a pair. -/
theorem isPair_of_longer {b c : UInt8} {more longer : Bytes}
    (isLonger : longer ∈ eols .asIs) (fits : longer <+: b :: c :: more)
    (long : 1 < longer.length) : isPair b (c :: more) := by
  have exactly : longer.length = 2 :=
    Nat.le_antisymm (length_le_two isLonger).2 long
  have two : longer = [b, c] := by
    have taken := List.prefix_iff_eq_take.mp fits
    rwa [exactly] at taken
  subst two
  refine isPair_iff.mpr ?_
  simpa [eols] using isLonger

theorem unfinished_concat_of_plain {part : Bytes} {b : UInt8}
    (unfinished : Unfinished (endsWithEOL .asIs) part)
    (other : ¬ (b = cr ∨ b = lf)) :
    Unfinished (endsWithEOL .asIs) (part ++ [b]) := by
  refine unfinished.concat ?_
  rw [Bool.eq_false_iff, ne_eq, endsWithEOL_asIs_concat]
  exact other

theorem cut_splitAsIs {part text : Bytes}
    (unfinished : Unfinished (endsWithEOL .asIs) part) {rest : List Bytes}
    (within : piece :: rest <:+ splitAsIs part text) :
    CutAt .asIs piece rest.flatten ∨ rest = [] ∧ Uncut .asIs piece := by
  -- a part is finished by the first newline byte, and takes the other of a pair
  induction part, text using splitAsIs.induct with
  | case1 => cases List.suffix_nil.mp within
  | case2 part present =>
      rw [splitAsIs, if_neg present] at within
      obtain ⟨rfl, rfl⟩ := eq_of_suffix_singleton within
      exact .inr ⟨rfl, uncut_of_unfinished unfinished⟩
  | case3 part b newline =>
      rw [splitAsIs, if_pos newline] at within
      obtain ⟨rfl, rfl⟩ := eq_of_suffix_singleton within
      left
      refine cutAt_of_plain (plain_of_unfinished unfinished)
        (newline_mem_eols newline) fun longer _ within => ?_
      exact within.length_le
  | case4 part b other ih =>
      rw [splitAsIs, if_neg other] at within
      exact ih (unfinished_concat_of_plain unfinished other) within
  | case5 part b c more newline pair ih =>
      rw [splitAsIs, if_pos newline, if_pos pair] at within
      rcases List.suffix_cons_iff.mp within with whole | within
      · obtain ⟨rfl, rfl⟩ := List.cons.inj whole
        left
        refine cutAt_of_plain (plain_of_unfinished unfinished) ?_
          fun longer isLonger _ => (length_le_two isLonger).2
        rcases isPair_iff.mp pair with ⟨rfl, rfl⟩ | ⟨rfl, rfl⟩
        · decide
        · decide
      · exact ih unfinished_nil within
  | case6 part b c more newline single ih =>
      rw [splitAsIs, if_pos newline, if_neg single] at within
      rcases List.suffix_cons_iff.mp within with whole | within
      · obtain ⟨rfl, rfl⟩ := List.cons.inj whole
        left
        rw [flatten_splitAsIs, List.nil_append]
        refine cutAt_of_plain (plain_of_unfinished unfinished)
          (newline_mem_eols newline) fun longer isLonger longerFits => ?_
        by_contra long
        exact single (isPair_of_longer isLonger longerFits (Nat.not_le.mp long))
      · exact ih unfinished_nil within
  | case7 part b c more other ih =>
      rw [splitAsIs, if_neg other] at within
      exact ih (unfinished_concat_of_plain unfinished other) within

theorem cut_splitAfterAnyEOL {rest : List Bytes}
    (within : piece :: rest <:+ splitAfterAnyEOL mode text) :
    CutAt mode piece rest.flatten ∨ rest = [] ∧ Uncut mode piece := by
  unfold splitAfterAnyEOL at within
  split at within
  · cases List.suffix_nil.mp within
  · cases mode with
    | asIs => exact cut_splitAsIs unfinished_nil within
    | lf => exact cut_splitAfter rfl text within
    | cr => exact cut_splitAfter rfl text within
    | crlf => exact cut_splitAfter rfl text within
    | lfcr => exact cut_splitAfter rfl text within

end Pieces

theorem splitAfterAnyEOL_partitions (mode : LineEndingMode) (text : Bytes) :
    Partitions mode text (splitAfterAnyEOL mode text) where
  whole := flatten_splitAfterAnyEOL mode text
  cut _ _ within := cut_splitAfterAnyEOL within
  ends piece rest within := by
    constructor
    · intro ends
      rcases cut_splitAfterAnyEOL within with isCut | ⟨-, uncut⟩
      · exact ⟨isCut.ne_nil, isCut⟩
      · rw [uncut.ends_eq_false] at ends
        cases ends
    · exact fun ⟨_, isCut⟩ => isCut.ends

/-- A pair is one line ending, whichever of its bytes comes first. -/
example : splitAfterAnyEOL .asIs [97, cr, lf, cr, cr, 98] =
    [[97, cr, lf], [cr], [cr], [98]] := by decide

end Console

end JetKvm
