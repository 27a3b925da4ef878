import JetKvm.ConsoleNormalizer

/-!
# Lines of the serial console

Where lines of the console end: what was before a text hardly matters, the parts
that RX data is split into are lines, and a line ending straddles two texts only
when tabs are rendered with parts of one.
-/

namespace JetKvm

namespace Console

open CutLines

/-! ### Ends of lines -/

/-- The byte is none of a line ending. -/
def Plain (x : UInt8) : Prop := x ≠ cr ∧ x ≠ lf

instance (x : UInt8) : Decidable (Plain x) := inferInstanceAs (Decidable (_ ∧ _))

theorem plain_of_all {text : Bytes} (all : (text.all fun x => Plain x) = true) :
    ∀ x ∈ text, Plain x :=
  fun x member => of_decide_eq_true (List.all_eq_true.mp all x member)

section Ends

variable {mode : LineEndingMode} {text : Bytes}

theorem endsWithEOL_iff (mode : LineEndingMode) (text : Bytes) :
    endsWithEOL mode text = true ↔ ∃ eol ∈ eols mode, eol <:+ text := by
  unfold endsWithEOL
  split
  · subst text
    cases mode <;> simp [eols]
  · simp

theorem length_le_two {eol : Bytes} (member : eol ∈ eols mode) :
    0 < eol.length ∧ eol.length ≤ 2 := by
  cases mode <;> simp [eols] at member <;> aesop

theorem endsWithEOL_append_of_ends (front : Bytes)
    (ends : endsWithEOL mode text = true) :
    endsWithEOL mode (front ++ text) = true := by
  rw [endsWithEOL_iff] at ends ⊢
  obtain ⟨eol, member, within⟩ := ends
  exact ⟨eol, member, within.trans (List.suffix_append _ _)⟩

/-- The last two bytes decide. -/
theorem endsWithEOL_append (front : Bytes) (long : 2 ≤ text.length) :
    endsWithEOL mode (front ++ text) = endsWithEOL mode text := by
  rw [Bool.eq_iff_iff]
  refine ⟨fun ends => ?_, endsWithEOL_append_of_ends front⟩
  rw [endsWithEOL_iff] at ends ⊢
  obtain ⟨eol, member, within⟩ := ends
  exact ⟨eol, member, List.suffix_of_suffix_length_le within
    (List.suffix_append _ _) ((length_le_two member).2.trans long)⟩

theorem endsWithEOL_singleton_iff (d : UInt8) :
    endsWithEOL mode [d] = true ↔ [d] ∈ eols mode := by
  rw [endsWithEOL_iff]
  constructor
  · rintro ⟨eol, member, within⟩
    rcases List.suffix_cons_iff.mp within with rfl | within
    · exact member
    · have positive := (length_le_two member).1
      rw [List.suffix_nil.mp within] at positive
      cases positive
  · intro member
    exact ⟨[d], member, List.suffix_refl _⟩

/-- A byte finishes a line with the byte before it or by itself. -/
theorem endsWithEOL_concat_concat_iff (front : Bytes) (c d : UInt8) :
    endsWithEOL mode (front ++ [c] ++ [d]) = true ↔
      [c, d] ∈ eols mode ∨ [d] ∈ eols mode := by
  rw [List.append_assoc, endsWithEOL_append front (by simp), endsWithEOL_iff,
    ← endsWithEOL_singleton_iff, endsWithEOL_iff]
  constructor
  · rintro ⟨eol, member, within⟩
    rcases List.suffix_cons_iff.mp within with rfl | within
    · exact .inl member
    · exact .inr ⟨eol, member, within⟩
  · rintro (pair | ⟨eol, member, within⟩)
    · exact ⟨_, pair, List.suffix_refl _⟩
    · exact ⟨eol, member, within.trans (List.suffix_cons _ _)⟩

theorem exists_last_of_ends {front : Bytes} {c : UInt8}
    (ends : endsWithEOL mode (front ++ [c]) = true) :
    ∃ eol ∈ eols mode, eol.getLast? = some c := by
  obtain ⟨eol, member, start, same⟩ := (endsWithEOL_iff _ _).mp ends
  refine ⟨eol, member, ?_⟩
  have last := congrArg List.getLast? same
  rwa [List.getLast?_concat, List.getLast?_append_of_ne_nil] at last
  exact List.length_pos_iff.mp (length_le_two member).1

/-- No line ending of two bytes begins with the end of one. -/
theorem single_of_pair {c d : UInt8}
    (last : ∃ eol ∈ eols mode, eol.getLast? = some c)
    (pair : [c, d] ∈ eols mode) : [d] ∈ eols mode := by
  obtain ⟨eol, member, same⟩ := last
  cases mode with
  | asIs =>
      simp only [eols, List.mem_cons, List.cons.injEq] at pair ⊢
      simp at pair
      rcases pair with ⟨-, rfl⟩ | ⟨-, rfl⟩
      · simp
      · simp
  | lf => simp [eols] at pair
  | cr => simp [eols] at pair
  | crlf =>
      obtain ⟨rfl, rfl⟩ : c = cr ∧ d = lf := by simpa [eols] using pair
      obtain rfl := List.mem_singleton.mp member
      cases same
  | lfcr =>
      obtain ⟨rfl, rfl⟩ : c = lf ∧ d = cr := by simpa [eols] using pair
      obtain rfl := List.mem_singleton.mp member
      cases same

/-- What was before a text matters only where its one byte is the second of a
line ending. -/
theorem endsWithEOL_append_of_apart {front : Bytes} (present : text ≠ [])
    (apart : ∀ c d, front.getLast? = some c → text = [d] →
      [c, d] ∈ eols mode → [d] ∈ eols mode) :
    endsWithEOL mode (front ++ text) = endsWithEOL mode text := by
  match text with
  | [] => exact absurd rfl present
  | a :: b :: rest => exact endsWithEOL_append front (by simp)
  | [d] =>
      rcases List.eq_nil_or_concat' front with rfl | ⟨start, c, rfl⟩
      · rfl
      · have byItself := apart c d (List.getLast?_concat ..) rfl
        rw [Bool.eq_iff_iff, endsWithEOL_concat_concat_iff,
          endsWithEOL_singleton_iff]
        exact or_iff_right_of_imp byItself

/-- What follows a finished line is not helped by it. -/
theorem endsWithEOL_append_of_front {front : Bytes}
    (ends : endsWithEOL mode front = true) (present : text ≠ []) :
    endsWithEOL mode (front ++ text) = endsWithEOL mode text := by
  refine endsWithEOL_append_of_apart present fun c d last _ pair => ?_
  obtain ⟨start, rfl⟩ := List.getLast?_eq_some_iff.mp last
  exact single_of_pair (exists_last_of_ends ends) pair

theorem not_plain_of_mem_eols {eol : Bytes} {x : UInt8} (isEOL : eol ∈ eols mode)
    (member : x ∈ eol) : ¬ Plain x := by
  have table : ((eols mode).all fun eol => eol.all fun x => ¬ Plain x) = true := by
    cases mode <;> decide
  have bytes := List.all_eq_true.mp (List.all_eq_true.mp table eol isEOL) x member
  exact of_decide_eq_true bytes

/-- A line that goes on with a plain byte is not finished by it. -/
theorem endsWithEOL_concat_of_plain (front : Bytes) {d : UInt8}
    (plain : Plain d) : endsWithEOL mode (front ++ [d]) = false := by
  rw [Bool.eq_false_iff]
  intro ends
  obtain ⟨eol, member, last⟩ := exists_last_of_ends ends
  exact not_plain_of_mem_eols member (List.mem_of_getLast? last) plain

/-- Plain bytes have no part in a line ending. -/
theorem endsWithEOL_append_of_plain {front : Bytes}
    (plain : ∀ x ∈ front, Plain x) (text : Bytes) :
    endsWithEOL mode (front ++ text) = endsWithEOL mode text := by
  rcases eq_or_ne text [] with rfl | present
  · rw [List.append_nil]
    rcases List.eq_nil_or_concat' front with rfl | ⟨start, c, rfl⟩
    · rfl
    · have last := plain c (List.mem_append_right _ (List.mem_singleton_self c))
      exact endsWithEOL_concat_of_plain start last
  · refine endsWithEOL_append_of_apart present fun c d last _ pair => ?_
    exact absurd (plain c (List.mem_of_getLast? last))
      (not_plain_of_mem_eols pair (List.mem_cons_self ..))

theorem unfinished_of_plain {front : Bytes} (plain : ∀ x ∈ front, Plain x) :
    Unfinished (endsWithEOL mode) front := by
  induction front using List.reverseRecOn with
  | nil => exact unfinished_nil
  | append_singleton front c ih =>
      obtain ⟨before, last⟩ := List.forall_mem_append.mp plain
      exact (ih before).concat
        (endsWithEOL_concat_of_plain front (last c (List.mem_singleton_self c)))

theorem endsWithEOL_of_mem {eol : Bytes} (member : eol ∈ eols mode) :
    endsWithEOL mode eol = true :=
  (endsWithEOL_iff _ _).mpr ⟨eol, member, List.suffix_refl _⟩

end Ends

/-! ### Texts of one line -/

/-- At most the first line of the text has more than its end. -/
def OneLine (mode : LineEndingMode) (text : Bytes) : Prop :=
  ∀ line ∈ (cut (endsWithEOL mode) [] text).lines.tail,
    line = [] ∨ line ∈ eols mode

instance (mode : LineEndingMode) (text : Bytes) :
    Decidable (OneLine mode text) :=
  inferInstanceAs (Decidable (∀ line ∈ _, _))

section OneLine

variable {mode : LineEndingMode} {text : Bytes}

theorem endsWithEOL_flatten_finished (text : Bytes)
    (some : (cut (endsWithEOL mode) [] text).finished ≠ []) :
    endsWithEOL mode (cut (endsWithEOL mode) [] text).finished.flatten =
      true := by
  have start : Unfinished (endsWithEOL mode) [] := unfinished_nil
  obtain ⟨ended, -⟩ := start.cut_spec text
  obtain ⟨front, last, same⟩ := (List.eq_nil_or_concat' _).resolve_left some
  rw [same] at ended ⊢
  rw [List.flatten_append, List.flatten_singleton]
  exact endsWithEOL_append_of_ends _
    (ended last (List.mem_append_right _ (List.mem_singleton_self _))).2

/-- A text ends with a line ending where it is cut after all of it. -/
theorem endsWithEOL_iff_begun_eq_nil (present : text ≠ []) :
    endsWithEOL mode text = true ↔
      (cut (endsWithEOL mode) [] text).begun = [] := by
  have whole := @flatten_cut _ (endsWithEOL mode) [] text
  have start : Unfinished (endsWithEOL mode) [] := unfinished_nil
  have unfinished := (start.cut_spec text).2
  have finished := @endsWithEOL_flatten_finished mode text
  generalize cut (endsWithEOL mode) [] text = lines at whole unfinished finished ⊢
  obtain ⟨lines, begun⟩ := lines
  rw [List.nil_append] at whole
  subst text
  rcases eq_or_ne begun [] with rfl | rest
  · rw [List.append_nil] at present ⊢
    refine iff_of_true (finished ?_) rfl
    rintro rfl
    exact present rfl
  · refine iff_of_false ?_ rest
    have goes := unfinished.ends_eq_false rest
    rcases eq_or_ne lines [] with rfl | some
    · rw [List.flatten_nil, List.nil_append, goes]
      decide
    · rw [endsWithEOL_append_of_front (finished some) rest, goes]
      decide

theorem begun_eq_nil_of_ends (ends : endsWithEOL mode text = true) :
    (cut (endsWithEOL mode) [] text).begun = [] := by
  refine (endsWithEOL_iff_begun_eq_nil ?_).mp ends
  rintro rfl
  cases ends

theorem OneLine.cut_eq (one : OneLine mode text) :
    (endsWithEOL mode text = false ∧
        cut (endsWithEOL mode) [] text = ⟨[], text⟩) ∨
      endsWithEOL mode text = true ∧ ∃ first blanks,
        cut (endsWithEOL mode) [] text = ⟨first :: blanks, []⟩ ∧
          ∀ blank ∈ blanks, blank ∈ eols mode := by
  have start : Unfinished (endsWithEOL mode) [] := unfinished_nil
  obtain ⟨ended, unfinished⟩ := start.cut_spec text
  have whole := @flatten_cut _ (endsWithEOL mode) [] text
  have begunEnds := @endsWithEOL_iff_begun_eq_nil mode text
  unfold OneLine Cut.lines at one
  generalize cut (endsWithEOL mode) [] text = lines at *
  obtain ⟨finished, begun⟩ := lines
  cases finished with
  | nil =>
      obtain rfl : begun = text := whole
      refine .inl ⟨?_, rfl⟩
      rcases eq_or_ne begun [] with rfl | present
      · rfl
      · exact unfinished.ends_eq_false present
  | cons first blanks =>
      obtain ⟨blank, last⟩ := List.forall_mem_append.mp one
      have none : begun = [] := by
        by_contra present
        have isEOL := (last begun (List.mem_singleton_self _)).resolve_left
          present
        have goes := unfinished.ends_eq_false present
        rw [endsWithEOL_of_mem isEOL] at goes
        cases goes
      obtain rfl := none
      have firstEnds := (ended first (List.mem_cons_self ..)).2
      refine .inr ⟨(begunEnds ?_).mpr rfl, first, blanks, rfl,
        fun line member => ?_⟩
      · rintro rfl
        have empty := (List.append_eq_nil_iff.mp whole).1
        rw [List.flatten_cons, List.append_eq_nil_iff] at empty
        rw [empty.1] at firstEnds
        cases firstEnds
      · refine (blank line member).resolve_left ?_
        rintro rfl
        cases (ended [] (List.mem_cons_of_mem _ member)).2

theorem oneLine_of_cut_eq (whole : cut (endsWithEOL mode) [] text =
      ⟨[text], []⟩) : OneLine mode text := by
  unfold OneLine
  rw [whole]
  exact List.forall_mem_singleton.mpr (.inl rfl)

theorem oneLine_of_unfinished (unfinished : Unfinished (endsWithEOL mode) text) :
    OneLine mode text := by
  unfold OneLine
  rw [show cut (endsWithEOL mode) [] text = ⟨[], text⟩ from unfinished]
  exact List.forall_mem_nil _

/-- A label in front of a text leaves its lines as they are. -/
theorem oneLine_append_of_plain {front : Bytes} (plain : ∀ x ∈ front, Plain x) :
    OneLine mode (front ++ text) ↔ OneLine mode text := by
  have unfinished : Unfinished (endsWithEOL mode) front :=
    unfinished_of_plain plain
  have shifted := @cut_after UInt8 (endsWithEOL mode) front [] text
    fun read _ _ => endsWithEOL_append_of_plain plain read
  rw [List.append_nil] at shifted
  unfold OneLine
  rw [unfinished.cut_goesOn, shifted, Cut.tail_lines_after]

end OneLine

/-! ### The parts of RX data -/

/-- Each part is a line, and only the last one with anything in it may be
unfinished. -/
def Splits (mode : LineEndingMode) : List Bytes → Prop
  | [] => True
  | part :: parts =>
      OneLine mode part ∧ (endsWithEOL mode part = true ∨ parts.flatten = []) ∧
        Splits mode parts

section Splits

variable {mode : LineEndingMode}

theorem Splits.head_ne_nil {part : Bytes} {parts : List Bytes}
    (splits : Splits mode (part :: parts)) (present : (part :: parts).flatten ≠ []) :
    part ≠ [] := by
  rintro rfl
  obtain ⟨-, ends | empty, -⟩ := splits
  · cases ends
  · exact present empty

theorem splits_singleton {part : Bytes}
    (unfinished : Unfinished (endsWithEOL mode) part) : Splits mode [part] :=
  ⟨oneLine_of_unfinished unfinished, .inr rfl, trivial⟩

theorem splits_lines {finished : List Bytes} {begun : Bytes}
    (ended : ∀ line ∈ finished,
      cut (endsWithEOL mode) [] line = ⟨[line], []⟩ ∧
        endsWithEOL mode line = true)
    (unfinished : Unfinished (endsWithEOL mode) begun) :
    Splits mode (Cut.lines ⟨finished, begun⟩) := by
  induction finished with
  | nil => exact splits_singleton unfinished
  | cons line finished ih =>
      obtain ⟨here, later⟩ := List.forall_mem_cons.mp ended
      exact ⟨oneLine_of_cut_eq here.1, .inl here.2, ih later⟩

theorem isSuffixOf_eq_endsWithEOL {sep : Bytes} (same : eols mode = [sep]) :
    (fun read : Bytes => sep.isSuffixOf read) = endsWithEOL mode := by
  funext read
  unfold endsWithEOL
  split
  · subst read
    have positive := (length_le_two (same ▸ List.mem_singleton_self sep)).1
    cases sep with
    | nil => cases positive
    | cons c sep => simp [List.isSuffixOf]
  · rw [same]
    simp

theorem splits_splitAfter {sep : Bytes} (same : eols mode = [sep])
    (text : Bytes) : Splits mode (splitAfter sep text) := by
  have start : Unfinished (endsWithEOL mode) [] := unfinished_nil
  unfold splitAfter
  rw [isSuffixOf_eq_endsWithEOL same]
  exact splits_lines (start.cut_spec text).1 (start.cut_spec text).2

theorem endsWithEOL_asIs_concat (part : Bytes) (b : UInt8) :
    endsWithEOL .asIs (part ++ [b]) = true ↔ b = cr ∨ b = lf := by
  constructor
  · intro ends
    obtain ⟨eol, member, last⟩ := exists_last_of_ends ends
    simp only [eols, List.mem_cons, List.not_mem_nil, or_false] at member
    rcases member with rfl | rfl | rfl | rfl
    · exact .inr (Option.some.inj last).symm
    · exact .inl (Option.some.inj last).symm
    · exact .inr (Option.some.inj last).symm
    · exact .inl (Option.some.inj last).symm
  · intro newline
    refine endsWithEOL_append_of_ends part ?_
    rw [endsWithEOL_singleton_iff]
    rcases newline with rfl | rfl
    · decide
    · decide

theorem isPair_iff {b c : UInt8} {rest : Bytes} :
    isPair b (c :: rest) = true ↔ b = cr ∧ c = lf ∨ b = lf ∧ c = cr := by
  simp [isPair]

theorem splits_splitAsIs {part text : Bytes}
    (unfinished : Unfinished (endsWithEOL .asIs) part) :
    Splits .asIs (splitAsIs part text) := by
  -- a part is finished by the first newline byte, and takes the other of a pair
  induction part, text using splitAsIs.induct with
  | case1 => trivial
  | case2 part present =>
      rw [splitAsIs, if_neg present]
      exact splits_singleton unfinished
  | case3 part b newline =>
      have stops := (endsWithEOL_asIs_concat part b).mpr newline
      rw [splitAsIs, if_pos newline]
      exact ⟨oneLine_of_cut_eq (unfinished.cut_concat stops), .inl stops,
        trivial⟩
  | case4 part b other ih =>
      rw [splitAsIs, if_neg other]
      refine ih (unfinished.concat ?_)
      rw [Bool.eq_false_iff, ne_eq, endsWithEOL_asIs_concat]
      exact other
  | case5 part b c rest newline pair ih =>
      have stops := (endsWithEOL_asIs_concat part b).mpr newline
      have second : c = cr ∨ c = lf := by
        rcases isPair_iff.mp pair with ⟨-, rfl⟩ | ⟨-, rfl⟩
        · exact .inr rfl
        · exact .inl rfl
      rw [splitAsIs, if_pos newline, if_pos pair]
      have again := (endsWithEOL_asIs_concat (part ++ [b]) c).mpr second
      have alone := (endsWithEOL_asIs_concat [] c).mpr second
      have split : part ++ [b, c] = part ++ [b] ++ [c] := by
        rw [List.append_assoc, List.singleton_append]
      rw [split]
      refine ⟨?_, .inl again, ih unfinished_nil⟩
      have lines : cut (endsWithEOL .asIs) [] (part ++ [b] ++ [c]) =
          ⟨[part ++ [b], [c]], []⟩ := by
        rw [cut_append, unfinished.cut_concat stops, cut, if_pos alone]
        rfl
      unfold OneLine
      rw [lines]
      exact List.forall_mem_cons.mpr
        ⟨.inr ((endsWithEOL_singleton_iff c).mp alone),
          List.forall_mem_singleton.mpr (.inl rfl)⟩
  | case6 part b c rest newline single ih =>
      have stops := (endsWithEOL_asIs_concat part b).mpr newline
      rw [splitAsIs, if_pos newline, if_neg single]
      exact ⟨oneLine_of_cut_eq (unfinished.cut_concat stops), .inl stops,
        ih unfinished_nil⟩
  | case7 part b c rest other ih =>
      rw [splitAsIs, if_neg other]
      refine ih (unfinished.concat ?_)
      rw [Bool.eq_false_iff, ne_eq, endsWithEOL_asIs_concat]
      exact other

theorem splits_splitAfterAnyEOL (mode : LineEndingMode) (text : Bytes) :
    Splits mode (splitAfterAnyEOL mode text) := by
  unfold splitAfterAnyEOL
  split
  · trivial
  · cases mode with
    | asIs => exact splits_splitAsIs unfinished_nil
    | lf => exact splits_splitAfter rfl text
    | cr => exact splits_splitAfter rfl text
    | crlf => exact splits_splitAfter rfl text
    | lfcr => exact splits_splitAfter rfl text

theorem flatten_splitAfter (sep text : Bytes) :
    (splitAfter sep text).flatten = text := by
  unfold splitAfter Cut.lines
  rw [List.flatten_append, List.flatten_singleton, flatten_cut,
    List.nil_append]

theorem flatten_splitAsIs (part text : Bytes) :
    (splitAsIs part text).flatten = part ++ text := by
  induction part, text using splitAsIs.induct with
  | case1 => rfl
  | case2 part present => rw [splitAsIs, if_neg present]; rfl
  | case3 part b newline =>
      rw [splitAsIs, if_pos newline, List.flatten_singleton]
  | case4 part b other ih =>
      rw [splitAsIs, if_neg other, ih, List.append_nil]
  | case5 part b c rest newline pair ih =>
      rw [splitAsIs, if_pos newline, if_pos pair, List.flatten_cons, ih,
        List.append_assoc]
      rfl
  | case6 part b c rest newline single ih =>
      rw [splitAsIs, if_pos newline, if_neg single, List.flatten_cons, ih,
        List.append_assoc]
      rfl
  | case7 part b c rest other ih =>
      rw [splitAsIs, if_neg other, ih, List.append_assoc]
      rfl

/-- No byte is lost in the split. -/
theorem flatten_splitAfterAnyEOL (mode : LineEndingMode) (text : Bytes) :
    (splitAfterAnyEOL mode text).flatten = text := by
  unfold splitAfterAnyEOL
  split
  · subst text
    rfl
  · cases mode with
    | asIs => exact flatten_splitAsIs [] text
    | lf => exact flatten_splitAfter [lf] text
    | cr => exact flatten_splitAfter [cr] text
    | crlf => exact flatten_splitAfter [cr, lf] text
    | lfcr => exact flatten_splitAfter [lf, cr] text

end Splits

/-! ### Line endings across two texts -/

section Straddle

variable {norm : NormalizationOptions}

/-- The byte is the first of a line ending, whose second is none by itself. -/
def Starts (mode : LineEndingMode) (c d : UInt8) : Prop :=
  [c, d] ∈ eols mode ∧ [d] ∉ eols mode

theorem starts_iff {mode : LineEndingMode} {c d : UInt8} :
    Starts mode c d ↔
      mode = .crlf ∧ c = cr ∧ d = lf ∨ mode = .lfcr ∧ c = lf ∧ d = cr := by
  unfold Starts
  cases mode with
  | asIs =>
      simp only [eols, List.mem_cons, List.cons.injEq, and_true]
      simp
      rintro (⟨-, rfl⟩ | ⟨-, rfl⟩)
      · exact fun other => absurd rfl other
      · exact fun _ => rfl
  | lf => simp [eols]
  | cr => simp [eols]
  | crlf => simp [eols]
  | lfcr => simp [eols]

theorem Starts.not_plain {mode : LineEndingMode} {c d : UInt8}
    (starts : Starts mode c d) : ¬ Plain c ∧ ¬ Plain d := by
  rcases starts_iff.mp starts with ⟨-, rfl, rfl⟩ | ⟨-, rfl, rfl⟩
  · decide
  · decide

theorem Starts.ne {mode : LineEndingMode} {c d : UInt8}
    (starts : Starts mode c d) : d ≠ c := by
  rcases starts_iff.mp starts with ⟨-, rfl, rfl⟩ | ⟨-, rfl, rfl⟩
  · decide
  · decide

theorem plain_of_printable {x : UInt8} (printable : ¬ IsControl x) : Plain x := by
  refine ⟨?_, ?_⟩
  · rintro rfl
    exact printable (by decide)
  · rintro rfl
    exact printable (by decide)

theorem plain_newlineTag (b : UInt8) (pair : Bool) :
    ∀ x ∈ newlineTag b pair, Plain x :=
  fun x member => plain_of_printable (printable_newlineTag b pair x member)

theorem newlineTag_ne_nil (b : UInt8) (pair : Bool) : newlineTag b pair ≠ [] := by
  unfold newlineTag
  split
  · split <;> exact List.cons_ne_nil _ _
  · split <;> exact List.cons_ne_nil _ _

theorem plain_control {b : UInt8} (isControl : b < 0x20 ∨ b = 0x7F)
    (mode : NormalizeMode) : ∀ x ∈ control mode b, Plain x :=
  fun x member => plain_of_printable (printable_control isControl mode x member)

/-- A line ending that straddles texts has its parts from rendered tabs. -/
structure FromTabs (norm : NormalizationOptions) (c d : UInt8) (text : Bytes) :
    Prop where
  head : text.head? = some d → norm.tabRender <+: text
  last : text.getLast? = some c → norm.tabRender.getLast? = some c

theorem fromTabs_of_plain {c d : UInt8} {text : Bytes}
    (starts : Starts norm.lineEnding c d) (plain : ∀ x ∈ text, Plain x) :
    FromTabs norm c d text where
  head head := absurd (plain d (List.mem_of_head? head)) starts.not_plain.2
  last last := absurd (plain c (List.mem_of_getLast? last)) starts.not_plain.1

theorem FromTabs.append {c d : UInt8} {first second : Bytes}
    (fromFirst : FromTabs norm c d first) (fromSecond : FromTabs norm c d second)
    (present : first ≠ []) : FromTabs norm c d (first ++ second) where
  head head := by
    rw [List.head?_append_of_ne_nil _ present] at head
    exact (fromFirst.head head).trans (List.prefix_append ..)
  last last := by
    rcases eq_or_ne second [] with rfl | more
    · rw [List.append_nil] at last
      exact fromFirst.last last
    · rw [List.getLast?_append_of_ne_nil _ more] at last
      exact fromSecond.last last

theorem fromTabs_newline {c d : UInt8} (starts : Starts norm.lineEnding c d)
    (b : UInt8) (rest : Bytes) :
    FromTabs norm c d (newline norm.lineEnding b rest) := by
  rcases starts_iff.mp starts with ⟨mode, rfl, rfl⟩ | ⟨mode, rfl, rfl⟩
  · rw [mode]
    exact ⟨fun head => absurd head (by decide : some cr ≠ some lf),
      fun last => absurd last (by decide : some lf ≠ some cr)⟩
  · rw [mode]
    exact ⟨fun head => absurd head (by decide : some lf ≠ some cr),
      fun last => absurd last (by decide : some cr ≠ some lf)⟩

theorem fromTabs_normalizeNext {c d : UInt8} (noANSI : norm.preserveANSI = false)
    (starts : Starts norm.lineEnding c d) (b : UInt8) (rest : Bytes) :
    FromTabs norm c d (normalizeNext norm b rest).1 := by
  unfold normalizeNext
  rw [if_neg (by simp [noANSI]), if_neg (by simp [noANSI])]
  split
  · dsimp only
    split
    · exact (fromTabs_of_plain starts (plain_newlineTag b _)).append
        (fromTabs_newline starts b rest) (newlineTag_ne_nil b _)
    · exact fromTabs_newline starts b rest
  · split
    · rename_i isTab
      dsimp only
      split
      · exact ⟨fun _ => List.prefix_refl _, id⟩
      · refine fromTabs_of_plain starts (List.forall_mem_singleton.mpr ?_)
        rw [isTab]
        decide
    · rename_i notNewline _
      split
      · exact fromTabs_of_plain starts (plain_control ‹_› norm.mode)
      · exact fromTabs_of_plain starts
          (List.forall_mem_singleton.mpr (not_or.mp notNewline))

theorem fromTabs_normalize {c d : UInt8} (noANSI : norm.preserveANSI = false)
    (starts : Starts norm.lineEnding c d) (data : Bytes) :
    FromTabs norm c d (normalize norm data) := by
  unfold normalize
  generalize data.length = rounds
  induction rounds generalizing data with
  | zero => exact fromTabs_of_plain starts (List.forall_mem_nil _)
  | succ rounds ih =>
      cases data with
      | nil => exact fromTabs_of_plain starts (List.forall_mem_nil _)
      | cons b rest =>
          exact (fromTabs_normalizeNext noANSI starts b rest).append (ih _)
            (normalizeNext_ne_nil b rest)

/-- What a line ends in is taken up by no text that follows. -/
def Sealed (norm : NormalizationOptions) (begun : Bytes) : Prop :=
  ∀ c d, Starts norm.lineEnding c d → begun.getLast? = some c →
    norm.tabRender.getLast? = some c

theorem sealed_normalize (noANSI : norm.preserveANSI = false) (data : Bytes) :
    Sealed norm (normalize norm data) :=
  fun _ _ starts => (fromTabs_normalize noANSI starts data).last

/-- Between a sealed line and the text of an event, no line ending arises that
the broker would not find in the text. -/
theorem Sealed.endsWithEOL_append {begun : Bytes} (isSealed : Sealed norm begun)
    (noANSI : norm.preserveANSI = false) {data : Bytes} (present : data ≠ []) :
    endsWithEOL norm.lineEnding (begun ++ normalize norm data) =
      endsWithEOL norm.lineEnding (normalize norm data) := by
  refine endsWithEOL_append_of_apart (normalize_ne_nil present) ?_
  intro c d ended same pair
  by_contra alone
  have starts : Starts norm.lineEnding c d := ⟨pair, alone⟩
  have last := isSealed c d starts ended
  -- the byte would be the whole of a rendered tab
  have whole := (fromTabs_normalize noANSI starts data).head (by rw [same]; rfl)
  rw [same] at whole
  rcases List.prefix_cons_iff.mp whole with empty | ⟨rest, tab, none⟩
  · rw [empty] at last
    cases last
  · rw [tab, List.prefix_nil.mp none] at last
    exact starts.ne (Option.some.inj last)

end Straddle

end Console

end JetKvm
