import JetKvm.ConsoleBroker
import JetKvm.ConsoleLines
import Mathlib.Data.List.Chain

/-!
# Bytes and line endings of the serial console

A text is read as line endings and other bytes, from left to right.  What RX
emits for a text, however it is split, is these tokens with a label wherever a
line begins.
-/

namespace JetKvm

namespace Console

open CutLines

def tokens (mode : LineEndingMode) : Bytes → List Bytes
  | [] => []
  | [b] => [[b]]
  | b :: c :: rest =>
      if [b, c] ∈ eols mode then [b, c] :: tokens mode rest
      else [b] :: tokens mode (c :: rest)

/-- The byte that a text ends in which may be the first of a line ending -/
def half (mode : LineEndingMode) : Bytes → Option UInt8
  | [] => none
  | [b] => some b
  | b :: c :: rest =>
      if [b, c] ∈ eols mode then half mode rest else half mode (c :: rest)

/-- A line ending begins in one text and ends in the other. -/
def Straddles (mode : LineEndingMode) (first second : Bytes) : Prop :=
  ∃ c ∈ half mode first, ∃ e ∈ second.head?, [c, e] ∈ eols mode

/-- Whether RX is at a line end after the tokens -/
def lineEndAfter (mode : LineEndingMode) : (atLineEnd : Bool) →
    List Bytes → Bool
  | atLineEnd, [] => atLineEnd
  | _, token :: rest => lineEndAfter mode (token ∈ eols mode) rest

def labelAt (atLineEnd : Bool) : Bytes :=
  if atLineEnd then LineLabel.rx.text else []

/-- The tokens, with a label at the beginning of each line -/
def labelled (mode : LineEndingMode) : (atLineEnd : Bool) → List Bytes → Bytes
  | _, [] => []
  | atLineEnd, token :: rest =>
      labelAt atLineEnd ++ token ++ labelled mode (token ∈ eols mode) rest

section Tokens

variable {mode : LineEndingMode} {first second : Bytes}

theorem tokens_pair {b c : UInt8} (pair : [b, c] ∈ eols mode) (rest : Bytes) :
    tokens mode (b :: c :: rest) = [b, c] :: tokens mode rest := by
  rw [tokens, if_pos pair]

theorem tokens_single {b : UInt8} {rest : Bytes}
    (single : ∀ e ∈ rest.head?, [b, e] ∉ eols mode) :
    tokens mode (b :: rest) = [b] :: tokens mode rest := by
  cases rest with
  | nil => rfl
  | cons c rest => rw [tokens, if_neg (single c rfl)]

/-- Texts that no line ending straddles are read one after the other. -/
theorem tokens_append (apart : ¬ Straddles mode first second) :
    tokens mode (first ++ second) = tokens mode first ++ tokens mode second := by
  induction first using tokens.induct mode with
  | case1 => rfl
  | case2 b =>
      exact tokens_single fun e head pair => apart ⟨b, rfl, e, head, pair⟩
  | case3 b c rest pair ih =>
      unfold Straddles at apart ih
      rw [half, if_pos pair] at apart
      rw [List.cons_append, List.cons_append, tokens_pair pair,
        tokens_pair pair, ih apart]
      rfl
  | case4 b c rest single ih =>
      unfold Straddles at apart ih
      rw [half, if_neg single] at apart
      rw [List.cons_append, List.cons_append, tokens, if_neg single,
        tokens, if_neg single, ← List.cons_append, ih apart]
      rfl

/-- The two bytes that a line ending straddles texts with are read as one. -/
theorem exists_tokens_of_straddles {e : UInt8} {c : UInt8}
    (last : half mode first = some c) (pair : [c, e] ∈ eols mode) :
    ∃ front, tokens mode first = front ++ [[c]] ∧
      ∀ rest, tokens mode (first ++ e :: rest) =
        front ++ [c, e] :: tokens mode rest := by
  induction first using tokens.induct mode with
  | case1 => cases last
  | case2 b =>
      obtain rfl := Option.some.inj last
      exact ⟨[], rfl, fun rest => tokens_pair pair rest⟩
  | case3 b d rest whole ih =>
      rw [half, if_pos whole] at last
      obtain ⟨front, before, after⟩ := ih last
      refine ⟨[b, d] :: front, ?_, fun more => ?_⟩
      · rw [tokens_pair whole, before]
        rfl
      · rw [List.cons_append, List.cons_append, tokens_pair whole, after]
        rfl
  | case4 b d rest single ih =>
      rw [half, if_neg single] at last
      obtain ⟨front, before, after⟩ := ih last
      refine ⟨[b] :: front, ?_, fun more => ?_⟩
      · rw [tokens, if_neg single, before]
        rfl
      · rw [List.cons_append, List.cons_append, tokens, if_neg single,
          ← List.cons_append, after]
        rfl

theorem mem_of_half {text : Bytes} {c : UInt8} (last : half mode text = some c) :
    c ∈ text := by
  induction text using tokens.induct mode with
  | case1 => cases last
  | case2 b => exact List.mem_singleton.mpr (Option.some.inj last).symm
  | case3 b d rest pair ih =>
      rw [half, if_pos pair] at last
      exact List.mem_cons_of_mem _ (List.mem_cons_of_mem _ (ih last))
  | case4 b d rest single ih =>
      rw [half, if_neg single] at last
      exact List.mem_cons_of_mem _ (ih last)

theorem half_append_of_plain {front text : Bytes}
    (plain : ∀ x ∈ front, Plain x) (present : text ≠ []) :
    half mode (front ++ text) = half mode text := by
  induction front with
  | nil => rfl
  | cons b front ih =>
      obtain ⟨here, later⟩ := List.forall_mem_cons.mp plain
      obtain ⟨d, rest, same⟩ := List.exists_cons_of_ne_nil
        (List.append_ne_nil_of_right_ne_nil front present)
      have single : [b, d] ∉ eols mode := fun pair =>
        not_plain_of_mem_eols pair (List.mem_cons_self ..) here
      rw [List.cons_append, same, half, if_neg single, ← same, ih later]

theorem lineEndAfter_append (atLineEnd : Bool) (front rest : List Bytes) :
    lineEndAfter mode atLineEnd (front ++ rest) =
      lineEndAfter mode (lineEndAfter mode atLineEnd front) rest := by
  induction front generalizing atLineEnd with
  | nil => rfl
  | cons token front ih => exact ih _

theorem labelled_append (atLineEnd : Bool) (front rest : List Bytes) :
    labelled mode atLineEnd (front ++ rest) =
      labelled mode atLineEnd front ++
        labelled mode (lineEndAfter mode atLineEnd front) rest := by
  induction front generalizing atLineEnd with
  | nil => rfl
  | cons token front ih =>
      rw [List.cons_append, labelled, labelled, ih, lineEndAfter]
      simp only [List.append_assoc]

theorem tokens_ne_nil {text : Bytes} (present : text ≠ []) :
    tokens mode text ≠ [] := by
  induction text using tokens.induct mode with
  | case1 => exact absurd rfl present
  | case2 b => exact List.cons_ne_nil _ _
  | case3 b c rest pair _ =>
      rw [tokens_pair pair]
      exact List.cons_ne_nil _ _
  | case4 b c rest single _ =>
      rw [tokens, if_neg single]
      exact List.cons_ne_nil _ _

/-- The end of the text decides. -/
theorem lineEndAfter_tokens {text : Bytes} (present : text ≠ [])
    (atLineEnd : Bool) :
    lineEndAfter mode atLineEnd (tokens mode text) = endsWithEOL mode text := by
  induction text using tokens.induct mode generalizing atLineEnd with
  | case1 => exact absurd rfl present
  | case2 b =>
      rw [Bool.eq_iff_iff, endsWithEOL_singleton_iff]
      exact decide_eq_true_iff
  | case3 b c rest pair ih =>
      have stops := endsWithEOL_of_mem pair
      rw [tokens_pair pair, lineEndAfter, decide_eq_true pair]
      rcases eq_or_ne rest [] with rfl | more
      · exact stops.symm
      · rw [ih more]
        exact (endsWithEOL_append_of_front stops more).symm
  | case4 b c rest single ih =>
      rw [tokens, if_neg single, lineEndAfter, ih (List.cons_ne_nil c rest)]
      refine (@endsWithEOL_append_of_apart mode (c :: rest) [b]
        (List.cons_ne_nil c rest) fun f d last same pair => ?_).symm
      obtain rfl := Option.some.inj last
      obtain ⟨rfl, -⟩ := List.cons.inj same
      exact absurd pair single

/-! ### Lines that are not finished -/

/-- No line ending is in the text. -/
structure Open (mode : LineEndingMode) (text : Bytes) : Prop where
  pairs : text.IsChain fun b c => [b, c] ∉ eols mode
  singles : ∀ b ∈ text, [b] ∉ eols mode

theorem open_nil : Open mode [] := ⟨.nil, List.forall_mem_nil _⟩

theorem open_of_plain {text : Bytes} (plain : ∀ x ∈ text, Plain x) :
    Open mode text where
  pairs := by
    induction text with
    | nil => exact .nil
    | cons b text ih =>
        obtain ⟨here, later⟩ := List.forall_mem_cons.mp plain
        refine List.isChain_cons.mpr ⟨fun c _ pair => ?_, ih later⟩
        exact not_plain_of_mem_eols pair (List.mem_cons_self ..) here
  singles := fun b member single =>
    not_plain_of_mem_eols single (List.mem_singleton_self b) (plain b member)

/-- A line that goes on is open still. -/
theorem Open.concat {text : Bytes} (isOpen : Open mode text) {a : UInt8}
    (goes : endsWithEOL mode (text ++ [a]) = false) : Open mode (text ++ [a]) where
  pairs := by
    rw [List.isChain_append]
    refine ⟨isOpen.pairs, .singleton a, fun c last e head pair => ?_⟩
    obtain rfl := Option.some.inj head
    obtain ⟨front, rfl⟩ := List.getLast?_eq_some_iff.mp last
    rw [(endsWithEOL_concat_concat_iff front c a).mpr (.inl pair)] at goes
    cases goes
  singles := by
    refine List.forall_mem_append.mpr ⟨isOpen.singles,
      List.forall_mem_singleton.mpr fun single => ?_⟩
    have ends := (endsWithEOL_singleton_iff a).mpr single
    rw [endsWithEOL_append_of_ends text ends] at goes
    cases goes

theorem Open.endsWithEOL_eq_false {text : Bytes} (isOpen : Open mode text) :
    endsWithEOL mode text = false := by
  rw [Bool.eq_false_iff]
  intro ends
  rcases List.eq_nil_or_concat' text with rfl | ⟨front, d, rfl⟩
  · cases ends
  · rcases List.eq_nil_or_concat' front with rfl | ⟨front, c, rfl⟩
    · exact isOpen.singles d (List.mem_singleton_self d)
        ((endsWithEOL_singleton_iff d).mp ends)
    · rcases (endsWithEOL_concat_concat_iff front c d).mp ends with pair | single
      · have chain := isOpen.pairs
        rw [List.isChain_append] at chain
        exact chain.2.2 c (List.getLast?_concat ..) d rfl pair
      · exact isOpen.singles d (by simp) single

/-- The tokens of a line that no line ending is in -/
def bytewise (text : Bytes) : List Bytes := text.map fun b => [b]

theorem bytewise_concat (text : Bytes) (b : UInt8) :
    bytewise (text ++ [b]) = bytewise text ++ [[b]] :=
  List.map_append

theorem tokens_of_open {c : UInt8} {front : Bytes}
    (isOpen : (front ++ [c]).IsChain fun b c => [b, c] ∉ eols mode)
    (rest : Bytes) :
    tokens mode (front ++ c :: rest) =
      bytewise front ++ tokens mode (c :: rest) := by
  induction front with
  | nil => rfl
  | cons b front ih =>
      have later := isOpen.tail
      have single : ∀ e ∈ (front ++ c :: rest).head?, [b, e] ∉ eols mode := by
        intro e head
        refine (List.isChain_cons.mp isOpen).1 e ?_
        cases front with
        | nil => exact head
        | cons d front => exact head
      rw [List.cons_append, tokens_single single, ih later]
      rfl

theorem tokens_open {text : Bytes} (isOpen : Open mode text) :
    tokens mode text = bytewise text := by
  rcases List.eq_nil_or_concat' text with rfl | ⟨front, c, rfl⟩
  · rfl
  · rw [tokens_of_open isOpen.pairs, bytewise_concat]
    rfl

theorem lineEndAfter_bytewise {text : Bytes} (isOpen : Open mode text)
    (present : text ≠ []) (atLineEnd : Bool) :
    lineEndAfter mode atLineEnd (bytewise text) = false := by
  obtain ⟨front, c, rfl⟩ := (List.eq_nil_or_concat' text).resolve_left present
  rw [bytewise_concat, lineEndAfter_append]
  exact decide_eq_false (isOpen.singles c (by simp))

theorem labelled_bytewise_of_goesOn {text : Bytes} (isOpen : Open mode text) :
    labelled mode false (bytewise text) = text := by
  induction text with
  | nil => rfl
  | cons b text ih =>
      have here := isOpen.singles b (List.mem_cons_self ..)
      have later : Open mode text :=
        ⟨isOpen.pairs.tail, (List.forall_mem_cons.mp isOpen.singles).2⟩
      unfold bytewise at ih ⊢
      rw [List.map_cons, labelled, decide_eq_false here, ih later]
      rfl

theorem labelled_bytewise {text : Bytes} (isOpen : Open mode text)
    (present : text ≠ []) (atLineEnd : Bool) :
    labelled mode atLineEnd (bytewise text) = labelAt atLineEnd ++ text := by
  have goesOn := labelled_bytewise_of_goesOn isOpen
  cases text with
  | nil => exact absurd rfl present
  | cons b text =>
      unfold bytewise at goesOn ⊢
      rw [List.map_cons, labelled, List.append_assoc] at goesOn ⊢
      exact congrArg (labelAt atLineEnd ++ ·) goesOn

/-- A line that the token after it finishes is emitted with one label. -/
theorem labelled_line {line token : Bytes} (isOpen : Open mode line)
    (atLineEnd : Bool) (rest : List Bytes) :
    labelled mode atLineEnd (bytewise line ++ token :: rest) =
      labelAt atLineEnd ++ (line ++ token) ++
        labelled mode (token ∈ eols mode) rest := by
  rcases eq_or_ne line [] with rfl | present
  · rfl
  · rw [labelled_append, labelled_bytewise isOpen present,
      lineEndAfter_bytewise isOpen present, labelled]
    simp [labelAt]

end Tokens

/-! ### What RX emits for a text -/

def textOf (pieces : List Piece) : Bytes := pieces.flatMap Piece.bytes

/-- RX emits the tokens for the parts. -/
def Shows (norm : NormalizationOptions) (parts read : List Bytes) : Prop :=
  ∀ atLineEnd,
    (Echo.emitRX norm atLineEnd parts).1 =
      lineEndAfter norm.lineEnding atLineEnd read ∧
    textOf (Echo.emitRX norm atLineEnd parts).2 =
      labelled norm.lineEnding atLineEnd read

section Shows

variable {norm : NormalizationOptions} {parts read : List Bytes}

theorem bytes_rx (atLineEnd : Bool) (text : Bytes) :
    Piece.bytes ⟨if atLineEnd then some .rx else none, .rx, text⟩ =
      labelAt atLineEnd ++ text := by
  cases atLineEnd with
  | true => rfl
  | false => rfl

theorem shows_nil : Shows norm [] [] := fun _ => ⟨rfl, rfl⟩

/-- A part is one line. -/
theorem Shows.cons {part : Bytes} {line : List Bytes} (present : part ≠ [])
    (shows_ : Shows norm parts read)
    (ends : ∀ atLineEnd, lineEndAfter norm.lineEnding atLineEnd line =
      endsWithEOL norm.lineEnding part)
    (text : ∀ atLineEnd, labelled norm.lineEnding atLineEnd line =
      labelAt atLineEnd ++ part) :
    Shows norm (part :: parts) (line ++ read) := by
  intro atLineEnd
  obtain ⟨last, later⟩ := shows_ (endsWithEOL norm.lineEnding part)
  rw [Echo.emitRX, if_neg present, lineEndAfter_append, labelled_append,
    ends, text, ← last, ← later, ← bytes_rx]
  exact ⟨rfl, rfl⟩

theorem shows_finished {line token : Bytes} (isOpen : Open norm.lineEnding line)
    (isEOL : token ∈ eols norm.lineEnding) (shows_ : Shows norm parts read) :
    Shows norm ((line ++ token) :: parts)
      (bytewise line ++ token :: read) := by
  have stops := endsWithEOL_append_of_ends line (endsWithEOL_of_mem isEOL)
  have present : line ++ token ≠ [] := by
    intro empty
    rw [empty] at stops
    cases stops
  have split : bytewise line ++ token :: read =
      (bytewise line ++ [token]) ++ read := by
    rw [List.append_assoc]
    rfl
  rw [split]
  refine shows_.cons present (fun atLineEnd => ?_) (fun atLineEnd => ?_)
  · rw [lineEndAfter_append, stops]
    exact decide_eq_true isEOL
  · rw [labelled_line isOpen, labelled, List.append_nil]

theorem shows_begun {line : Bytes} (isOpen : Open norm.lineEnding line) :
    Shows norm [line] (bytewise line) := by
  rcases eq_or_ne line [] with rfl | present
  · exact fun _ => ⟨rfl, rfl⟩
  · rw [← List.append_nil (bytewise line)]
    refine shows_nil.cons present (fun atLineEnd => ?_) (fun atLineEnd => ?_)
    · rw [lineEndAfter_bytewise isOpen present, isOpen.endsWithEOL_eq_false]
    · exact labelled_bytewise isOpen present atLineEnd

/-- Only line endings as they are have pairs as well as single bytes. -/
theorem not_pair_of_single {mode : LineEndingMode} (notAsIs : mode ≠ .asIs)
    {a b c : UInt8} (single : [a] ∈ eols mode) : [b, c] ∉ eols mode := by
  cases mode with
  | asIs => exact absurd rfl notAsIs
  | lf => simp [eols]
  | cr => simp [eols]
  | crlf => simp [eols] at single
  | lfcr => simp [eols] at single

theorem tokens_finished {mode : LineEndingMode} (notAsIs : mode ≠ .asIs)
    {begun : Bytes} {a : UInt8} (isOpen : Open mode begun)
    (stops : endsWithEOL mode (begun ++ [a]) = true) (text : Bytes) :
    ∃ line token, begun ++ [a] = line ++ token ∧ Open mode line ∧
      token ∈ eols mode ∧
      tokens mode (begun ++ a :: text) =
        bytewise line ++ token :: tokens mode text := by
  by_cases single : [a] ∈ eols mode
  · have noPairs : ∀ b c, [b, c] ∉ eols mode :=
      fun _ _ => not_pair_of_single notAsIs single
    refine ⟨begun, [a], rfl, isOpen, single, ?_⟩
    have chain : (begun ++ [a]).IsChain fun b c => [b, c] ∉ eols mode := by
      rw [List.isChain_append]
      exact ⟨isOpen.pairs, .singleton a, fun _ _ _ _ => noPairs _ _⟩
    rw [tokens_of_open chain, tokens_single fun _ _ => noPairs _ _]
  · rcases List.eq_nil_or_concat' begun with rfl | ⟨front, c, rfl⟩
    · exact absurd ((endsWithEOL_singleton_iff a).mp stops) single
    · have pair := ((endsWithEOL_concat_concat_iff front c a).mp stops).resolve_right
        single
      refine ⟨front, [c, a], by simp, ?_, pair, ?_⟩
      · have chain := isOpen.pairs
        rw [List.isChain_append] at chain
        exact ⟨chain.1, (List.forall_mem_append.mp isOpen.singles).1⟩
      · rw [List.append_assoc, List.singleton_append,
          tokens_of_open isOpen.pairs, tokens_pair pair]

/-- The parts are cut after each line ending. -/
theorem shows_cut (notAsIs : norm.lineEnding ≠ .asIs) {begun : Bytes}
    (isOpen : Open norm.lineEnding begun) (text : Bytes) :
    Shows norm (cut (endsWithEOL norm.lineEnding) begun text).lines
      (tokens norm.lineEnding (begun ++ text)) := by
  induction text generalizing begun with
  | nil =>
      rw [List.append_nil, tokens_open isOpen]
      exact shows_begun isOpen
  | cons a text ih =>
      rw [cut]
      split
      · rename_i stops
        obtain ⟨line, token, same, lineOpen, isEOL, read⟩ :=
          tokens_finished notAsIs isOpen stops text
        rw [read, same]
        exact shows_finished lineOpen isEOL (ih open_nil)
      · rename_i goes
        have longer := ih (isOpen.concat (Bool.not_eq_true _ ▸ goes))
        rw [List.append_assoc] at longer
        exact longer

theorem shows_splitAfter {sep : Bytes} (notAsIs : norm.lineEnding ≠ .asIs)
    (same : eols norm.lineEnding = [sep]) (text : Bytes) :
    Shows norm (splitAfter sep text) (tokens norm.lineEnding text) := by
  unfold splitAfter
  rw [isSuffixOf_eq_endsWithEOL same]
  exact shows_cut notAsIs open_nil text

theorem plain_concat {part : Bytes} {b : UInt8} (plain : ∀ x ∈ part, Plain x)
    (other : ¬ (b = cr ∨ b = lf)) : ∀ x ∈ part ++ [b], Plain x :=
  List.forall_mem_append.mpr
    ⟨plain, List.forall_mem_singleton.mpr (not_or.mp other)⟩

/-- The first byte of a newline ends a part, with the other of a pair. -/
theorem shows_splitAsIs (asIs : norm.lineEnding = .asIs) {part : Bytes}
    (plain : ∀ x ∈ part, Plain x) (text : Bytes) :
    Shows norm (splitAsIs part text)
      (bytewise part ++ tokens norm.lineEnding text) := by
  have newlines : ∀ b, b = cr ∨ b = lf → [b] ∈ eols norm.lineEnding := by
    rintro b (rfl | rfl) <;> rw [asIs] <;> decide
  have pairs : ∀ b c rest, isPair b (c :: rest) = true ↔
      [b, c] ∈ eols norm.lineEnding := by
    intro b c rest
    rw [asIs, isPair_iff]
    simp [eols]
  induction part, text using splitAsIs.induct with
  | case1 => exact shows_nil
  | case2 part present =>
      rw [splitAsIs, if_neg present]
      exact (List.append_nil _).symm ▸ shows_begun (open_of_plain plain)
  | case3 part b newline =>
      rw [splitAsIs, if_pos newline]
      exact shows_finished (open_of_plain plain) (newlines b newline) shows_nil
  | case4 part b other ih =>
      rw [splitAsIs, if_neg other]
      have longer := ih (plain_concat plain other)
      rw [bytewise_concat, List.append_assoc] at longer
      exact longer
  | case5 part b c rest newline pair ih =>
      rw [splitAsIs, if_pos newline, if_pos pair,
        tokens_pair ((pairs b c rest).mp pair)]
      exact shows_finished (open_of_plain plain) ((pairs b c rest).mp pair)
        (ih (List.forall_mem_nil _))
  | case6 part b c rest newline single ih =>
      rw [splitAsIs, if_pos newline, if_neg single, tokens,
        if_neg fun pair => single ((pairs b c rest).mpr pair)]
      exact shows_finished (open_of_plain plain) (newlines b newline)
        (ih (List.forall_mem_nil _))
  | case7 part b c rest other ih =>
      have notPair : [b, c] ∉ eols norm.lineEnding := fun pair =>
        not_plain_of_mem_eols pair (List.mem_cons_self ..) (not_or.mp other)
      have longer := ih (plain_concat plain other)
      rw [bytewise_concat, List.append_assoc] at longer
      rw [splitAsIs, if_neg other, tokens, if_neg notPair]
      exact longer

/-- RX emits the tokens of a text, for every line ending. -/
theorem shows_splitAfterAnyEOL (norm : NormalizationOptions) (text : Bytes) :
    Shows norm (splitAfterAnyEOL norm.lineEnding text)
      (tokens norm.lineEnding text) := by
  unfold splitAfterAnyEOL
  split
  · subst text
    exact shows_nil
  · split
    case h_5 mode => exact shows_splitAsIs mode (List.forall_mem_nil _) text
    all_goals
      rename_i mode
      exact shows_splitAfter (by simp [mode]) (by rw [mode]; rfl) text

end Shows

end Console

end JetKvm
