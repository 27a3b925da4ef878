import JetKvm.ConsoleNormalizer
import JetKvm.ConsoleTokens

/-!
# How the serial port chunks its data

Translation of `SerialMux.reader` in `serial_console_helpers.go`: the stream of
the port is read in buffers, and each is handled by itself.  What is emitted
tells how the stream was cut where two adjacent bytes are not handled the same
together and apart.
-/

namespace JetKvm

namespace Console

/-! ### The reader -/

/-- The length of the buffer that `reader` hands to the port -/
def readSize : Nat := 4096

/-- The stream may be read in these buffers. -/
structure Reads (stream : Bytes) (buffers : List Bytes) : Prop where
  whole : buffers.flatten = stream
  sizes : ∀ buffer ∈ buffers, 0 < buffer.length ∧ buffer.length ≤ readSize

section Reader

variable (norm : NormalizationOptions)

/-- The broker is sent the buffers one after the other, and no TX event. -/
def Echo.receive (b : Echo) : List Bytes → Echo × List Piece
  | [] => (b, [])
  | data :: buffers =>
      let (b, pieces) := b.handleRX norm data
      let (last, more) := receive b buffers
      (last, pieces ++ more)

/-- The text that a new broker emits for the buffers -/
def receivedText (buffers : List Bytes) : Bytes :=
  textOf (Echo.receive norm {} buffers).2

/-! ### Bytes that are handled the same together and apart -/

/-- What the line ending and the rendered tab leave of a byte -/
def kept (b : UInt8) : Bytes :=
  if b = 9 then norm.tabRender
  else if norm.lineEnding = .asIs then [b]
  else []

/-- The bytes are no pair and begin no control sequence that is preserved, and
no line ending arises between what is left of them. -/
structure Apart (b d : UInt8) : Prop where
  notPair : ¬ (b = cr ∧ d = lf ∨ b = lf ∧ d = cr)
  noSequence : ¬ (norm.preserveANSI ∧ b = esc ∧ (d = 91 ∨ d = 93))
  noEnding : ¬ (Straddles norm.lineEnding (kept norm b) (kept norm d) ∧
    (d = 9 ∨ norm.showNLTag = false))

/-- The text that a byte is normalized to by itself -/
def rendered (b : UInt8) : Bytes := (normalizeNext norm b []).1

def byteTokens (b : UInt8) : List Bytes :=
  tokens norm.lineEnding (rendered norm b)

def chunkTokens (data : Bytes) : List Bytes :=
  tokens norm.lineEnding (normalize norm data)

end Reader

section Received

variable {norm : NormalizationOptions}

theorem textOf_append (pieces more : List Piece) :
    textOf (pieces ++ more) = textOf pieces ++ textOf more :=
  List.flatMap_append

/-- A broker that is sent no TX events -/
def listening (atLineEnd : Bool) : Echo := { rxAtLineEnd := atLineEnd }

theorem handleRX_listening (atLineEnd : Bool) (data : Bytes) :
    ((listening atLineEnd).handleRX norm data).1 = listening
        (lineEndAfter norm.lineEnding atLineEnd (chunkTokens norm data)) ∧
      textOf ((listening atLineEnd).handleRX norm data).2 =
        labelled norm.lineEnding atLineEnd (chunkTokens norm data) := by
  unfold Echo.handleRX chunkTokens
  split
  · subst data
    exact ⟨rfl, rfl⟩
  · rename_i present
    have text := @normalize_ne_nil norm data present
    obtain ⟨last, emitted⟩ :=
      shows_splitAfterAnyEOL norm (normalize norm data) atLineEnd
    dsimp only [listening]
    rw [if_neg text, ← last, ← emitted]
    exact ⟨rfl, rfl⟩

theorem receive_listening (atLineEnd : Bool) (buffers : List Bytes) :
    ((listening atLineEnd).receive norm buffers).1 = listening
        (lineEndAfter norm.lineEnding atLineEnd
          (buffers.flatMap (chunkTokens norm))) ∧
      textOf ((listening atLineEnd).receive norm buffers).2 =
        labelled norm.lineEnding atLineEnd
          (buffers.flatMap (chunkTokens norm)) := by
  induction buffers generalizing atLineEnd with
  | nil => exact ⟨rfl, rfl⟩
  | cons data buffers ih =>
      obtain ⟨middle, first⟩ := @handleRX_listening norm atLineEnd data
      obtain ⟨last, later⟩ := ih
        (lineEndAfter norm.lineEnding atLineEnd (chunkTokens norm data))
      rw [← middle] at last later
      rw [List.flatMap_cons, lineEndAfter_append, labelled_append]
      refine ⟨last, ?_⟩
      unfold Echo.receive
      rw [textOf_append, first, later]

theorem receivedText_eq (buffers : List Bytes) :
    receivedText norm buffers =
      labelled norm.lineEnding true (buffers.flatMap (chunkTokens norm)) :=
  (receive_listening true buffers).2

/-! ### Bytes apart -/

theorem rendered_ne_nil (b : UInt8) : rendered norm b ≠ [] :=
  normalizeNext_ne_nil b []

theorem rendered_eq (b : UInt8) :
    rendered norm b =
      if b = cr ∨ b = lf then
        (if norm.showNLTag then newlineTag b false else []) ++
          newline norm.lineEnding b []
      else if b = 9 then
        if norm.tabRender ≠ [] then norm.tabRender else [b]
      else if b < 0x20 ∨ b = 0x7F then control norm.mode b
      else [b] := by
  have alone : isPair b [] = false := by simp [isPair]
  unfold rendered normalizeNext
  rw [if_neg (by simp), if_neg (by simp), alone]
  split
  · rfl
  · split
    · rfl
    · split
      · rfl
      · rfl

theorem normalizeNext_of_alone {b : UInt8} {rest : Bytes}
    (noPair : isPair b rest = false)
    (noSequence : ∀ c, c = 91 ∨ c = 93 →
      ¬ (norm.preserveANSI = true ∧ b = esc ∧ rest.head? = some c)) :
    normalizeNext norm b rest = (rendered norm b, rest) := by
  have alone : isPair b [] = false := by simp [isPair]
  have same : newline norm.lineEnding b rest = newline norm.lineEnding b [] := by
    unfold newline
    rw [noPair, alone]
    rfl
  rw [rendered_eq]
  unfold normalizeNext
  rw [if_neg (noSequence 91 (.inl rfl)), if_neg (noSequence 93 (.inr rfl)),
    noPair, same]
  split
  · rfl
  · split
    · rfl
    · split
      · rfl
      · rfl

theorem normalizeNext_of_notPair {b d : UInt8} {rest : Bytes}
    (notPair : ¬ (b = cr ∧ d = lf ∨ b = lf ∧ d = cr))
    (noSequence : ¬ (norm.preserveANSI = true ∧ b = esc ∧ (d = 91 ∨ d = 93))) :
    normalizeNext norm b (d :: rest) = (rendered norm b, d :: rest) := by
  refine normalizeNext_of_alone ?_ ?_
  · rw [Bool.eq_false_iff, ne_eq, isPair_iff]
    exact notPair
  · rintro c bracket ⟨preserve, isEsc, head⟩
    obtain rfl := Option.some.inj head
    exact noSequence ⟨preserve, isEsc, bracket⟩

/-- What follows a byte that it stands apart from does not matter to it. -/
theorem normalizeNext_of_apart {b : UInt8} {rest : Bytes}
    (apart : ∀ d ∈ rest.head?, Apart norm b d) :
    normalizeNext norm b rest = (rendered norm b, rest) := by
  cases rest with
  | nil => exact normalizeNext_of_alone (by simp [isPair]) (by simp)
  | cons d rest =>
      have here := apart d rfl
      exact normalizeNext_of_notPair here.notPair here.noSequence

theorem normalize_singleton (b : UInt8) :
    normalize norm [b] = rendered norm b := by
  rw [normalize_cons, normalizeNext_of_apart (by simp)]
  exact List.append_nil _

theorem normalize_of_apart {data : Bytes} (apart : data.IsChain (Apart norm)) :
    normalize norm data = data.flatMap (rendered norm) := by
  induction data with
  | nil => rfl
  | cons b rest ih =>
      rw [List.isChain_cons] at apart
      rw [normalize_cons, normalizeNext_of_apart apart.1, ih apart.2]
      rfl

/-! ### Line endings between two bytes -/

theorem plain_of_notNewline {b : UInt8} (other : ¬ (b = cr ∨ b = lf)) :
    Plain b := not_or.mp other

/-- A byte that is neither a newline nor a tab leaves plain bytes. -/
theorem plain_rendered {b : UInt8} (other : ¬ (b = cr ∨ b = lf))
    (notTab : b ≠ 9) : ∀ x ∈ rendered norm b, Plain x := by
  rw [rendered_eq, if_neg other, if_neg notTab]
  split
  · exact plain_control ‹_› norm.mode
  · exact List.forall_mem_singleton.mpr (plain_of_notNewline other)

theorem plain_kept {b : UInt8} (other : ¬ (b = cr ∨ b = lf))
    (notTab : b ≠ 9) : ∀ x ∈ kept norm b, Plain x := by
  unfold kept
  rw [if_neg notTab]
  split
  · exact List.forall_mem_singleton.mpr (plain_of_notNewline other)
  · exact List.forall_mem_nil _

theorem rendered_newline {b : UInt8} (newlineByte : b = cr ∨ b = lf) :
    rendered norm b =
      (if norm.showNLTag then newlineTag b false else []) ++
        newline norm.lineEnding b [] := by
  rw [rendered_eq, if_pos newlineByte]

theorem newline_alone (mode : LineEndingMode) (b : UInt8) :
    newline mode b [] = if mode = .asIs then [b] else lineSep mode := by
  cases mode with
  | asIs => simp [newline, isPair]
  | _ => rfl

theorem rendered_tab :
    rendered norm 9 = if norm.tabRender ≠ [] then norm.tabRender else [9] := by
  rw [rendered_eq, if_neg (by decide), if_pos rfl]

/-- A line ending of the mode is whole, and is not the end of one. -/
theorem half_lineSep {mode : LineEndingMode} {c e : UInt8}
    (notAsIs : mode ≠ .asIs) (pair : [c, e] ∈ eols mode) :
    half mode (lineSep mode) = none ∧ (lineSep mode).head? ≠ some e := by
  cases mode with
  | asIs => exact absurd rfl notAsIs
  | lf => simp [eols] at pair
  | cr => simp [eols] at pair
  | crlf =>
      obtain ⟨-, rfl⟩ : c = cr ∧ e = lf := by simpa [eols] using pair
      decide
  | lfcr =>
      obtain ⟨-, rfl⟩ : c = lf ∧ e = cr := by simpa [eols] using pair
      decide

theorem half_rendered_iff {b c e : UInt8} (pair : [c, e] ∈ eols norm.lineEnding) :
    half norm.lineEnding (rendered norm b) = some c ↔
      half norm.lineEnding (kept norm b) = some c := by
  have starts : ¬ Plain c := not_plain_of_mem_eols pair (List.mem_cons_self ..)
  have never : ∀ text, (∀ x ∈ text, Plain x) →
      half norm.lineEnding text ≠ some c := fun text plain last =>
    starts (plain c (mem_of_half last))
  by_cases isTab : b = 9
  · subst b
    unfold kept
    rw [rendered_tab, if_pos rfl]
    by_cases render : norm.tabRender = []
    · rw [if_neg (not_not.mpr render), render]
      refine iff_of_false (never [9] ?_) (never [] (List.forall_mem_nil _))
      exact List.forall_mem_singleton.mpr (by decide)
    · rw [if_pos render]
  · by_cases newlineByte : b = cr ∨ b = lf
    · have tag : ∀ x ∈ (if norm.showNLTag then newlineTag b false else []),
          Plain x := by
        split
        · exact plain_newlineTag b false
        · exact List.forall_mem_nil _
      unfold kept
      rw [rendered_newline newlineByte, half_append_of_plain tag
        (newline_ne_nil _ _ _), newline_alone, if_neg isTab]
      split
      · rfl
      · rename_i notAsIs
        rw [(half_lineSep notAsIs pair).1]
        rfl
    · exact iff_of_false (never _ (plain_rendered newlineByte isTab))
        (never _ (plain_kept newlineByte isTab))

theorem head_rendered_iff {d c e : UInt8} (pair : [c, e] ∈ eols norm.lineEnding) :
    (rendered norm d).head? = some e ↔
      (kept norm d).head? = some e ∧ (d = 9 ∨ norm.showNLTag = false) := by
  have ends : ¬ Plain e := not_plain_of_mem_eols pair (by simp)
  have never : ∀ text : Bytes, (∀ x ∈ text, Plain x) → text.head? ≠ some e :=
    fun text plain head => ends (plain e (List.mem_of_head? head))
  by_cases isTab : d = 9
  · subst d
    unfold kept
    rw [rendered_tab, if_pos rfl]
    by_cases render : norm.tabRender = []
    · rw [if_neg (not_not.mpr render), render]
      refine iff_of_false (never [9] ?_) fun both => ?_
      · exact List.forall_mem_singleton.mpr (by decide)
      · cases both.1
    · rw [if_pos render]
      exact (and_iff_left (.inl rfl)).symm
  · by_cases newlineByte : d = cr ∨ d = lf
    · unfold kept
      rw [rendered_newline newlineByte, if_neg isTab, newline_alone,
        or_iff_right isTab]
      by_cases tag : norm.showNLTag = true
      · rw [if_pos tag]
        refine iff_of_false ?_ (by simp [tag])
        have present : newlineTag d false ≠ [] := newlineTag_ne_nil d false
        rw [List.head?_append_of_ne_nil _ present]
        exact never _ (plain_newlineTag d false)
      · rw [if_neg tag, List.nil_append, and_iff_left (Bool.not_eq_true _ ▸ tag)]
        split
        · rfl
        · rename_i notAsIs
          refine iff_of_false (half_lineSep notAsIs pair).2 ?_
          intro head
          cases head
    · exact iff_of_false (never _ (plain_rendered newlineByte isTab))
        fun both => never _ (plain_kept newlineByte isTab) both.1

/-- A line ending between two bytes comes from rendered tabs, or from a newline
that is left as it is. -/
theorem straddles_rendered_iff {b d : UInt8} :
    Straddles norm.lineEnding (rendered norm b) (rendered norm d) ↔
      Straddles norm.lineEnding (kept norm b) (kept norm d) ∧
        (d = 9 ∨ norm.showNLTag = false) := by
  constructor
  · rintro ⟨c, last, e, head, pair⟩
    obtain ⟨first, shown⟩ := (head_rendered_iff pair).mp head
    exact ⟨⟨c, (half_rendered_iff pair).mp last, e, first, pair⟩, shown⟩
  · rintro ⟨⟨c, last, e, head, pair⟩, shown⟩
    exact ⟨c, (half_rendered_iff pair).mpr last, e,
      (head_rendered_iff pair).mpr ⟨head, shown⟩, pair⟩

/-! ### Streams of bytes apart -/

theorem chunkTokens_of_apart {data : Bytes} (apart : data.IsChain (Apart norm)) :
    chunkTokens norm data = data.flatMap (byteTokens norm) := by
  unfold chunkTokens
  rw [normalize_of_apart apart]
  induction data with
  | nil => rfl
  | cons b rest ih =>
      rw [List.isChain_cons] at apart
      have noEnding : ¬ Straddles norm.lineEnding (rendered norm b)
          (rest.flatMap (rendered norm)) := by
        rintro ⟨c, last, e, head, pair⟩
        cases rest with
        | nil => cases head
        | cons d rest =>
            rw [List.flatMap_cons,
              List.head?_append_of_ne_nil _ (rendered_ne_nil d)] at head
            exact (apart.1 d rfl).noEnding
              (straddles_rendered_iff.mp ⟨c, last, e, head, pair⟩)
      rw [List.flatMap_cons, tokens_append noEnding, ih apart.2]
      rfl

/-- However the stream is cut, the tokens are those of its bytes. -/
theorem flatMap_chunkTokens_of_apart {stream : Bytes} {buffers : List Bytes}
    (reads : buffers.flatten = stream) (apart : stream.IsChain (Apart norm)) :
    buffers.flatMap (chunkTokens norm) = stream.flatMap (byteTokens norm) := by
  subst stream
  induction buffers with
  | nil => rfl
  | cons data buffers ih =>
      rw [List.flatten_cons, List.isChain_append] at apart
      rw [List.flatMap_cons, chunkTokens_of_apart apart.1, ih apart.2.1,
        List.flatten_cons, List.flatMap_append]

/-! ### Bytes that tell how the stream was cut -/

/-- RX is left the same by the tokens, but they look different. -/
structure Tells (mode : LineEndingMode) (first second : List Bytes) : Prop where
  same : ∀ atLineEnd,
    lineEndAfter mode atLineEnd first = lineEndAfter mode atLineEnd second
  differ : ∀ atLineEnd,
    labelled mode atLineEnd first ≠ labelled mode atLineEnd second

/-- What comes before and after does not hide the difference. -/
theorem Tells.labelled_ne {mode : LineEndingMode} {first second : List Bytes}
    (tells : Tells mode first second) (front rest : List Bytes)
    (atLineEnd : Bool) :
    labelled mode atLineEnd (front ++ first ++ rest) ≠
      labelled mode atLineEnd (front ++ second ++ rest) := by
  rw [labelled_append, labelled_append, labelled_append, labelled_append,
    lineEndAfter_append, lineEndAfter_append, tells.same]
  intro same
  have here := List.append_cancel_right same
  exact tells.differ _ (List.append_cancel_left here)

/-- The text of a newline, told apart from the other options -/
def newlineText (mode : LineEndingMode) (tag pair : Bool) (b : UInt8)
    (rest : Bytes) : Bytes :=
  (if tag then newlineTag b pair else []) ++ newline mode b rest

theorem tells_newlineText (mode : LineEndingMode) (tag : Bool) {b d : UInt8}
    (pair : b = cr ∧ d = lf ∨ b = lf ∧ d = cr) :
    Tells mode (tokens mode (newlineText mode tag true b [d]))
      (tokens mode (newlineText mode tag false b []) ++
        tokens mode (newlineText mode tag false d [])) := by
  rcases pair with ⟨rfl, rfl⟩ | ⟨rfl, rfl⟩
  · cases mode <;> cases tag <;> exact ⟨by decide, by decide⟩
  · cases mode <;> cases tag <;> exact ⟨by decide, by decide⟩

theorem rendered_eq_newlineText {b : UInt8} (newlineByte : b = cr ∨ b = lf) :
    rendered norm b = newlineText norm.lineEnding norm.showNLTag false b [] :=
  rendered_newline newlineByte

theorem normalize_pair {b d : UInt8}
    (pair : b = cr ∧ d = lf ∨ b = lf ∧ d = cr) :
    normalize norm [b, d] =
      newlineText norm.lineEnding norm.showNLTag true b [d] := by
  have newlineByte : b = cr ∨ b = lf := pair.imp And.left And.left
  have notEsc : b ≠ esc := by
    rcases newlineByte with rfl | rfl <;> decide
  have isPair_ : isPair b [d] = true := isPair_iff.mpr pair
  have next : normalizeNext norm b [d] =
      (newlineText norm.lineEnding norm.showNLTag true b [d], []) := by
    unfold normalizeNext newlineText
    rw [if_neg (fun ansi => notEsc ansi.2.1), if_neg (fun ansi => notEsc ansi.2.1),
      if_pos newlineByte, isPair_]
    rfl
  rw [normalize_cons, next]
  exact List.append_nil _

theorem tells_pair {b d : UInt8} (pair : b = cr ∧ d = lf ∨ b = lf ∧ d = cr) :
    Tells norm.lineEnding (chunkTokens norm [b, d])
      (byteTokens norm b ++ byteTokens norm d) := by
  have second : d = cr ∨ d = lf := (pair.imp And.right And.right).symm
  unfold chunkTokens byteTokens
  rw [normalize_pair pair,
    rendered_eq_newlineText (pair.imp And.left And.left),
    rendered_eq_newlineText second]
  exact tells_newlineText _ _ pair

theorem normalize_sequence {d : UInt8} (preserve : norm.preserveANSI = true)
    (bracket : d = 91 ∨ d = 93) : normalize norm [esc, d] = [esc, d] := by
  have next : normalizeNext norm esc [d] = ([esc, d], []) := by
    unfold normalizeNext
    rcases bracket with rfl | rfl
    · rw [if_pos ⟨preserve, rfl, rfl⟩]
      rfl
    · rw [if_neg (fun ansi => absurd ansi.2.2 (by decide)), if_pos ⟨preserve, rfl, rfl⟩]
      rfl
  rw [normalize_cons, next]
  rfl

theorem tells_of_length {mode : LineEndingMode} {first second : Bytes}
    (firstPlain : ∀ x ∈ first, Plain x) (secondPlain : ∀ x ∈ second, Plain x)
    (present : first ≠ []) (longer : first.length < second.length) :
    Tells mode (bytewise first) (bytewise second) := by
  have more : second ≠ [] := List.length_pos_iff.mp (by omega)
  refine ⟨fun atLineEnd => ?_, fun atLineEnd same => ?_⟩
  · rw [lineEndAfter_bytewise (open_of_plain firstPlain) present,
      lineEndAfter_bytewise (open_of_plain secondPlain) more]
  · rw [labelled_bytewise (open_of_plain firstPlain) present,
      labelled_bytewise (open_of_plain secondPlain) more] at same
    have lengths := congrArg List.length (List.append_cancel_left same)
    omega

theorem tells_sequence {d : UInt8} (preserve : norm.preserveANSI = true)
    (bracket : d = 91 ∨ d = 93) :
    Tells norm.lineEnding (chunkTokens norm [esc, d])
      (byteTokens norm esc ++ byteTokens norm d) := by
  have shown : rendered norm esc = control norm.mode esc := by
    rw [rendered_eq, if_neg (by decide), if_neg (by decide), if_pos (by decide)]
  have bracketShown : rendered norm d = [d] := by
    rcases bracket with rfl | rfl <;>
      rw [rendered_eq, if_neg (by decide), if_neg (by decide),
        if_neg (by decide)]
  have isControl : esc < 0x20 ∨ esc = 0x7F := by decide
  have long : 2 ≤ (control norm.mode esc).length := by
    cases norm.mode <;> decide
  have plainBracket : ∀ x ∈ [d], Plain x := by
    rcases bracket with rfl | rfl <;> exact plain_of_all (by decide)
  have plainControl := plain_control isControl norm.mode
  have plainRaw : ∀ x ∈ [esc, d], Plain x :=
    List.forall_mem_cons.mpr ⟨by decide, plainBracket⟩
  have together : byteTokens norm esc ++ byteTokens norm d =
      bytewise (control norm.mode esc ++ [d]) := by
    unfold byteTokens
    rw [shown, bracketShown, tokens_open (open_of_plain plainControl),
      bytewise_concat]
    rfl
  unfold chunkTokens
  rw [together, normalize_sequence preserve bracket,
    tokens_open (open_of_plain plainRaw)]
  refine tells_of_length plainRaw
    (List.forall_mem_append.mpr ⟨plainControl, plainBracket⟩) (by simp) ?_
  rw [List.length_append]
  exact Nat.lt_succ_of_le long

theorem Tells.after {mode : LineEndingMode} {first second : List Bytes}
    (tells : Tells mode first second) (front : List Bytes) :
    Tells mode (front ++ first) (front ++ second) := by
  refine ⟨fun atLineEnd => ?_, fun atLineEnd => ?_⟩
  · rw [lineEndAfter_append, lineEndAfter_append, tells.same]
  · rw [labelled_append, labelled_append]
    exact fun same => tells.differ _ (List.append_cancel_left same)

/-- Where both bytes end lines, the line ending has a label inside when it is
cut. -/
theorem tells_asIs {mode : LineEndingMode} {c e : UInt8} (rest : Bytes)
    (first : [c] ∈ eols mode) (pair : [c, e] ∈ eols mode)
    (second : [e] ∈ eols mode) :
    Tells mode ([c, e] :: tokens mode rest)
      ([c] :: tokens mode (e :: rest)) := by
  refine ⟨fun atLineEnd => ?_, fun atLineEnd => ?_⟩
  · rw [lineEndAfter, lineEndAfter, decide_eq_true pair,
      lineEndAfter_tokens (List.cons_ne_nil e rest)]
    rcases eq_or_ne rest [] with rfl | more
    · exact ((endsWithEOL_singleton_iff e).mpr second).symm
    · rw [lineEndAfter_tokens more]
      exact (endsWithEOL_append_of_front
        ((endsWithEOL_singleton_iff e).mpr second) more).symm
  · obtain ⟨token, tokens_, read⟩ := List.exists_cons_of_ne_nil
      (@tokens_ne_nil mode _ (List.cons_ne_nil e rest))
    have label : labelAt true = [82, 88, 58, 32] := by decide
    rw [labelled, labelled, read, labelled, decide_eq_true first, label]
    intro same
    rw [List.append_assoc, List.append_assoc] at same
    -- the label begins with an R, which is no newline
    have after := (List.cons.inj (List.append_cancel_left same)).2
    have isR : e = 82 := (List.cons.inj after).1
    refine not_plain_of_mem_eols second (List.mem_singleton_self e) ?_
    rw [isR]
    decide

/-- Where only the pair ends a line, the next line loses its label when it is
cut. -/
theorem tells_starts {mode : LineEndingMode} {c e : UInt8} {rest : Bytes}
    (starts : Starts mode c e) (more : rest ≠ []) :
    Tells mode ([c, e] :: tokens mode rest)
      ([c] :: tokens mode (e :: rest)) := by
  have firstGoes : [c] ∉ eols mode := fun single =>
    starts.2 (single_of_pair ⟨[c], single, rfl⟩ starts.1)
  have alone : ∀ f ∈ rest.head?, [e, f] ∉ eols mode := by
    intro f _
    rcases starts_iff.mp starts with ⟨rfl, -, rfl⟩ | ⟨rfl, -, rfl⟩
    · simp [eols, cr, lf]
    · simp [eols, cr, lf]
  obtain ⟨token, tokens_, read⟩ := List.exists_cons_of_ne_nil
    (@tokens_ne_nil mode _ more)
  rw [tokens_single alone, read]
  refine ⟨fun atLineEnd => rfl, fun atLineEnd same => ?_⟩
  rw [labelled, labelled, labelled, labelled, labelled,
    decide_eq_true starts.1, decide_eq_false firstGoes,
    decide_eq_false starts.2] at same
  have lengths := congrArg List.length same
  simp [labelAt, LineLabel.text, ascii] at lengths
  omega

/-- Where newlines are rewritten, only a tab leaves something. -/
theorem tab_of_kept_ne_nil {b : UInt8} (notAsIs : norm.lineEnding ≠ .asIs)
    (present : kept norm b ≠ []) : b = 9 ∧ kept norm b = norm.tabRender := by
  unfold kept at present ⊢
  rw [if_neg notAsIs] at present
  have isTab : b = 9 := by
    by_contra other
    exact present (if_neg other)
  exact ⟨isTab, if_pos isTab⟩

/-- A line ending between two bytes comes with more where its second byte is no
line ending. -/
theorem tells_ending {b d : UInt8}
    (straddles : Straddles norm.lineEnding (kept norm b) (kept norm d))
    (shown : d = 9 ∨ norm.showNLTag = false)
    (together : normalize norm [b, d] = rendered norm b ++ rendered norm d) :
    Tells norm.lineEnding (chunkTokens norm [b, d])
      (byteTokens norm b ++ byteTokens norm d) := by
  obtain ⟨c, keptLast, e, keptHead, pair⟩ := straddles
  have last := (half_rendered_iff pair).mpr keptLast
  have head := (head_rendered_iff pair).mpr ⟨keptHead, shown⟩
  obtain ⟨front, before, after⟩ := exists_tokens_of_straddles last pair
  obtain ⟨rest, same⟩ := List.head?_eq_some_iff.mp head
  unfold chunkTokens byteTokens
  rw [together, before, same, after, List.append_assoc]
  refine Tells.after ?_ front
  by_cases second : [e] ∈ eols norm.lineEnding
  · refine tells_asIs rest ?_ pair second
    have asIs : norm.lineEnding = .asIs := by
      by_contra notAsIs
      exact not_pair_of_single notAsIs second pair
    rw [asIs] at pair ⊢
    obtain ⟨rfl, -⟩ | ⟨rfl, -⟩ : c = cr ∧ e = lf ∨ c = lf ∧ e = cr := by
      simpa [eols] using pair
    · decide
    · decide
  · have starts : Starts norm.lineEnding c e := ⟨pair, second⟩
    refine tells_starts starts ?_
    rintro rfl
    have notAsIs : norm.lineEnding ≠ .asIs := by
      rcases starts_iff.mp starts with ⟨mode, -, -⟩ | ⟨mode, -, -⟩ <;>
        simp [mode]
    obtain ⟨isTab, second⟩ : d = 9 ∧ kept norm d = norm.tabRender :=
      tab_of_kept_ne_nil notAsIs fun none => by simp [none] at keptHead
    obtain ⟨-, first⟩ : b = 9 ∧ kept norm b = norm.tabRender :=
      tab_of_kept_ne_nil notAsIs fun none => by simp [none, half] at keptLast
    have render : norm.tabRender ≠ [] := fun none => by
      simp [second, none] at keptHead
    rw [isTab, rendered_tab, if_pos render] at same
    rw [first, same] at keptLast
    exact starts.ne (Option.some.inj keptLast)

/-- Two adjacent bytes that are not apart tell whether they came together. -/
theorem tells_of_not_apart {b d : UInt8} (notApart : ¬ Apart norm b d) :
    Tells norm.lineEnding (chunkTokens norm [b, d])
      (byteTokens norm b ++ byteTokens norm d) := by
  by_cases pair : b = cr ∧ d = lf ∨ b = lf ∧ d = cr
  · exact tells_pair pair
  · by_cases sequence : norm.preserveANSI = true ∧ b = esc ∧ (d = 91 ∨ d = 93)
    · obtain ⟨preserve, rfl, bracket⟩ := sequence
      exact tells_sequence preserve bracket
    · by_cases ending : Straddles norm.lineEnding (kept norm b) (kept norm d) ∧
          (d = 9 ∨ norm.showNLTag = false)
      · refine tells_ending ending.1 ending.2 ?_
        rw [normalize_cons, normalizeNext_of_notPair pair sequence,
          normalize_singleton]
      · exact absurd ⟨pair, sequence, ending⟩ notApart

/-! ### Cuts of a stream -/

theorem flatten_bytewise (text : Bytes) : (bytewise text).flatten = text := by
  induction text with
  | nil => rfl
  | cons b text ih => exact congrArg (b :: ·) ih

theorem flatMap_chunkTokens_bytewise (text : Bytes) :
    (bytewise text).flatMap (chunkTokens norm) =
      text.flatMap (byteTokens norm) := by
  unfold bytewise
  rw [List.flatMap_map]
  refine List.flatMap_congr fun b _ => ?_
  unfold chunkTokens byteTokens
  rw [normalize_singleton]

theorem sizes_bytewise (text : Bytes) :
    ∀ buffer ∈ bytewise text, 0 < buffer.length ∧ buffer.length ≤ readSize := by
  intro buffer member
  obtain ⟨b, -, rfl⟩ := List.mem_map.mp member
  simp [readSize]

theorem reads_bytewise (stream : Bytes) : Reads stream (bytewise stream) :=
  ⟨flatten_bytewise stream, sizes_bytewise stream⟩

/-- A stream may be read byte by byte, but for two adjacent bytes of it. -/
theorem reads_together (front rest : Bytes) (b d : UInt8) :
    Reads (front ++ b :: d :: rest)
      (bytewise front ++ [[b, d]] ++ bytewise rest) where
  whole := by
    rw [List.flatten_append, List.flatten_append, flatten_bytewise,
      flatten_bytewise]
    simp
  sizes := by
    refine List.forall_mem_append.mpr ⟨List.forall_mem_append.mpr
      ⟨sizes_bytewise front, List.forall_mem_singleton.mpr ?_⟩,
      sizes_bytewise rest⟩
    simp [readSize]

end Received

/-- What is emitted for a stream does not depend on how it is cut exactly when
all its adjacent bytes are apart. -/
theorem receivedText_eq_iff_apart (norm : NormalizationOptions)
    (stream : Bytes) :
    (∀ first second, Reads stream first → Reads stream second →
      receivedText norm first = receivedText norm second) ↔
    stream.IsChain (Apart norm) := by
  constructor
  · intro same
    rw [List.isChain_iff_forall_rel_of_append_cons_cons]
    rintro b d front rest rfl
    by_contra notApart
    have tells := tells_of_not_apart notApart
    refine tells.labelled_ne (front.flatMap (byteTokens norm))
      (rest.flatMap (byteTokens norm)) true ?_
    have equal := same _ _ (reads_together front rest b d)
      (reads_bytewise (front ++ b :: d :: rest))
    rw [receivedText_eq, receivedText_eq, flatMap_chunkTokens_bytewise,
      List.flatMap_append, List.flatMap_append, flatMap_chunkTokens_bytewise,
      flatMap_chunkTokens_bytewise] at equal
    simpa using equal
  · intro apart first second readsFirst readsSecond
    rw [receivedText_eq, receivedText_eq,
      flatMap_chunkTokens_of_apart readsFirst.whole apart,
      flatMap_chunkTokens_of_apart readsSecond.whole apart]

/-- A CRLF that is cut in two becomes two line feeds, with a label between. -/
theorem not_receivedText_eq_crlf :
    ¬ ∀ (norm : NormalizationOptions) (stream : Bytes) (first second : List Bytes),
      Reads stream first → Reads stream second →
        receivedText norm first = receivedText norm second := by
  intro same
  have equal := same { lineEnding := .lf } [cr, lf] [[cr, lf]] [[cr], [lf]]
    ⟨rfl, by decide⟩ ⟨rfl, by decide⟩
  exact absurd equal (by decide)

end Console

end JetKvm
