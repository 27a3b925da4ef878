import Mathlib.Data.List.Basic
import Mathlib.Data.List.TakeWhile
import Mathlib.Tactic.IntervalCases

/-!
# The EDID in hexadecimal

Translation of `hex_to_bytes` and `bytes_to_hex` in `ctrl.c` and of
`fix_edid_checksum` in `edid.c`.  Each pair of characters is converted by
`strtol`, which also takes blanks, a sign or a prefix before the digits.
-/

namespace JetKvm

namespace EdidHex

/-! ### Numbers as `strtol` reads them -/

/-- `isspace` in the C locale -/
def isSpace (c : UInt8) : Bool := c = 32 || (9 ≤ c && c ≤ 13)

def digit (c : UInt8) : Option Nat :=
  if 48 ≤ c ∧ c ≤ 57 then some (c.toNat - 48)
  else if 97 ≤ c ∧ c ≤ 102 then some (c.toNat - 87)
  else if 65 ≤ c ∧ c ≤ 70 then some (c.toNat - 55)
  else none

/-- The number made of the leading digits, and what follows them -/
def digits (value : Nat) : List UInt8 → Nat × List UInt8
  | [] => (value, [])
  | c :: rest =>
      match digit c with
      | none => (value, c :: rest)
      | some d => digits (value * 16 + d) rest

def sign : List UInt8 → Int × List UInt8
  | [] => (1, [])
  | c :: rest =>
      if c = 45 then (-1, rest) else if c = 43 then (1, rest) else (1, c :: rest)

/-- `0x` counts as a prefix only where a digit follows it. -/
def dropPrefix : List UInt8 → List UInt8
  | zero :: x :: d :: rest =>
      if zero = 48 ∧ (x = 120 ∨ x = 88) ∧ (digit d).isSome then d :: rest
      else zero :: x :: d :: rest
  | text => text

/-- `strtol` in base 16, for so few digits that a `long` holds them: the value
and what `endptr` points to, which is all of the text if it has no number -/
def strtol (text : List UInt8) : Int × List UInt8 :=
  let (factor, body) := sign (text.dropWhile isSpace)
  match dropPrefix body with
  | [] => (0, text)
  | c :: rest =>
      match digit c with
      | none => (0, text)
      | some d => (factor * (digits d rest).1, (digits d rest).2)

/-! ### The conversions -/

def strnlen (text : List UInt8) (maxLen : Nat) : Nat :=
  min (text.takeWhile (· ≠ 0)).length maxLen

/-- What is returned, and the bytes that were stored -/
structure Conversion where
  result : Int
  bytes : List UInt8
  deriving DecidableEq, Repr

/-- The loop over the pairs, with the bytes stored so far -/
def convertPairs (bytes : List UInt8) : List UInt8 → Conversion
  | a :: b :: rest =>
      let (value, endPtr) := strtol [a, b]
      if endPtr ≠ [] ∨ value < 0 ∨ 255 < value then ⟨-1, bytes⟩
      else convertPairs (bytes ++ [UInt8.ofNat value.toNat]) rest
  | _ => ⟨bytes.length, bytes⟩

def hexToBytes (hexStr : List UInt8) (maxLen : Nat) : Conversion :=
  let hexLen := strnlen hexStr 4096
  if hexLen % 2 ≠ 0 ∨ maxLen < hexLen / 2 then ⟨-1, []⟩
  else convertPairs [] (hexStr.take hexLen)

def hexChar (n : Nat) : UInt8 :=
  UInt8.ofNat (if n < 10 then 48 + n else 87 + n)

/-- `"%02x"` -/
def hexByte (b : UInt8) : List UInt8 :=
  [hexChar (b.toNat / 16), hexChar (b.toNat % 16)]

/-- NULL where there are no bytes; the allocation is taken to succeed. -/
def bytesToHex (bytes : List UInt8) : Option (List UInt8) :=
  if bytes = [] then none else some (bytes.flatMap hexByte)

/-! ### The checksum -/

/-- `fix_edid_checksum` on one block -/
def fixBlock (edid : List UInt8) (block : Nat) : List UInt8 :=
  let sum := (List.range 127).foldl
    (fun sum i => sum + edid.getD (block * 128 + i) 0) 0
  edid.set (block * 128 + 127) (UInt8.ofNat (256 - sum.toNat))

/-- The whole of the array is the EDID. -/
def fixEdidChecksum (edid : List UInt8) : List UInt8 :=
  (List.range (edid.length / 128)).foldl fixBlock edid

/-! ### What the conversions should do -/

def isHexDigit (c : UInt8) : Bool := (digit c).isSome

def toLower (c : UInt8) : UInt8 := if 65 ≤ c ∧ c ≤ 90 then c + 32 else c

/-- The text is `2 * n` hexadecimal digits, and there is room for `n` bytes. -/
def IsHex (text : List UInt8) (n maxLen : Nat) : Prop :=
  text.length = 2 * n ∧ (∀ c ∈ text, isHexDigit c = true) ∧ n ≤ maxLen

structure Converts (text : List UInt8) (maxLen : Nat) : Prop where
  accepts : ∀ n : Nat, (hexToBytes text maxLen).result = n ↔ IsHex text n maxLen
  back : ∀ n : Nat, IsHex text n maxLen →
    bytesToHex (hexToBytes text maxLen).bytes = some (text.map toLower)

def blockSum (edid : List UInt8) (block : Nat) : Nat :=
  ((List.range 128).map fun i => (edid.getD (block * 128 + i) 0).toNat).sum

structure Checked (edid fixed : List UInt8) : Prop where
  length : fixed.length = edid.length
  sums : ∀ block < edid.length / 128, blockSum fixed block % 256 = 0
  others : ∀ i, ¬ (i % 128 = 127 ∧ i / 128 < edid.length / 128) →
    fixed[i]? = edid[i]?

/-- A pair that `strtol` takes though it is not two digits -/
def loose (a b : UInt8) : Bool :=
  ((isSpace a || a = 43) && isHexDigit b) || (a = 45 && b = 48)

/-- The characters in twos -/
def pairs : List UInt8 → List (UInt8 × UInt8)
  | a :: b :: rest => (a, b) :: pairs rest
  | _ => []

/-- There is a text; if it is pairs of digits and loose pairs for which there is
room, then it has no loose pair. -/
def Strict (text : List UInt8) (maxLen : Nat) : Prop :=
  text ≠ [] ∧ (text.length % 2 = 0 → text.length / 2 ≤ maxLen →
    (∀ pair ∈ pairs text, (isHexDigit pair.1 && isHexDigit pair.2) ||
      loose pair.1 pair.2) → ∀ pair ∈ pairs text, loose pair.1 pair.2 = false)

/-! ### Single characters -/

theorem forall_byte {holds : UInt8 → Prop}
    (all : ∀ n < 256, holds (UInt8.ofNat n)) (c : UInt8) : holds c := by
  have this := all c.toNat c.toNat_lt
  rwa [UInt8.ofNat_toNat] at this

theorem digit_of_isSpace : ∀ c : UInt8, isSpace c = true →
    digit c = none ∧ c ≠ 45 ∧ c ≠ 43 :=
  forall_byte (by decide +kernel)

theorem digit_lt : ∀ c : UInt8, ∀ d ∈ digit c, d < 16 :=
  forall_byte (by decide +kernel)

theorem digit_eq_zero_iff : ∀ c : UInt8, digit c = some 0 ↔ c = 48 :=
  forall_byte (by decide +kernel)

theorem hexChar_digit : ∀ c : UInt8, ∀ d ∈ digit c, hexChar d = toLower c :=
  forall_byte (by decide +kernel)

theorem digit_of_sign {c : UInt8} (isSign : c = 45 ∨ c = 43) :
    digit c = none ∧ isSpace c = false := by
  rcases isSign with rfl | rfl <;> decide

/-! ### Pairs -/

section Pairs

variable {a b : UInt8}

/-- The pair is converted to a byte. -/
def Accepted (a b : UInt8) : Prop :=
  (strtol [a, b]).2 = [] ∧ 0 ≤ (strtol [a, b]).1 ∧ (strtol [a, b]).1 ≤ 255

theorem not_accepted {value : Int} {c : UInt8} {rest : List UInt8}
    (read : strtol [a, b] = (value, c :: rest)) : ¬ Accepted a b := by
  rintro ⟨ended, -⟩
  rw [read] at ended
  cases ended

theorem sign_of_other {c : UInt8} (noSign : ¬ (c = 45 ∨ c = 43))
    (rest : List UInt8) : sign (c :: rest) = (1, c :: rest) := by
  simp only [sign, if_neg (not_or.mp noSign).1, if_neg (not_or.mp noSign).2]

theorem sign_of_digit {c : UInt8} {d : Nat} (isDigit : digit c = some d)
    (rest : List UInt8) : sign (c :: rest) = (1, c :: rest) := by
  have noSign : ¬ (c = 45 ∨ c = 43) := fun isSign => by
    rw [(digit_of_sign isSign).1] at isDigit
    cases isDigit
  exact sign_of_other noSign rest

theorem isSpace_of_digit {c : UInt8} {d : Nat} (isDigit : digit c = some d) :
    isSpace c = false := by
  by_contra space
  rw [(digit_of_isSpace c (Bool.not_eq_false _ ▸ space)).1] at isDigit
  cases isDigit

/-- After blanks or a sign there is one digit at most. -/
theorem strtol_rest {factor : Int} {text : List UInt8}
    (body : sign (text.dropWhile isSpace) = (factor, [b])) :
    strtol text =
      match digit b with
      | none => (0, text)
      | some d => (factor * d, []) := by
  unfold strtol
  rw [body]
  simp only [dropPrefix]
  cases digit b with
  | none => rfl
  | some d => rfl

theorem strtol_digits {m n : Nat} (first : digit a = some m)
    (second : digit b = some n) :
    strtol [a, b] = (((m * 16 + n : Nat) : Int), []) := by
  have body : sign (List.dropWhile isSpace [a, b]) = (1, [a, b]) := by
    rw [List.dropWhile_cons_of_neg (by simp [isSpace_of_digit first])]
    exact sign_of_digit first [b]
  unfold strtol
  rw [body]
  simp [dropPrefix, first, digits, second]

theorem accepted_digits {m n : Nat} (first : digit a = some m)
    (second : digit b = some n) : Accepted a b := by
  have firstSmall := digit_lt a m first
  have secondSmall := digit_lt b n second
  unfold Accepted
  rw [strtol_digits first second]
  exact ⟨rfl, by omega, by omega⟩

theorem accepted_space_iff (space : isSpace a = true) :
    Accepted a b ↔ isHexDigit b = true := by
  unfold isHexDigit
  cases here : digit b with
  | some d =>
      have body : sign (List.dropWhile isSpace [a, b]) = (1, [b]) := by
        rw [List.dropWhile_cons_of_pos space,
          List.dropWhile_cons_of_neg (by simp [isSpace_of_digit here])]
        exact sign_of_digit here []
      have small := digit_lt b d here
      unfold Accepted
      rw [strtol_rest body, here]
      exact iff_of_true ⟨rfl, by dsimp only; omega, by dsimp only; omega⟩ rfl
  | none =>
      refine iff_of_false (not_accepted
        (show strtol [a, b] = (0, [a, b]) from ?_)) nofun
      unfold strtol
      rw [List.dropWhile_cons_of_pos space]
      by_cases again : isSpace b = true
      · rw [List.dropWhile_cons_of_pos again]
        rfl
      · rw [List.dropWhile_cons_of_neg again]
        by_cases isSign : b = 45 ∨ b = 43
        · rcases isSign with rfl | rfl <;> rfl
        · rw [sign_of_other isSign]
          simp [dropPrefix, here]

theorem accepted_sign_iff (isSign : a = 45 ∨ a = 43) :
    Accepted a b ↔ isHexDigit b = true ∧ (a = 45 → b = 48) := by
  have notSpace := (digit_of_sign isSign).2
  have body : sign (List.dropWhile isSpace [a, b]) =
      (if a = 45 then -1 else 1, [b]) := by
    rw [List.dropWhile_cons_of_neg (by simp [notSpace])]
    rcases isSign with rfl | rfl <;> rfl
  have read := strtol_rest body
  unfold isHexDigit
  cases here : digit b with
  | none =>
      rw [here] at read
      exact iff_of_false (not_accepted read) nofun
  | some d =>
      have small := digit_lt b d here
      have zero := digit_eq_zero_iff b
      rw [here, Option.some.injEq] at zero
      rw [here] at read
      unfold Accepted
      rw [read, ← zero]
      rcases isSign with rfl | rfl
      · simp
      · simp
        omega

theorem not_accepted_of_other (notDigit : digit a = none)
    (notSpace : isSpace a = false) (noSign : ¬ (a = 45 ∨ a = 43)) :
    ¬ Accepted a b := by
  refine not_accepted (show strtol [a, b] = (0, [a, b]) from ?_)
  have body : sign (List.dropWhile isSpace [a, b]) = (1, [a, b]) := by
    rw [List.dropWhile_cons_of_neg (by simp [notSpace])]
    exact sign_of_other noSign [b]
  unfold strtol
  rw [body]
  simp [dropPrefix, notDigit]

theorem not_accepted_of_half {m : Nat} (first : digit a = some m)
    (second : digit b = none) : ¬ Accepted a b := by
  refine not_accepted (show strtol [a, b] = ((m : Int), [b]) from ?_)
  have body : sign (List.dropWhile isSpace [a, b]) = (1, [a, b]) := by
    rw [List.dropWhile_cons_of_neg (by simp [isSpace_of_digit first])]
    exact sign_of_digit first [b]
  unfold strtol
  rw [body]
  simp [dropPrefix, first, digits, second]

/-- `strtol` takes two digits, one after a blank or a plus, and `-0`. -/
theorem accepted_iff :
    Accepted a b ↔
      ((isHexDigit a && isHexDigit b) || loose a b) = true := by
  by_cases space : isSpace a = true
  · obtain ⟨notDigit, notMinus, -⟩ := digit_of_isSpace a space
    rw [accepted_space_iff space]
    simp [isHexDigit, loose, notDigit, space, notMinus]
  have notSpace : isSpace a = false := Bool.not_eq_true _ ▸ space
  by_cases isSign : a = 45 ∨ a = 43
  · rw [accepted_sign_iff isSign]
    have notDigit := (digit_of_sign isSign).1
    have zero : b = 48 → isHexDigit b = true := by
      rintro rfl
      decide
    rcases isSign with rfl | rfl
    · simpa [isHexDigit, loose, notDigit, notSpace] using zero
    · simp [isHexDigit, loose, notDigit, notSpace]
  have noLoose : loose a b = false := by
    simp [loose, notSpace, not_or.mp isSign]
  rw [noLoose, Bool.or_false, Bool.and_eq_true]
  unfold isHexDigit
  cases first : digit a with
  | none => exact iff_of_false (not_accepted_of_other first notSpace isSign) (by simp)
  | some m =>
      cases second : digit b with
      | none => exact iff_of_false (not_accepted_of_half first second) (by simp)
      | some n => exact iff_of_true (accepted_digits first second) ⟨rfl, rfl⟩

end Pairs

/-! ### The loop over the pairs -/

theorem hexByte_digits {a b : UInt8} {m n : Nat} (first : digit a = some m)
    (second : digit b = some n) :
    hexByte (UInt8.ofNat (m * 16 + n)) = [toLower a, toLower b] := by
  have firstSmall := digit_lt a m first
  have secondSmall := digit_lt b n second
  have value : (UInt8.ofNat (m * 16 + n)).toNat = m * 16 + n := by
    rw [UInt8.toNat_ofNat']
    exact Nat.mod_eq_of_lt (by omega)
  have high : (m * 16 + n) / 16 = m := by omega
  have low : (m * 16 + n) % 16 = n := by omega
  unfold hexByte
  rw [value, high, low, hexChar_digit a m first, hexChar_digit b n second]

theorem convertPairs_cons (bytes : List UInt8) (a b : UInt8) (rest : List UInt8) :
    convertPairs bytes (a :: b :: rest) =
      if (isHexDigit a && isHexDigit b) || loose a b then
        convertPairs (bytes ++ [UInt8.ofNat (strtol [a, b]).1.toNat]) rest
      else ⟨-1, bytes⟩ := by
  have unfolded : convertPairs bytes (a :: b :: rest) =
      if (strtol [a, b]).2 ≠ [] ∨ (strtol [a, b]).1 < 0 ∨ 255 < (strtol [a, b]).1
      then ⟨-1, bytes⟩
      else convertPairs (bytes ++ [UInt8.ofNat (strtol [a, b]).1.toNat]) rest := rfl
  rw [unfolded]
  by_cases accepted : Accepted a b
  · obtain ⟨ended, lower, upper⟩ := accepted
    rw [if_pos (accepted_iff.mp ⟨ended, lower, upper⟩), if_neg]
    rintro (more | negative | large)
    · exact more ended
    · omega
    · omega
  · rw [if_neg (mt accepted_iff.mpr accepted), if_pos]
    by_contra fine
    push Not at fine
    exact accepted ⟨fine.1, fine.2.1, fine.2.2⟩

/-- The loop is through exactly if all pairs are accepted. -/
theorem result_convertPairs (text : List UInt8) (bytes : List UInt8) (n : Nat) :
    (convertPairs bytes text).result = n ↔
      n = bytes.length + text.length / 2 ∧
        ∀ pair ∈ pairs text, (isHexDigit pair.1 && isHexDigit pair.2) ||
          loose pair.1 pair.2 := by
  induction text using pairs.induct generalizing bytes with
  | case1 a b rest ih =>
      rw [convertPairs_cons, pairs, List.forall_mem_cons]
      split
      · rename_i accepted
        rw [ih, List.length_append, List.length_singleton, List.length_cons,
          List.length_cons]
        refine and_congr (by omega) ⟨fun later => ⟨accepted, later⟩, And.right⟩
      · rename_i refused
        refine iff_of_false ?_ fun all => refused all.2.1
        dsimp only
        omega
  | case2 text short =>
      have ends : text = [] ∨ ∃ c, text = [c] := by
        match text with
        | [] => exact .inl rfl
        | [c] => exact .inr ⟨c, rfl⟩
        | a :: b :: rest => exact absurd rfl (short a b rest)
      rcases ends with rfl | ⟨c, rfl⟩
      · simpa [convertPairs, pairs] using eq_comm
      · simpa [convertPairs, pairs] using eq_comm

theorem isHexDigit_of_loose {a b : UInt8} (isLoose : loose a b = true) :
    isHexDigit a = false := by
  have notDigit : digit a = none := by
    simp only [loose, Bool.or_eq_true, Bool.and_eq_true, decide_eq_true_eq]
      at isLoose
    rcases isLoose with ⟨space | plus, -⟩ | ⟨minus, -⟩
    · exact (digit_of_isSpace a space).1
    · exact (digit_of_sign (.inr plus)).1
    · exact (digit_of_sign (.inl minus)).1
  rw [isHexDigit, notDigit]
  rfl

/-- The pairs cover a text of even length. -/
theorem forall_pairs_iff {text : List UInt8} (even : text.length % 2 = 0) :
    (∀ pair ∈ pairs text, isHexDigit pair.1 = true ∧ isHexDigit pair.2 = true) ↔
      ∀ c ∈ text, isHexDigit c = true := by
  induction text using pairs.induct with
  | case1 a b rest ih =>
      have evenRest : rest.length % 2 = 0 := by
        rw [List.length_cons, List.length_cons] at even
        omega
      rw [pairs, List.forall_mem_cons, List.forall_mem_cons, List.forall_mem_cons,
        ih evenRest, and_assoc]
  | case2 text short =>
      match text with
      | [] => simp [pairs]
      | [c] => exact absurd even (by simp)
      | a :: b :: rest => exact absurd rfl (short a b rest)

/-- What is stored prints as what was read. -/
theorem hexBytes_convertPairs {text : List UInt8} (even : text.length % 2 = 0)
    (allDigits : ∀ c ∈ text, isHexDigit c = true) (bytes : List UInt8) :
    (convertPairs bytes text).bytes.flatMap hexByte =
      bytes.flatMap hexByte ++ text.map toLower := by
  induction text using pairs.induct generalizing bytes with
  | case1 a b rest ih =>
      rw [List.forall_mem_cons, List.forall_mem_cons] at allDigits
      obtain ⟨first, second, later⟩ := allDigits
      have evenRest : rest.length % 2 = 0 := by
        rw [List.length_cons, List.length_cons] at even
        omega
      rw [convertPairs_cons, if_pos (by simp [first, second]), ih evenRest later]
      obtain ⟨m, first⟩ := Option.isSome_iff_exists.mp first
      obtain ⟨n, second⟩ := Option.isSome_iff_exists.mp second
      rw [strtol_digits first second, Int.toNat_natCast, List.flatMap_append,
        List.flatMap_singleton, hexByte_digits first second, List.append_assoc]
      rfl
  | case2 text short =>
      match text with
      | [] => simp [convertPairs]
      | [c] => exact absurd even (by simp)
      | a :: b :: rest => exact absurd rfl (short a b rest)

section Text

variable {text : List UInt8} {maxLen : Nat}

theorem strnlen_eq (noNul : 0 ∉ text) (short : text.length < 4096) :
    strnlen text 4096 = text.length := by
  have whole : text.takeWhile (· ≠ 0) = text :=
    List.takeWhile_eq_self_iff.mpr fun c inText =>
      decide_eq_true fun isNul => noNul (isNul ▸ inText)
  rw [strnlen, whole]
  omega

theorem hexToBytes_eq (noNul : 0 ∉ text) (short : text.length < 4096) :
    hexToBytes text maxLen =
      if text.length % 2 ≠ 0 ∨ maxLen < text.length / 2 then ⟨-1, []⟩
      else convertPairs [] text := by
  unfold hexToBytes
  rw [strnlen_eq noNul short]
  dsimp only
  rw [List.take_length]

theorem result_hexToBytes (noNul : 0 ∉ text) (short : text.length < 4096)
    (n : Nat) :
    (hexToBytes text maxLen).result = n ↔
      text.length = 2 * n ∧ n ≤ maxLen ∧
        ∀ pair ∈ pairs text, (isHexDigit pair.1 && isHexDigit pair.2) ||
          loose pair.1 pair.2 := by
  rw [hexToBytes_eq noNul short]
  split
  · rename_i refused
    refine iff_of_false (by dsimp only; omega) ?_
    rintro ⟨double, room, -⟩
    omega
  · rename_i fits
    rw [result_convertPairs, List.length_nil, ← and_assoc]
    exact and_congr_left fun _ => by omega

theorem accepts_iff (noNul : 0 ∉ text) (short : text.length < 4096) :
    (∀ n : Nat, (hexToBytes text maxLen).result = n ↔ IsHex text n maxLen) ↔
      (text.length % 2 = 0 → text.length / 2 ≤ maxLen →
        (∀ pair ∈ pairs text, (isHexDigit pair.1 && isHexDigit pair.2) ||
          loose pair.1 pair.2) →
        ∀ pair ∈ pairs text, loose pair.1 pair.2 = false) := by
  constructor
  · intro accepts even room all pair inPairs
    have isHex := (accepts (text.length / 2)).mp
      ((result_hexToBytes noNul short _).mpr ⟨by omega, room, all⟩)
    by_contra isLoose
    have notDigit := isHexDigit_of_loose (Bool.not_eq_false _ ▸ isLoose)
    rw [((forall_pairs_iff even).mpr isHex.2.1 pair inPairs).1] at notDigit
    cases notDigit
  · intro strict n
    rw [result_hexToBytes noNul short]
    unfold IsHex
    refine and_congr_right fun double => ?_
    have even : text.length % 2 = 0 := by omega
    rw [and_comm, ← forall_pairs_iff even]
    refine and_congr_left fun room =>
      ⟨fun all pair inPairs => ?_, fun all pair inPairs => ?_⟩
    · have here := all pair inPairs
      rw [strict even (by omega) all pair inPairs, Bool.or_false,
        Bool.and_eq_true] at here
      exact here
    · rw [(all pair inPairs).1, (all pair inPairs).2]
      rfl

theorem back_iff (noNul : 0 ∉ text) (short : text.length < 4096) :
    (∀ n : Nat, IsHex text n maxLen →
      bytesToHex (hexToBytes text maxLen).bytes = some (text.map toLower)) ↔
      text ≠ [] := by
  constructor
  · rintro back rfl
    exact nomatch back 0 ⟨rfl, nofun, Nat.zero_le _⟩
  · intro nonempty n isHex
    obtain ⟨double, allDigits, room⟩ := isHex
    rw [hexToBytes_eq noNul short, if_neg (by omega), bytesToHex]
    have printed := hexBytes_convertPairs (by omega) allDigits []
    rw [List.flatMap_nil, List.nil_append] at printed
    rw [if_neg, printed]
    intro nothing
    rw [nothing, List.flatMap_nil] at printed
    exact nonempty (List.map_eq_nil_iff.mp printed.symm)

theorem converts_iff (noNul : 0 ∉ text) (short : text.length < 4096) :
    Converts text maxLen ↔ Strict text maxLen :=
  ⟨fun converts => ⟨(back_iff noNul short).mp converts.back,
      (accepts_iff noNul short).mp converts.accepts⟩,
    fun strict => ⟨(accepts_iff noNul short).mpr strict.2,
      (back_iff noNul short).mpr strict.1⟩⟩

end Text

/-! ### The checksum of a block -/

section Checksum

variable {edid : List UInt8}

def partSum (edid : List UInt8) (block n : Nat) : Nat :=
  ((List.range n).map fun i => (edid.getD (block * 128 + i) 0).toNat).sum

theorem partSum_succ (block n : Nat) :
    partSum edid block (n + 1) =
      partSum edid block n + (edid.getD (block * 128 + n) 0).toNat := by
  simp [partSum, List.range_succ]

theorem partSum_congr {fixed : List UInt8} {block n : Nat}
    (same : ∀ i < n, fixed[block * 128 + i]? = edid[block * 128 + i]?) :
    partSum fixed block n = partSum edid block n := by
  unfold partSum
  congr 1
  refine List.map_congr_left fun i inRange => ?_
  rw [List.getD_eq_getElem?_getD, List.getD_eq_getElem?_getD,
    same i (List.mem_range.mp inRange)]

/-- The sum in eight bits wraps around. -/
theorem toNat_sum (block n : Nat) :
    ((List.range n).foldl
      (fun sum i => sum + edid.getD (block * 128 + i) 0) (0 : UInt8)).toNat =
      partSum edid block n % 256 := by
  induction n with
  | zero => rfl
  | succ n ih =>
      rw [List.range_succ, List.foldl_concat, UInt8.toNat_add, ih, partSum_succ]
      omega

theorem length_fixBlock (block : Nat) :
    (fixBlock edid block).length = edid.length :=
  List.length_set

theorem getElem?_fixBlock {block i : Nat} (other : i ≠ block * 128 + 127) :
    (fixBlock edid block)[i]? = edid[i]? :=
  List.getElem?_set_ne other.symm

theorem blockSum_fixBlock {block : Nat} (inside : block < edid.length / 128) :
    blockSum (fixBlock edid block) block % 256 = 0 := by
  have last : ((fixBlock edid block).getD (block * 128 + 127) 0).toNat =
      (256 - partSum edid block 127 % 256) % 256 := by
    rw [← toNat_sum, List.getD_eq_getElem?_getD, fixBlock,
      List.getElem?_set_self (by omega), Option.getD_some, UInt8.toNat_ofNat']
  have first : partSum (fixBlock edid block) block 127 = partSum edid block 127 :=
    partSum_congr fun i small => getElem?_fixBlock (by omega)
  have whole : blockSum (fixBlock edid block) block =
      partSum (fixBlock edid block) block (127 + 1) := rfl
  rw [whole, partSum_succ, first, last]
  omega

theorem blockSum_fixBlock_of_ne {block other : Nat} (different : other ≠ block) :
    blockSum (fixBlock edid block) other = blockSum edid other :=
  partSum_congr fun i small => getElem?_fixBlock (by omega)

/-- The first `n` blocks are fixed one after another. -/
theorem foldl_fixBlock {n : Nat} (inside : n ≤ edid.length / 128) :
    ((List.range n).foldl fixBlock edid).length = edid.length ∧
      (∀ block < n, blockSum ((List.range n).foldl fixBlock edid) block % 256 = 0) ∧
      ∀ i, ¬ (i % 128 = 127 ∧ i / 128 < n) →
        ((List.range n).foldl fixBlock edid)[i]? = edid[i]? := by
  induction n with
  | zero => exact ⟨rfl, nofun, fun _ _ => rfl⟩
  | succ n ih =>
      obtain ⟨length, sums, others⟩ := ih (by omega)
      rw [List.range_succ, List.foldl_concat]
      refine ⟨(length_fixBlock n).trans length, fun block small => ?_,
        fun i other => ?_⟩
      · rcases Nat.lt_succ_iff_lt_or_eq.mp small with earlier | rfl
        · rw [blockSum_fixBlock_of_ne (Nat.ne_of_lt earlier)]
          exact sums block earlier
        · exact blockSum_fixBlock (by rw [length]; omega)
      · rw [getElem?_fixBlock (by omega)]
        exact others i (by omega)

theorem checked_fixEdidChecksum (edid : List UInt8) :
    Checked edid (fixEdidChecksum edid) :=
  have ⟨length, sums, others⟩ := foldl_fixBlock (Nat.le_refl _)
  ⟨length, sums, others⟩

end Checksum

/-- The texts are converted as hexadecimal digits, back as well, except for the
empty text and those with a pair that only `strtol` takes. -/
theorem converts_and_checked_iff_strict (text edid : List UInt8) (maxLen : Nat)
    (noNul : 0 ∉ text) (short : text.length < 4096) :
    Converts text maxLen ∧ Checked edid (fixEdidChecksum edid) ↔
      Strict text maxLen :=
  (and_iff_left (checked_fixEdidChecksum edid)).trans (converts_iff noNul short)

/-- The two digits `A7` with room for a byte, and a block of 128 ones -/
theorem converts_and_checked_iff_strict_digits :
    0 ∉ ([65, 55] : List UInt8) ∧ [65, 55].length < 4096 ∧
      fixEdidChecksum (.replicate 128 1) = .replicate 127 1 ++ [129] ∧
      (Converts [65, 55] 256 ∧
          Checked (.replicate 128 1) (fixEdidChecksum (.replicate 128 1)) ↔
        Strict [65, 55] 256) :=
  ⟨by decide, by decide, by decide +kernel,
    converts_and_checked_iff_strict [65, 55] (.replicate 128 1) 256 (by decide)
      (by decide)⟩

/-- A blank and `f` count as a byte. -/
theorem not_converts_blank :
    ¬ ∀ (text edid : List UInt8) (maxLen : Nat), 0 ∉ text → text.length < 4096 →
      Converts text maxLen ∧ Checked edid (fixEdidChecksum edid) := by
  intro all
  obtain ⟨converts, -⟩ := all [32, 102] [] 256 (by decide) (by decide)
  have isHex := (converts.accepts 1).mp (by decide)
  exact absurd (isHex.2.1 32 (by decide)) (by decide)

end EdidHex

end JetKvm
