import Mathlib.Algebra.Group.Nat.Defs
import Mathlib.Data.List.Basic
import Mathlib.Data.List.TakeWhile
import Mathlib.Tactic.SplitIfs

/-!
# The text of Go addresses

`net.IP`, `net.IPMask` and `net.IPNet` print their values; a program that uses
the printed form as a key relies on it to tell addresses apart.  An address is
a string of bytes, where an IPv4 address may have 4 bytes or be mapped into 16,
and an IPv6 address is printed with its longest run of zero groups left out.
-/

namespace JetKvm

namespace IpText

/-- `net.IP`; nil is the empty list. -/
abbrev IP := List UInt8

/-- `net.IPMask` -/
abbrev IPMask := List UInt8

def v4InV6Prefix : List UInt8 := List.replicate 10 0 ++ [255, 255]

def to4 (ip : IP) : Option IP :=
  if ip.length = 4 then some ip
  else if ip.length = 16 ∧ ip.take 12 = v4InV6Prefix then some (ip.drop 12)
  else none

/-- An address in as few bytes as it has a form of -/
def canonical (ip : IP) : IP :=
  (to4 ip).getD ip

/-- `IP.Equal` -/
def equal (first second : IP) : Bool :=
  if first.length = second.length then first = second
  else if first.length = 4 ∧ second.length = 16 then
    second.take 12 = v4InV6Prefix ∧ first = second.drop 12
  else if first.length = 16 ∧ second.length = 4 then
    first.take 12 = v4InV6Prefix ∧ first.drop 12 = second
  else false

/-! ### Digits -/

def decimal (n : Nat) : List Char := Nat.toDigits 10 n

def hexDigits (n : Nat) : List Char := Nat.toDigits 16 n

/-- Bytes as two hexadecimal digits each -/
def hexString (bytes : List UInt8) : List Char :=
  bytes.flatMap fun byte =>
    [Nat.digitChar (byte.toNat / 16), Nat.digitChar (byte.toNat % 16)]

theorem digitChar_inj {m n : Nat} (mSmall : m < 16) (nSmall : n < 16)
    (same : m.digitChar = n.digitChar) : m = n := by
  have all : ∀ m < 16, ∀ n < 16, m.digitChar = n.digitChar → m = n := by decide
  exact all m mSmall n nSmall same

theorem toDigits_inj {b : Nat} (two : 1 < b) (sixteen : b ≤ 16) {m n : Nat}
    (same : Nat.toDigits b m = Nat.toDigits b n) : m = n := by
  induction m using Nat.strongRecOn generalizing n with
  | _ m ih =>
      have mDigit : m % b < 16 :=
        Nat.lt_of_lt_of_le (Nat.mod_lt m (by omega)) sixteen
      have nDigit : n % b < 16 :=
        Nat.lt_of_lt_of_le (Nat.mod_lt n (by omega)) sixteen
      rw [Nat.toDigits_eq_if two, @Nat.toDigits_eq_if b n two] at same
      split_ifs at same with mSmall nSmall nSmall
      · exact digitChar_inj (by omega) (by omega) (List.singleton_inj.mp same)
      · have lengths := congrArg List.length same
        have nonempty := @Nat.length_toDigits_pos b (n / b)
        simp only [List.length_append, List.length_singleton] at lengths
        omega
      · have lengths := congrArg List.length same
        have nonempty := @Nat.length_toDigits_pos b (m / b)
        simp only [List.length_append, List.length_singleton] at lengths
        omega
      · obtain ⟨high, low⟩ := List.append_singleton_inj.mp same
        have quotients := ih (m / b) (Nat.div_lt_self (by omega) two) high
        have remainders := digitChar_inj mDigit nDigit low
        rw [← Nat.div_add_mod m b, ← Nat.div_add_mod n b, quotients, remainders]

theorem mem_toDigits {b : Nat} (two : 1 < b) {n : Nat} {c : Char}
    (member : c ∈ Nat.toDigits b n) : ∃ digit < b, c = digit.digitChar := by
  induction n using Nat.strongRecOn with
  | _ n ih =>
      rw [Nat.toDigits_eq_if two] at member
      split_ifs at member with small
      · exact ⟨n, small, List.mem_singleton.mp member⟩
      · rcases List.mem_append.mp member with high | low
        · exact ih (n / b) (Nat.div_lt_self (by omega) two) high
        · exact ⟨n % b, Nat.mod_lt n (by omega), List.mem_singleton.mp low⟩

/-- The characters of hexadecimal text -/
def isHex (c : Char) : Bool :=
  (List.range 16).any fun digit => c = digit.digitChar

theorem isHex_digitChar {digit : Nat} (small : digit < 16) :
    isHex digit.digitChar = true := by
  rw [isHex, List.any_eq_true]
  exact ⟨digit, List.mem_range.mpr small, by simp⟩

theorem isHex_of_mem_toDigits {b : Nat} (two : 1 < b) (sixteen : b ≤ 16)
    {n : Nat} {c : Char} (member : c ∈ Nat.toDigits b n) : isHex c = true := by
  obtain ⟨digit, small, rfl⟩ := mem_toDigits two member
  exact isHex_digitChar (Nat.lt_of_lt_of_le small sixteen)

theorem isHex_of_mem_hexString {bytes : List UInt8} {c : Char}
    (member : c ∈ hexString bytes) : isHex c = true := by
  obtain ⟨byte, -, member⟩ := List.mem_flatMap.mp member
  have small := byte.toNat_lt
  rcases List.mem_cons.mp member with rfl | member
  · exact isHex_digitChar (by omega)
  · obtain rfl := List.mem_singleton.mp member
    exact isHex_digitChar (by omega)

theorem length_hexString (bytes : List UInt8) :
    (hexString bytes).length = 2 * bytes.length := by
  induction bytes with
  | nil => rfl
  | cons byte bytes ih =>
      rw [hexString, List.flatMap_cons, List.length_append, ← hexString, ih,
        List.length_cons]
      simp only [List.length_cons, List.length_nil]
      omega

theorem hexString_inj {first second : List UInt8}
    (same : hexString first = hexString second) : first = second := by
  induction first generalizing second with
  | nil =>
      have lengths := congrArg List.length same
      rw [length_hexString, length_hexString, List.length_nil] at lengths
      exact (List.eq_nil_of_length_eq_zero (by omega)).symm
  | cons byte bytes ih =>
      cases second with
      | nil =>
          have lengths := congrArg List.length same
          rw [length_hexString, length_hexString] at lengths
          simp at lengths
      | cons other others =>
          simp only [hexString, List.flatMap_cons, List.cons_append,
            List.nil_append, List.cons.injEq] at same
          obtain ⟨high, low, rest⟩ := same
          have byteSmall := byte.toNat_lt
          have otherSmall := other.toNat_lt
          have highs := digitChar_inj (by omega) (by omega) high
          have lows := digitChar_inj (by omega) (by omega) low
          have bytesEq : byte = other := UInt8.toNat_inj.mp (by omega)
          rw [bytesEq, ih rest]

/-! ### Addresses -/

/-- The groups of 16 bits of an address -/
def groups : List UInt8 → List Nat
  | high :: low :: rest => (high.toNat * 256 + low.toNat) :: groups rest
  | _ => []

/-- Where the first longest run of at least two zero groups begins, and its
length, which is 0 if there is none. -/
def zeroRun (groups : List Nat) : Nat × Nat :=
  (List.range groups.length).foldl
    (fun best i =>
      let length := ((groups.drop i).takeWhile (· = 0)).length
      if 2 ≤ length ∧ best.2 < length then (i, length) else best)
    (0, 0)

/-- What stands between the colons on one side of the run -/
def side (groups : List Nat) : List (List Char) :=
  if groups = [] then [[]] else groups.map hexDigits

/-- What stands between the colons of an IPv6 address, nothing for the run -/
def tokens (groups : List Nat) : List (List Char) :=
  let run := zeroRun groups
  if run.2 = 0 then groups.map hexDigits
  else side (groups.take run.1) ++ [[]] ++ side (groups.drop (run.1 + run.2))

/-- `IP.String` -/
def ipText (ip : IP) : List Char :=
  if ip = [] then ['<', 'n', 'i', 'l', '>']
  else
    match to4 ip with
    | some bytes =>
        ['.'].intercalate (bytes.map fun byte => decimal byte.toNat)
    | none =>
        if ip.length = 16 then [':'].intercalate (tokens (groups ip))
        else '?' :: hexString ip

example : String.ofList (ipText [192, 168, 0, 10]) = "192.168.0.10" := by decide

example : String.ofList (ipText
    [0xfe, 0x80, 0, 0, 0, 0, 0, 0, 0, 0, 0, 0, 0, 0, 0, 1]) = "fe80::1" := by
  decide

theorem drop_length_takeWhile (test : Nat → Bool) (numbers : List Nat) :
    numbers.drop (numbers.takeWhile test).length = numbers.dropWhile test := by
  have whole := @List.takeWhile_append_dropWhile Nat test numbers
  calc
    numbers.drop (numbers.takeWhile test).length =
        (numbers.takeWhile test ++ numbers.dropWhile test).drop
          (numbers.takeWhile test).length := by rw [whole]
    _ = numbers.dropWhile test := List.drop_left

/-- The run that is left out holds zeros only. -/
theorem zeroRun_spec (groups : List Nat) :
    (zeroRun groups).2 = 0 ∨
      groups = groups.take (zeroRun groups).1 ++
        (List.replicate (zeroRun groups).2 0 ++
          groups.drop ((zeroRun groups).1 + (zeroRun groups).2)) := by
  rw [zeroRun]
  refine List.foldlRecOn (motive := fun (run : Nat × Nat) => run.2 = 0 ∨
    groups = groups.take run.1 ++
      (List.replicate run.2 0 ++ groups.drop (run.1 + run.2)))
    _ _ (Or.inl rfl) ?_
  intro best known i _
  simp only
  split_ifs
  · right
    have zeros : List.replicate ((groups.drop i).takeWhile (· = 0)).length 0 =
        (groups.drop i).takeWhile (· = 0) := by
      refine (List.eq_replicate_iff.mpr ⟨rfl, fun group member => ?_⟩).symm
      simpa using List.mem_takeWhile_imp member
    have rest : groups.drop
        (i + ((groups.drop i).takeWhile (· = 0)).length) =
          (groups.drop i).dropWhile (· = 0) := by
      rw [← List.drop_drop, drop_length_takeWhile]
    change groups = groups.take i ++ (List.replicate _ 0 ++ groups.drop _)
    rw [zeros, rest, List.takeWhile_append_dropWhile, List.take_append_drop]
  · exact known

/-- Put the zero groups back between the sides of an address. -/
def expand (width : Nat) (tokens : List (List Char)) : List (List Char) :=
  if [] ∈ tokens then
    let front := tokens.takeWhile (· ≠ [])
    let back := (tokens.reverse.takeWhile (· ≠ [])).reverse
    front ++ (List.replicate (width - (front.length + back.length)) ['0'] ++ back)
  else tokens

theorem hexDigits_ne_nil (n : Nat) : hexDigits n ≠ [] :=
  Nat.toDigits_ne_nil

theorem takeWhile_side (groups : List Nat) (rest : List (List Char)) :
    (side groups ++ [] :: rest).takeWhile (· ≠ []) = groups.map hexDigits := by
  rw [side]
  split_ifs with empty
  · simp [empty]
  · rw [List.takeWhile_append_of_pos]
    · simp
    · intro token member
      obtain ⟨group, -, rfl⟩ := List.mem_map.mp member
      simp [hexDigits_ne_nil]

theorem reverse_side (groups : List Nat) :
    (side groups).reverse = side groups.reverse := by
  rw [side, side]
  split_ifs with first second second
  · rfl
  · simp [first] at second
  · simp only [List.reverse_eq_nil_iff] at second
    exact absurd second first
  · rw [List.map_reverse]

theorem expand_tokens (groups : List Nat) :
    expand groups.length (tokens groups) = groups.map hexDigits := by
  rw [tokens]
  split_ifs with whole
  · rw [expand, if_neg]
    intro member
    obtain ⟨group, -, empty⟩ := List.mem_map.mp member
    exact hexDigits_ne_nil group empty
  · have split := (zeroRun_spec groups).resolve_left whole
    generalize groups.take (zeroRun groups).1 = front at *
    generalize groups.drop ((zeroRun groups).1 + (zeroRun groups).2) = back at *
    have present : [] ∈ side front ++ [[]] ++ side back := by simp
    have first : (side front ++ [[]] ++ side back).takeWhile (· ≠ []) =
        front.map hexDigits := by
      rw [List.append_assoc]
      exact takeWhile_side front (side back)
    have last : ((side front ++ [[]] ++ side back).reverse.takeWhile
        (· ≠ [])).reverse = back.map hexDigits := by
      rw [List.reverse_append, List.reverse_append, reverse_side,
        reverse_side, List.reverse_singleton]
      have ends := takeWhile_side back.reverse (side front.reverse)
      rw [List.singleton_append, ends, List.map_reverse, List.reverse_reverse]
    have width := congrArg List.length split
    simp only [List.length_append, List.length_replicate] at width
    rw [expand, if_pos present]
    simp only [first, last, List.length_map]
    refine Eq.trans ?_ (congrArg (List.map hexDigits) split).symm
    have zeros : groups.length - (front.length + back.length) =
        (zeroRun groups).2 := by omega
    rw [List.map_append, List.map_append, List.map_replicate, zeros]
    rfl

theorem hexDigits_injective : Function.Injective hexDigits :=
  fun _ _ same => toDigits_inj (by decide) (by decide) same

theorem tokens_inj {first second : List Nat}
    (lengths : first.length = second.length)
    (same : tokens first = tokens second) : first = second := by
  apply List.map_injective_iff.mpr hexDigits_injective
  rw [← expand_tokens first, ← expand_tokens second, lengths, same]

theorem groups_inj {first second : List UInt8} {count : Nat}
    (firstLength : first.length = 2 * count)
    (secondLength : second.length = 2 * count)
    (same : groups first = groups second) : first = second := by
  induction count generalizing first second with
  | zero =>
      rw [List.eq_nil_of_length_eq_zero firstLength,
        List.eq_nil_of_length_eq_zero secondLength]
  | succ count ih =>
      match first, second with
      | high :: low :: rest, high' :: low' :: rest' =>
          simp only [groups, List.cons.injEq] at same
          simp only [List.length_cons] at firstLength secondLength
          have lowSmall := low.toNat_lt
          have lowSmall' := low'.toNat_lt
          have highs : high = high' := UInt8.toNat_inj.mp (by omega)
          have lows : low = low' := UInt8.toNat_inj.mp (by omega)
          rw [highs, lows, ih (by omega) (by omega) same.2]
      | [], _ | [_], _ | _, [] | _, [_] =>
          simp only [List.length_nil, List.length_cons] at firstLength secondLength
          omega

theorem length_groups {bytes : List UInt8} {count : Nat}
    (length : bytes.length = 2 * count) : (groups bytes).length = count := by
  induction count generalizing bytes with
  | zero =>
      rw [List.eq_nil_of_length_eq_zero length]
      rfl
  | succ count ih =>
      match bytes with
      | _ :: _ :: rest =>
          simp only [List.length_cons] at length
          rw [groups, List.length_cons, ih (by omega)]
      | [] | [_] =>
          simp only [List.length_nil, List.length_cons] at length
          omega

theorem isHex_of_mem_tokens {groups : List Nat} {token : List Char} {c : Char}
    (listed : token ∈ tokens groups) (member : c ∈ token) : isHex c = true := by
  have ofSide : ∀ {groups : List Nat}, token ∈ side groups → isHex c = true := by
    intro groups listed
    rw [side] at listed
    split_ifs at listed
    · rw [List.mem_singleton.mp listed] at member
      cases member
    · obtain ⟨group, -, rfl⟩ := List.mem_map.mp listed
      exact isHex_of_mem_toDigits (by decide) (by decide) member
  rw [tokens] at listed
  split_ifs at listed
  · obtain ⟨group, -, rfl⟩ := List.mem_map.mp listed
    exact isHex_of_mem_toDigits (by decide) (by decide) member
  · rcases List.mem_append.mp listed with listed | listed
    · rcases List.mem_append.mp listed with listed | listed
      · exact ofSide listed
      · rw [List.mem_singleton.mp listed] at member
        cases member
    · exact ofSide listed

theorem mem_intercalate {mark c : Char} {words : List (List Char)}
    (member : c ∈ [mark].intercalate words) :
    c = mark ∨ ∃ word ∈ words, c ∈ word := by
  induction words with
  | nil => simp at member
  | cons word words ih =>
      cases words with
      | nil => exact .inr ⟨word, by simp, by simpa using member⟩
      | cons next words =>
          rw [List.intercalate_cons_cons, List.append_assoc] at member
          rcases List.mem_append.mp member with here | member
          · exact .inr ⟨word, by simp, here⟩
          · rcases List.mem_append.mp member with sign | later
            · exact .inl (List.mem_singleton.mp sign)
            · rcases ih later with sign | ⟨other, listed, inside⟩
              · exact .inl sign
              · exact .inr ⟨other, List.mem_cons_of_mem _ listed, inside⟩

theorem mark_mem_intercalate {mark : Char} {words : List (List Char)}
    (several : 2 ≤ words.length) : mark ∈ [mark].intercalate words := by
  match words with
  | first :: second :: rest =>
      rw [List.intercalate_cons_cons]
      simp
  | [] | [_] => simp at several

theorem length_to4 {ip bytes : IP} (short : to4 ip = some bytes) :
    bytes.length = 4 := by
  rw [to4] at short
  split_ifs at short with four mapped
  · cases short
    exact four
  · cases short
    rw [List.length_drop, mapped.1]

/-- What kind of address a text was printed for -/
def kind (text : List Char) : Nat :=
  if '<' ∈ text then 0
  else if '?' ∈ text then 1
  else if ':' ∈ text then 2
  else 3

theorem not_mem_of_isHex {text : List Char} {c : Char}
    (hex : ∀ c ∈ text, isHex c = true) (other : isHex c = false) : c ∉ text := by
  intro member
  rw [hex c member] at other
  cases other

/-- The forms of the text, which tell the kinds of addresses apart -/
inductive Printed (ip : IP) (text : List Char) : Nat → Prop where
  | nil (empty : ip = []) : Printed ip text 0
  | other (long : to4 ip = none) (shows : text = '?' :: hexString ip) :
      Printed ip text 1
  | v6 (long : to4 ip = none) (length : ip.length = 16)
      (shows : text = [':'].intercalate (tokens (groups ip))) :
      Printed ip text 2
  | v4 (bytes : IP) (short : to4 ip = some bytes)
      (shows : text =
        ['.'].intercalate (bytes.map fun byte => decimal byte.toNat)) :
      Printed ip text 3

theorem length_tokens (groups : List Nat) (several : 2 ≤ groups.length) :
    2 ≤ (tokens groups).length := by
  have one : ∀ groups, 1 ≤ (side groups).length := by
    intro groups
    rw [side]
    split_ifs with empty
    · exact Nat.le_refl 1
    · rw [List.length_map]
      exact List.length_pos_iff.mpr empty
  rw [tokens]
  split_ifs
  · rw [List.length_map]
    exact several
  · have front := one (groups.take (zeroRun groups).1)
    rw [List.length_append, List.length_append, List.length_singleton]
    omega

theorem printed_ipText (ip : IP) :
    Printed ip (ipText ip) (kind (ipText ip)) := by
  rw [ipText]
  by_cases empty : ip = []
  · rw [if_pos empty]
    exact .nil empty
  · rw [if_neg empty]
    cases short : to4 ip with
    | some bytes =>
        have clean : ∀ c, c ≠ '.' → isHex c = false → c ∉ ['.'].intercalate
            (bytes.map fun byte => decimal byte.toNat) := by
          intro c sign other member
          rcases mem_intercalate member with same | ⟨word, listed, inside⟩
          · exact sign same
          · obtain ⟨byte, -, rfl⟩ := List.mem_map.mp listed
            rw [isHex_of_mem_toDigits (by decide) (by decide) inside] at other
            cases other
        rw [kind, if_neg (clean '<' (by decide) (by decide)),
          if_neg (clean '?' (by decide) (by decide)),
          if_neg (clean ':' (by decide) (by decide))]
        exact .v4 bytes short rfl
    | none =>
        simp only
        by_cases long : ip.length = 16
        · have clean : ∀ c, c ≠ ':' → isHex c = false →
              c ∉ [':'].intercalate (tokens (groups ip)) := by
            intro c sign other member
            rcases mem_intercalate member with same | ⟨token, listed, inside⟩
            · exact sign same
            · rw [isHex_of_mem_tokens listed inside] at other
              cases other
          have several : 2 ≤ (tokens (groups ip)).length := by
            refine length_tokens _ ?_
            rw [@length_groups ip 8 long]
            decide
          rw [if_pos long, kind, if_neg (clean '<' (by decide) (by decide)),
            if_neg (clean '?' (by decide) (by decide)),
            if_pos (mark_mem_intercalate several)]
          exact .v6 short long rfl
        · have absent : '<' ∉ '?' :: hexString ip := by
            intro member
            rcases List.mem_cons.mp member with same | inside
            · cases same
            · exact not_mem_of_isHex (fun _ => isHex_of_mem_hexString)
                (by decide) inside
          rw [if_neg long, kind, if_neg absent, if_pos List.mem_cons_self]
          exact .other short rfl

theorem decimals_inj {first second : List UInt8} (firstSome : first ≠ [])
    (secondSome : second ≠ [])
    (same : ['.'].intercalate (first.map fun byte => decimal byte.toNat) =
      ['.'].intercalate (second.map fun byte => decimal byte.toNat)) :
    first = second := by
  have clean : ∀ bytes : List UInt8,
      ∀ word ∈ bytes.map fun byte => decimal byte.toNat, '.' ∉ word := by
    intro bytes word listed
    obtain ⟨byte, -, rfl⟩ := List.mem_map.mp listed
    exact not_mem_of_isHex
      (fun _ => isHex_of_mem_toDigits (by decide) (by decide)) (by decide)
  have injective : Function.Injective fun byte : UInt8 => decimal byte.toNat :=
    fun _ _ same =>
      UInt8.toNat_inj.mp (toDigits_inj (by decide) (by decide) same)
  apply List.map_injective_iff.mpr injective
  rw [← List.splitOn_intercalate '.' (clean first) (by simpa using firstSome),
    same, List.splitOn_intercalate '.' (clean second) (by simpa using secondSome)]

theorem tokens_ne_nil {groups : List Nat} (some : groups ≠ []) :
    tokens groups ≠ [] := by
  rw [tokens]
  split_ifs
  · simpa using some
  · simp

theorem v6Text_inj {first second : IP} (firstLength : first.length = 16)
    (secondLength : second.length = 16)
    (same : [':'].intercalate (tokens (groups first)) =
      [':'].intercalate (tokens (groups second))) : first = second := by
  have clean : ∀ groups, ∀ token ∈ tokens groups, ':' ∉ token :=
    fun groups token listed =>
      not_mem_of_isHex (fun _ => isHex_of_mem_tokens listed) (by decide)
  have nonempty : ∀ {ip : IP}, ip.length = 16 → tokens (groups ip) ≠ [] := by
    intro ip length
    refine tokens_ne_nil fun empty => ?_
    have := @length_groups ip 8 length
    rw [empty] at this
    cases this
  have tokensSame := congrArg (List.splitOn ':') same
  rw [List.splitOn_intercalate ':' (clean _) (nonempty firstLength),
    List.splitOn_intercalate ':' (clean _) (nonempty secondLength)] at tokensSame
  refine @groups_inj first second 8 firstLength secondLength ?_
  refine tokens_inj ?_ tokensSame
  rw [@length_groups first 8 firstLength, @length_groups second 8 secondLength]

/-- Addresses that print alike are the same address. -/
theorem ipText_inj {first second : IP} (same : ipText first = ipText second) :
    canonical first = canonical second := by
  have firstPrinted := printed_ipText first
  have secondPrinted := printed_ipText second
  rw [same] at firstPrinted
  generalize ipText second = text at firstPrinted secondPrinted
  generalize kind text = number at firstPrinted secondPrinted
  cases firstPrinted with
  | nil empty =>
      cases secondPrinted with
      | nil secondEmpty => rw [empty, secondEmpty]
  | other long shows =>
      cases secondPrinted with
      | other secondLong secondShows =>
          rw [shows, List.cons.injEq] at secondShows
          rw [hexString_inj secondShows.2]
  | v6 long length shows =>
      cases secondPrinted with
      | v6 secondLong secondLength secondShows =>
          rw [v6Text_inj length secondLength (shows.symm.trans secondShows)]
  | v4 bytes short shows =>
      cases secondPrinted with
      | v4 secondBytes secondShort secondShows =>
          have nonempty : ∀ {ip bytes : IP}, to4 ip = some bytes →
              bytes ≠ [] := by
            rintro ip _ short rfl
            have := length_to4 short
            cases this
          rw [canonical, canonical, short, secondShort,
            decimals_inj (nonempty short) (nonempty secondShort)
              (shows.symm.trans secondShows)]
          rfl

/-! ### Networks -/

/-- The number of leading ones of a byte, if the rest are zeros -/
def onesLength (byte : UInt8) : Option Nat :=
  (List.range 9).find? fun ones => byte.toNat = 256 - 2 ^ (8 - ones)

/-- `simpleMaskLength`, where -1 is `none` -/
def simpleMaskLength : IPMask → Option Nat
  | [] => some 0
  | byte :: rest =>
      if byte = 255 then (simpleMaskLength rest).map (8 + ·)
      else if rest.all (· = 0) then onesLength byte
      else none

/-- `networkNumberAndMask` -/
def networkNumberAndMask (ip : IP) (mask : IPMask) : Option (IP × IPMask) :=
  let number := canonical ip
  if number.length = 4 then
    if mask.length = 4 then some (number, mask)
    else if mask.length = 16 then some (number, mask.drop 12)
    else none
  else if number.length = 16 ∧ mask.length = 16 then some (number, mask)
  else none

def maskText (mask : IPMask) : List Char :=
  match simpleMaskLength mask with
  | some length => decimal length
  | none => hexString mask

/-- `IPNet.String` -/
def ipNetText (ip : IP) (mask : IPMask) : List Char :=
  match networkNumberAndMask ip mask with
  | none => ['<', 'n', 'i', 'l', '>']
  | some (number, mask) => ipText number ++ '/' :: maskText mask

example : String.ofList (ipNetText [10, 0, 0, 1] [255, 255, 255, 0]) =
    "10.0.0.1/24" := by decide

theorem onesLength_spec {byte : UInt8} {length : Nat}
    (ones : onesLength byte = some length) :
    length < 9 ∧ byte.toNat = 256 - 2 ^ (8 - length) := by
  rw [onesLength] at ones
  refine ⟨List.mem_range.mp (List.mem_of_find?_eq_some ones), ?_⟩
  simpa using List.find?_some ones

theorem onesLength_inj {first second : UInt8} {length : Nat}
    (firstOnes : onesLength first = some length)
    (secondOnes : onesLength second = some length) : first = second :=
  UInt8.toNat_inj.mp
    ((onesLength_spec firstOnes).2.trans (onesLength_spec secondOnes).2.symm)

theorem onesLength_lt {byte : UInt8} {length : Nat} (partly : byte ≠ 255)
    (ones : onesLength byte = some length) : length < 8 := by
  obtain ⟨inside, spec⟩ := onesLength_spec ones
  by_contra large
  obtain rfl : length = 8 := by omega
  exact partly (UInt8.toNat_inj.mp spec)

theorem eq_of_all_zero {first second : List UInt8}
    (lengths : first.length = second.length)
    (firstZero : first.all (· = 0) = true)
    (secondZero : second.all (· = 0) = true) : first = second := by
  have zeros : ∀ {bytes : List UInt8}, bytes.all (· = 0) = true →
      bytes = List.replicate bytes.length 0 := fun zero =>
    List.eq_replicate_iff.mpr ⟨rfl, fun byte member => by
      simpa using List.all_eq_true.mp zero byte member⟩
  rw [zeros firstZero, zeros secondZero, lengths]

theorem simpleMaskLength_inj {first second : IPMask} {length : Nat}
    (lengths : first.length = second.length)
    (firstLength : simpleMaskLength first = some length)
    (secondLength : simpleMaskLength second = some length) : first = second := by
  induction first generalizing second length with
  | nil => exact (List.eq_nil_of_length_eq_zero lengths.symm).symm
  | cons byte rest ih =>
      cases second with
      | nil => cases lengths
      | cons other others =>
          rw [List.length_cons, List.length_cons, Nat.add_right_cancel_iff]
            at lengths
          rw [simpleMaskLength] at firstLength secondLength
          by_cases full : byte = 255
          · rw [if_pos full] at firstLength
            obtain ⟨more, restLength, rfl⟩ := Option.map_eq_some_iff.mp firstLength
            by_cases otherFull : other = 255
            · rw [if_pos otherFull] at secondLength
              obtain ⟨others', othersLength, same⟩ :=
                Option.map_eq_some_iff.mp secondLength
              obtain rfl : others' = more := by omega
              rw [full, otherFull, ih lengths restLength othersLength]
            · rw [if_neg otherFull] at secondLength
              split_ifs at secondLength
              have := onesLength_lt otherFull secondLength
              omega
          · rw [if_neg full] at firstLength
            split_ifs at firstLength with zero
            by_cases otherFull : other = 255
            · rw [if_pos otherFull] at secondLength
              obtain ⟨more, -, same⟩ := Option.map_eq_some_iff.mp secondLength
              have := onesLength_lt full firstLength
              omega
            · rw [if_neg otherFull] at secondLength
              split_ifs at secondLength with otherZero
              rw [onesLength_inj firstLength secondLength,
                eq_of_all_zero lengths zero otherZero]

theorem simpleMaskLength_le {mask : IPMask} {length : Nat}
    (simple : simpleMaskLength mask = some length) :
    length ≤ 8 * mask.length := by
  induction mask generalizing length with
  | nil =>
      cases simple
      exact Nat.le_refl _
  | cons byte rest ih =>
      rw [simpleMaskLength] at simple
      rw [List.length_cons]
      split_ifs at simple with full
      · obtain ⟨more, restLength, rfl⟩ := Option.map_eq_some_iff.mp simple
        have := ih restLength
        omega
      · have := onesLength_lt full simple
        omega

/-- Masks of 4 or of 16 bytes print alike only if they are the same. -/
theorem maskText_inj {first second : IPMask}
    (lengths : first.length = second.length)
    (bytes : first.length = 4 ∨ first.length = 16)
    (same : maskText first = maskText second) : first = second := by
  have short : ∀ {mask : IPMask} {length : Nat},
      mask.length = first.length → simpleMaskLength mask = some length →
        (decimal length).length ≤ 3 := by
    intro mask length sameLength simple
    have := simpleMaskLength_le simple
    exact (Nat.length_toDigits_le_iff (by decide) (by decide)).mpr (by omega)
  rw [maskText, maskText] at same
  cases firstSimple : simpleMaskLength first with
  | some length =>
      cases secondSimple : simpleMaskLength second with
      | some other =>
          rw [firstSimple, secondSimple] at same
          obtain rfl : length = other := toDigits_inj (by decide) (by decide) same
          exact simpleMaskLength_inj lengths firstSimple secondSimple
      | none =>
          rw [firstSimple, secondSimple] at same
          have small := short rfl firstSimple
          have long := length_hexString second
          have alike : (decimal length).length = (hexString second).length :=
            congrArg List.length same
          omega
  | none =>
      cases secondSimple : simpleMaskLength second with
      | some other =>
          rw [firstSimple, secondSimple] at same
          have small := short lengths.symm secondSimple
          have long := length_hexString first
          have alike : (hexString first).length = (decimal other).length :=
            congrArg List.length same
          omega
      | none =>
          rw [firstSimple, secondSimple] at same
          exact hexString_inj same

/-- The address is of the family for which masks have this many bytes. -/
def OfFamily (bytes : Nat) (ip : IP) (mask : IPMask) : Prop :=
  (canonical ip).length = bytes ∧ mask.length = bytes

theorem mem_ipText {ip : IP} (present : ip ≠ []) {c : Char}
    (member : c ∈ ipText ip) :
    isHex c = true ∨ c = '.' ∨ c = ':' ∨ c = '?' := by
  have printed := printed_ipText ip
  generalize kind (ipText ip) = number at printed
  cases printed with
  | nil empty => exact absurd empty present
  | other long shows =>
      rw [shows] at member
      rcases List.mem_cons.mp member with same | inside
      · exact .inr (.inr (.inr same))
      · exact .inl (isHex_of_mem_hexString inside)
  | v6 long length shows =>
      rw [shows] at member
      rcases mem_intercalate member with same | ⟨token, listed, inside⟩
      · exact .inr (.inr (.inl same))
      · exact .inl (isHex_of_mem_tokens listed inside)
  | v4 bytes short shows =>
      rw [shows] at member
      rcases mem_intercalate member with same | ⟨word, listed, inside⟩
      · exact .inr (.inl same)
      · obtain ⟨byte, -, rfl⟩ := List.mem_map.mp listed
        exact .inl (isHex_of_mem_toDigits (by decide) (by decide) inside)

theorem slash_not_mem_ipText (ip : IP) : '/' ∉ ipText ip := by
  by_cases empty : ip = []
  · rw [empty]
    decide
  · intro member
    rcases mem_ipText empty member with hex | same | same | same
    · revert hex
      decide
    all_goals cases same

theorem canonical_canonical (ip : IP) :
    canonical (canonical ip) = canonical ip := by
  rw [canonical.eq_1 ip]
  cases short : to4 ip with
  | none => rw [Option.getD_none, canonical, short, Option.getD_none]
  | some bytes =>
      rw [Option.getD_some, canonical, to4, if_pos (length_to4 short)]
      rfl

def isLinkLocalUnicast (ip : IP) : Bool :=
  match to4 ip with
  | some bytes => bytes[0]? == some 169 && bytes[1]? == some 254
  | none =>
      ip.length == 16 && ip[0]? == some 0xfe &&
        ip[1]?.map (· &&& 0xc0) == some 0x80

theorem slash_not_mem_maskText (mask : IPMask) : '/' ∉ maskText mask := by
  have hex : ∀ c ∈ maskText mask, isHex c = true := by
    intro c member
    rw [maskText] at member
    cases simple : simpleMaskLength mask with
    | some length =>
        rw [simple] at member
        exact isHex_of_mem_toDigits (by decide) (by decide) member
    | none =>
        rw [simple] at member
        exact isHex_of_mem_hexString member
  exact not_mem_of_isHex hex (by decide)

theorem networkNumberAndMask_of_family {bytes : Nat} {ip : IP} {mask : IPMask}
    (family : bytes = 4 ∨ bytes = 16) (ofFamily : OfFamily bytes ip mask) :
    networkNumberAndMask ip mask = some (canonical ip, mask) := by
  obtain ⟨length, maskLength⟩ := ofFamily
  rw [networkNumberAndMask]
  rcases family with rfl | rfl
  · simp [length, maskLength]
  · simp [length, maskLength]

theorem networkNumberAndMask_fst {ip number : IP} {mask printed : IPMask}
    (found : networkNumberAndMask ip mask = some (number, printed)) :
    number = canonical ip := by
  rw [networkNumberAndMask] at found
  split_ifs at found
  all_goals
    cases found
    rfl

/-- Networks that print alike are the same, if one of them is an address of a
family and the other has a mask of that family. -/
theorem ipNetText_inj {bytes : Nat} {ip other : IP} {mask otherMask : IPMask}
    (family : bytes = 4 ∨ bytes = 16) (ofFamily : OfFamily bytes ip mask)
    (otherLength : otherMask.length = bytes)
    (same : ipNetText other otherMask = ipNetText ip mask) :
    canonical other = canonical ip ∧ otherMask = mask := by
  have network : ipNetText ip mask =
      ipText (canonical ip) ++ '/' :: maskText mask := by
    rw [ipNetText, networkNumberAndMask_of_family family ofFamily]
  rw [network] at same
  cases otherNumber : networkNumberAndMask other otherMask with
  | none =>
      have slash : '/' ∈ ipText (canonical ip) ++ '/' :: maskText mask := by simp
      rw [← same, ipNetText, otherNumber] at slash
      exact absurd slash (by decide)
  | some pair =>
      obtain ⟨number, printed⟩ := pair
      have otherNetwork : ipNetText other otherMask =
          ipText number ++ '/' :: maskText printed := by
        rw [ipNetText, otherNumber]
      rw [otherNetwork] at same
      obtain ⟨texts, -, masks⟩ := (List.append_cons_inj_of_notMem
        (slash_not_mem_ipText _) (slash_not_mem_maskText _)).mp same
      have numbers : canonical other = canonical ip := by
        rw [networkNumberAndMask_fst otherNumber] at texts
        have := ipText_inj texts
        rwa [canonical_canonical, canonical_canonical] at this
      have otherFamily : OfFamily bytes other otherMask :=
        ⟨by rw [numbers, ofFamily.1], otherLength⟩
      rw [networkNumberAndMask_of_family family otherFamily, Option.some.injEq,
        Prod.mk.injEq] at otherNumber
      refine ⟨numbers, maskText_inj (otherLength.trans ofFamily.2.symm) ?_ ?_⟩
      · rw [otherLength]
        exact family
      · rw [otherNumber.2, masks]

end IpText

end JetKvm
