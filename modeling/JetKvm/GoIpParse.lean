import JetKvm.GoIpText

/-!
# Parsing Go addresses

`net.ParseIP` and `net.ParseCIDR` with the parser of `net/netip` below them.
An accepted text tells the family of the address, and a prefix length tells the
mask; nothing else is read from a text with a slash.
-/

namespace JetKvm

namespace IpText

/-! ### Addresses -/

/-- `netip.Addr`, with the zone of an IPv6 address -/
inductive Addr where
  | v4 (bytes : List UInt8)
  | v6 (bytes : List UInt8) (zone : List Char)
  deriving DecidableEq, Repr

def digitValue (c : Char) : Nat := c.toNat - 48

/-- `val` and `digLen` are those of the current octet; no digit was read where
the text begins with a dot or has two in a row. -/
def parseIPv4Fields :
    List Char → (val digLen : Nat) → (fields : List UInt8) → Option (List UInt8)
  | [], val, _, fields =>
      if fields.length < 3 then none else some (fields ++ [UInt8.ofNat val])
  | c :: rest, val, digLen, fields =>
      if c.isDigit then
        if digLen = 1 ∧ val = 0 then none
        else if 255 < val * 10 + digitValue c then none
        else
          parseIPv4Fields rest (val * 10 + digitValue c) (digLen + 1) fields
      else if c = '.' then
        if digLen = 0 ∨ rest = [] then none
        else if fields.length = 3 then none
        else parseIPv4Fields rest 0 0 (fields ++ [UInt8.ofNat val])
      else none

def isHexDigit (c : Char) : Bool :=
  c.isDigit || ('a' ≤ c && c ≤ 'f') || ('A' ≤ c && c ≤ 'F')

def hexValue (c : Char) : Nat :=
  if c.isDigit then c.toNat - 48
  else if 'a' ≤ c then c.toNat - 87
  else c.toNat - 55

/-- The two bytes of a group -/
def groupBytes (digits : List Char) : List UInt8 :=
  let acc := digits.foldl (fun acc c => acc * 16 + hexValue c) 0
  [UInt8.ofNat (acc / 256), UInt8.ofNat acc]

/-- The bytes read so far and where the ellipsis stands among them -/
structure Groups where
  bytes : List UInt8 := []
  ellipsis : Option Nat := none

/-- The loop of `parseIPv6`; `left` is how many groups there is room for.  A text
is used up where the loop ends early. -/
def parseGroups : (left : Nat) → List Char → Groups → Option Groups
  | 0, _, _ => none
  | left + 1, text, groups =>
      let digits := text.takeWhile isHexDigit
      let bytes := groups.bytes ++ groupBytes digits
      if digits = [] ∨ 4 < digits.length then none
      else
        match text.dropWhile isHexDigit with
        | [] => some { groups with bytes := bytes }
        | '.' :: _ =>
            if groups.ellipsis = none ∧ groups.bytes.length ≠ 12 then none
            else if 16 < groups.bytes.length + 4 then none
            else
              (parseIPv4Fields text 0 0 []).map fun fields =>
                { groups with bytes := groups.bytes ++ fields }
        | [':'] => none
        | ':' :: ':' :: rest =>
            if groups.ellipsis.isSome then none
            else if rest = [] then some ⟨bytes, some bytes.length⟩
            else parseGroups left rest ⟨bytes, some bytes.length⟩
        | ':' :: rest => parseGroups left rest { groups with bytes := bytes }
        | _ => none

/-- The ellipsis stands for the bytes that are missing, and for some. -/
def expandEllipsis (groups : Groups) : Option (List UInt8) :=
  if groups.bytes.length < 16 then
    groups.ellipsis.map fun ellipsis =>
      groups.bytes.take ellipsis ++
        List.replicate (16 - groups.bytes.length) 0 ++
        groups.bytes.drop ellipsis
  else if groups.ellipsis.isSome then none
  else some groups.bytes

def parseIPv6 (text : List Char) : Option Addr :=
  let address := text.takeWhile (· ≠ '%')
  let zone := (text.dropWhile (· ≠ '%')).drop 1
  if '%' ∈ text ∧ zone = [] then none
  else
    let groups : Option Groups :=
      match address with
      | [':', ':'] => some ⟨[], some 0⟩
      | ':' :: ':' :: rest => parseGroups 8 rest ⟨[], some 0⟩
      | _ => parseGroups 8 address {}
    (groups.bind expandEllipsis).map fun bytes => .v6 bytes zone

/-- `netip.ParseAddr` -/
def parseAddr (text : List Char) : Option Addr :=
  match text.find? fun c => c = '.' || c = ':' || c = '%' with
  | some '.' => (parseIPv4Fields text 0 0 []).map .v4
  | some ':' => parseIPv6 text
  | _ => none

/-- `Addr.As16`, of an address without a zone -/
def Addr.as16 : Addr → Option IP
  | .v4 bytes => some (v4InV6Prefix ++ bytes)
  | .v6 bytes [] => some bytes
  | .v6 _ _ => none

/-- `net.ParseIP` -/
def parseIP (text : String) : Option IP :=
  (parseAddr text.toList).bind Addr.as16

example : parseIP "192.168.0.10" =
    some (v4InV6Prefix ++ [192, 168, 0, 10]) := by decide

example : parseIP "fe80::1" =
    some [0xfe, 0x80, 0, 0, 0, 0, 0, 0, 0, 0, 0, 0, 0, 0, 0, 1] := by decide

/-! ### Printed addresses -/

theorem isDigit_digitChar {digit : Nat} (small : digit < 10) :
    digit.digitChar.isDigit = true ∧ digitValue digit.digitChar = digit := by
  have all : ∀ digit < 10, digit.digitChar.isDigit = true ∧
      digitValue digit.digitChar = digit := by decide
  exact all digit small

/-- An octet is read as it is written. -/
theorem exists_parseIPv4Fields_decimal {n : Nat} (small : n < 256)
    (rest : List Char) (fields : List UInt8) :
    ∃ digLen, 0 < digLen ∧ parseIPv4Fields (decimal n ++ rest) 0 0 fields =
      parseIPv4Fields rest n digLen fields := by
  induction n using Nat.strongRecOn generalizing rest with
  | _ n ih =>
      unfold decimal at ih ⊢
      rw [Nat.toDigits_eq_if (by omega)]
      split_ifs with one
      · obtain ⟨digit, value⟩ := isDigit_digitChar one
        refine ⟨1, Nat.one_pos, ?_⟩
        rw [List.singleton_append, parseIPv4Fields, if_pos digit,
          if_neg (by omega), value, if_neg (by omega), Nat.zero_mul,
          Nat.zero_add]
      · obtain ⟨digit, value⟩ := isDigit_digitChar (Nat.mod_lt n (by omega : 10 > 0))
        obtain ⟨digLen, some, front⟩ := ih (n / 10) (by omega) (by omega)
          ((n % 10).digitChar :: rest)
        refine ⟨digLen + 1, Nat.succ_pos _, ?_⟩
        rw [List.append_assoc, List.singleton_append, front, parseIPv4Fields,
          if_pos digit, if_neg (by omega), value, if_neg (by omega),
          show n / 10 * 10 + n % 10 = n by omega]

theorem parseIPv4Fields_octet (byte : UInt8) {rest : List Char}
    (more : rest ≠ []) {fields : List UInt8} (few : fields.length < 3) :
    parseIPv4Fields (decimal byte.toNat ++ '.' :: rest) 0 0 fields =
      parseIPv4Fields rest 0 0 (fields ++ [byte]) := by
  obtain ⟨digLen, some, read⟩ := exists_parseIPv4Fields_decimal
    byte.toNat_lt ('.' :: rest) fields
  rw [read, parseIPv4Fields, if_neg (by decide), if_pos rfl,
    if_neg (not_or.mpr ⟨by omega, more⟩), if_neg (by omega),
    UInt8.ofNat_toNat]

theorem parseIPv4Fields_last (byte : UInt8) {fields : List UInt8}
    (three : fields.length = 3) :
    parseIPv4Fields (decimal byte.toNat) 0 0 fields = some (fields ++ [byte]) := by
  obtain ⟨digLen, -, read⟩ := exists_parseIPv4Fields_decimal
    byte.toNat_lt [] fields
  rw [List.append_nil] at read
  rw [read, parseIPv4Fields, if_neg (by omega), UInt8.ofNat_toNat]

theorem decimal_ne_nil (n : Nat) : decimal n ≠ [] :=
  List.length_pos_iff.mp Nat.length_toDigits_pos

/-- A dotted address is the one that its text is parsed to. -/
theorem parseIP_ipText {ip : IP} (four : ip.length = 4) :
    parseIP (String.ofList (ipText ip)) = some (v4InV6Prefix ++ ip) := by
  obtain ⟨a, b, c, d, rfl⟩ : ∃ a b c d, ip = [a, b, c, d] := by
    match ip, four with
    | [a, b, c, d], _ => exact ⟨a, b, c, d, rfl⟩
  have text : ipText [a, b, c, d] = decimal a.toNat ++ '.' ::
      (decimal b.toNat ++ '.' :: (decimal c.toNat ++ '.' :: decimal d.toNat)) := by
    simp [ipText, to4, List.intercalate, List.intersperse]
  have dotted : ∀ c ∈ decimal a.toNat,
      ¬ (decide (c = '.') || decide (c = ':') || decide (c = '%')) = true := by
    intro c member
    obtain ⟨digit, small, rfl⟩ := mem_toDigits (by omega) member
    have none : ∀ digit < 10, ¬ (decide (digit.digitChar = '.') ||
        decide (digit.digitChar = ':') || decide (digit.digitChar = '%')) = true := by
      decide
    exact none digit small
  have first : (ipText [a, b, c, d]).find?
      (fun c => c = '.' || c = ':' || c = '%') = some '.' := by
    rw [text, List.find?_append, List.find?_eq_none.mpr dotted]
    rfl
  unfold parseIP parseAddr
  simp only [String.toList_ofList, first]
  rw [text, parseIPv4Fields_octet a (by simp [decimal_ne_nil]) (by simp),
    parseIPv4Fields_octet b (by simp [decimal_ne_nil]) (by simp),
    parseIPv4Fields_octet c (decimal_ne_nil _) (by simp),
    parseIPv4Fields_last d (by simp)]
  rfl

/-! ### Accepted texts -/

theorem parseIPv4Fields_spec {text : List Char} {val digLen : Nat}
    {fields out : List UInt8} (few : fields.length ≤ 3)
    (accepted : parseIPv4Fields text val digLen fields = some out) :
    out.length = 4 ∧ ∀ c ∈ text, c.isDigit = true ∨ c = '.' := by
  induction text generalizing val digLen fields with
  | nil =>
      rw [parseIPv4Fields, Option.ite_none_left_eq_some] at accepted
      obtain ⟨many, same⟩ := accepted
      cases same
      refine ⟨?_, fun c none => absurd none List.not_mem_nil⟩
      rw [List.length_append, List.length_singleton]
      omega
  | cons c rest ih =>
      rw [parseIPv4Fields] at accepted
      split_ifs at accepted with digit zero large dot empty full
      · obtain ⟨length, chars⟩ := ih few accepted
        exact ⟨length, List.forall_mem_cons.mpr ⟨.inl digit, chars⟩⟩
      · have more : (fields ++ [UInt8.ofNat val]).length ≤ 3 := by
          rw [List.length_append, List.length_singleton]
          omega
        obtain ⟨length, chars⟩ := ih more accepted
        exact ⟨length, List.forall_mem_cons.mpr ⟨.inr dot, chars⟩⟩

/-- The characters of IPv6 addresses -/
def isV6Char (c : Char) : Bool :=
  isHexDigit c || c = '.' || c = ':'

theorem isV6Char_of_isHexDigit {c : Char} (hex : isHexDigit c = true) :
    isV6Char c = true := by
  rw [isV6Char, hex]
  rfl

theorem forall_mem_of_dropWhile {test good : Char → Bool} {text : List Char}
    (taken : ∀ c, test c = true → good c = true)
    (rest : ∀ c ∈ text.dropWhile test, good c = true) :
    ∀ c ∈ text, good c = true := by
  intro c member
  rw [← @List.takeWhile_append_dropWhile _ test text, List.mem_append] at member
  rcases member with first | last
  · exact taken c (List.mem_takeWhile_imp first)
  · exact rest c last

/-- The bytes that fit in an address, with the ellipsis among them -/
structure Groups.Fits (groups : Groups) (left : Nat) : Prop where
  bytes : groups.bytes.length + 2 * left ≤ 16
  ellipsis : ∀ place, groups.ellipsis = some place → place ≤ groups.bytes.length

theorem Groups.Fits.more {groups : Groups} {left : Nat}
    (fits : groups.Fits (left + 1)) (digits : List Char) :
    Groups.Fits { groups with bytes := groups.bytes ++ groupBytes digits }
      left := by
  have length : (groupBytes digits).length = 2 := rfl
  obtain ⟨bytes, ellipsis⟩ := fits
  constructor
  · rw [List.length_append, length]
    omega
  · intro place same
    have inside := ellipsis place same
    rw [List.length_append]
    omega

theorem Groups.Fits.mark {groups : Groups} {left : Nat} (fits : groups.Fits left) :
    Groups.Fits { groups with ellipsis := some groups.bytes.length } left :=
  ⟨fits.bytes, fun _ same => by cases same; exact Nat.le_refl _⟩

theorem Groups.Fits.zero {groups : Groups} {left : Nat}
    (fits : groups.Fits left) : groups.Fits 0 :=
  ⟨by have := fits.bytes; omega, fits.ellipsis⟩

theorem parseGroups_spec {left : Nat} {text : List Char} {groups out : Groups}
    (fits : groups.Fits left)
    (accepted : parseGroups left text groups = some out) :
    out.Fits 0 ∧ ∀ c ∈ text, isV6Char c = true := by
  induction left generalizing text groups with
  | zero => cases accepted
  | succ left ih =>
      have chars := @forall_mem_of_dropWhile isHexDigit isV6Char text
        fun _ => isV6Char_of_isHexDigit
      have more := fits.more (text.takeWhile isHexDigit)
      rw [parseGroups] at accepted
      simp only [Option.ite_none_left_eq_some] at accepted
      obtain ⟨-, accepted⟩ := accepted
      split at accepted
      · rename_i rest
        cases accepted
        rw [rest] at chars
        exact ⟨more.zero, chars fun c none => absurd none List.not_mem_nil⟩
      · simp only [Option.ite_none_left_eq_some, Option.map_eq_some_iff] at accepted
        obtain ⟨-, room, fields, read, rfl⟩ := accepted
        have few : ([] : List UInt8).length ≤ 3 := Nat.zero_le 3
        obtain ⟨length, digits⟩ := parseIPv4Fields_spec few read
        refine ⟨⟨?_, fun place same => ?_⟩, fun c member => ?_⟩
        · rw [List.length_append]
          omega
        · rw [List.length_append]
          have := fits.ellipsis place same
          omega
        · rcases digits c member with digit | rfl
          · exact isV6Char_of_isHexDigit (by rw [isHexDigit, digit]; rfl)
          · rfl
      · cases accepted
      · rename_i rest same
        rw [same] at chars
        simp only [Option.ite_none_left_eq_some] at accepted
        obtain ⟨-, accepted⟩ := accepted
        split_ifs at accepted with ends
        · cases accepted
          rw [ends] at chars
          exact ⟨more.mark.zero, chars (List.forall_mem_cons.mpr
            ⟨rfl, List.forall_mem_singleton.mpr rfl⟩)⟩
        · obtain ⟨inside, good⟩ := ih more.mark accepted
          exact ⟨inside, chars (List.forall_mem_cons.mpr
            ⟨rfl, List.forall_mem_cons.mpr ⟨rfl, good⟩⟩)⟩
      · rename_i rest notEnd notColon same
        rw [same] at chars
        obtain ⟨inside, good⟩ := ih more accepted
        exact ⟨inside, chars (List.forall_mem_cons.mpr ⟨rfl, good⟩)⟩
      · cases accepted

theorem length_expandEllipsis {groups : Groups} {bytes : List UInt8}
    (fits : groups.Fits 0) (expanded : expandEllipsis groups = some bytes) :
    bytes.length = 16 := by
  have room := fits.bytes
  rw [expandEllipsis] at expanded
  split_ifs at expanded with short twice
  · obtain ⟨place, same, rfl⟩ := Option.map_eq_some_iff.mp expanded
    have inside := fits.ellipsis place same
    simp only [List.length_append, List.length_take, List.length_replicate,
      List.length_drop]
    omega
  · cases expanded
    omega

/-- The bytes of an accepted IPv6 address, and what stands before the zone -/
theorem parseIPv6_spec {text : List Char} {addr : Addr}
    (accepted : parseIPv6 text = some addr) :
    ∃ bytes, addr = .v6 bytes ((text.dropWhile (· ≠ '%')).drop 1) ∧
      bytes.length = 16 ∧ (∀ c ∈ text.takeWhile (· ≠ '%'), isV6Char c = true) ∧
      ('%' ∈ text → (text.dropWhile (· ≠ '%')).drop 1 ≠ []) := by
  rw [parseIPv6] at accepted
  simp only [Option.ite_none_left_eq_some, Option.map_eq_some_iff,
    Option.bind_eq_some_iff, not_and] at accepted
  obtain ⟨zoned, bytes, ⟨groups, parsed, expanded⟩, rfl⟩ := accepted
  have begins : Groups.Fits ⟨[], some 0⟩ 8 :=
    ⟨by decide, fun place same => by cases same; exact Nat.le_refl 0⟩
  have plain : Groups.Fits {} 8 := ⟨by decide, fun place same => by cases same⟩
  have spec : groups.Fits 0 ∧
      ∀ c ∈ text.takeWhile (· ≠ '%'), isV6Char c = true := by
    split at parsed
    · rename_i only
      cases parsed
      rw [only]
      exact ⟨begins.zero, List.forall_mem_cons.mpr
        ⟨rfl, List.forall_mem_singleton.mpr rfl⟩⟩
    · rename_i rest notOnly same
      obtain ⟨inside, good⟩ := parseGroups_spec begins parsed
      rw [same]
      exact ⟨inside, List.forall_mem_cons.mpr
        ⟨rfl, List.forall_mem_cons.mpr ⟨rfl, good⟩⟩⟩
    · exact parseGroups_spec plain parsed
  exact ⟨bytes, rfl, length_expandEllipsis spec.1 expanded, spec.2, zoned⟩

theorem to4_mapped {bytes : List UInt8} (length : bytes.length = 4) :
    to4 (v4InV6Prefix ++ bytes) = some bytes := by
  have whole : (v4InV6Prefix ++ bytes).length = 16 := by
    rw [List.length_append, length]
    rfl
  rw [to4, if_neg (by rw [whole]; decide), if_pos ⟨whole, rfl⟩]
  rfl

/-- The bytes that the family of an address is written with -/
def Addr.width : Addr → Nat
  | .v4 _ => 4
  | .v6 _ _ => 16

/-- What an accepted text is like: an address is read from all of it, and text
of an IPv4 address gives one. -/
theorem parseAddr_spec {text : List Char} {addr : Addr} {ip : IP}
    (parsed : parseAddr text = some addr) (form : addr.as16 = some ip) :
    ip.length = 16 ∧ '/' ∉ text ∧ (to4 ip = none → addr.width = 16) := by
  rw [parseAddr] at parsed
  split at parsed
  · obtain ⟨bytes, read, rfl⟩ := Option.map_eq_some_iff.mp parsed
    have few : ([] : List UInt8).length ≤ 3 := Nat.zero_le 3
    obtain ⟨length, chars⟩ := parseIPv4Fields_spec few read
    cases form
    refine ⟨?_, fun slash => ?_, fun none => ?_⟩
    · rw [List.length_append, length]
      rfl
    · rcases chars '/' slash with digit | dot
      · cases digit
      · cases dot
    · rw [to4_mapped length] at none
      cases none
  · obtain ⟨bytes, rfl, length, chars, zoned⟩ := parseIPv6_spec parsed
    cases zone : (text.dropWhile (· ≠ '%')).drop 1 with
    | cons c rest =>
        rw [zone] at form
        cases form
    | nil =>
        rw [zone] at form zoned
        cases form
        have noZone : ∀ c ∈ text, decide (c ≠ '%') = true := by
          intro c member
          apply decide_eq_true
          rintro rfl
          exact zoned member rfl
        rw [List.takeWhile_eq_self_iff.mpr noZone] at chars
        refine ⟨length, fun slash => ?_, fun _ => rfl⟩
        have noSlash := chars '/' slash
        cases noSlash
  · cases parsed

theorem parseIP_spec {text : String} {ip : IP} (parsed : parseIP text = some ip) :
    ip.length = 16 ∧ '/' ∉ text.toList := by
  obtain ⟨addr, read, form⟩ := Option.bind_eq_some_iff.mp parsed
  have spec := parseAddr_spec read form
  exact ⟨spec.1, spec.2.1⟩

/-! ### Prefixes -/

/-- `dtoi`, where it takes the whole text -/
def dtoi : List Char → Nat → Option Nat
  | [], n => some n
  | c :: rest, n =>
      if c.isDigit then
        if 0xFFFFFF ≤ n * 10 + digitValue c then none
        else dtoi rest (n * 10 + digitValue c)
      else none

/-- `net.CIDRMask`, for so many bytes -/
def cidrMask : (ones bytes : Nat) → IPMask
  | _, 0 => []
  | ones, bytes + 1 =>
      if 8 ≤ ones then 255 :: cidrMask (ones - 8) bytes
      else UInt8.ofNat (256 - 2 ^ (8 - ones)) :: cidrMask 0 bytes

/-- `IP.Mask`, of a mask for the family of the address -/
def maskIP (ip : IP) (mask : IPMask) : IP :=
  List.zipWith (· &&& ·)
    (if mask.length = 4 ∧ ip.take 12 = v4InV6Prefix then ip.drop 12 else ip) mask

/-- `net.ParseCIDR`: the address, and the network it is in -/
def parseCIDR (text : String) : Option (IP × IP × IPMask) :=
  let mask := (text.toList.dropWhile (· ≠ '/')).drop 1
  if '/' ∉ text.toList ∨ mask = [] then none
  else do
    let addr ← parseAddr (text.toList.takeWhile (· ≠ '/'))
    let ip ← addr.as16
    let ones ← dtoi mask 0
    if 8 * addr.width < ones then none
    else
      some (ip, maskIP ip (cidrMask ones addr.width), cidrMask ones addr.width)

example : parseCIDR "10.0.0.1/24" =
    some (v4InV6Prefix ++ [10, 0, 0, 1], [10, 0, 0, 0], [255, 255, 255, 0]) := by
  decide

theorem onesLength_ofNat {ones : Nat} (partly : ones < 8) :
    onesLength (UInt8.ofNat (256 - 2 ^ (8 - ones))) = some ones := by
  have all : ∀ ones < 8,
      onesLength (UInt8.ofNat (256 - 2 ^ (8 - ones))) = some ones := by decide
  exact all ones partly

theorem cidrMask_zero (bytes : Nat) :
    cidrMask 0 bytes = List.replicate bytes 0 := by
  induction bytes with
  | zero => rfl
  | succ bytes ih =>
      rw [cidrMask, if_neg (by decide), ih]
      rfl

theorem length_cidrMask (ones bytes : Nat) :
    (cidrMask ones bytes).length = bytes := by
  induction bytes generalizing ones with
  | zero => rfl
  | succ bytes ih =>
      rw [cidrMask]
      split_ifs
      · rw [List.length_cons, ih]
      · rw [List.length_cons, ih]

/-- The mask of a prefix length is contiguous. -/
theorem simpleMaskLength_cidrMask {ones bytes : Nat} (fits : ones ≤ 8 * bytes) :
    simpleMaskLength (cidrMask ones bytes) = some ones := by
  induction bytes generalizing ones with
  | zero =>
      obtain rfl : ones = 0 := by omega
      rfl
  | succ bytes ih =>
      rw [cidrMask]
      split_ifs with whole
      · rw [simpleMaskLength, if_pos rfl, ih (by omega), Option.map_some]
        congr 1
        omega
      · have partly : UInt8.ofNat (256 - 2 ^ (8 - ones)) ≠ 255 := by
          have all : ∀ ones < 8, UInt8.ofNat (256 - 2 ^ (8 - ones)) ≠ 255 := by
            decide
          exact all ones (by omega)
        rw [simpleMaskLength, if_neg partly, cidrMask_zero, if_pos (by simp),
          onesLength_ofNat (by omega)]

/-- The text before and the number after the slash -/
theorem parseCIDR_spec {text : String} {ip network : IP} {mask : IPMask}
    (parsed : parseCIDR text = some (ip, network, mask)) :
    '/' ∈ text.toList ∧
      parseIP (String.ofList (text.toList.takeWhile (· ≠ '/'))) = some ip ∧
      ∃ ones, dtoi ((text.toList.dropWhile (· ≠ '/')).drop 1) 0 = some ones ∧
        simpleMaskLength mask = some ones ∧
        (to4 ip = none → mask.length = 16) := by
  rw [parseCIDR] at parsed
  simp only [Option.ite_none_left_eq_some, not_or, not_not,
    Option.bind_eq_bind, Option.bind_eq_some_iff, Option.some.injEq,
    Prod.mk.injEq, Nat.not_lt] at parsed
  obtain ⟨⟨slash, -⟩, addr, read, given, form, ones, number, fits, rfl, -, rfl⟩ :=
    parsed
  have again : parseIP (String.ofList (text.toList.takeWhile (· ≠ '/'))) =
      some given := by
    rw [parseIP, String.toList_ofList, read]
    exact form
  refine ⟨slash, again, ones, number, simpleMaskLength_cidrMask fits, ?_⟩
  intro unmapped
  rw [length_cidrMask]
  exact (parseAddr_spec read form).2.2 unmapped

end IpText

end JetKvm
