import JetKvm.UdhcpcLease

/-!
# The line of the device in the hosts file

Translation of `updateEtcHosts` and `getFQDNFromHosts` of the host name
manager, with the name `reconcileHostname` writes. The line is found by the
characters it begins with, and its address is the first of its fields.
-/

namespace JetKvm

namespace EtcHosts

/-! ## Rows that are replaced -/

section Rows

variable {α : Type} (own : α → Bool) (row : α) (rows : List α)

def keptOr (old : α) : α := if own old then row else old

/-- Each row of its own becomes the new one, which is added where there is
none. -/
def setRows : List α :=
  if rows.any own then rows.map (keptOr own row)
  else rows.map (keptOr own row) ++ [row]

variable {own row rows}

theorem keptOr_of_own {old : α} (mine : own old = true) :
    keptOr own row old = row := if_pos mine

theorem keptOr_of_other {old : α} (theirs : own old = false) :
    keptOr own row old = old := if_neg (by simp [theirs])

theorem map_keptOr_of_none (none : rows.any own = false) :
    rows.map (keptOr own row) = rows := by
  conv_rhs => rw [← List.map_id rows]
  exact List.map_congr_left fun old present =>
    keptOr_of_other (by simpa using List.any_eq_false.mp none old present)

theorem setRows_of_none (none : rows.any own = false) :
    setRows own row rows = rows ++ [row] := by
  rw [setRows, if_neg (by simp [none]), map_keptOr_of_none none]

theorem setRows_of_some (some : rows.any own = true) :
    setRows own row rows = rows.map (keptOr own row) := if_pos some

theorem mem_setRows : row ∈ setRows own row rows := by
  cases some : rows.any own with
  | false => simp [setRows_of_none some]
  | true =>
      obtain ⟨old, present, mine⟩ := List.any_eq_true.mp some
      rw [setRows_of_some some, List.mem_map]
      exact ⟨old, present, keptOr_of_own mine⟩

theorem eq_or_other_of_mem_setRows {new : α}
    (present : new ∈ setRows own row rows) :
    new = row ∨ new ∈ rows ∧ own new = false := by
  cases some : rows.any own with
  | false =>
      rw [setRows_of_none some, List.mem_append, List.mem_singleton] at present
      rcases present with kept | added
      · exact .inr ⟨kept, by simpa using List.any_eq_false.mp some new kept⟩
      · exact .inl added
  | true =>
      rw [setRows_of_some some, List.mem_map] at present
      obtain ⟨old, kept, rfl⟩ := present
      cases mine : own old with
      | false => exact .inr (by rw [keptOr_of_other mine]; exact ⟨kept, mine⟩)
      | true => exact .inl (keptOr_of_own mine)

theorem setRows_setRows (mine : own row = true) :
    setRows own row (setRows own row rows) = setRows own row rows := by
  rw [setRows_of_some (List.any_eq_true.mpr ⟨row, mem_setRows, mine⟩)]
  conv_rhs => rw [← List.map_id (setRows own row rows)]
  refine List.map_congr_left fun new present => ?_
  rcases eq_or_other_of_mem_setRows present with rfl | ⟨-, theirs⟩
  · exact keptOr_of_own mine
  · exact keptOr_of_other theirs

/-- What is read from the first row of its own -/
theorem findSome?_setRows {β : Type} {read : α → Option β} {value : β}
    (written : read row = some value)
    (others : ∀ old, own old = false → read old = none) :
    (setRows own row rows).findSome? read = some value := by
  cases found : (setRows own row rows).findSome? read with
  | none =>
      rw [List.findSome?_eq_none_iff] at found
      rw [found row mem_setRows] at written
      cases written
  | some other =>
      obtain ⟨new, present, here⟩ := List.exists_of_findSome?_eq_some found
      rcases eq_or_other_of_mem_setRows present with rfl | ⟨-, theirs⟩
      · rw [← here, written]
      · rw [others new theirs] at here
        cases here

/-- Rows stay where they are unless they are taken for its own. -/
theorem unchanged_iff {other : α → Prop} (excluded : ¬ other row) :
    (∀ (i : Nat) (old : α), rows[i]? = some old → other old →
      (setRows own row rows)[i]? = some old) ↔
      ∀ old ∈ rows, other old → own old = false := by
  constructor
  · intro unchanged old present away
    obtain ⟨i, here⟩ := List.mem_iff_getElem?.mp present
    have still := unchanged i old here away
    rcases eq_or_other_of_mem_setRows (List.mem_of_getElem? still) with
      rfl | ⟨-, theirs⟩
    · exact absurd away excluded
    · exact theirs
  · intro theirs i old here away
    have kept : (rows.map (keptOr own row))[i]? = some old := by
      rw [List.getElem?_map, here, Option.map_some,
        keptOr_of_other (theirs old (List.mem_of_getElem? here) away)]
    unfold setRows
    split
    · exact kept
    · rw [List.getElem?_append_left (List.getElem?_eq_some_iff.mp kept).1]
      exact kept

theorem countP_map_keptOr {p : α → Bool} (counted : p row = true) :
    (rows.map (keptOr own row)).countP p =
      rows.countP own + rows.countP fun old => p old && !own old := by
  induction rows with
  | nil => rfl
  | cons old rows ih =>
      rw [List.map_cons, List.countP_cons, List.countP_cons, List.countP_cons,
        ih]
      cases mine : own old with
      | false => simp [keptOr_of_other mine, Nat.add_assoc]
      | true => simp [keptOr_of_own mine, counted, Nat.add_right_comm]

theorem countP_setRows {p : α → Bool} (counted : p row = true) :
    (setRows own row rows).countP p =
      max (rows.countP own) 1 + rows.countP fun old => p old && !own old := by
  cases some : rows.any own with
  | false =>
      have none : rows.countP own = 0 :=
        List.countP_eq_zero.mpr (by simpa using some)
      have kept := @countP_map_keptOr α own row rows p counted
      rw [map_keptOr_of_none some] at kept
      rw [setRows_of_none some, List.countP_append, kept, none,
        List.countP_singleton, if_pos counted]
      omega
  | true =>
      have one : 0 < rows.countP own :=
        List.countP_pos_iff.mpr (by simpa using some)
      rw [setRows_of_some some, countP_map_keptOr counted]
      omega

end Rows

/-! ## The file -/

open UdhcpcLease (Text isSpace fields)

def address : Text := "127.0.1.1".toList

def hasAddress (line : Text) : Bool := address.isPrefixOf line

/-- The address field of the line -/
def IsOwn (line : Text) : Prop := (fields line).head? = some address

instance : DecidablePred IsOwn := fun line =>
  inferInstanceAs (Decidable ((fields line).head? = some address))

def lines (content : Text) : List Text := content.splitOn '\n'

section Update

variable (hostname fqdn : Text)

def hostLine : Text := address ++ '\t' :: (hostname ++ ' ' :: fqdn)

def newContent (content : Text) : Text :=
  ['\n'].intercalate
    (setRows hasAddress (hostLine hostname fqdn) (lines content))

/-- The error each call on the file returns, and how much a write that failed
has written -/
structure Calls where
  openFile : Option Text := none
  seek : Option Text := none
  readAll : Option Text := none
  truncate : Option Text := none
  rewind : Option Text := none
  write : Option Text := none
  written : Nat := 0

def failedTo (action cause : Text) : Text :=
  "failed to ".toList ++ action ++ " /etc/hosts: ".toList ++ cause

def Calls.opened (calls : Calls) (file : Option Text) : Except Text Text :=
  match calls.openFile, file with
  | some cause, _ => .error cause
  | none, none => .error "open /etc/hosts: no such file or directory".toList
  | none, some content => .ok content

/-- The outcome and the file; there is no file where it is missing. -/
def updateEtcHosts (calls : Calls) (file : Option Text) :
    Except Text Unit × Option Text :=
  match calls.opened file with
  | .error cause => (.error (failedTo "open".toList cause), file)
  | .ok content =>
      if let some cause := calls.seek then
        (.error (failedTo "seek".toList cause), file)
      else if let some cause := calls.readAll then
        (.error (failedTo "read".toList cause), file)
      else if let some cause := calls.truncate then
        (.error (failedTo "truncate".toList cause), file)
      else if let some cause := calls.rewind then
        (.error (failedTo "seek".toList cause), some [])
      else if let some cause := calls.write then
        (.error (failedTo "write".toList cause),
          some ((newContent hostname fqdn content).take calls.written))
      else (.ok (), some (newContent hostname fqdn content))

end Update

def fqdnIn (line : Text) : Option Text :=
  if hasAddress line then (fields line)[1]? else none

/-- The content is missing where it cannot be read. -/
def getFQDNFromHosts (content : Option Text) (hostname : Text) : Text :=
  match content with
  | none => hostname
  | some content => ((lines content).findSome? fqdnIn).getD hostname

theorem updateEtcHosts_eq_ok {hostname fqdn : Text} {calls : Calls}
    {file after : Option Text}
    (done : updateEtcHosts hostname fqdn calls file = (.ok (), after)) :
    ∃ before, file = some before ∧
      after = some (newContent hostname fqdn before) := by
  unfold updateEtcHosts at done
  split at done
  · cases done
  · rename_i content opened
    have here : file = some content := by
      unfold Calls.opened at opened
      split at opened
      · cases opened
      · cases opened
      · exact congrArg some (Except.ok.inj opened)
    refine ⟨content, here, ?_⟩
    repeat' split at done
    all_goals first
      | cases done; done
      | exact (Prod.mk.inj done).2.symm

/-! ## Names and lines -/

def isNameChar (char : Char) : Bool :=
  char.isAlphanum || char = '-' || char = '.'

/-- Letters, digits, hyphens and dots -/
def ValidHostname (name : Text) : Prop := name ≠ [] ∧ name.all isNameChar

instance : DecidablePred ValidHostname := fun name =>
  inferInstanceAs (Decidable (name ≠ [] ∧ name.all isNameChar))

theorem isSpace_eq_false {char : Char} (valid : isNameChar char = true) :
    isSpace char = false := by
  simp only [isNameChar, Bool.or_eq_true, decide_eq_true_eq, or_assoc] at valid
  rcases valid with letter | rfl | rfl
  · change (decide (char.val ≥ 65 ∧ char.val ≤ 90) ||
      (char.val ≥ 97 && char.val ≤ 122) ||
      (char.val ≥ 48 && char.val ≤ 57)) = true at letter
    simp only [Bool.or_eq_true, Bool.and_eq_true, decide_eq_true_eq,
      ge_iff_le, UInt32.le_iff_toNat_le] at letter
    change (65 ≤ char.toNat ∧ char.toNat ≤ 90 ∨
      97 ≤ char.toNat ∧ char.toNat ≤ 122) ∨
      48 ≤ char.toNat ∧ char.toNat ≤ 57 at letter
    unfold isSpace
    simp only [Bool.or_eq_false_iff, Bool.and_eq_false_iff,
      decide_eq_false_iff_not]
    omega
  · decide
  · decide

theorem ValidHostname.isSpace_eq_false {name : Text}
    (valid : ValidHostname name) :
    ∀ char ∈ name, isSpace char = false := fun char present =>
  EtcHosts.isSpace_eq_false (List.all_eq_true.mp valid.2 char present)

theorem not_mem_of_mem_lines {content line : Text}
    (present : line ∈ lines content) : '\n' ∉ line := by
  unfold lines at present
  induction content generalizing line with
  | nil =>
      rw [List.splitOn_nil, List.mem_singleton] at present
      rw [present]
      exact List.not_mem_nil
  | cons char content ih =>
      rw [List.splitOn_cons_eq_if_modifyHead] at present
      split at present
      · rcases List.mem_cons.mp present with rfl | later
        · exact List.not_mem_nil
        · exact ih later
      · rename_i other
        obtain ⟨first, rest, split⟩ :=
          List.exists_cons_of_ne_nil (List.splitOn_ne_nil '\n' content)
        rw [split] at present ih
        rcases List.mem_cons.mp present with rfl | later
        · intro ends
          rcases List.mem_cons.mp ends with rfl | inside
          · exact other (beq_self_eq_true _)
          · exact ih List.mem_cons_self inside
        · exact ih (List.mem_cons_of_mem _ later)

/-! ## What an update leaves -/

/-- What is expected of a file after an update -/
structure RoundTrips (hostname fqdn before after : Text) : Prop where
  readsBack : getFQDNFromHosts (some after) hostname = fqdn
  others : ∀ (i : Nat) (line : Text), (lines before)[i]? = some line →
    ¬ IsOwn line → (lines after)[i]? = some line
  single : (lines after).countP (IsOwn ·) = 1
  again : ∀ calls result,
    updateEtcHosts hostname fqdn calls (some after) = (.ok (), result) →
      result = some after

/-- The lines that begin with the address are those with the address, of which
there is no more than one. -/
structure Recognized (content : Text) : Prop where
  exactly : ∀ line ∈ lines content, hasAddress line ↔ IsOwn line
  unique : (lines content).countP (IsOwn ·) ≤ 1

instance (content : Text) : Decidable (Recognized content) :=
  decidable_of_iff
    ((∀ line ∈ lines content, hasAddress line ↔ IsOwn line) ∧
      (lines content).countP (IsOwn ·) ≤ 1)
    ⟨fun ⟨exactly, unique⟩ => ⟨exactly, unique⟩,
      fun ⟨exactly, unique⟩ => ⟨exactly, unique⟩⟩

section Written

variable {hostname fqdn : Text}

theorem hasAddress_hostLine : hasAddress (hostLine hostname fqdn) = true :=
  List.isPrefixOf_iff_prefix.mpr (List.prefix_append address _)

theorem fields_hostLine (named : ValidHostname hostname)
    (full : ValidHostname fqdn) :
    fields (hostLine hostname fqdn) = [address, hostname, fqdn] := by
  have plain : ∀ char ∈ address, isSpace char = false := by
    have all : address.all (!isSpace ·) = true := by decide
    simpa using all
  have present : address ≠ [] := by decide
  unfold fields hostLine
  rw [List.splitOnP_append_cons_of_forall_mem plain '\t' (by decide),
    List.splitOnP_append_cons_of_forall_mem named.isSpace_eq_false ' '
      (by decide),
    List.splitOnP_eq_singleton full.isSpace_eq_false]
  simp [named.1, full.1, present]

theorem isOwn_hostLine (named : ValidHostname hostname)
    (full : ValidHostname fqdn) : IsOwn (hostLine hostname fqdn) := by
  rw [IsOwn, fields_hostLine named full]
  rfl

theorem not_mem_hostLine (named : ValidHostname hostname)
    (full : ValidHostname fqdn) : '\n' ∉ hostLine hostname fqdn := by
  have apart {name : Text} (valid : ValidHostname name) : '\n' ∉ name :=
    fun present => by cases valid.isSpace_eq_false _ present
  have plain : '\n' ∉ address := by decide
  simp [hostLine, plain, apart named, apart full]

theorem lines_newContent (named : ValidHostname hostname)
    (full : ValidHostname fqdn) (content : Text) :
    lines (newContent hostname fqdn content) =
      setRows hasAddress (hostLine hostname fqdn) (lines content) := by
  refine List.splitOn_intercalate '\n' (fun line present => ?_)
    (List.ne_nil_of_mem mem_setRows)
  rcases eq_or_other_of_mem_setRows present with rfl | ⟨kept, -⟩
  · exact not_mem_hostLine named full
  · exact not_mem_of_mem_lines kept

theorem newContent_newContent (named : ValidHostname hostname)
    (full : ValidHostname fqdn) (content : Text) :
    newContent hostname fqdn (newContent hostname fqdn content) =
      newContent hostname fqdn content := by
  rw [newContent, lines_newContent named full,
    setRows_setRows hasAddress_hostLine]
  rfl

/-- The second field of the line is the host name, which is what the reader
returns. -/
theorem getFQDNFromHosts_newContent (named : ValidHostname hostname)
    (full : ValidHostname fqdn) (content asked : Text) :
    getFQDNFromHosts (some (newContent hostname fqdn content)) asked =
      hostname := by
  have written : fqdnIn (hostLine hostname fqdn) = some hostname := by
    rw [fqdnIn, if_pos hasAddress_hostLine, fields_hostLine named full]
    rfl
  have found := @findSome?_setRows Text hasAddress (hostLine hostname fqdn)
    (lines content) Text fqdnIn hostname written
    fun line theirs => if_neg (by simp [theirs])
  rw [getFQDNFromHosts, lines_newContent named full, found]
  rfl

theorem others_newContent_iff (named : ValidHostname hostname)
    (full : ValidHostname fqdn) (content : Text) :
    (∀ (i : Nat) (line : Text), (lines content)[i]? = some line →
      ¬ IsOwn line →
      (lines (newContent hostname fqdn content))[i]? = some line) ↔
      ∀ line ∈ lines content, hasAddress line → IsOwn line := by
  rw [lines_newContent named full]
  refine (unchanged_iff fun away =>
    away (isOwn_hostLine named full)).trans ?_
  refine forall₂_congr fun line _ => ?_
  cases hasAddress line <;> simp

theorem countP_missed_iff {content : Text} :
    (lines content).countP (fun line => decide (IsOwn line) && !hasAddress line) =
        0 ↔
      ∀ line ∈ lines content, IsOwn line → hasAddress line := by
  rw [List.countP_eq_zero]
  simp

theorem countP_own {content : Text}
    (exactly : ∀ line ∈ lines content, hasAddress line ↔ IsOwn line) :
    (lines content).countP (IsOwn ·) = (lines content).countP hasAddress :=
  List.countP_congr fun line present => by simp [exactly line present]

theorem single_newContent_iff (named : ValidHostname hostname)
    (full : ValidHostname fqdn) {content : Text}
    (others : ∀ line ∈ lines content, hasAddress line → IsOwn line) :
    (lines (newContent hostname fqdn content)).countP (IsOwn ·) = 1 ↔
      Recognized content := by
  have counted := @countP_setRows Text hasAddress (hostLine hostname fqdn)
    (lines content) (IsOwn ·) (decide_eq_true (isOwn_hostLine named full))
  rw [lines_newContent named full, counted]
  constructor
  · intro single
    have missed : (lines content).countP
        (fun line => decide (IsOwn line) && !hasAddress line) = 0 := by omega
    have exactly : ∀ line ∈ lines content, hasAddress line ↔ IsOwn line :=
      fun line present =>
        ⟨others line present, countP_missed_iff.mp missed line present⟩
    have same := countP_own exactly
    exact ⟨exactly, by omega⟩
  · rintro ⟨exactly, unique⟩
    have same := countP_own exactly
    have missed := countP_missed_iff.mpr fun line present =>
      (exactly line present).mpr
    omega

/-- An update that succeeds round-trips if and only if the full name is the
host name and the lines of the device are recognized. -/
theorem roundTrips_iff_recognized (named : ValidHostname hostname)
    (full : ValidHostname fqdn) {before after : Text} {calls : Calls}
    (done : updateEtcHosts hostname fqdn calls (some before) =
      (.ok (), some after)) :
    RoundTrips hostname fqdn before after ↔
      hostname = fqdn ∧ Recognized before := by
  obtain ⟨_, here, written⟩ := updateEtcHosts_eq_ok done
  cases here
  cases written
  have read := getFQDNFromHosts_newContent named full before hostname
  have others := others_newContent_iff named full before
  constructor
  · intro trips
    exact ⟨read.symm.trans trips.readsBack,
      (single_newContent_iff named full (others.mp trips.others)).mp
        trips.single⟩
  · rintro ⟨same, recognized⟩
    have theirs : ∀ line ∈ lines before, hasAddress line → IsOwn line :=
      fun line present => (recognized.exactly line present).mp
    refine ⟨read.trans same, others.mpr theirs,
      (single_newContent_iff named full theirs).mpr recognized,
      fun calls result second => ?_⟩
    obtain ⟨_, here, again⟩ := updateEtcHosts_eq_ok second
    cases here
    rw [again, newContent_newContent named full]

theorem roundTrips_iff_recognized_jetkvm :
    RoundTrips "jetkvm".toList "jetkvm".toList
      "127.0.0.1\tlocalhost\n127.0.1.1\told old.lan\n".toList
      "127.0.0.1\tlocalhost\n127.0.1.1\tjetkvm jetkvm\n".toList :=
  (@roundTrips_iff_recognized "jetkvm".toList "jetkvm".toList (by decide)
    (by decide) _ _ {} (by decide)).mpr (by decide)

/-- The host name is read back instead of the full name. -/
theorem not_roundTrips_local :
    updateEtcHosts "jetkvm".toList "jetkvm.local".toList {}
        (some "127.0.0.1\tlocalhost\n".toList) =
      (.ok (), some
        "127.0.0.1\tlocalhost\n\n127.0.1.1\tjetkvm jetkvm.local".toList) ∧
      ¬ RoundTrips "jetkvm".toList "jetkvm.local".toList
        "127.0.0.1\tlocalhost\n".toList
        "127.0.0.1\tlocalhost\n\n127.0.1.1\tjetkvm jetkvm.local".toList :=
  ⟨by decide, fun trips => absurd trips.readsBack (by decide)⟩

end Written

end EtcHosts

end JetKvm
