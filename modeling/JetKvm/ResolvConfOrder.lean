import JetKvm.ResolvConf
import JetKvm.SortedListings

/-!
# When the resolver configuration does not depend on map orders

The file is put together from the search list, the domain and the comments of
the name servers, each in an order of its own. What it takes for every run to
write the same, with each configured name in it once and as it is.
-/

namespace JetKvm

namespace ResolvConf

open IpText InterchangedWords OrderedVisits

/-! ## What is merged -/

def nameserverPairs (entry : Entry) : List (Text × Text) :=
  entry.2.nameServers.map fun ip => (ipText ip, comment entry)

def searchPairs (entry : Entry) : List (Text × Text) :=
  entry.2.searchList.map fun search => (trimDots search, comment entry)

theorem mergeConfig_eq (config : List Entry) (maps : ConfigMap × ConfigMap) :
    mergeConfig maps config =
      ((config.flatMap nameserverPairs).foldl
          (fun groups pair => add groups pair.1 pair.2) maps.1,
        (config.flatMap searchPairs).foldl
          (fun groups pair => add groups pair.1 pair.2) maps.2) := by
  induction config generalizing maps with
  | nil => rfl
  | cons entry config ih =>
      rw [mergeConfig, List.foldl_cons, ← mergeConfig, ih, List.flatMap_cons,
        List.flatMap_cons, List.foldl_append, List.foldl_append, mergeEntry,
        nameserverPairs, searchPairs, List.foldl_map, List.foldl_map]

section Run

variable (manager : ResolvConfManager) (iteration : Iteration)

/-- The interfaces in the order in which they are merged -/
def visits : List Entry :=
  manager.configIPv4.visited iteration.mergeIPv4 ++
    manager.configIPv6.visited iteration.mergeIPv6

def ResolvConfManager.entries : List Entry :=
  manager.configIPv4.entries ++ manager.configIPv6.entries

/-- The name servers as they are printed -/
def ResolvConfManager.nameservers : List Text :=
  (manager.entries.flatMap nameserverPairs).map Prod.fst

/-- The search domains without the dots at their ends -/
def ResolvConfManager.searches : List Text :=
  (manager.entries.flatMap searchPairs).map Prod.fst

theorem merged_eq :
    merged manager iteration =
      (group ((visits manager iteration).flatMap nameserverPairs),
        group ((visits manager iteration).flatMap searchPairs)) := by
  rw [merged, mergeConfig_eq, mergeConfig_eq, visits, List.flatMap_append,
    List.flatMap_append, group, group, List.foldl_append, List.foldl_append]

theorem visits_perm : (visits manager iteration).Perm manager.entries :=
  (inOrder_perm _ _).append (inOrder_perm _ _)

theorem groups_nameservers :
    Groups ((visits manager iteration).flatMap nameserverPairs)
      (merged manager iteration).1 := by
  rw [merged_eq]
  exact groups_group _

theorem groups_searches :
    Groups ((visits manager iteration).flatMap searchPairs)
      (merged manager iteration).2 := by
  rw [merged_eq]
  exact groups_group _

theorem mem_merged_nameservers {text : Text} :
    text ∈ (merged manager iteration).1.map Prod.fst ↔
      text ∈ manager.nameservers := by
  rw [(groups_nameservers manager iteration).keys]
  exact (((visits_perm manager iteration).flatMap_right _).map _).mem_iff

theorem mem_merged_searches {text : Text} :
    text ∈ (merged manager iteration).2.map Prod.fst ↔
      text ∈ manager.searches := by
  rw [(groups_searches manager iteration).keys]
  exact (((visits_perm manager iteration).flatMap_right _).map _).mem_iff

/-! ### The search list -/

theorem searchList_perm :
    (page manager iteration).searchList.Perm
      ((merged manager iteration).2.map Prod.fst) :=
  (inOrder_perm _ _).map _

theorem nodup_searchList : (page manager iteration).searchList.Nodup :=
  (searchList_perm manager iteration).nodup_iff.mpr
    (groups_searches manager iteration).distinct

theorem mem_searchList {text : Text} :
    text ∈ (page manager iteration).searchList ↔ text ∈ manager.searches :=
  (searchList_perm manager iteration).mem_iff.trans
    (mem_merged_searches manager iteration)

theorem searchList_perm_searchList (other : Iteration) :
    (page manager iteration).searchList.Perm (page manager other).searchList :=
  (List.perm_ext_iff_of_nodup (nodup_searchList manager iteration)
    (nodup_searchList manager other)).mpr fun _ =>
      (mem_searchList manager iteration).trans (mem_searchList manager other).symm

/-! ### The name servers -/

theorem nameservers_perm :
    (page manager iteration).nameservers.Perm (merged manager iteration).1 :=
  List.mergeSort_perm _ _

theorem nodup_nameservers :
    ((page manager iteration).nameservers.map Prod.fst).Nodup :=
  ((nameservers_perm manager iteration).map _).nodup_iff.mpr
    (groups_nameservers manager iteration).distinct

theorem mem_nameservers {text : Text} :
    text ∈ (page manager iteration).nameservers.map Prod.fst ↔
      text ∈ manager.nameservers :=
  ((nameservers_perm manager iteration).map _).mem_iff.trans
    (mem_merged_nameservers manager iteration)

theorem sorted_nameservers :
    ((page manager iteration).nameservers.map Prod.fst).Pairwise (· ≤ ·) :=
  List.pairwise_map.mpr
    (SortedListings.arranges_mergeSort Prod.fst
      (merged manager iteration).1).sorted

theorem map_fst_nameservers (other : Iteration) :
    (page manager iteration).nameservers.map Prod.fst =
      (page manager other).nameservers.map Prod.fst := by
  refine List.Perm.eq_of_pairwise (fun first second _ _ => le_antisymm)
    (sorted_nameservers manager iteration) (sorted_nameservers manager other) ?_
  exact (List.perm_ext_iff_of_nodup (nodup_nameservers manager iteration)
    (nodup_nameservers manager other)).mpr fun _ =>
      (mem_nameservers manager iteration).trans
        (mem_nameservers manager other).symm

/-- The comments of a name server, in the order of the run -/
def commentsOf (nameserver : Text) : List Text :=
  valuesOf nameserver ((visits manager iteration).flatMap nameserverPairs)

theorem nameservers_eq :
    (page manager iteration).nameservers =
      ((page manager iteration).nameservers.map Prod.fst).map fun nameserver =>
        (nameserver, commentsOf manager iteration nameserver) := by
  rw [List.map_map]
  conv_lhs => rw [← List.map_id (page manager iteration).nameservers]
  refine List.map_congr_left fun entry present => ?_
  have values := (groups_nameservers manager iteration).values entry
    ((nameservers_perm manager iteration).mem_iff.mp present)
  exact Prod.ext rfl values

theorem commentsOf_perm (other : Iteration) (nameserver : Text) :
    (commentsOf manager iteration nameserver).Perm
      (commentsOf manager other nameserver) :=
  ((((visits_perm manager iteration).trans
    (visits_perm manager other).symm).flatMap_right _).filter _).map _

/-- The lines of the name servers, for one run's keys -/
theorem flatMap_nameserverLine (other : Iteration) :
    (page manager iteration).nameservers.flatMap nameserverLine =
      ((page manager other).nameservers.map Prod.fst).flatMap fun nameserver =>
        nameserverLine (nameserver, commentsOf manager iteration nameserver) := by
  rw [nameservers_eq, List.flatMap_map, map_fst_nameservers manager iteration other]

end Run

/-! ### Escapes -/

theorem escape_append (first second : Text) :
    escape (first ++ second) = escape first ++ escape second :=
  List.flatMap_append

theorem escape_flatten (words : List Text) :
    escape words.flatten = (words.map escape).flatten := by
  induction words with
  | nil => rfl
  | cons word words ih =>
      rw [List.flatten_cons, escape_append, ih, List.map_cons, List.flatten_cons]

theorem escape_intercalate (mark : Text) (words : List Text) :
    escape (mark.intercalate words) =
      (escape mark).intercalate (words.map escape) := by
  induction words with
  | nil => rfl
  | cons word words ih =>
      cases words with
      | nil => simp
      | cons next words =>
          rw [List.intercalate_cons_cons, escape_append, escape_append, ih]
          simp only [List.map_cons, List.intercalate_cons_cons]

/-- None of the characters is replaced. -/
def Plain (text : Text) : Prop :=
  ∀ char ∈ text, char ∉ [Char.ofNat 0, '"', '&', '\'', '+', '<', '>']

instance : DecidablePred Plain := fun text =>
  List.decidableBAll (· ∉ [Char.ofNat 0, '"', '&', '\'', '+', '<', '>']) text

theorem escapeChar_of_plain {char : Char}
    (plain : char ∉ [Char.ofNat 0, '"', '&', '\'', '+', '<', '>']) :
    escapeChar char = [char] := by
  simp only [List.mem_cons, List.not_mem_nil, or_false, not_or] at plain
  obtain ⟨a, b, c, d, e, f, g⟩ := plain
  rw [escapeChar, if_neg a, if_neg b, if_neg c, if_neg d, if_neg e, if_neg f,
    if_neg g]

theorem Plain.escape_eq {text : Text} (plain : Plain text) :
    escape text = text := by
  induction text with
  | nil => rfl
  | cons char text ih =>
      obtain ⟨here, rest⟩ := List.forall_mem_cons.mp plain
      rw [escape, List.flatMap_cons, escapeChar_of_plain here, ← escape, ih rest]
      rfl

theorem length_escapeChar (char : Char) :
    1 ≤ (escapeChar char).length ∧
      ((escapeChar char).length = 1 → char = Char.ofNat 0 ∨
        char ∉ [Char.ofNat 0, '"', '&', '\'', '+', '<', '>']) := by
  unfold escapeChar
  split_ifs
  all_goals simp_all

theorem length_escape (text : Text) :
    text.length ≤ (escape text).length ∧
      ((escape text).length = text.length → ∀ char ∈ text,
        char = Char.ofNat 0 ∨
          char ∉ [Char.ofNat 0, '"', '&', '\'', '+', '<', '>']) := by
  induction text with
  | nil => exact ⟨le_rfl, fun _ => List.forall_mem_nil _⟩
  | cons char text ih =>
      obtain ⟨one, single⟩ := length_escapeChar char
      have whole : (escape (char :: text)).length =
          (escapeChar char).length + (escape text).length := by
        rw [escape, List.flatMap_cons, List.length_append, ← escape]
      rw [whole, List.length_cons]
      refine ⟨by omega, fun same => List.forall_mem_cons.mpr ⟨?_, ?_⟩⟩
      · exact single (by omega)
      · exact ih.2 (by omega)

theorem nul_not_mem_escape (text : Text) : Char.ofNat 0 ∉ escape text := by
  intro member
  obtain ⟨char, -, inside⟩ := List.mem_flatMap.mp member
  revert inside
  unfold escapeChar
  split_ifs
  all_goals first
    | decide
    | simp_all [eq_comm]

/-- Distinct words are all among what is written for them only if nothing is
replaced: the words that are written are no longer than those that are meant. -/
theorem plain_of_subset_map_escape {words : List Text} (distinct : words.Nodup)
    (listed : ∀ word ∈ words, word ∈ words.map escape) :
    ∀ word ∈ words, Plain word := by
  have perm : words.Perm (words.map escape) :=
    (List.subperm_of_subset distinct listed).perm_of_length_le (by simp)
  have total := perm.flatten.length_eq
  rw [← escape_flatten] at total
  intro word present char inside
  obtain ⟨original, -, same⟩ := List.mem_map.mp (listed word present)
  have notNul : char ≠ Char.ofNat 0 := by
    rintro rfl
    exact nul_not_mem_escape original (same ▸ inside)
  exact ((length_escape words.flatten).2 total.symm char
    (List.mem_flatten.mpr ⟨word, present, inside⟩)).resolve_left notNul

/-! ## What depends on an order -/

/-- What an interface adds to the comments of the name server -/
def block (nameserver : Text) (entry : Entry) : Text :=
  (valuesOf nameserver (nameserverPairs entry)).flatMap fun comment =>
    escape comment ++ [',', ' ']

/-- The domains of which any may be the one that is written -/
def ResolvConfManager.candidates (manager : ResolvConfManager) : List Text :=
  if manager.HasDomain then [manager.domain]
  else if manager.configIPv4.entries.filterMap domainOf ≠ [] then
    manager.configIPv4.entries.filterMap domainOf
  else if manager.configIPv6.entries.filterMap domainOf ≠ [] then
    manager.configIPv6.entries.filterMap domainOf
  else ["local".toList]

section Parts

variable {manager : ResolvConfManager} {iteration other : Iteration}

theorem flatMap_commentsOf (nameserver : Text) :
    (commentsOf manager iteration nameserver).flatMap
        (fun comment => escape comment ++ [',', ' ']) =
      (visits manager iteration).flatMap (block nameserver) := by
  rw [commentsOf, valuesOf_flatMap, List.flatMap_assoc]
  rfl

theorem nameserverLine_eq_iff (nameserver : Text) :
    nameserverLine (nameserver, commentsOf manager iteration nameserver) =
        nameserverLine (nameserver, commentsOf manager other nameserver) ↔
      (visits manager iteration).flatMap (block nameserver) =
        (visits manager other).flatMap (block nameserver) := by
  have mark : escape [',', ' '] = [',', ' '] := by decide
  have perm := (commentsOf_perm manager iteration other nameserver).map escape
  unfold nameserverLine
  rw [List.append_right_inj, escape_intercalate, escape_intercalate, mark,
    intercalate_eq_iff perm, List.flatMap_map, List.flatMap_map,
    flatMap_commentsOf, flatMap_commentsOf]

theorem length_nameserverLine (nameserver : Text) :
    (nameserverLine
        (nameserver, commentsOf manager iteration nameserver)).length =
      (nameserverLine
        (nameserver, commentsOf manager other nameserver)).length := by
  have perm := (commentsOf_perm manager iteration other nameserver).map escape
  unfold nameserverLine
  rw [escape_intercalate, escape_intercalate]
  simp only [List.length_append, length_intercalate_eq perm]

/-- The lines of the name servers agree if and only if the comments of each do. -/
theorem nameserverLines_eq_iff :
    (page manager iteration).nameservers.flatMap nameserverLine =
        (page manager other).nameservers.flatMap nameserverLine ↔
      ∀ nameserver ∈ manager.nameservers,
        (visits manager iteration).flatMap (block nameserver) =
          (visits manager other).flatMap (block nameserver) := by
  rw [flatMap_nameserverLine manager iteration other,
    flatMap_nameserverLine manager other other]
  constructor
  · intro same nameserver present
    have each := eq_of_flatMap_eq
      (fun nameserver _ => length_nameserverLine nameserver) same nameserver
      ((mem_nameservers manager other).mpr present)
    exact (nameserverLine_eq_iff nameserver).mp each
  · intro each
    have lines : ∀ nameserver ∈ (page manager other).nameservers.map Prod.fst,
        nameserverLine (nameserver, commentsOf manager iteration nameserver) =
          nameserverLine (nameserver, commentsOf manager other nameserver) :=
      fun nameserver present => (nameserverLine_eq_iff nameserver).mpr
        (each nameserver ((mem_nameservers manager other).mp present))
    rw [List.flatMap_def, List.flatMap_def, List.map_congr_left lines]

/-- The words of the line are the search domains, each escaped. -/
theorem searchLine_eq (searchList : List Text) :
    searchLine searchList =
      if searchList ≠ [] then
        "\nsearch ".toList ++ [' '].intercalate (searchList.map escape)
      else [] := by
  have mark : escape [' '] = [' '] := by decide
  rw [searchLine, escape_intercalate, mark]

theorem searchLine_eq_of_interchange
    (alike : ∀ first ∈ manager.searches, ∀ second ∈ manager.searches,
      Interchange (escape first ++ [' ']) (escape second ++ [' '])) :
    searchLine (page manager iteration).searchList =
      searchLine (page manager other).searchList := by
  have perm := searchList_perm_searchList manager iteration other
  have words : [' '].intercalate
        ((page manager iteration).searchList.map escape) =
      [' '].intercalate ((page manager other).searchList.map escape) := by
    rw [intercalate_eq_iff (perm.map escape), List.flatMap_map, List.flatMap_map]
    refine flatMap_eq_of_perm perm fun first here second there => ?_
    exact alike first ((mem_searchList manager iteration).mp here) second
      ((mem_searchList manager iteration).mp there)
  have both : (page manager iteration).searchList ≠ [] ↔
      (page manager other).searchList ≠ [] := by
    rw [← List.length_pos_iff, ← List.length_pos_iff, perm.length_eq]
  rw [searchLine_eq, searchLine_eq, words]
  simp only [both]

theorem firstDomain_visited (config : InterfaceResolvConfMap)
    (rank : Text → Nat) :
    (config.entries.filterMap domainOf = [] →
        firstDomain (config.visited rank) = none) ∧
      (config.entries.filterMap domainOf ≠ [] →
        ∃ domain ∈ config.entries.filterMap domainOf,
          firstDomain (config.visited rank) = some domain) := by
  have perm := (@inOrder_perm _ _ Prod.fst rank config.entries).filterMap domainOf
  rw [firstDomain, ← List.head?_filterMap]
  constructor
  · intro none
    rw [none] at perm
    rw [InterfaceResolvConfMap.visited, perm.eq_nil]
    rfl
  · intro some
    have there : (config.visited rank).filterMap domainOf ≠ [] := fun none =>
      some (perm.symm.trans (.of_eq none)).eq_nil
    exact ⟨_, perm.mem_iff.mp (List.head_mem there),
      List.head?_eq_some_head there⟩

theorem getDomain_mem_candidates :
    getDomain manager iteration ∈ manager.candidates := by
  obtain ⟨none4, some4⟩ :=
    firstDomain_visited manager.configIPv4 iteration.domainIPv4
  obtain ⟨none6, some6⟩ :=
    firstDomain_visited manager.configIPv6 iteration.domainIPv6
  unfold getDomain ResolvConfManager.candidates
  split_ifs with own any4 any6
  · exact List.mem_singleton_self _
  · obtain ⟨domain, present, here⟩ := some4 any4
    rw [here]
    exact present
  · obtain ⟨domain, present, here⟩ := some6 any6
    rw [none4 (not_not.mp any4), here]
    exact present
  · rw [none4 (not_not.mp any4), none6 (not_not.mp any6)]
    exact List.mem_singleton_self _

theorem exists_firstDomain_eq {config : InterfaceResolvConfMap} {domain : Text}
    (present : domain ∈ config.entries.filterMap domainOf) :
    ∃ rank, firstDomain (config.visited rank) = some domain := by
  obtain ⟨entry, listed, here⟩ := List.mem_filterMap.mp present
  obtain ⟨rank, rest, ordered⟩ := exists_inOrder_cons config.distinct listed
  refine ⟨rank, ?_⟩
  rw [InterfaceResolvConfMap.visited, ordered, firstDomain, List.findSome?_cons,
    here]

theorem exists_getDomain_eq {domain : Text}
    (present : domain ∈ manager.candidates) :
    ∃ rank4 rank6, getDomain manager
      { iteration with domainIPv4 := rank4, domainIPv6 := rank6 } = domain := by
  unfold ResolvConfManager.candidates at present
  split_ifs at present with own any4 any6
  · refine ⟨iteration.domainIPv4, iteration.domainIPv6, ?_⟩
    rw [getDomain, if_pos own, List.mem_singleton.mp present]
  · obtain ⟨rank, first⟩ := exists_firstDomain_eq present
    refine ⟨rank, iteration.domainIPv6, ?_⟩
    rw [getDomain, if_neg own, first]
    rfl
  · obtain ⟨rank, first⟩ := exists_firstDomain_eq present
    refine ⟨iteration.domainIPv4, rank, ?_⟩
    rw [getDomain, if_neg own, first,
      (firstDomain_visited manager.configIPv4 _).1 (not_not.mp any4)]
    rfl
  · refine ⟨iteration.domainIPv4, iteration.domainIPv6, ?_⟩
    rw [getDomain, if_neg own,
      (firstDomain_visited manager.configIPv4 _).1 (not_not.mp any4),
      (firstDomain_visited manager.configIPv6 _).1 (not_not.mp any6),
      List.mem_singleton.mp present]
    rfl

theorem ne_nil_of_mem_candidates {domain : Text}
    (present : domain ∈ manager.candidates) : domain ≠ [] := by
  have listed {config : List Entry} (inside : domain ∈ config.filterMap domainOf) :
      domain ≠ [] := by
    obtain ⟨entry, -, here⟩ := List.mem_filterMap.mp inside
    unfold domainOf at here
    split at here
    · rename_i some
      cases here
      exact some
    · cases here
  unfold ResolvConfManager.candidates at present
  split_ifs at present with own
  · rw [List.mem_singleton.mp present]
    exact own.1
  · exact listed present
  · exact listed present
  · rw [List.mem_singleton.mp present]
    decide

end Parts

/-! ## When every run writes the same -/

/-- The words of a file, as they stand in it -/
structure Words where
  searchList : List Text
  domain : Text
  nameservers : List (Text × Text)

/-- The file of the words -/
def Words.text (words : Words) : Text :=
  header ++
    ((if words.searchList ≠ [] then
        "\nsearch ".toList ++ [' '].intercalate words.searchList else []) ++
      ((if words.domain ≠ [] then "\ndomain ".toList ++ words.domain else []) ++
        (words.nameservers.flatMap (fun nameserver =>
          "\nnameserver ".toList ++ nameserver.1 ++ " # ".toList ++
            nameserver.2) ++ ['\n'])))

/-- What a run writes of the names -/
def written (manager : ResolvConfManager) (iteration : Iteration) : Words where
  searchList := (page manager iteration).searchList.map escape
  domain := escape (page manager iteration).domain
  nameservers := (page manager iteration).nameservers.map fun listed =>
    (escape listed.1, escape ([',', ' '].intercalate listed.2))

/-- The file is a function of the configuration, made of words among which each
name is once and as it is, and an update that finds it changes nothing. -/
structure Determined (manager : ResolvConfManager) : Prop where
  same : ∀ iteration other,
    generateResolvConf manager iteration = generateResolvConf manager other
  text : ∀ iteration,
    generateResolvConf manager iteration = (written manager iteration).text
  nameservers : ∀ iteration, ∀ nameserver ∈ manager.nameservers,
    ((written manager iteration).nameservers.map Prod.fst).count nameserver = 1
  searches : ∀ iteration, ∀ search ∈ manager.searches,
    (written manager iteration).searchList.count search = 1
  skips : ∀ iteration other,
    update manager other (some (generateResolvConf manager iteration)) = none

/-- What no order shows in: the words of the search list, the domains and the
comments of a name server may each be interchanged, and nothing is escaped. -/
structure OrderFree (manager : ResolvConfManager) : Prop where
  addressed : ∀ entry ∈ manager.entries, ∀ ip ∈ entry.2.nameServers, ip ≠ []
  plain : ∀ search ∈ manager.searches, Plain search
  search : ∀ first ∈ manager.searches, ∀ second ∈ manager.searches,
    Interchange (first ++ [' ']) (second ++ [' '])
  domain : ∀ first ∈ manager.candidates, ∀ second ∈ manager.candidates,
    escape first = escape second
  comments : ∀ config ∈ [manager.configIPv4, manager.configIPv6],
    ∀ first ∈ config.entries, ∀ second ∈ config.entries, ∀ nameserver,
      Interchange (block nameserver first) (block nameserver second)

section Theorem

variable {manager : ResolvConfManager}

theorem plain_ipText {ip : IP} : Plain (ipText ip) ↔ ip ≠ [] := by
  constructor
  · rintro plain rfl
    exact absurd plain (by decide)
  · intro present char inside
    rcases mem_ipText present inside with hex | rfl | rfl | rfl
    · intro replaced
      simp only [List.mem_cons, List.not_mem_nil, or_false] at replaced
      rcases replaced with rfl | rfl | rfl | rfl | rfl | rfl | rfl
      all_goals exact absurd hex (by decide)
    all_goals decide

theorem plain_nameservers_iff :
    (∀ nameserver ∈ manager.nameservers, Plain nameserver) ↔
      ∀ entry ∈ manager.entries, ∀ ip ∈ entry.2.nameServers, ip ≠ [] := by
  unfold ResolvConfManager.nameservers
  simp only [List.forall_mem_map, List.mem_flatMap, forall_exists_index, and_imp]
  constructor
  · intro plain entry listed ip present
    exact plain_ipText.mp (plain (ipText ip, comment entry) entry listed
      (List.mem_map_of_mem present))
  · intro addressed pair entry listed present
    obtain ⟨ip, inside, rfl⟩ := List.mem_map.mp present
    exact plain_ipText.mpr (addressed entry listed ip inside)

/-- Names that are written once each are written as they are, and the other way
around. -/
theorem count_map_escape_iff {words : List Text} (distinct : words.Nodup) :
    (∀ word ∈ words, (words.map escape).count word = 1) ↔
      ∀ word ∈ words, Plain word := by
  constructor
  · intro once
    exact plain_of_subset_map_escape distinct fun word present =>
      List.count_pos_iff.mp (by rw [once word present]; exact Nat.one_pos)
  · intro plain word present
    have kept : words.map escape = words := by
      conv_rhs => rw [← List.map_id words]
      exact List.map_congr_left fun word present => (plain word present).escape_eq
    rw [kept]
    exact List.count_eq_one_of_mem distinct present

theorem generateResolvConf_eq_text (iteration : Iteration) :
    generateResolvConf manager iteration = (written manager iteration).text := by
  have noDomain {domain : Text} : escape domain = [] ↔ domain = [] := by
    constructor
    · intro none
      have short := (length_escape domain).1
      rw [none] at short
      exact List.eq_nil_of_length_eq_zero (Nat.le_zero.mp short)
    · rintro rfl
      rfl
  have blanks {words : List Text} : escape ([' '].intercalate words) =
      [' '].intercalate (words.map escape) := by
    rw [escape_intercalate]
    rfl
  simp only [generateResolvConf, execute, Words.text, written, searchLine,
    domainLine, blanks, List.flatMap_map, ne_eq, List.map_eq_nil_iff, noDomain]
  rfl

theorem searches_iff (iteration : Iteration) :
    (∀ search ∈ manager.searches,
        (written manager iteration).searchList.count search = 1) ↔
      ∀ search ∈ manager.searches, Plain search := by
  have once := count_map_escape_iff (nodup_searchList manager iteration)
  simpa only [written, mem_searchList] using once

theorem nameservers_iff (iteration : Iteration) :
    (∀ nameserver ∈ manager.nameservers,
        ((written manager iteration).nameservers.map Prod.fst).count
          nameserver = 1) ↔
      ∀ nameserver ∈ manager.nameservers, Plain nameserver := by
  have once := count_map_escape_iff (nodup_nameservers manager iteration)
  simpa only [written, mem_nameservers, List.map_map, Function.comp_def]
    using once

theorem skips_iff :
    (∀ iteration other,
        update manager other (some (generateResolvConf manager iteration)) =
          none) ↔
      ∀ iteration other, generateResolvConf manager iteration =
        generateResolvConf manager other := by
  refine forall₂_congr fun iteration other => ?_
  unfold update
  simp

/-! ### Orders that differ in one place -/

theorem domainLine_page (iteration : Iteration) :
    domainLine (page manager iteration).domain =
      "\ndomain ".toList ++ escape (getDomain manager iteration) :=
  if_pos (ne_nil_of_mem_candidates getDomain_mem_candidates)

theorem interchange_of_same
    (same : ∀ iteration other,
      generateResolvConf manager iteration = generateResolvConf manager other)
    {first second : Text} (here : first ∈ manager.searches)
    (there : second ∈ manager.searches) :
    Interchange (escape first ++ [' ']) (escape second ++ [' ']) := by
  by_cases apart : first = second
  · rw [apart]
    exact .refl _
  obtain ⟨⟨_, values⟩, listed, rfl⟩ :=
    List.mem_map.mp ((mem_merged_searches manager {}).mpr here)
  obtain ⟨⟨_, otherValues⟩, otherListed, rfl⟩ :=
    List.mem_map.mp ((mem_merged_searches manager {}).mpr there)
  obtain ⟨rank, swapped, rest, ordered, turned⟩ :=
    exists_inOrder_swap (groups_searches manager {}).distinct listed otherListed
      fun alike => apart (congrArg Prod.fst alike)
  have whole := same { searchList := rank } { searchList := swapped }
  unfold generateResolvConf execute at whole
  have lines := List.append_cancel_right (List.append_cancel_left whole)
  change searchLine ((inOrder Prod.fst rank (merged manager {}).2).map Prod.fst) =
    searchLine ((inOrder Prod.fst swapped (merged manager {}).2).map
      Prod.fst) at lines
  rw [ordered, turned, List.map_cons, List.map_cons, List.map_cons,
    List.map_cons, searchLine_eq, searchLine_eq, if_pos (List.cons_ne_nil _ _),
    if_pos (List.cons_ne_nil _ _)] at lines
  have words := List.append_cancel_left lines
  rw [intercalate_eq_iff ((List.Perm.swap _ _ _).map _), List.flatMap_map,
    List.flatMap_map] at words
  exact interchange_of_flatMap_eq words

theorem escape_eq_of_same
    (same : ∀ iteration other,
      generateResolvConf manager iteration = generateResolvConf manager other)
    {first second : Text} (here : first ∈ manager.candidates)
    (there : second ∈ manager.candidates) : escape first = escape second := by
  obtain ⟨rank4, rank6, found⟩ := @exists_getDomain_eq manager {} first here
  obtain ⟨other4, other6, otherFound⟩ :=
    @exists_getDomain_eq manager {} second there
  have whole := same { domainIPv4 := rank4, domainIPv6 := rank6 }
    { domainIPv4 := other4, domainIPv6 := other6 }
  unfold generateResolvConf execute at whole
  rw [domainLine_page, domainLine_page, found, otherFound] at whole
  have tail := List.append_cancel_left (List.append_cancel_left whole)
  exact List.append_cancel_left (List.append_cancel_right tail)

/-- The runs agree if and only if their search lists, their domains and the
comments of each name server do. -/
theorem generateResolvConf_eq_iff {iteration other : Iteration}
    (search : searchLine (page manager iteration).searchList =
      searchLine (page manager other).searchList)
    (domain : escape (getDomain manager iteration) =
      escape (getDomain manager other)) :
    generateResolvConf manager iteration = generateResolvConf manager other ↔
      ∀ nameserver ∈ manager.nameservers,
        (visits manager iteration).flatMap (block nameserver) =
          (visits manager other).flatMap (block nameserver) := by
  unfold generateResolvConf execute
  rw [search, domainLine_page, domainLine_page, domain, List.append_right_inj,
    List.append_right_inj, List.append_right_inj, List.append_left_inj,
    nameserverLines_eq_iff]

theorem block_eq_nil {nameserver : Text} (absent : nameserver ∉ manager.nameservers)
    {entry : Entry} (present : entry ∈ manager.entries) :
    block nameserver entry = [] := by
  have none : nameserver ∉ (nameserverPairs entry).map Prod.fst := by
    intro inside
    obtain ⟨pair, there, rfl⟩ := List.mem_map.mp inside
    exact absent (List.mem_map_of_mem
      (List.mem_flatMap.mpr ⟨entry, present, there⟩))
  rw [block, valuesOf_eq_nil none]
  rfl

theorem interchange_block_of_same
    (same : ∀ iteration other,
      generateResolvConf manager iteration = generateResolvConf manager other)
    {config : InterfaceResolvConfMap}
    (which : config ∈ [manager.configIPv4, manager.configIPv6])
    {first second : Entry} (here : first ∈ config.entries)
    (there : second ∈ config.entries) (nameserver : Text) :
    Interchange (block nameserver first) (block nameserver second) := by
  by_cases apart : first = second
  · rw [apart]
    exact .refl _
  obtain ⟨rank, swapped, rest, ordered, turned⟩ :=
    exists_inOrder_swap config.distinct here there apart
  by_cases listed : nameserver ∈ manager.nameservers
  · have search (iteration other : Iteration) :=
      @searchLine_eq_of_interchange manager iteration other
        fun _ here _ there => interchange_of_same same here there
    rcases List.mem_pair.mp which with rfl | rfl
    · have texts := (@generateResolvConf_eq_iff manager { mergeIPv4 := rank }
        { mergeIPv4 := swapped } (search _ _) rfl).mp (same _ _) nameserver listed
      rw [visits, visits, List.flatMap_append, List.flatMap_append] at texts
      have front := List.append_cancel_right texts
      rw [InterfaceResolvConfMap.visited, InterfaceResolvConfMap.visited,
        ordered, turned] at front
      exact interchange_of_flatMap_eq front
    · have texts := (@generateResolvConf_eq_iff manager { mergeIPv6 := rank }
        { mergeIPv6 := swapped } (search _ _) rfl).mp (same _ _) nameserver listed
      rw [visits, visits, List.flatMap_append, List.flatMap_append] at texts
      have back := List.append_cancel_left texts
      rw [InterfaceResolvConfMap.visited, InterfaceResolvConfMap.visited,
        ordered, turned] at back
      exact interchange_of_flatMap_eq back
  · have among : ∀ entry ∈ config.entries, entry ∈ manager.entries := by
      intro entry present
      rcases List.mem_pair.mp which with rfl | rfl
      · exact List.mem_append_left _ present
      · exact List.mem_append_right _ present
    rw [block_eq_nil listed (among first here)]
    exact interchange_nil _

/-- The comments of one family read the same whatever order it is visited in. -/
theorem flatMap_visited_eq {config : InterfaceResolvConfMap} {nameserver : Text}
    (alike : ∀ first ∈ config.entries, ∀ second ∈ config.entries,
      Interchange (block nameserver first) (block nameserver second))
    (rank other : Text → Nat) :
    (config.visited rank).flatMap (block nameserver) =
      (config.visited other).flatMap (block nameserver) := by
  refine flatMap_eq_of_perm ((inOrder_perm rank _).trans
    (inOrder_perm other _).symm) fun first here second there => ?_
  exact alike first (mem_inOrder.mp here) second (mem_inOrder.mp there)

/-- The file is determined if and only if nothing in it shows an order and
nothing is escaped. -/
theorem determined_iff_orderFree (manager : ResolvConfManager) :
    Determined manager ↔ OrderFree manager := by
  constructor
  · rintro ⟨same, -, nameservers, searches, -⟩
    have plain := (searches_iff {}).mp (searches {})
    refine ⟨plain_nameservers_iff.mp ((nameservers_iff {}).mp (nameservers {})),
      plain, fun first here second there => ?_,
      fun first here second there => escape_eq_of_same same here there,
      fun config which first here second there =>
        interchange_block_of_same same which here there⟩
    have alike := interchange_of_same same here there
    rwa [(plain first here).escape_eq, (plain second there).escape_eq] at alike
  · rintro ⟨addressed, plain, search, domain, comments⟩
    have same : ∀ iteration other, generateResolvConf manager iteration =
        generateResolvConf manager other := by
      intro iteration other
      have line := @searchLine_eq_of_interchange manager iteration other
        fun first here second there => by
          rw [(plain first here).escape_eq, (plain second there).escape_eq]
          exact search first here second there
      refine (generateResolvConf_eq_iff line (domain _ getDomain_mem_candidates _
        getDomain_mem_candidates)).mpr fun nameserver _ => ?_
      have family (config : InterfaceResolvConfMap)
          (which : config ∈ [manager.configIPv4, manager.configIPv6]) :=
        @flatMap_visited_eq config nameserver fun first here second there =>
          comments config which first here second there nameserver
      rw [visits, visits, List.flatMap_append, List.flatMap_append,
        family _ (by simp) iteration.mergeIPv4 other.mergeIPv4,
        family _ (by simp) iteration.mergeIPv6 other.mergeIPv6]
    exact ⟨same, generateResolvConf_eq_text,
      fun iteration => (nameservers_iff iteration).mpr
        (plain_nameservers_iff.mpr addressed),
      fun iteration => (searches_iff iteration).mpr plain, skips_iff.mpr same⟩

/-- Names without blanks are told apart in either order, so there is one search
domain at most. -/
theorem OrderFree.eq_of_searches (orderFree : OrderFree manager)
    {first second : Text} (here : first ∈ manager.searches)
    (there : second ∈ manager.searches) (firstWord : ' ' ∉ first)
    (secondWord : ' ' ∉ second) : first = second := by
  have alike := orderFree.search first here second there
  unfold Interchange at alike
  have apart {word : Text} (whole : ' ' ∉ word) :
      ∀ char ∈ word, (char == ' ') = false := fun char inside =>
    beq_false_of_ne fun same => whole (same ▸ inside)
  have split := congrArg (·.splitOn ' ') alike
  simp only [List.append_assoc, List.singleton_append] at split
  unfold List.splitOn at split
  rw [List.splitOnP_append_cons_of_forall_mem (apart firstWord) ' ' rfl
      (second ++ [' ']),
    List.splitOnP_append_cons_of_forall_mem (apart secondWord) ' ' rfl
      (first ++ [' '])] at split
  exact (List.cons.inj split).1

/-- An interface with two search domains -/
def twoSearches : ResolvConfManager where
  configIPv4 :=
    { entries := [("eth0".toList,
        { nameServers := [[192, 168, 1, 1]]
          searchList := ["home".toList, "lan".toList] })]
      distinct := by decide }
  configIPv6 := { entries := [], distinct := by decide }

/-- Its two search domains may be written in either order. -/
theorem not_determined_twoSearches : ¬ Determined twoSearches := by
  intro determined
  have alike := @interchange_of_same twoSearches determined.same "home".toList
    "lan".toList (by decide) (by decide)
  revert alike
  decide

end Theorem

end ResolvConf

end JetKvm
