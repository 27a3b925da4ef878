import JetKvm.StaticAddresses
import JetKvm.TimeSyncServers
import Mathlib.Data.List.Infix
import Mathlib.Tactic.Positivity
import Mathlib.Tactic.Ring

/-!
# Asking servers for the time in chunks

Translation of `queryNetworkTime` in `internal/timesync/ntp.go` and of
`queryAllHttpTime` in `internal/timesync/http.go`, where an `int` has 32 bits as
on the device.  What the servers of a chunk answer is left open.
-/

namespace JetKvm

open ConfParser

structure TimeSync where
  networkConfig : NetworkConfig
  preCheckIPv4 : Except String Bool
  preCheckIPv6 : Except String Bool

namespace TimeSync

/-! ### The queries -/

/-- `rand.Shuffle` from the element `i` down, `draw` being the random numbers. -/
def shuffleFrom (draw : Nat → Nat) : (i : Nat) → Array String → Array String
  | 0, servers => servers
  | i + 1, servers =>
      shuffleFrom draw i
        (servers.swapIfInBounds (i + 1) (draw (i + 1) % (i + 2)))

def shuffle (draw : Nat → Nat) (servers : List String) : List String :=
  (shuffleFrom draw (servers.length - 1) servers.toArray).toList

/-- `servers[low:high]`, which panics where the bounds do not fit. -/
def between (servers : List String) (low high : Int) : Option (List String) :=
  if 0 ≤ low ∧ low ≤ high ∧ high ≤ servers.length then
    some ((servers.take high.toNat).drop low.toNat)
  else none

inductive Ending (Answer : Type) where
  | returns (found : Option Answer)
  | panics
  deriving DecidableEq, Repr

/-- How the loop ended, and the chunks that were handed to queries. -/
structure Queries (Answer : Type) where
  ending : Ending Answer
  chunks : List (List String)
  deriving DecidableEq, Repr

section Loop

variable {Answer : Type}

/-- The loop over the chunks, which has to end before its fuel does.  What a
chunk answers may depend on all that were asked. -/
def queryChunks (chunkSize : Int32)
    (answer : List (List String) → Option Answer) (servers : List String) :
    (fuel : Nat) → (i : Int32) → (chunks : List (List String)) →
      Option (Queries Answer)
  | 0, _, _ => none
  | fuel + 1, i, chunks =>
      if i.toInt < servers.length then
        match between servers i.toInt
            (min (i + chunkSize).toInt servers.length) with
        | none => some ⟨.panics, chunks⟩
        | some chunk =>
            match answer (chunks ++ [chunk]) with
            | some now => some ⟨.returns (some now), chunks ++ [chunk]⟩
            | none =>
                queryChunks chunkSize answer servers fuel (i + chunkSize)
                  (chunks ++ [chunk])
      else some ⟨.returns none, chunks⟩

end Loop

/-- `null.Int.ValueOr` -/
def valueOr (value : NullInt) (other : Int) : Int :=
  if value.valid then value.int64 else other

def chunkSize (networkConfig : NetworkConfig) : Int32 :=
  Int32.ofInt (valueOr networkConfig.timeSyncParallel 4)

section Requests

variable {Answer : Type} (t : TimeSync) (draw : Nat → Nat)
variable (answer : List (List String) → Option Answer) (fuel : Nat)

def queryNetworkTime (ntpServers : List String) : Option (Queries Answer) :=
  match filterNTPServers t.preCheckIPv4 t.preCheckIPv6 ntpServers with
  | .error _ => some ⟨.returns none, []⟩
  | .ok ntpServers =>
      queryChunks (chunkSize t.networkConfig) answer
        (shuffle draw ntpServers) fuel 0 []

def queryAllHttpTime (httpUrls : List String) : Option (Queries Answer) :=
  queryChunks (chunkSize t.networkConfig) answer (shuffle draw httpUrls) fuel 0
    []

inductive Request where
  | networkTime (ntpServers : List String)
  | httpTime (httpUrls : List String)

/-- The list that the loop goes over, before it is shuffled. -/
def list : Request → Except String (List String)
  | .networkTime ntpServers =>
      filterNTPServers t.preCheckIPv4 t.preCheckIPv6 ntpServers
  | .httpTime httpUrls => .ok httpUrls

def query : Request → Option (Queries Answer)
  | .networkTime ntpServers => queryNetworkTime t draw answer fuel ntpServers
  | .httpTime httpUrls => queryAllHttpTime t draw answer fuel httpUrls

end Requests

/-! ### What the queries should do -/

/-- The chunks follow each other in the shuffled list and are all of it where no
query succeeds, so that each server of the list is asked at most once. -/
structure Sound {Answer : Type} (servers shuffled : List String)
    (queries : Queries Answer) : Prop where
  returns : queries.ending ≠ .panics
  consecutive : queries.chunks.flatten <+: shuffled
  once : queries.chunks.flatten.Subperm servers
  covers : queries.ending = .returns none → queries.chunks.flatten = shuffled

/-- The loop ends in a sound way, whatever is drawn and answered. -/
def Ends (Answer : Type) (t : TimeSync) (request : Request)
    (servers : List String) : Prop :=
  ∀ (draw : Nat → Nat) (answer : List (List String) → Option Answer),
    ∃ fuel queries, query t draw answer fuel request = some queries ∧
      Sound servers (shuffle draw servers) queries

/-- Chunks advance, and none reaches past the greatest `int`. -/
def Fits (chunkSize : Int32) (count : Nat) : Prop :=
  0 < chunkSize.toInt ∧ ∀ k : Nat, k * chunkSize.toInt < count →
    k * chunkSize.toInt + chunkSize.toInt < 2 ^ 31

/-! ### The shuffle -/

theorem shuffleFrom_perm (draw : Nat → Nat) (i : Nat) (servers : Array String) :
    (shuffleFrom draw i servers).toList.Perm servers.toList := by
  induction i generalizing servers with
  | zero => exact .refl _
  | succ i ih =>
      refine (ih _).trans ?_
      rw [Array.swapIfInBounds_def]
      split
      · split
        · exact Array.perm_iff_toList_perm.mp (Array.swap_perm _ _)
        · exact .refl _
      · exact .refl _

theorem shuffle_perm (draw : Nat → Nat) (servers : List String) :
    (shuffle draw servers).Perm servers :=
  shuffleFrom_perm draw _ servers.toArray

/-! ### The loop -/

section Loop

variable {Answer : Type} {size i : Int32} {servers : List String}
variable {answer : List (List String) → Option Answer}

theorem flatten_concat_between {low high : Int} {chunk : List String}
    {chunks : List (List String)}
    (asked : chunks.flatten = servers.take low.toNat)
    (sliced : between servers low high = some chunk) :
    (chunks ++ [chunk]).flatten = servers.take high.toNat := by
  unfold between at sliced
  split at sliced
  · obtain rfl := Option.some.inj sliced
    have within : low.toNat ≤ high.toNat := by omega
    have before : (servers.take high.toNat).take low.toNat =
        servers.take low.toNat := by
      rw [List.take_take, Nat.min_eq_left within]
    rw [List.flatten_append, asked, List.flatten_singleton, ← before,
      List.take_append_drop]
  · cases sliced

theorem toInt_add_of_lt (lower : 0 ≤ i.toInt) (size0 : 0 ≤ size.toInt)
    (small : i.toInt + size.toInt < 2 ^ 31) :
    (i + size).toInt = i.toInt + size.toInt := by
  rw [Int32.toInt_add]
  exact Int.bmod_eq_of_le (by omega) (by omega)

theorem toInt_add_neg (lower : 0 ≤ i.toInt) (size0 : 0 ≤ size.toInt)
    (large : 2 ^ 31 ≤ i.toInt + size.toInt) :
    (i + size).toInt < 0 := by
  have iBound := Int32.toInt_lt i
  have sizeBound := Int32.toInt_lt size
  rw [Int32.toInt_add]
  rw [Int.bmod_def]
  omega

/-- The loop advances by whole chunks, and the list before it is what was
asked. -/
theorem exists_queryChunks_eq (fits : Fits size servers.length) (fuel : Nat)
    {chunks : List (List String)} {k : Nat} (at_k : i.toInt = k * size.toInt)
    (asked : chunks.flatten = servers.take i.toInt.toNat)
    (fuelled : 0 < fuel) (enough : servers.length < i.toInt + fuel) :
    ∃ queries, queryChunks size answer servers fuel i chunks = some queries ∧
      queries.ending ≠ .panics ∧ queries.chunks.flatten <+: servers ∧
      (queries.ending = .returns none → queries.chunks.flatten = servers) := by
  induction fuel generalizing i chunks k with
  | zero => exact absurd fuelled (Nat.lt_irrefl 0)
  | succ fuel ih =>
      have positive := fits.1
      have lower : 0 ≤ i.toInt := by
        rw [at_k]
        positivity
      unfold queryChunks
      split
      · rename_i before
        have small := fits.2 k (at_k ▸ before)
        rw [← at_k] at small
        have next := toInt_add_of_lt lower positive.le small
        rw [next]
        cases sliced : between servers i.toInt
            (min (i.toInt + size.toInt) servers.length) with
        | none =>
            unfold between at sliced
            rw [if_pos (by omega)] at sliced
            cases sliced
        | some chunk =>
            have later := flatten_concat_between asked sliced
            dsimp only
            cases found : answer (chunks ++ [chunk]) with
            | some now =>
                refine ⟨_, rfl, (nomatch ·), ?_, (nomatch ·)⟩
                rw [later]
                exact List.take_prefix _ _
            | none =>
                refine @ih (i + size) (chunks ++ [chunk]) (k + 1) ?_ ?_
                  (by omega) (by omega)
                · rw [next, at_k]
                  push_cast
                  ring
                · rw [later, next]
                  rcases le_total (i.toInt + size.toInt) servers.length with
                    inside | outside
                  · rw [min_eq_left inside]
                  · rw [min_eq_right outside, Int.toNat_natCast,
                      List.take_length, List.take_of_length_le (by omega)]
      · have whole : chunks.flatten = servers := by
          rw [asked, List.take_of_length_le (by omega)]
        exact ⟨_, rfl, nofun, whole ▸ List.prefix_refl _, fun _ => whole⟩

/-- A chunk size of zero asks the empty chunk for ever, and a negative one cuts
the first chunk below zero. -/
theorem panics_of_not_positive (size0 : size.toInt ≤ 0) (start : i.toInt = 0)
    (asks : servers ≠ []) {fuel : Nat} {chunks : List (List String)}
    {queries : Queries Answer}
    (ended : queryChunks size (fun _ => none) servers fuel i chunks =
      some queries) :
    queries.ending = .panics := by
  have present := List.length_pos_iff.mpr asks
  have lower := Int32.le_toInt size
  have next : (i + size).toInt = size.toInt := by
    rw [Int32.toInt_add, start, Int.zero_add]
    exact Int.bmod_eq_of_le (by omega) (by omega)
  induction fuel generalizing i chunks with
  | zero => cases ended
  | succ fuel ih =>
      unfold queryChunks at ended
      rw [if_pos (by omega), next] at ended
      cases sliced : between servers i.toInt
          (min size.toInt servers.length) with
      | none =>
          rw [sliced] at ended
          obtain rfl := Option.some.inj ended
          rfl
      | some chunk =>
          rw [sliced] at ended
          unfold between at sliced
          split at sliced
          · have stays : (i + size).toInt = 0 := by omega
            refine ih stays ended ?_
            rw [Int32.toInt_add, stays, Int.zero_add]
            exact Int.bmod_eq_of_le (by omega) (by omega)
          · cases sliced

/-- A chunk that would end past the greatest `int` is cut below zero. -/
theorem panics_of_overflow (positive : 0 < size.toInt) (lower : 0 ≤ i.toInt)
    {d : Nat} (inside : i.toInt + d * size.toInt < servers.length)
    (large : 2 ^ 31 ≤ i.toInt + d * size.toInt + size.toInt)
    {fuel : Nat} {chunks : List (List String)} {queries : Queries Answer}
    (ended : queryChunks size (fun _ => none) servers fuel i chunks =
      some queries) :
    queries.ending = .panics := by
  induction fuel generalizing i chunks d with
  | zero => cases ended
  | succ fuel ih =>
      have steps : 0 ≤ d * size.toInt := by positivity
      unfold queryChunks at ended
      rw [if_pos (by omega)] at ended
      rcases lt_or_ge (i.toInt + size.toInt) (2 ^ 31) with small | here
      · cases d with
        | zero => exact absurd large (by simpa using small)
        | succ d =>
            have next := toInt_add_of_lt lower positive.le small
            have shift : (i + size).toInt + d * size.toInt =
                i.toInt + (d + 1 : Nat) * size.toInt := by
              rw [next]
              push_cast
              ring
            rw [← shift] at inside large
            split at ended
            · obtain rfl := Option.some.inj ended
              rfl
            · exact ih (by omega) inside large ended
      · have negative := toInt_add_neg lower positive.le here
        unfold between at ended
        rw [if_neg (by omega)] at ended
        obtain rfl := Option.some.inj ended
        rfl

theorem fits_of_not_panics (asks : servers ≠ [])
    (sound : ∃ fuel queries,
      queryChunks size (fun _ => (none : Option Answer)) servers fuel 0 [] =
        some queries ∧ queries.ending ≠ .panics) :
    Fits size servers.length := by
  obtain ⟨fuel, queries, ended, returns⟩ := sound
  have positive : 0 < size.toInt := by
    by_contra stuck
    exact returns
      (panics_of_not_positive (not_lt.mp stuck) Int32.toInt_zero asks ended)
  refine ⟨positive, fun k inside => ?_⟩
  by_contra large
  refine returns (@panics_of_overflow Answer size 0 servers positive ?_ k ?_ ?_
    fuel [] queries ended)
  · rw [Int32.toInt_zero]
  · rw [Int32.toInt_zero, Int.zero_add]
    exact inside
  · rw [Int32.toInt_zero, Int.zero_add]
    exact not_lt.mp large

end Loop

/-! ### The requests -/

/-- A number that is there is never looked at, and one that is not is four. -/
theorem timeSyncParallel_of_accepted {parsers : Parsers} {order : FieldOrder}
    {config accepted : NetworkConfig}
    (validated : config.setDefaultsAndValidate parsers order = .ok accepted) :
    accepted.timeSyncParallel =
      if config.timeSyncParallel.valid then config.timeSyncParallel
      else ⟨4, true⟩ := by
  let field : Field :=
    { name := "TimeSyncParallel", value := .nullInt config.timeSyncParallel
      defaults := some (.nullInt ⟨4, true⟩) }
  have isField : field ∈ NetworkConfig.fields parsers order config := by
    simp [NetworkConfig.fields, field]
  have updates : field.shouldUpdateValue =
      !config.timeSyncParallel.valid := Bool.and_true _
  have others : ∀ other value (config : NetworkConfig),
      other ≠ field.name →
      (NetworkConfig.set other value config).timeSyncParallel =
        config.timeSyncParallel := by
    intro other value config apart
    unfold NetworkConfig.set
    split <;> first | rfl | exact absurd rfl apart
  have sets : ∀ current,
      (NetworkConfig.set field.name field.updated current).timeSyncParallel =
        if config.timeSyncParallel.valid then config.timeSyncParallel
        else ⟨4, true⟩ := by
    intro current
    unfold Field.updated Value.isEmpty
    cases valid : config.timeSyncParallel.valid with
    | true => simp [field, valid, NetworkConfig.set]
    | false => simp [field, valid, NetworkConfig.set]
  rw [NetworkConfig.part_of_accepted validated isField sets others, updates]
  cases config.timeSyncParallel.valid with
  | true => rfl
  | false => rfl

/-- No value is turned down on account of the chunks. -/
theorem chunkSize_of_accepted {parsers : Parsers} {order : FieldOrder}
    {config accepted : NetworkConfig}
    (validated : config.setDefaultsAndValidate parsers order = .ok accepted) :
    chunkSize accepted = chunkSize config := by
  unfold chunkSize valueOr
  rw [timeSyncParallel_of_accepted validated]
  cases valid : config.timeSyncParallel.valid with
  | true => rw [if_pos rfl, valid]
  | false => rfl

theorem query_of_list {Answer : Type} {t : TimeSync} {request : Request}
    {servers : List String} (listed : list t request = .ok servers)
    (draw : Nat → Nat) (answer : List (List String) → Option Answer)
    (fuel : Nat) :
    query t draw answer fuel request =
      queryChunks (chunkSize t.networkConfig) answer (shuffle draw servers)
        fuel 0 [] := by
  cases request with
  | networkTime ntpServers =>
      unfold list at listed
      unfold query queryNetworkTime
      dsimp only at listed ⊢
      rw [listed]
  | httpTime httpUrls =>
      obtain rfl := Except.ok.inj listed
      rfl

/-- The loop over an empty list ends at once. -/
theorem ends_of_fits (Answer : Type) {t : TimeSync} {request : Request}
    {servers : List String} (listed : list t request = .ok servers)
    (fits : servers ≠ [] → Fits (chunkSize t.networkConfig) servers.length) :
    Ends Answer t request servers := by
  intro draw answer
  have perm := shuffle_perm draw servers
  rcases eq_or_ne servers [] with rfl | asks
  · refine ⟨1, ⟨.returns none, []⟩, ?_, ?_⟩
    · rw [query_of_list listed, List.perm_nil.mp perm]
      rfl
    · exact ⟨(nomatch ·), List.nil_prefix, List.nil_subperm,
        fun _ => (List.perm_nil.mp perm).symm⟩
  · have shuffledFits := fits asks
    rw [← perm.length_eq] at shuffledFits
    obtain ⟨queries, ended, returns, consecutive, covers⟩ :=
      @exists_queryChunks_eq Answer _ 0 _ answer shuffledFits
        ((shuffle draw servers).length + 1) [] 0 (by simp) (by simp)
        (Nat.succ_pos _) (by simp)
    refine ⟨_, queries, (query_of_list listed draw answer _).trans ended, ?_⟩
    exact ⟨returns, consecutive,
      consecutive.sublist.subperm.trans perm.subperm, covers⟩

/-- Whatever the accepted configuration: the loop over a list ends, panics
nowhere and asks each server at most once, and all of them in chunks unless one
answers, if and only if the list is empty or the chunk size, as an `int` of 32
bits, is positive and small enough for the ends of the chunks. -/
theorem ends_iff_fits (Answer : Type) {parsers : Parsers} {order : FieldOrder}
    {config accepted : NetworkConfig}
    (validated : config.setDefaultsAndValidate parsers order = .ok accepted)
    (preCheckIPv4 preCheckIPv6 : Except String Bool) {request : Request}
    {servers : List String}
    (listed : list ⟨accepted, preCheckIPv4, preCheckIPv6⟩ request =
      .ok servers) :
    Ends Answer ⟨accepted, preCheckIPv4, preCheckIPv6⟩ request servers ↔
      servers = [] ∨ Fits (chunkSize config) servers.length := by
  rw [← chunkSize_of_accepted validated, or_iff_not_imp_left]
  constructor
  · intro ends asks
    have perm := shuffle_perm (fun _ => 0) servers
    obtain ⟨fuel, queries, ended, sound⟩ := ends (fun _ => 0) fun _ => none
    rw [query_of_list listed] at ended
    rw [← perm.length_eq]
    refine fits_of_not_panics ?_ ⟨fuel, queries, ended, sound.returns⟩
    rintro none
    rw [none, List.nil_perm] at perm
    exact asks perm
  · intro fits
    exact ends_of_fits Answer listed fits

/-- Five servers by name are asked with the default of four at a time. -/
theorem ends_iff_fits_hostnames :
    Ends Nat ⟨staticNetwork "255.255.255.0", .ok true, .ok false⟩
      (.networkTime ["time.apple.com", "time.aws.com", "time.windows.com",
        "time.google.com", "time.cloudflare.com"])
      ["time.apple.com", "time.aws.com", "time.windows.com",
        "time.google.com", "time.cloudflare.com"] := by
  have validated : (staticNetwork "255.255.255.0").setDefaultsAndValidate
      (NetworkConfig.standard .refusing) .asListed =
        .ok (staticNetwork "255.255.255.0") := rfl
  have kept : list ⟨staticNetwork "255.255.255.0", .ok true, .ok false⟩
      (.networkTime ["time.apple.com", "time.aws.com", "time.windows.com",
        "time.google.com", "time.cloudflare.com"]) =
      .ok ["time.apple.com", "time.aws.com", "time.windows.com",
        "time.google.com", "time.cloudflare.com"] := by decide
  refine (ends_iff_fits Nat validated _ _ kept).mpr (.inr ⟨by decide, ?_⟩)
  have four : (chunkSize (staticNetwork "255.255.255.0")).toInt = 4 := by decide
  intro k inside
  rw [four] at inside ⊢
  rw [List.length_cons] at inside
  simp at inside
  omega

/-- A network that asks no server at a time -/
def noneAtATime : NetworkConfig :=
  { staticNetwork "255.255.255.0" with timeSyncParallel := ⟨0, true⟩ }

/-- A chunk size of zero is accepted, and the loop never ends. -/
theorem not_ends :
    ¬ ∀ (parsers : Parsers) (order : FieldOrder)
      (config accepted : NetworkConfig) (request : Request)
      (servers : List String),
      config.setDefaultsAndValidate parsers order = .ok accepted →
      list ⟨accepted, .ok true, .ok true⟩ request = .ok servers →
      Ends Nat ⟨accepted, .ok true, .ok true⟩ request servers := by
  intro claimed
  obtain ⟨fuel, queries, ended, sound⟩ := claimed
    (NetworkConfig.standard .refusing) .asListed noneAtATime noneAtATime
    (.httpTime ["http://cp.cloudflare.com/"]) ["http://cp.cloudflare.com/"]
    rfl rfl (fun _ => 0) fun _ => none
  exact sound.returns (panics_of_not_positive (by decide) (by decide)
    (by decide) ended)

end TimeSync

end JetKvm
