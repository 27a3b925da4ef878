import JetKvm.TimeSyncQueries

/-!
# The source that the time is set from

Translation of `getSyncMode`, `sync` and `setSystemTime` in
`internal/timesync/timesync.go`, over the queries of one source.  The URLs of the
configuration are shuffled where they are.
-/

namespace JetKvm

namespace TimeSyncSelection

open ConfParser TimeSync

/-! ### The sources -/

def defaultNTPServerIPs : List String :=
  ["162.159.200.1", "162.159.200.123", "2606:4700:f1::1", "2606:4700:f1::123",
    "216.239.35.0", "216.239.35.4", "216.239.35.8", "216.239.35.12",
    "2001:4860:4806::", "2001:4860:4806:4::", "2001:4860:4806:8::",
    "2001:4860:4806:c::"]

def defaultNTPServerHostnames : List String :=
  ["time.apple.com", "time.aws.com", "time.windows.com", "time.google.com",
    "time.cloudflare.com"]

/-- The value of `defaultHTTPUrls` at the start -/
def initialHTTPUrls : List String :=
  ["http://www.gstatic.com/generate_204", "http://cp.cloudflare.com/",
    "http://edge-http.microsoft.com/captiveportal/generate_204"]

structure SyncMode where
  ntp : Bool
  http : Bool
  ordering : List String
  ntpUseFallback : Bool
  httpUseFallback : Bool
  deriving DecidableEq, Repr

def orderingOf (networkConfig : NetworkConfig) : List String :=
  if networkConfig.timeSyncMode.string = "custom" then
    ["ntp_user_provided", "http_user_provided", "ntp_dhcp", "ntp", "http"]
  else if (networkConfig.timeSyncOrdering.getD []).length > 0 then
    networkConfig.timeSyncOrdering.getD []
  else ["ntp_dhcp", "ntp", "http"]

def getSyncMode (networkConfig : NetworkConfig) : SyncMode where
  ntp := networkConfig.timeSyncMode.string ≠ "http_only"
  http := networkConfig.timeSyncMode.string ≠ "ntp_only"
  ordering := orderingOf networkConfig
  ntpUseFallback := !networkConfig.timeSyncDisableFallback.bool
  httpUseFallback := !networkConfig.timeSyncDisableFallback.bool

/-! ### One run -/

structure NtpResult where
  now : Int
  offset : Int
  deriving DecidableEq, Repr

/-- A time in nanoseconds, with the offset of the clock if it is of NTP -/
structure Obtained where
  now : Int
  offset : Option Int
  deriving DecidableEq, Repr

/-- What a query finds: what is drawn, what there is, and for each chunk what its
servers give, in the order in which it arrives. -/
structure Attempt where
  draw : Nat → Nat
  preCheckIPv4 : Except String Bool
  preCheckIPv6 : Except String Bool
  ntp : List (List String) → List (Option NtpResult)
  http : List (List String) → List (Option Int)

/-- What a run finds: the attempts by the place of the source in the ordering, with
a second one for the host names; the clock after them, and the errors of
`date -s` and of `setRtcTime` -/
structure Run where
  attempts : Nat → Attempt
  hostnames : Nat → Attempt
  clock : Int
  date : Option (String × String) := none
  rtc : Option String := none

/-- `defaultHTTPUrls` is a variable of the package. -/
structure State where
  networkConfig : NetworkConfig
  dhcpNtpAddresses : List String
  defaultHTTPUrls : List String
  rtcDevicePath : String
  systemTime : Option Int := none

/-- `queryMultipleNTP` and `queryMultipleHttp` take a result for each server, and
return the first that is not nil. -/
def queryMultiple {Result : Type}
    (results : List (List String) → List (Option Result))
    (chunks : List (List String)) : Option Result :=
  ((results chunks).take (chunks.getLastD []).length).findSome? id

def mapEnding {Result : Type} (obtained : Result → Obtained) :
    Ending Result → Ending Obtained
  | .returns found => .returns (found.map obtained)
  | .panics => .panics

namespace State

/-- `queryNetworkTime` or `queryAllHttpTime` -/
def query (s : State) (attempt : Attempt) (fuel : Nat) :
    TimeSync.Request → Option (Ending Obtained)
  | .networkTime ntpServers =>
      (queryNetworkTime
        ⟨s.networkConfig, attempt.preCheckIPv4, attempt.preCheckIPv6⟩ attempt.draw
        (queryMultiple attempt.ntp) fuel ntpServers).map fun queries =>
          mapEnding (fun result => ⟨result.now, some result.offset⟩) queries.ending
  | .httpTime httpUrls =>
      (queryAllHttpTime
        ⟨s.networkConfig, attempt.preCheckIPv4, attempt.preCheckIPv6⟩ attempt.draw
        (queryMultiple attempt.http) fuel httpUrls).map fun queries =>
          mapEnding (fun now => ⟨now, none⟩) queries.ending

def ntpServers (s : State) : List String :=
  s.networkConfig.timeSyncNTPServers.getD []

def httpUrls (s : State) : List String :=
  s.networkConfig.timeSyncHTTPUrls.getD []

/-- The shuffle of the slice is one of the configuration. -/
def shuffleHTTPUrls (draw : Nat → Nat) (s : State) : State :=
  { s with networkConfig := { s.networkConfig with
      timeSyncHTTPUrls := s.networkConfig.timeSyncHTTPUrls.map (shuffle draw) } }

def shuffleDefaultHTTPUrls (draw : Nat → Nat) (s : State) : State :=
  { s with defaultHTTPUrls := shuffle draw s.defaultHTTPUrls }

end State

/-- A source that is not admitted is not asked. -/
inductive Tried where
  | skipped
  | asked (ending : Ending Obtained)

section Run

variable (syncMode : SyncMode) (run : Run) (fuel : Nat)

/-- The switch over the source at one place of the ordering -/
def tryMode (place : Nat) (s : State) (mode : String) : Option (Tried × State) :=
  let attempt := run.attempts place
  if mode = "ntp_user_provided" then
    if syncMode.ntp then
      (s.query attempt fuel (.networkTime s.ntpServers)).map fun ending =>
        (.asked ending, s)
    else some (.skipped, s)
  else if mode = "ntp_dhcp" then
    if syncMode.ntp then
      (s.query attempt fuel (.networkTime s.dhcpNtpAddresses)).map fun ending =>
        (.asked ending, s)
    else some (.skipped, s)
  else if mode = "ntp" then
    if syncMode.ntp && syncMode.ntpUseFallback then
      match s.query attempt fuel (.networkTime defaultNTPServerIPs) with
      | some (.returns none) =>
          (s.query (run.hostnames place) fuel
            (.networkTime defaultNTPServerHostnames)).map fun ending =>
              (.asked ending, s)
      | ended => ended.map fun ending => (.asked ending, s)
    else some (.skipped, s)
  else if mode = "http_user_provided" then
    if syncMode.http then
      (s.query attempt fuel (.httpTime s.httpUrls)).map fun ending =>
        (.asked ending, s.shuffleHTTPUrls attempt.draw)
    else some (.skipped, s)
  else if mode = "http" then
    if syncMode.http && syncMode.httpUseFallback then
      (s.query attempt fuel (.httpTime s.defaultHTTPUrls)).map fun ending =>
        (.asked ending, s.shuffleDefaultHTTPUrls attempt.draw)
    else some (.skipped, s)
  else some (.skipped, s)

/-- How the loop ended, the sources that were asked with what they returned, and
what is left -/
structure Search where
  ending : Ending Obtained
  asked : List (String × Option Obtained)
  last : State

def orders : (place : Nat) → List String → State → Option Search
  | _, [], s => some ⟨.returns none, [], s⟩
  | place, mode :: modes, s =>
      match tryMode syncMode run fuel place s mode with
      | none => none
      | some (.skipped, s) => orders (place + 1) modes s
      | some (.asked (.returns none), s) =>
          (orders (place + 1) modes s).map fun search =>
            { search with asked := (mode, none) :: search.asked }
      | some (.asked (.returns (some obtained)), s) =>
          some ⟨.returns (some obtained), [(mode, some obtained)], s⟩
      | some (.asked .panics, s) => some ⟨.panics, [], s⟩

/-- The time that is set is one to the second. -/
def setSystemTime (now : Int) (s : State) : Option String × State :=
  match run.date with
  | some (err, output) =>
      (some ("failed to run date -s: " ++ err ++ ", " ++ output), s)
  | none =>
      (if s.rtcDevicePath ≠ "" then run.rtc else none,
        { s with systemTime := some (now - now % 1000000000) })

/-- With an offset, the time is the one of the clock corrected by it. -/
def Obtained.time (obtained : Obtained) : Int :=
  match obtained.offset with
  | some offset => run.clock + offset
  | none => obtained.now

structure Synced where
  panicked : Bool := false
  err : Option String := none
  asked : List (String × Option Obtained)
  last : State

/-- What follows the loop -/
def conclude (search : Search) : Synced :=
  match search.ending with
  | .panics => { panicked := true, asked := search.asked, last := search.last }
  | .returns none =>
      { err := some "failed to get time from any source"
        asked := search.asked
        last := search.last }
  | .returns (some obtained) =>
      let (err, last) := setSystemTime run (obtained.time run) search.last
      { err := err.map ("failed to set system time: " ++ ·)
        asked := search.asked
        last := last }

def sync (s : State) : Option Synced :=
  let syncMode := getSyncMode s.networkConfig
  (orders syncMode run fuel 0 syncMode.ordering s).map (conclude run)

end Run

/-! ### What a run should do -/

/-- The mode and the switches of the fallback let the source be asked. -/
def admits (syncMode : SyncMode) (source : String) : Bool :=
  (source = "ntp_user_provided" || source = "ntp_dhcp") && syncMode.ntp ||
    source = "ntp" && (syncMode.ntp && syncMode.ntpUseFallback) ||
      source = "http_user_provided" && syncMode.http ||
        source = "http" && (syncMode.http && syncMode.httpUseFallback)

def admitted (networkConfig : NetworkConfig) : List String :=
  (getSyncMode networkConfig).ordering.filter (admits (getSyncMode networkConfig))

/-- The requests of a source, the second one if the first fails -/
def State.requests (s : State) (source : String) : List TimeSync.Request :=
  if source = "ntp_user_provided" then [.networkTime s.ntpServers]
  else if source = "ntp_dhcp" then [.networkTime s.dhcpNtpAddresses]
  else if source = "ntp" then
    [.networkTime defaultNTPServerIPs, .networkTime defaultNTPServerHostnames]
  else if source = "http_user_provided" then [.httpTime s.httpUrls]
  else if source = "http" then [.httpTime s.defaultHTTPUrls]
  else []

/-- The attempts at a source, with its requests -/
def requestsAt (run : Run) (place : Nat) (s : State) (source : String) :
    List (Attempt × TimeSync.Request) :=
  [run.attempts place, run.hostnames place].zip (s.requests source)

/-- No server of the chunks has given a result. -/
def Silent {Result : Type} (results : List (List String) → List (Option Result))
    (chunks : List (List String)) : Prop :=
  ∀ front chunk, front ++ [chunk] <+: chunks →
    ∀ result ∈ (results (front ++ [chunk])).take chunk.length, result = none

/-- What comes of asking servers in chunks: the first result that is not nil, or
nothing if no server of the list gives one. -/
def First {Result : Type} (results : List (List String) → List (Option Result))
    (servers : List String) : Option Result → Prop
  | none => ∃ chunks : List (List String),
      chunks.flatten.Perm servers ∧ Silent results chunks
  | some result => ∃ chunks chunk nils rest,
      (chunks ++ [chunk]).flatten.Subperm servers ∧ Silent results chunks ∧
        (results (chunks ++ [chunk])).take chunk.length =
            nils ++ some result :: rest ∧ ∀ other ∈ nils, other = none

/-- What the answers to a request come to -/
def Attempt.Finds (attempt : Attempt) (found : Option Obtained) :
    TimeSync.Request → Prop
  | .networkTime ntpServers =>
      match filterNTPServers attempt.preCheckIPv4 attempt.preCheckIPv6
          ntpServers with
      | .error _ => found = none
      | .ok servers => ∃ result, First attempt.ntp servers result ∧
          found = result.map fun result => ⟨result.now, some result.offset⟩
  | .httpTime httpUrls => ∃ now, First attempt.http httpUrls now ∧
      found = now.map fun now => ⟨now, none⟩

/-- What the answers to the requests of a source come to -/
def Finds (found : Option Obtained) :
    List (Attempt × TimeSync.Request) → Prop
  | [] => found = none
  | (attempt, request) :: rest =>
      attempt.Finds found request ∧ found.isSome ∨
        attempt.Finds none request ∧ Finds found rest

/-- No admitted source from a place of the ordering on finds a time. -/
def Fail (syncMode : SyncMode) (run : Run) (s : State) :
    (place : Nat) → List String → Prop
  | _, [] => True
  | place, mode :: modes =>
      (admits syncMode mode = true →
        Finds none (requestsAt run place s mode)) ∧
          Fail syncMode run s (place + 1) modes

/-- The time of the first admitted source whose servers give one is set; it is an
error that none does.  The configuration is as before. -/
structure Right (run : Run) (s : State) (synced : Synced) : Prop where
  returns : synced.panicked = false
  configuration : synced.last.networkConfig = s.networkConfig
  selects :
    (∃ front source back obtained,
      (getSyncMode s.networkConfig).ordering = front ++ source :: back ∧
        Fail (getSyncMode s.networkConfig) run s 0 front ∧
        admits (getSyncMode s.networkConfig) source = true ∧
        Finds (some obtained) (requestsAt run front.length s source) ∧
        synced.asked =
          (front.filter (admits (getSyncMode s.networkConfig))).map (·, none) ++
            [(source, some obtained)] ∧
        synced.last.systemTime =
          (setSystemTime run (obtained.time run) s).2.systemTime ∧
        synced.err = (setSystemTime run (obtained.time run) s).1.map
          ("failed to set system time: " ++ ·)) ∨
      Fail (getSyncMode s.networkConfig) run s 0
          (getSyncMode s.networkConfig).ordering ∧
        synced.asked = (admitted s.networkConfig).map (·, none) ∧
        synced.last.systemTime = s.systemTime ∧
        synced.err = some "failed to get time from any source"

/-- Every run ends and does what it should, one after the other. -/
def Syncs : State → List Run → Prop
  | _, [] => True
  | s, run :: runs =>
      ∃ fuel synced, sync run fuel s = some synced ∧ Right run s synced ∧
        Syncs synced.last runs

/-- Whatever there is, the chunks of the list advance, and none reaches past the
greatest `int`. -/
def Chunked (s : State) (request : TimeSync.Request) : Prop :=
  ∀ preCheckIPv4 preCheckIPv6 servers,
    list ⟨s.networkConfig, preCheckIPv4, preCheckIPv6⟩ request = .ok servers →
      servers = [] ∨ Fits (chunkSize s.networkConfig) servers.length

/-- Every list that may be asked can be cut into chunks, and if the URLs of the
configuration may be asked, they are all the same. -/
structure Settled (s : State) : Prop where
  chunked : ∀ source ∈ admitted s.networkConfig, ∀ request ∈ s.requests source,
    Chunked s request
  sameUrls : "http_user_provided" ∈ admitted s.networkConfig →
    ∀ url ∈ s.httpUrls, ∀ other ∈ s.httpUrls, url = other

/-! ### Shuffles -/

section Shuffles

variable {draw : Nat → Nat} {servers : List String}

theorem shuffle_of_same (same : ∀ url ∈ servers, ∀ other ∈ servers, url = other) :
    shuffle draw servers = servers := by
  cases servers with
  | nil => rfl
  | cons first rest =>
      have all : first :: rest = List.replicate (rest.length + 1) first :=
        List.eq_replicate_iff.mpr
          ⟨rfl, fun url member => same url member first List.mem_cons_self⟩
      have perm := shuffle_perm draw (first :: rest)
      rw [all] at perm ⊢
      exact List.perm_replicate.mp perm

theorem swapIfInBounds_self (array : Array String) (i : Nat) :
    array.swapIfInBounds i i = array := by
  refine Array.ext Array.size_swapIfInBounds fun k inside _ => ?_
  rw [Array.getElem_swapIfInBounds inside]
  split_ifs with here
  · simp only [here.1]
  · rfl

/-- Each element is swapped with itself. -/
theorem shuffleFrom_of_fixed {i : Nat} (fixed : ∀ k ≤ i, draw k = k)
    (array : Array String) : shuffleFrom draw i array = array := by
  induction i with
  | zero => rfl
  | succ i ih =>
      have stays : draw (i + 1) % (i + 2) = i + 1 := by
        rw [fixed (i + 1) le_rfl]
        exact Nat.mod_eq_of_lt (Nat.lt_succ_self (i + 1))
      rw [shuffleFrom, stays, swapIfInBounds_self]
      exact ih fun k below => fixed k (Nat.le_succ_of_le below)

theorem shuffle_id (servers : List String) : shuffle id servers = servers := by
  unfold shuffle
  rw [@shuffleFrom_of_fixed id _ fun _ _ => rfl]

/-- Draws that swap two elements -/
def drawSwap (low high k : Nat) : Nat :=
  if k = high then low else k

theorem shuffleFrom_drawSwap {low high i : Nat} (ordered : low < high)
    (reaches : high ≤ i) (array : Array String) :
    shuffleFrom (drawSwap low high) i array = array.swapIfInBounds high low := by
  induction i generalizing array with
  | zero => exact absurd reaches (by omega)
  | succ i ih =>
      rw [shuffleFrom]
      by_cases here : i + 1 = high
      · have drawn : drawSwap low high (i + 1) % (i + 2) = low := by
          rw [drawSwap, if_pos here]
          exact Nat.mod_eq_of_lt (by omega)
        rw [drawn, here]
        refine shuffleFrom_of_fixed (fun k below => ?_) _
        rw [drawSwap, if_neg (by omega)]
      · have drawn : drawSwap low high (i + 1) % (i + 2) = i + 1 := by
          rw [drawSwap, if_neg here]
          exact Nat.mod_eq_of_lt (Nat.lt_succ_self (i + 1))
        rw [drawn, swapIfInBounds_self]
        exact ih (by omega) array

/-- A list that no shuffle changes has only one element. -/
theorem same_of_shuffle (unchanged : ∀ draw, shuffle draw servers = servers) :
    ∀ url ∈ servers, ∀ other ∈ servers, url = other := by
  have swapped (low high : Nat) (ordered : low < high)
      (inside : high < servers.length) :
      servers[low] = servers[high] := by
    have same := unchanged (drawSwap low high)
    unfold shuffle at same
    rw [shuffleFrom_drawSwap ordered (by omega)] at same
    have both : high < servers.toArray.size ∧ low < servers.toArray.size := by
      simp only [List.size_toArray]
      omega
    rw [Array.swapIfInBounds_def, dif_pos both.1, dif_pos both.2] at same
    have there := congrArg (·[low]?) same
    simpa [inside, ordered.trans inside, eq_comm] using there
  intro url member other otherMember
  obtain ⟨i, inside, rfl⟩ := List.getElem_of_mem member
  obtain ⟨j, otherInside, rfl⟩ := List.getElem_of_mem otherMember
  rcases lt_trichotomy i j with before | rfl | after
  · exact swapped i j before otherInside
  · rfl
  · exact (swapped j i after inside).symm

end Shuffles

/-! ### The queries of one source -/

/-- The list that is asked for, before any is left out -/
def given : TimeSync.Request → List String
  | .networkTime ntpServers => ntpServers
  | .httpTime httpUrls => httpUrls

section Queries

variable {t : TimeSync} {request : TimeSync.Request} {servers : List String}
variable {fuel : Nat}

/-- An address may be listed twice. -/
theorem length_of_list (listed : list t request = .ok servers) :
    servers.length ≤ 2 * (given request).length := by
  cases request with
  | httpTime httpUrls =>
      obtain rfl := Except.ok.inj listed
      rw [given]
      omega
  | networkTime ntpServers =>
      unfold TimeSync.list filterNTPServers at listed
      dsimp only at listed
      split_ifs at listed
      · obtain rfl := Except.ok.inj listed
        exact Nat.zero_le _
      · cases first : t.preCheckIPv4 with
        | error error =>
            rw [first] at listed
            cases listed
        | ok hasIPv4 =>
            cases second : t.preCheckIPv6 with
            | error error =>
                rw [first, second] at listed
                cases listed
            | ok hasIPv6 =>
                rw [first, second] at listed
                obtain rfl := Except.ok.inj listed
                have lengths := length_flatMap_kept hasIPv4 hasIPv6 ntpServers
                have usables := List.length_filter_le
                  (usable hasIPv4 hasIPv6) ntpServers
                have twice := List.length_filter_le
                  (fun server => hasIPv6 && isIPv4Literal server) ntpServers
                rw [given]
                omega

/-- With enough fuel, the loop over a list that can be cut into chunks ends. -/
theorem exists_query_eq {Answer : Type}
    (chunked : ∀ servers, list t request = .ok servers →
      servers = [] ∨ Fits (chunkSize t.networkConfig) servers.length)
    (enough : 2 * (given request).length < fuel) (draw : Nat → Nat)
    (answer : List (List String) → Option Answer) :
    ∃ queries, TimeSync.query t draw answer fuel request = some queries ∧
      queries.ending ≠ .panics := by
  cases listed : list t request with
  | error error =>
      cases request with
      | httpTime httpUrls => cases listed
      | networkTime ntpServers =>
          refine ⟨⟨.returns none, []⟩, ?_, nofun⟩
          unfold TimeSync.list at listed
          unfold TimeSync.query queryNetworkTime
          dsimp only at listed ⊢
          rw [listed]
  | ok servers =>
      have length := length_of_list listed
      have perm := (shuffle_perm draw servers).length_eq
      rw [query_of_list listed]
      rcases chunked servers listed with rfl | fits
      · obtain ⟨fuel, rfl⟩ := Nat.exists_eq_succ_of_ne_zero (by omega : fuel ≠ 0)
        exact ⟨⟨.returns none, []⟩, rfl, nofun⟩
      · rw [← perm] at fits
        obtain ⟨queries, ended, returns, -⟩ :=
          @exists_queryChunks_eq Answer _ 0 (shuffle draw servers) answer fits fuel
            [] 0 (by simp) (by simp) (by omega)
            (by rw [perm, Int32.toInt_zero]; omega)
        exact ⟨queries, ended, returns⟩

/-- One more chunk whose servers give nothing -/
theorem Silent.concat {Result : Type}
    {results : List (List String) → List (Option Result)}
    {chunks : List (List String)} {chunk : List String}
    (silent : Silent results chunks)
    (nothing : ∀ result ∈ (results (chunks ++ [chunk])).take chunk.length,
      result = none) :
    Silent results (chunks ++ [chunk]) := by
  intro front last isPrefix
  rcases List.prefix_concat_iff.mp isPrefix with same | before
  · obtain ⟨rfl, rfl⟩ := List.concat_inj.mp (by simpa using same)
    exact nothing
  · exact silent front last before

/-- The loop goes over the list up to the first result. -/
theorem first_of_queryChunks {Result : Type}
    {results : List (List String) → List (Option Result)} {size i : Int32}
    {chunks asked : List (List String)} {found : Option Result}
    (silent : Silent results chunks)
    (reached : chunks.flatten = servers.take i.toInt.toNat)
    (ended : queryChunks size (queryMultiple results) servers fuel i chunks =
      some ⟨.returns found, asked⟩) : First results servers found := by
  induction fuel generalizing i chunks with
  | zero => cases ended
  | succ fuel ih =>
      unfold queryChunks at ended
      split_ifs at ended with inside
      · cases sliced : between servers i.toInt
            (min (i + size).toInt servers.length) with
        | none =>
            rw [sliced] at ended
            cases ended
        | some chunk =>
            have next := flatten_concat_between reached sliced
            have results_eq : queryMultiple results (chunks ++ [chunk]) =
                ((results (chunks ++ [chunk])).take chunk.length).findSome? id := by
              rw [queryMultiple, List.getLastD_concat]
            rw [sliced] at ended
            dsimp only at ended
            cases answer : queryMultiple results (chunks ++ [chunk]) with
            | some now =>
                rw [answer] at ended
                cases ended
                obtain ⟨nils, _, rest, taken, rfl, nothing⟩ :=
                  List.findSome?_eq_some_iff.mp (results_eq.symm.trans answer)
                have within : (chunks ++ [chunk]).flatten.Subperm servers :=
                  next ▸ (List.take_sublist _ servers).subperm
                exact ⟨chunks, chunk, nils, rest, within, silent, taken, nothing⟩
            | none =>
                rw [answer] at ended
                have nothing := List.findSome?_eq_none_iff.mp
                  (results_eq.symm.trans answer)
                refine ih (silent.concat nothing) ?_ ended
                rw [next]
                rcases le_total (i + size).toInt servers.length with low | high
                · rw [min_eq_left low]
                · rw [min_eq_right high, Int.toNat_natCast, List.take_length,
                    List.take_of_length_le (by omega)]
      · cases ended
        refine ⟨asked, ?_, silent⟩
        rw [reached, List.take_of_length_le (by omega)]

/-- The order of the list does not matter. -/
theorem First.perm {Result : Type}
    {results : List (List String) → List (Option Result)}
    {other : List String} {found : Option Result}
    (first : First results servers found) (perm : servers.Perm other) :
    First results other found := by
  cases found with
  | none =>
      obtain ⟨chunks, asked, silent⟩ := first
      exact ⟨chunks, asked.trans perm, silent⟩
  | some result =>
      obtain ⟨chunks, chunk, nils, rest, asked, answered⟩ := first
      exact ⟨chunks, chunk, nils, rest, asked.trans perm.subperm, answered⟩

theorem first_of_shuffled {Result : Type}
    {results : List (List String) → List (Option Result)} {draw : Nat → Nat}
    {size : Int32} {queries : Queries Result} {found : Option Result}
    (ended : queryChunks size (queryMultiple results) (shuffle draw servers) fuel
      0 [] = some queries) (returns : queries.ending = .returns found) :
    First results servers found := by
  obtain ⟨ending, chunks⟩ := queries
  obtain rfl : ending = .returns found := returns
  have silent : Silent results [] := by
    intro front chunk isPrefix
    simp at isPrefix
  exact (first_of_queryChunks silent (by simp) ended).perm (shuffle_perm draw _)

/-- Where no chunk answers, nothing is found. -/
theorem ending_of_none {Answer : Type} {size i : Int32}
    {chunks : List (List String)} {queries : Queries Answer}
    (ended : queryChunks size (fun _ => none) servers fuel i chunks = some queries) :
    queries.ending = .returns none ∨ queries.ending = .panics := by
  induction fuel generalizing i chunks with
  | zero => cases ended
  | succ fuel ih =>
      unfold queryChunks at ended
      split at ended
      · split at ended
        · cases ended
          exact .inr rfl
        · exact ih ended
      · cases ended
        exact .inl rfl

end Queries

section Asking

variable {s : State} {attempt : Attempt} {fuel : Nat} {request : TimeSync.Request}

theorem exists_stateQuery_eq (chunked : Chunked s request)
    (enough : 2 * (given request).length < fuel) (attempt : Attempt) :
    ∃ found, s.query attempt fuel request = some (.returns found) := by
  cases request with
  | networkTime ntpServers =>
      obtain ⟨⟨ending, chunks⟩, ended, returns⟩ :=
        exists_query_eq (chunked attempt.preCheckIPv4 attempt.preCheckIPv6) enough
          attempt.draw (queryMultiple attempt.ntp)
      change queryNetworkTime _ _ _ _ _ = _ at ended
      rw [State.query, ended]
      cases ending with
      | returns found => exact ⟨_, rfl⟩
      | panics => exact absurd rfl returns
  | httpTime httpUrls =>
      obtain ⟨⟨ending, chunks⟩, ended, returns⟩ :=
        exists_query_eq (chunked attempt.preCheckIPv4 attempt.preCheckIPv6) enough
          attempt.draw (queryMultiple attempt.http)
      change queryAllHttpTime _ _ _ _ _ = _ at ended
      rw [State.query, ended]
      cases ending with
      | returns found => exact ⟨_, rfl⟩
      | panics => exact absurd rfl returns

/-- A query that ends returns what the answers come to. -/
theorem finds_of_query {found : Option Obtained}
    (ended : s.query attempt fuel request = some (.returns found)) :
    attempt.Finds found request := by
  cases request with
  | networkTime ntpServers =>
      obtain ⟨queries, queried, ending⟩ := Option.map_eq_some_iff.mp ended
      unfold queryNetworkTime at queried
      unfold Attempt.Finds
      dsimp only at queried ⊢
      cases filtered : filterNTPServers attempt.preCheckIPv4 attempt.preCheckIPv6
          ntpServers with
      | error _ =>
          rw [filtered] at queried
          cases queried
          cases ending
          rfl
      | ok servers =>
          rw [filtered] at queried
          cases isEnding : queries.ending with
          | panics =>
              rw [isEnding] at ending
              cases ending
          | returns result =>
              rw [isEnding] at ending
              cases ending
              exact ⟨result, first_of_shuffled queried isEnding, rfl⟩
  | httpTime httpUrls =>
      obtain ⟨queries, queried, ending⟩ := Option.map_eq_some_iff.mp ended
      cases isEnding : queries.ending with
      | panics =>
          rw [isEnding] at ending
          cases ending
      | returns now =>
          rw [isEnding] at ending
          cases ending
          exact ⟨now, first_of_shuffled queried isEnding, rfl⟩

/-- The requests of a source, until one returns a time -/
def State.ask (s : State) (fuel : Nat) :
    List (Attempt × TimeSync.Request) → Option (Ending Obtained)
  | [] => some (.returns none)
  | (attempt, request) :: rest =>
      match s.query attempt fuel request with
      | some (.returns none) => s.ask fuel rest
      | ended => ended

@[simp] theorem ask_singleton (attempt : Attempt) (request : TimeSync.Request) :
    s.ask fuel [(attempt, request)] = s.query attempt fuel request := by
  unfold State.ask
  split <;> simp_all [State.ask]

theorem map_ask_pair {Result : Type} (after : Ending Obtained → Result)
    (first second : Attempt) (request other : TimeSync.Request) :
    (s.ask fuel [(first, request), (second, other)]).map after =
      match s.query first fuel request with
      | some (.returns none) => (s.query second fuel other).map after
      | ended => ended.map after := by
  rw [State.ask]
  split
  · rw [ask_singleton]
  · rfl

theorem exists_ask_eq {requests : List (Attempt × TimeSync.Request)}
    (ends : ∀ entry ∈ requests,
      ∃ found, s.query entry.1 fuel entry.2 = some (.returns found)) :
    ∃ found, s.ask fuel requests = some (.returns found) ∧
      Finds found requests := by
  induction requests with
  | nil => exact ⟨none, rfl, rfl⟩
  | cons entry rest ih =>
      obtain ⟨⟨found, ended⟩, later⟩ := List.forall_mem_cons.mp ends
      have here := finds_of_query ended
      unfold State.ask
      rw [ended]
      cases found with
      | none =>
          obtain ⟨found, asked, finds⟩ := ih later
          exact ⟨found, asked, .inr ⟨here, finds⟩⟩
      | some obtained => exact ⟨some obtained, rfl, .inl ⟨here, rfl⟩⟩

end Asking

/-- What the shuffle of a source leaves -/
def State.shuffled (s : State) (draw : Nat → Nat) (source : String) : State :=
  if source = "http_user_provided" then s.shuffleHTTPUrls draw
  else if source = "http" then s.shuffleDefaultHTTPUrls draw
  else s

section Search

variable {syncMode : SyncMode} {run : Run} {fuel place : Nat} {s : State}
variable {mode : String} {modes : List String} {search : Search}

/-- The switch is the same for each source. -/
theorem tryMode_eq (syncMode : SyncMode) (run : Run) (fuel place : Nat) (s : State)
    (mode : String) :
    tryMode syncMode run fuel place s mode =
      if admits syncMode mode then
        (s.ask fuel (requestsAt run place s mode)).map fun ending =>
          (.asked ending, s.shuffled (run.attempts place).draw mode)
      else some (.skipped, s) := by
  unfold tryMode requestsAt State.requests State.shuffled
  dsimp only
  split_ifs <;> simp_all [admits, map_ask_pair]

/-! ### The loop over the sources -/

/-- What a search does where each list can be cut into chunks: it asks the admitted
sources in their order up to the first that finds a time. -/
structure Searched (syncMode : SyncMode) (run : Run) (place : Nat)
    (modes : List String) (s : State) (search : Search) : Prop where
  configuration : search.last.networkConfig = s.networkConfig
  systemTime : search.last.systemTime = s.systemTime
  rtcDevicePath : search.last.rtcDevicePath = s.rtcDevicePath
  selects :
    (∃ front source back obtained, modes = front ++ source :: back ∧
      Fail syncMode run s place front ∧ admits syncMode source = true ∧
      Finds (some obtained) (requestsAt run (place + front.length) s source) ∧
      search.asked = (front.filter (admits syncMode)).map (·, none) ++
        [(source, some obtained)] ∧
      search.ending = .returns (some obtained)) ∨
      Fail syncMode run s place modes ∧
      search.asked = (modes.filter (admits syncMode)).map (·, none) ∧
        search.ending = .returns none

/-- More fuel than the loop over any list takes -/
def Enough (fuel : Nat) (s : State) : Prop :=
  ∀ source, ∀ request ∈ s.requests source, 2 * (given request).length < fuel

theorem exists_enough (s : State) : ∃ fuel, Enough fuel s := by
  refine ⟨2 * (s.ntpServers.length + s.dhcpNtpAddresses.length +
    defaultNTPServerIPs.length + defaultNTPServerHostnames.length +
      s.httpUrls.length + s.defaultHTTPUrls.length) + 1, fun source => ?_⟩
  unfold State.requests
  split_ifs <;> simp only [List.forall_mem_cons, List.not_mem_nil, given] <;>
    simp <;> omega

theorem shuffleHTTPUrls_of_same {draw : Nat → Nat}
    (same : ∀ url ∈ s.httpUrls, ∀ other ∈ s.httpUrls, url = other) :
    s.shuffleHTTPUrls draw = s := by
  unfold State.httpUrls at same
  unfold State.shuffleHTTPUrls
  have stays : s.networkConfig.timeSyncHTTPUrls.map (shuffle draw) =
      s.networkConfig.timeSyncHTTPUrls := by
    cases urls : s.networkConfig.timeSyncHTTPUrls with
    | none => rfl
    | some urls' =>
        rw [urls] at same
        exact congrArg some (shuffle_of_same same)
  rw [stays]

/-- A shuffle of the default URLs is a list of the same length. -/
theorem requests_shuffleDefaultHTTPUrls {draw : Nat → Nat} {source : String}
    {property : TimeSync.Request → Prop}
    (all : ∀ request ∈ s.requests source, property request)
    (same : ∀ urls : List String, urls.length = s.defaultHTTPUrls.length →
      property (.httpTime s.defaultHTTPUrls) → property (.httpTime urls)) :
    ∀ request ∈ (s.shuffleDefaultHTTPUrls draw).requests source,
      property request := by
  by_cases http : source = "http"
  · subst http
    intro request member
    obtain rfl := List.mem_singleton.mp member
    exact same _ (shuffle_perm draw s.defaultHTTPUrls).length_eq
      (all (.httpTime s.defaultHTTPUrls) (List.mem_singleton_self _))
  · unfold State.requests at all ⊢
    rw [if_neg http] at all ⊢
    exact all

theorem settled_shuffleDefaultHTTPUrls (settled : Settled s) (draw : Nat → Nat) :
    Settled (s.shuffleDefaultHTTPUrls draw) where
  chunked source member := by
    refine requests_shuffleDefaultHTTPUrls (settled.chunked source member) ?_
    intro urls length chunked preCheckIPv4 preCheckIPv6 servers listed
    obtain rfl := Except.ok.inj listed
    rw [length, ← List.length_eq_zero_iff, length, List.length_eq_zero_iff]
    exact chunked preCheckIPv4 preCheckIPv6 s.defaultHTTPUrls rfl
  sameUrls := settled.sameUrls

theorem enough_shuffleDefaultHTTPUrls (enough : Enough fuel s) (draw : Nat → Nat) :
    Enough fuel (s.shuffleDefaultHTTPUrls draw) := by
  intro source
  refine requests_shuffleDefaultHTTPUrls (enough source) ?_
  intro urls length fits
  rw [given] at fits ⊢
  rwa [length]

/-- Only the default URLs are in another order afterwards. -/
theorem shuffled_of_settled (settled : Settled s)
    (member : mode ∈ admitted s.networkConfig) (draw : Nat → Nat) :
    s.shuffled draw mode = s ∨
      s.shuffled draw mode = s.shuffleDefaultHTTPUrls draw := by
  unfold State.shuffled
  split_ifs with user
  · subst user
    exact .inl (shuffleHTTPUrls_of_same (settled.sameUrls member))
  · exact .inr rfl
  · exact .inl rfl

/-- What a state has of another from which a source may have shuffled -/
structure Same (next s : State) : Prop where
  configuration : next.networkConfig = s.networkConfig
  systemTime : next.systemTime = s.systemTime
  rtcDevicePath : next.rtcDevicePath = s.rtcDevicePath
  finds : ∀ run place source found, Finds found (requestsAt run place next source) →
    Finds found (requestsAt run place s source)

theorem same_shuffleDefaultHTTPUrls (s : State) (draw : Nat → Nat) :
    Same (s.shuffleDefaultHTTPUrls draw) s where
  configuration := rfl
  systemTime := rfl
  rtcDevicePath := rfl
  finds run place source found finds := by
    by_cases http : source = "http"
    · subst http
      have back {found : Option Obtained}
          (here : (run.attempts place).Finds found
            (.httpTime (shuffle draw s.defaultHTTPUrls))) :
          (run.attempts place).Finds found (.httpTime s.defaultHTTPUrls) :=
        here.imp fun _ first => ⟨first.1.perm (shuffle_perm draw _), first.2⟩
      exact finds.imp (And.imp_left back) (And.imp_left back)
    · have same : (s.shuffleDefaultHTTPUrls draw).requests source =
          s.requests source := by
        unfold State.requests
        rw [if_neg http, if_neg http]
        rfl
      rwa [requestsAt, same] at finds

theorem Fail.of_same {next : State} (same : Same next s)
    (fail : Fail syncMode run next place modes) :
    Fail syncMode run s place modes := by
  induction modes generalizing place with
  | nil => trivial
  | cons mode modes ih =>
      exact ⟨fun allowed => same.finds _ _ _ _ (fail.1 allowed), ih fail.2⟩

/-- A source that finds nothing, or is not admitted, before the others -/
theorem Searched.cons {next : State}
    (searched : Searched syncMode run (place + 1) modes next search)
    (same : Same next s)
    (fails : admits syncMode mode = true →
      Finds none (requestsAt run place s mode)) :
    Searched syncMode run place (mode :: modes) s
      { search with
        asked := ([mode].filter (admits syncMode)).map (·, none) ++
          search.asked } := by
  obtain ⟨configuration, systemTime, rtcDevicePath, selects⟩ := searched
  refine ⟨configuration.trans same.configuration,
    systemTime.trans same.systemTime, rtcDevicePath.trans same.rtcDevicePath, ?_⟩
  obtain ⟨front, source, back, obtained, sources, fail, allowed, finds, asked,
    ending⟩ | ⟨fail, asked, ending⟩ := selects
  · refine .inl ⟨mode :: front, source, back, obtained, ?_,
      ⟨fails, fail.of_same same⟩, allowed, ?_, ?_, ending⟩
    · rw [sources, List.cons_append]
    · rw [List.length_cons, Nat.add_comm front.length, ← Nat.add_assoc]
      exact same.finds _ _ _ _ finds
    · rw [asked, ← List.append_assoc, ← List.map_append, ← List.filter_append]
      rfl
  · refine .inr ⟨⟨fails, fail.of_same same⟩, ?_, ending⟩
    rw [asked, ← List.map_append, ← List.filter_append]
    rfl

theorem exists_orders_eq {config : NetworkConfig} (settled : Settled s)
    (enough : Enough fuel s) (isConfig : s.networkConfig = config)
    (among : ∀ source ∈ modes, admits (getSyncMode config) source →
      source ∈ admitted config) :
    ∃ search, orders (getSyncMode config) run fuel place modes s = some search ∧
      Searched (getSyncMode config) run place modes s search ∧
        Settled search.last := by
  induction modes generalizing place s with
  | nil => exact ⟨_, rfl, ⟨rfl, rfl, rfl, .inr ⟨trivial, rfl, rfl⟩⟩, settled⟩
  | cons mode modes ih =>
      obtain ⟨here, later⟩ := List.forall_mem_cons.mp among
      rw [orders, tryMode_eq]
      by_cases allowed : admits (getSyncMode config) mode
      · have member : mode ∈ admitted s.networkConfig := isConfig ▸ here allowed
        obtain ⟨found, asked, finds⟩ : ∃ found,
            s.ask fuel (requestsAt run place s mode) = some (.returns found) ∧
              Finds found (requestsAt run place s mode) := by
          refine exists_ask_eq fun entry inRequests => ?_
          have request := (List.of_mem_zip inRequests).2
          exact exists_stateQuery_eq (settled.chunked mode member entry.2 request)
            (enough mode entry.2 request) entry.1
        have next : Settled (s.shuffled (run.attempts place).draw mode) ∧
            Enough fuel (s.shuffled (run.attempts place).draw mode) ∧
            Same (s.shuffled (run.attempts place).draw mode) s := by
          obtain same | same :=
            shuffled_of_settled settled member (run.attempts place).draw
          · rw [same]
            exact ⟨settled, enough, rfl, rfl, rfl, fun _ _ _ _ => id⟩
          · rw [same]
            exact ⟨settled_shuffleDefaultHTTPUrls settled _,
              enough_shuffleDefaultHTTPUrls enough _,
              same_shuffleDefaultHTTPUrls s _⟩
        obtain ⟨nextSettled, nextEnough, same⟩ := next
        rw [if_pos allowed, asked]
        cases found with
        | none =>
            obtain ⟨search, ended, searched, last⟩ :=
              @ih (place + 1) _ nextSettled nextEnough
                (same.configuration.trans isConfig) later
            refine ⟨_, ?_, searched.cons same fun _ => finds, last⟩
            rw [Option.map_some]
            dsimp only
            rw [ended, List.filter_cons_of_pos allowed]
            rfl
        | some obtained =>
            refine ⟨_, rfl, ⟨same.configuration, same.systemTime,
              same.rtcDevicePath, .inl ?_⟩, nextSettled⟩
            exact ⟨[], mode, modes, obtained, rfl, trivial, allowed, finds, rfl,
              rfl⟩
      · obtain ⟨search, ended, searched, last⟩ :=
          @ih (place + 1) s settled enough isConfig later
        rw [if_neg allowed]
        have passed := searched.cons ⟨rfl, rfl, rfl, fun _ _ _ _ => id⟩
          fun again => absurd again allowed
        rw [List.filter_cons_of_neg allowed] at passed
        exact ⟨search, ended, passed, last⟩

theorem setSystemTime_congr {other : State} (now : Int)
    (systemTime : other.systemTime = s.systemTime)
    (rtcDevicePath : other.rtcDevicePath = s.rtcDevicePath) :
    (setSystemTime run now other).1 = (setSystemTime run now s).1 ∧
      (setSystemTime run now other).2.systemTime =
        (setSystemTime run now s).2.systemTime ∧
      (setSystemTime run now other).2.networkConfig = other.networkConfig := by
  unfold setSystemTime
  cases run.date with
  | some error => exact ⟨rfl, systemTime, rfl⟩
  | none =>
      rw [rtcDevicePath]
      exact ⟨rfl, rfl, rfl⟩

theorem settled_setSystemTime (settled : Settled s) (now : Int) :
    Settled (setSystemTime run now s).2 := by
  unfold setSystemTime
  cases run.date with
  | some error => exact settled
  | none => exact ⟨settled.chunked, settled.sameUrls⟩

/-- A run of a settled state does what it should, and leaves a settled state. -/
theorem exists_sync_eq (settled : Settled s) (run : Run) :
    ∃ fuel synced, sync run fuel s = some synced ∧ Right run s synced ∧
      Settled synced.last := by
  obtain ⟨fuel, enough⟩ := exists_enough s
  obtain ⟨search, ended, searched, last⟩ := @exists_orders_eq run fuel 0 s
    (getSyncMode s.networkConfig).ordering s.networkConfig settled enough rfl
    fun source member allowed => List.mem_filter.mpr ⟨member, allowed⟩
  obtain ⟨configuration, systemTime, rtcDevicePath, selects⟩ := searched
  refine ⟨fuel, _, congrArg (Option.map (conclude run)) ended, ?_⟩
  unfold conclude
  obtain ⟨front, source, back, obtained, sources, fail, allowed, finds, asked,
    ending⟩ | ⟨fail, asked, ending⟩ := selects
  · obtain ⟨err, time, same⟩ :=
      @setSystemTime_congr run s search.last (obtained.time run) systemTime
        rtcDevicePath
    rw [ending]
    refine ⟨⟨rfl, same.trans configuration, .inl ?_⟩, settled_setSystemTime last _⟩
    rw [Nat.zero_add] at finds
    refine ⟨front, source, back, obtained, sources, fail, allowed, finds, asked,
      time, ?_⟩
    rw [← err]
  · rw [ending]
    exact ⟨⟨rfl, configuration, .inr ⟨fail, asked, systemTime, rfl⟩⟩, last⟩

theorem syncs_of_settled (settled : Settled s) (runs : List Run) : Syncs s runs := by
  induction runs generalizing s with
  | nil => trivial
  | cons run runs ih =>
      obtain ⟨fuel, synced, ended, right, last⟩ := exists_sync_eq settled run
      exact ⟨fuel, synced, ended, right, ih last⟩

/-! ### A run in which nothing answers -/

def unanswered (preCheckIPv4 preCheckIPv6 : Except String Bool) (draw : Nat → Nat) :
    Attempt where
  draw := draw
  preCheckIPv4 := preCheckIPv4
  preCheckIPv6 := preCheckIPv6
  ntp := fun _ => []
  http := fun _ => []

def unansweredRun (preCheckIPv4 preCheckIPv6 : Except String Bool)
    (draws : Nat → Nat → Nat) : Run where
  attempts place := unanswered preCheckIPv4 preCheckIPv6 (draws place)
  hostnames _ := unanswered preCheckIPv4 preCheckIPv6 id
  clock := 0

theorem queryMultiple_nil {Result : Type} :
    @queryMultiple Result (fun _ => []) = fun _ => none := by
  funext chunks
  simp [queryMultiple]

theorem mapEnding_of_none {Result : Type} {obtained : Result → Obtained}
    {ending : Ending Result} (none : ending = .returns none ∨ ending = .panics) :
    mapEnding obtained ending = .returns .none ∨
      mapEnding obtained ending = .panics := by
  obtain rfl | rfl := none
  · exact .inl rfl
  · exact .inr rfl

section Unanswered

variable {preCheckIPv4 preCheckIPv6 : Except String Bool} {draws : Nat → Nat → Nat}

theorem query_unanswered {draw : Nat → Nat} {request : TimeSync.Request}
    {ending : Ending Obtained}
    (ended : s.query (unanswered preCheckIPv4 preCheckIPv6 draw) fuel request =
      some ending) :
    ending = .returns none ∨ ending = .panics := by
  cases request with
  | networkTime ntpServers =>
      obtain ⟨queries, queried, rfl⟩ := Option.map_eq_some_iff.mp ended
      refine mapEnding_of_none ?_
      unfold queryNetworkTime at queried
      split at queried
      · cases queried
        exact .inl rfl
      · rw [unanswered, queryMultiple_nil] at queried
        exact ending_of_none queried
  | httpTime httpUrls =>
      obtain ⟨queries, queried, rfl⟩ := Option.map_eq_some_iff.mp ended
      refine mapEnding_of_none ?_
      unfold queryAllHttpTime at queried
      rw [unanswered, queryMultiple_nil] at queried
      exact ending_of_none queried

/-- Without an answer every request of a source is made. -/
theorem ask_unanswered {requests : List (Attempt × TimeSync.Request)}
    (silent : ∀ entry ∈ requests, ∃ draw,
      entry.1 = unanswered preCheckIPv4 preCheckIPv6 draw)
    {ending : Ending Obtained} (ended : s.ask fuel requests = some ending) :
    ending = .panics ∨ ending = .returns none ∧
      ∀ entry ∈ requests, s.query entry.1 fuel entry.2 = some (.returns none) := by
  induction requests with
  | nil =>
      cases ended
      exact .inr ⟨rfl, nofun⟩
  | cons entry rest ih =>
      obtain ⟨⟨draw, isSilent⟩, later⟩ := List.forall_mem_cons.mp silent
      unfold State.ask at ended
      split at ended
      · rename_i failed
        obtain panics | ⟨none, queries⟩ := ih later ended
        · exact .inl panics
        · exact .inr ⟨none, List.forall_mem_cons.mpr ⟨failed, queries⟩⟩
      · rename_i notFailed
        rw [isSilent] at ended notFailed
        obtain rfl | rfl := query_unanswered ended
        · exact absurd ended notFailed
        · exact .inl rfl

/-- What the shuffles of all admitted sources leave -/
def after (syncMode : SyncMode) (run : Run) : Nat → List String → State → State
  | _, [], s => s
  | place, mode :: modes, s =>
      after syncMode run (place + 1) modes
        (if admits syncMode mode then s.shuffled (run.attempts place).draw mode
        else s)

theorem after_append (front back : List String) (place : Nat) (s : State) :
    after syncMode run place (front ++ back) s =
      after syncMode run (place + front.length) back
        (after syncMode run place front s) := by
  induction front generalizing place s with
  | nil => rfl
  | cons mode front ih =>
      rw [List.cons_append, after, ih, after, List.length_cons, Nat.add_assoc,
        Nat.add_comm 1]

theorem shuffled_id (s : State) (mode : String) : s.shuffled id mode = s := by
  have same : shuffle id = id := funext shuffle_id
  unfold State.shuffled State.shuffleHTTPUrls State.shuffleDefaultHTTPUrls
  rw [same, Option.map_id]
  split_ifs <;> rfl

theorem after_of_id
    (still : ∀ k, place ≤ k → k < place + modes.length →
      (run.attempts k).draw = id) :
    after syncMode run place modes s = s := by
  induction modes generalizing place s with
  | nil => rfl
  | cons mode modes ih =>
      rw [List.length_cons] at still
      rw [after, still place le_rfl (by omega), shuffled_id, ite_self]
      exact ih fun k from_ below => still k (by omega) (by omega)

theorem silent_requestsAt {source : String} :
    ∀ entry ∈ requestsAt (unansweredRun preCheckIPv4 preCheckIPv6 draws) place s
        source,
      ∃ draw, entry.1 = unanswered preCheckIPv4 preCheckIPv6 draw := by
  intro entry inRequests
  obtain first | second := List.mem_cons.mp (List.of_mem_zip inRequests).1
  · exact ⟨draws place, first⟩
  · exact ⟨id, List.mem_singleton.mp second⟩

/-- A search that ends has asked each admitted source in vain. -/
theorem last_of_orders
    (ended : orders syncMode (unansweredRun preCheckIPv4 preCheckIPv6 draws) fuel
      place modes s = some search) (returns : search.ending ≠ .panics) :
    search.ending = .returns none ∧
      search.last =
        after syncMode (unansweredRun preCheckIPv4 preCheckIPv6 draws) place modes
          s := by
  induction modes generalizing place s search with
  | nil =>
      cases ended
      exact ⟨rfl, rfl⟩
  | cons mode modes ih =>
      rw [orders, tryMode_eq] at ended
      rw [after]
      by_cases allowed : admits syncMode mode
      · rw [if_pos allowed] at ended ⊢
        cases asked : s.ask fuel (requestsAt
            (unansweredRun preCheckIPv4 preCheckIPv6 draws) place s mode) with
        | none =>
            rw [asked] at ended
            cases ended
        | some ending =>
            rw [asked, Option.map_some] at ended
            obtain rfl | ⟨rfl, -⟩ := ask_unanswered silent_requestsAt asked
            · cases ended
              exact absurd rfl returns
            · obtain ⟨later, laterEnded, rfl⟩ := Option.map_eq_some_iff.mp ended
              have last := ih laterEnded returns
              exact last
      · rw [if_neg allowed] at ended ⊢
        exact ih ended returns

theorem exists_attempt {source : String} {request : TimeSync.Request}
    (member : request ∈ s.requests source) :
    ∃ attempt, (attempt, request) ∈ requestsAt run place s source := by
  unfold requestsAt
  unfold State.requests at member ⊢
  split_ifs at member ⊢ <;> simp_all
  obtain rfl | rfl := member
  · exact ⟨_, .inl ⟨rfl, rfl⟩⟩
  · exact ⟨_, .inr ⟨rfl, rfl⟩⟩

/-- With nothing shuffled, it has made each request of each admitted source. -/
theorem queries_of_orders
    (ended : orders syncMode (unansweredRun preCheckIPv4 preCheckIPv6 fun _ => id)
      fuel place modes s = some search) (returns : search.ending ≠ .panics) :
    ∀ source ∈ modes, admits syncMode source → ∀ request ∈ s.requests source,
      s.query (unanswered preCheckIPv4 preCheckIPv6 id) fuel request =
        some (.returns none) := by
  induction modes generalizing place search with
  | nil => exact nofun
  | cons mode modes ih =>
      rw [orders, tryMode_eq] at ended
      refine List.forall_mem_cons.mpr ?_
      by_cases allowed : admits syncMode mode
      · rw [if_pos allowed] at ended
        cases asked : s.ask fuel (requestsAt (unansweredRun preCheckIPv4 preCheckIPv6
            fun _ => id) place s mode) with
        | none =>
            rw [asked] at ended
            cases ended
        | some ending =>
            rw [asked, Option.map_some] at ended
            obtain rfl | ⟨rfl, queries⟩ := ask_unanswered silent_requestsAt asked
            · cases ended
              exact absurd rfl returns
            · obtain ⟨later, laterEnded, rfl⟩ := Option.map_eq_some_iff.mp ended
              have same : s.shuffled ((unansweredRun preCheckIPv4 preCheckIPv6
                  fun _ => id).attempts place).draw mode = s := shuffled_id s mode
              rw [same] at laterEnded
              refine ⟨fun _ request member => ?_, ih laterEnded returns⟩
              obtain ⟨attempt, inRequests⟩ := exists_attempt member
              have query := queries _ inRequests
              obtain first | second := List.mem_cons.mp (List.of_mem_zip inRequests).1
              · rwa [first] at query
              · rwa [List.mem_singleton.mp second] at query
      · rw [if_neg allowed] at ended
        exact ⟨fun again => absurd again allowed, ih ended returns⟩

/-- A loop that ends without an answer cuts its list into chunks. -/
theorem chunked_of_query {request : TimeSync.Request}
    (ends : ∀ preCheckIPv4 preCheckIPv6, ∃ fuel,
      s.query (unanswered preCheckIPv4 preCheckIPv6 id) fuel request =
        some (.returns none)) : Chunked s request := by
  intro preCheckIPv4 preCheckIPv6 servers listed
  refine or_iff_not_imp_left.mpr fun asks => ?_
  obtain ⟨fuel, ended⟩ := ends preCheckIPv4 preCheckIPv6
  have loop {Answer : Type} :=
    @query_of_list Answer _ _ _ listed id (fun _ => none) fuel
  simp only [shuffle_id] at loop
  cases request with
  | networkTime _ | httpTime _ =>
      obtain ⟨queries, queried, ending⟩ := Option.map_eq_some_iff.mp ended
      rw [unanswered, queryMultiple_nil] at queried
      refine fits_of_not_panics asks ⟨fuel, queries, loop.symm.trans queried, ?_⟩
      intro panics
      rw [panics] at ending
      cases ending

theorem orders_of_syncs (syncs : Syncs s [run]) :
    ∃ fuel search,
      orders (getSyncMode s.networkConfig) run fuel 0
          (getSyncMode s.networkConfig).ordering s = some search ∧
        search.ending ≠ .panics ∧
          (conclude run search).last.networkConfig = s.networkConfig := by
  obtain ⟨fuel, synced, ended, right, -⟩ := syncs
  obtain ⟨search, searched, rfl⟩ := Option.map_eq_some_iff.mp ended
  refine ⟨fuel, search, searched, fun panics => ?_, right.configuration⟩
  have returns := right.returns
  rw [conclude, panics] at returns
  cases returns

/-- The draws of one place only -/
def drawAt (place : Nat) (draw : Nat → Nat) (k : Nat) : Nat → Nat :=
  if k = place then draw else id

theorem after_drawAt {place : Nat} {draw : Nat → Nat} {front back : List String}
    (length : place = front.length) (allowed : admits syncMode mode = true) :
    after syncMode (unansweredRun preCheckIPv4 preCheckIPv6 (drawAt place draw)) 0
        (front ++ mode :: back) s = s.shuffled draw mode := by
  have still (k : Nat) (elsewhere : k ≠ place) :
      ((unansweredRun preCheckIPv4 preCheckIPv6 (drawAt place draw)).attempts
        k).draw = id := if_neg elsewhere
  have here : ((unansweredRun preCheckIPv4 preCheckIPv6 (drawAt place draw)).attempts
      place).draw = draw := if_pos rfl
  have before : after syncMode (unansweredRun preCheckIPv4 preCheckIPv6
      (drawAt place draw)) 0 front s = s :=
    after_of_id fun k _ below => still k (by omega)
  rw [after_append, before, after, if_pos allowed, Nat.zero_add, ← length, here]
  exact after_of_id fun k above _ => still k (by omega)

theorem shuffle_of_syncs {draw : Nat → Nat} {front back : List String}
    (split : (getSyncMode s.networkConfig).ordering =
      front ++ "http_user_provided" :: back)
    (allowed : admits (getSyncMode s.networkConfig) "http_user_provided" = true)
    (syncs : Syncs s [unansweredRun preCheckIPv4 preCheckIPv6
      (drawAt front.length draw)]) :
    shuffle draw s.httpUrls = s.httpUrls := by
  obtain ⟨fuel, search, ended, returns, same⟩ := orders_of_syncs syncs
  obtain ⟨ending, last⟩ := last_of_orders ended returns
  rw [conclude, ending] at same
  rw [split, after_drawAt rfl allowed] at last
  dsimp only at same
  rw [last] at same
  have urls := congrArg NetworkConfig.timeSyncHTTPUrls same
  change s.networkConfig.timeSyncHTTPUrls.map (shuffle draw) = _ at urls
  unfold State.httpUrls
  cases given : s.networkConfig.timeSyncHTTPUrls with
  | none => rfl
  | some list =>
      rw [given] at urls
      exact Option.some.inj urls

end Unanswered

end Search

/-- Every run sets the time from the right source and leaves the configuration as it
is exactly if the lists that may be asked can be cut into chunks and the URLs of the
configuration, if they may be asked, cannot be put into another order. -/
theorem syncs_iff_settled (s : State) : (∀ runs, Syncs s runs) ↔ Settled s := by
  constructor
  · intro syncs
    refine ⟨fun source member request inRequests => ?_, fun member => ?_⟩
    · obtain ⟨isSource, allowed⟩ := List.mem_filter.mp member
      refine chunked_of_query fun preCheckIPv4 preCheckIPv6 => ?_
      obtain ⟨fuel, search, ended, returns, -⟩ := orders_of_syncs
        (syncs [unansweredRun preCheckIPv4 preCheckIPv6 fun _ => id])
      exact ⟨fuel, queries_of_orders ended returns source isSource allowed request
        inRequests⟩
    · obtain ⟨isSource, allowed⟩ := List.mem_filter.mp member
      obtain ⟨front, back, split⟩ := List.append_of_mem isSource
      refine same_of_shuffle fun draw => ?_
      exact shuffle_of_syncs split allowed
        (syncs [unansweredRun (.ok true) (.ok true) (drawAt front.length draw)])
  · exact syncs_of_settled

/-- A network with URLs of its own -/
def ownUrls : State where
  networkConfig :=
    { staticNetwork "255.255.255.0" with
      timeSyncMode := .of "custom"
      timeSyncHTTPUrls :=
        some ["http://www.gstatic.com/generate_204", "http://cp.cloudflare.com/"] }
  dhcpNtpAddresses := []
  defaultHTTPUrls := initialHTTPUrls
  rtcDevicePath := ""

/-- One run puts the URLs of the configuration into another order. -/
theorem not_syncs_ownUrls :
    ¬ ∀ (s : State) (runs : List Run), Syncs s runs := by
  intro all
  have same := @shuffle_of_syncs ownUrls (.ok true) (.ok true) (drawSwap 0 1)
    ["ntp_user_provided"] ["ntp_dhcp", "ntp", "http"] rfl rfl (all ownUrls _)
  revert same
  decide

end TimeSyncSelection

end JetKvm
