import JetKvm.GoIpParse

/-!
# The servers that the time is asked from

Translation of `filterNTPServers` in `internal/timesync/ntp.go`.
-/

namespace JetKvm

namespace TimeSync

open IpText

/-- `IP.To16` -/
def to16 (ip : IP) : Option IP :=
  if ip.length = 4 then some (v4InV6Prefix ++ ip)
  else if ip.length = 16 then some ip
  else none

/-- What the loop appends for one server. -/
def kept (hasIPv4 hasIPv6 : Bool) (server : String) : List String :=
  match parseIP server with
  | none => [server]
  | some ip =>
      (if hasIPv4 && (to4 ip).isSome then [server] else []) ++
        (if hasIPv6 && (to16 ip).isSome then [server] else [])

/-- `filterNTPServers`, with what the two pre-checks answer. -/
def filterNTPServers (preCheckIPv4 preCheckIPv6 : Except String Bool)
    (ntpServers : List String) : Except String (List String) :=
  if ntpServers = [] then .ok []
  else do
    let hasIPv4 ← preCheckIPv4
    let hasIPv6 ← preCheckIPv6
    .ok (ntpServers.flatMap (kept hasIPv4 hasIPv6))

/-! ### What should be kept -/

/-- A literal that is held as an IPv4 address, also where it is written as an
IPv6 address that maps one -/
def isIPv4Literal (server : String) : Bool :=
  (parseIP server).any fun ip => (to4 ip).isSome

def isIPv6Literal (server : String) : Bool :=
  (parseIP server).any fun ip => (to4 ip).isNone

def isHostName (server : String) : Bool := (parseIP server).isNone

/-- The server can be reached over what there is. -/
def usable (hasIPv4 hasIPv6 : Bool) (server : String) : Bool :=
  isHostName server || (hasIPv4 && isIPv4Literal server) ||
    (hasIPv6 && isIPv6Literal server)

/-- Every address that is parsed has sixteen bytes. -/
theorem to16_of_parseIP {server : String} {ip : IP}
    (parsed : parseIP server = some ip) : (to16 ip).isSome = true := by
  rw [to16, (parseIP_spec parsed).1, if_neg (by decide), if_pos rfl]
  rfl

/-- Beside the servers that should be kept, the loop appends the IPv4 literals
once more where there is IPv6. -/
theorem kept_eq (hasIPv4 hasIPv6 : Bool) (server : String) :
    kept hasIPv4 hasIPv6 server =
      [server].filter (usable hasIPv4 hasIPv6) ++
        [server].filter fun server => hasIPv6 && isIPv4Literal server := by
  unfold kept usable isHostName isIPv4Literal isIPv6Literal
  cases parsed : parseIP server with
  | none => simp [parsed]
  | some ip =>
      cases held : to4 ip with
      | none =>
          cases hasIPv6 <;> simp [parsed, held, to16_of_parseIP parsed]
      | some short =>
          cases hasIPv4 <;> cases hasIPv6 <;>
            simp [parsed, held, to16_of_parseIP parsed]

theorem filter_cons_eq_append (test : String → Bool) (server : String)
    (rest : List String) :
    (server :: rest).filter test = [server].filter test ++ rest.filter test :=
  List.filter_append [server] rest

theorem length_flatMap_kept (hasIPv4 hasIPv6 : Bool)
    (ntpServers : List String) :
    (ntpServers.flatMap (kept hasIPv4 hasIPv6)).length =
      (ntpServers.filter (usable hasIPv4 hasIPv6)).length +
        (ntpServers.filter fun server =>
          hasIPv6 && isIPv4Literal server).length := by
  induction ntpServers with
  | nil => rfl
  | cons server rest ih =>
      rw [List.flatMap_cons, List.length_append, ih, kept_eq,
        filter_cons_eq_append _ server rest, filter_cons_eq_append _ server rest]
      simp only [List.length_append]
      omega

theorem flatMap_kept_of_disjoint {hasIPv4 hasIPv6 : Bool}
    {ntpServers : List String}
    (apart : ∀ server ∈ ntpServers,
      (hasIPv6 && isIPv4Literal server) = false) :
    ntpServers.flatMap (kept hasIPv4 hasIPv6) =
      ntpServers.filter (usable hasIPv4 hasIPv6) := by
  induction ntpServers with
  | nil => rfl
  | cons server rest ih =>
      obtain ⟨here, later⟩ := List.forall_mem_cons.mp apart
      have once : ([server].filter fun server =>
          hasIPv6 && isIPv4Literal server) = [] := by
        simpa using here
      rw [List.flatMap_cons, ih later, kept_eq, once, List.append_nil,
        filter_cons_eq_append _ server rest]

/-- The filter keeps exactly the servers that can be reached, each as often as
it is listed, if and only if there is no IPv6 or no IPv4 literal in the list. -/
theorem filterNTPServers_eq_filter_iff (hasIPv4 hasIPv6 : Bool)
    (ntpServers : List String) :
    filterNTPServers (.ok hasIPv4) (.ok hasIPv6) ntpServers =
        .ok (ntpServers.filter (usable hasIPv4 hasIPv6)) ↔
      (hasIPv6 = true →
        ∀ server ∈ ntpServers, isIPv4Literal server = false) := by
  have result : filterNTPServers (.ok hasIPv4) (.ok hasIPv6) ntpServers =
      .ok (ntpServers.flatMap (kept hasIPv4 hasIPv6)) := by
    unfold filterNTPServers
    split
    · subst ntpServers
      rfl
    · rfl
  rw [result, Except.ok.injEq]
  constructor
  · intro same available server member
    have lengths := length_flatMap_kept hasIPv4 hasIPv6 ntpServers
    rw [same, Nat.left_eq_add, List.length_eq_zero_iff,
      List.filter_eq_nil_iff] at lengths
    simpa [available] using lengths server member
  · intro apart
    refine flatMap_kept_of_disjoint fun server member => ?_
    cases available : hasIPv6 with
    | false => rfl
    | true => exact apart available server member

/-- An IPv4 literal is returned when there is only IPv6, and twice when there
are both. -/
theorem filterNTPServers_keeps_ipv4 :
    ¬ ∀ (hasIPv4 hasIPv6 : Bool) (ntpServers : List String),
      filterNTPServers (.ok hasIPv4) (.ok hasIPv6) ntpServers =
        .ok (ntpServers.filter (usable hasIPv4 hasIPv6)) := by
  intro claimed
  have same := claimed false true ["162.159.200.1"]
  revert same
  decide

end TimeSync

end JetKvm
