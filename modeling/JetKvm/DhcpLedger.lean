import JetKvm.DhcpClients

/-!
# A ledger of request loops

A ledger keeps of the DHCP clients how many request loops each family has, which
families are enabled and whether there is a current client; the clients follow
it.  What applying a configuration does to it decides which loops there are.
-/

namespace JetKvm

namespace DhcpLifecycle

open Netlink Dhcp

structure Ledger where
  loops : Family → Nat
  enabled : Family → Bool
  current : Bool

namespace Ledger

def enable (family : Family) (enabled : Bool) (ledger : Ledger) : Ledger :=
  { ledger with enabled := Function.update ledger.enabled family enabled }

/-- Every enabled family gets a loop, unless there is a client. -/
def start (ledger : Ledger) : Ledger :=
  if ledger.current then ledger
  else
    { ledger with
      current := true
      loops := fun family =>
        ledger.loops family + if ledger.enabled family then 1 else 0 }

/-- What applying a configuration does for one family; `stops` is whether it
gets to disabling the family. -/
def settle (family : Family) (runs stops : Bool) (ledger : Ledger) : Ledger :=
  if runs then (ledger.enable family true).start
  else if stops then ledger.enable family false
  else ledger

/-- What applying a configuration does; `applies` is whether its IPv4 part
succeeds. -/
def apply (runs stops : Family → Bool) (applies : Bool) (ledger : Ledger) :
    Ledger :=
  let settled := ledger.settle .inet (runs .inet) (stops .inet)
  if applies then settled.settle .inet6 (runs .inet6) (stops .inet6)
  else settled

end Ledger

/-! ### Which loops are started -/

namespace Ledger

/-- Whether a configuration gets to starting the client. -/
def Reaches (runs : Family → Bool) (applies : Bool) : Prop :=
  runs .inet = true ∨ applies = true ∧ runs .inet6 = true

variable {runs stops : Family → Bool} {applies : Bool} {ledger : Ledger}

section Settle

variable {family other : Family} {serves disables : Bool}

@[simp]
theorem enabled_start : ledger.start.enabled = ledger.enabled := by
  unfold start
  split_ifs <;> rfl

theorem settle_of_current (current : ledger.current = true) :
    (ledger.settle family serves disables).loops = ledger.loops ∧
      (ledger.settle family serves disables).current = true := by
  have starts : (ledger.enable family true).start = ledger.enable family true :=
    if_pos current
  unfold settle
  rw [starts]
  split_ifs <;> exact ⟨rfl, current⟩

theorem settle_of_not_serves (not : serves = false) :
    (ledger.settle family serves disables).loops = ledger.loops ∧
      (ledger.settle family serves disables).current = ledger.current := by
  unfold settle
  rw [not]
  cases disables <;> exact ⟨rfl, rfl⟩

theorem enabled_settle :
    (ledger.settle family serves disables).enabled family =
      (serves || (!disables && ledger.enabled family)) := by
  unfold settle
  cases serves <;> cases disables <;> simp [enable]

theorem enabled_settle_of_ne (differs : other ≠ family) :
    (ledger.settle family serves disables).enabled other =
      ledger.enabled other := by
  unfold settle
  cases serves <;> cases disables <;>
    simp [enable, Function.update_of_ne differs]

end Settle

theorem loops_apply_of_current (current : ledger.current = true) :
    (ledger.apply runs stops applies).loops = ledger.loops ∧
      (ledger.apply runs stops applies).current = true := by
  have first := @settle_of_current ledger .inet (runs .inet) (stops .inet) current
  unfold apply
  cases applies with
  | true =>
      have second := @settle_of_current _ .inet6 (runs .inet6) (stops .inet6)
        first.2
      exact ⟨second.1.trans first.1, second.2⟩
  | false => exact first

theorem loops_apply_of_not_reaches (not : ¬Reaches runs applies) :
    (ledger.apply runs stops applies).loops = ledger.loops ∧
      (ledger.apply runs stops applies).current = ledger.current := by
  simp only [Reaches, not_or, not_and, Bool.not_eq_true] at not
  have first := @settle_of_not_serves ledger .inet _ (stops .inet) not.1
  unfold apply
  cases applied : applies with
  | true =>
      have second := @settle_of_not_serves
        (ledger.settle .inet (runs .inet) (stops .inet)) .inet6 _ (stops .inet6)
        (not.2 applied)
      exact ⟨second.1.trans first.1, second.2.trans first.2⟩
  | false => exact first

/-- IPv4 comes first: the client is started with what IPv6 had before. -/
theorem loops_apply_of_inet (current : ledger.current = false)
    (served : runs .inet = true) :
    (ledger.apply runs stops applies).loops .inet = ledger.loops .inet + 1 ∧
      (ledger.apply runs stops applies).loops .inet6 = ledger.loops .inet6 +
        (if ledger.enabled .inet6 then 1 else 0) ∧
      (ledger.apply runs stops applies).current = true := by
  have first : ledger.settle .inet (runs .inet) (stops .inet) =
      (ledger.enable .inet true).start := by rw [settle, served, if_pos rfl]
  have starts : (ledger.enable .inet true).start.current = true ∧
      (ledger.enable .inet true).start.loops .inet = ledger.loops .inet + 1 ∧
      (ledger.enable .inet true).start.loops .inet6 = ledger.loops .inet6 +
        (if ledger.enabled .inet6 then 1 else 0) := by
    simp [start, enable, current]
  obtain ⟨running, loops, loops6⟩ := starts
  unfold apply
  rw [first]
  cases applies with
  | true =>
      have second := @settle_of_current _ .inet6 (runs .inet6) (stops .inet6)
        running
      exact ⟨(congrFun second.1 _).trans loops,
        (congrFun second.1 _).trans loops6, second.2⟩
  | false => exact ⟨loops, loops6, running⟩

theorem loops_apply_of_inet6 (current : ledger.current = false)
    (notServed : runs .inet = false) (applied : applies = true)
    (stopped : stops .inet = true) (served : runs .inet6 = true) :
    (ledger.apply runs stops applies).loops .inet = ledger.loops .inet ∧
      (ledger.apply runs stops applies).loops .inet6 =
        ledger.loops .inet6 + 1 ∧
      (ledger.apply runs stops applies).current = true := by
  simp [apply, settle, start, enable, current, notServed, applied, stopped,
    served]

theorem enabled_apply (applied : applies = true) :
    (ledger.apply runs stops applies).enabled .inet6 =
      (runs .inet6 || (!stops .inet6 && ledger.enabled .inet6)) := by
  unfold apply
  rw [applied, if_pos rfl, enabled_settle, enabled_settle_of_ne (by decide)]

theorem enabled_apply_of_not (failed : applies = false) :
    (ledger.apply runs stops applies).enabled .inet6 =
      ledger.enabled .inet6 := by
  unfold apply
  rw [failed]
  exact enabled_settle_of_ne (by decide)

/-- One loop at most, none for a family without DHCP, and one for each family
with DHCP while the link is up. -/
structure Sound (runs : Family → Bool) (up : Bool) (ledger : Ledger) :
    Prop where
  single : ∀ family, ledger.loops family ≤ 1
  quiet : ∀ family, runs family = false → ledger.loops family = 0
  served : up = true → ∀ family, runs family = true → 1 ≤ ledger.loops family

/-- What applying a configuration must meet: every loop keeps its DHCP, the
client is not started beside older loops, and a family without a loop is the
first to be started. -/
structure Undisturbed (runs : Family → Bool) (up applies : Bool)
    (ledger : Ledger) : Prop where
  stays : ∀ family, 0 < ledger.loops family → runs family = true
  once : ledger.current = false → Reaches runs applies →
    ∀ family, ledger.loops family = 0
  gets : up = true → ∀ family, runs family = true →
    0 < ledger.loops family ∨ ledger.current = false ∧ Reaches runs applies ∧
      (family = .inet ∨ runs .inet = false)

/-- IPv6 is enabled exactly for a loop of its own or beside another one, and
there is a client only with a loop. -/
structure Kept (ledger : Ledger) : Prop where
  own : 0 < ledger.loops .inet6 → ledger.enabled .inet6 = true
  fresh : (∀ family, ledger.loops family = 0) →
    ledger.enabled .inet6 = false ∧ ledger.current = false

theorem forall_family {holds : Family → Prop} :
    (∀ family, holds family) ↔ holds .inet ∧ holds .inet6 :=
  ⟨fun all => ⟨all .inet, all .inet6⟩, fun both family =>
    match family with
    | .inet => both.1
    | .inet6 => both.2⟩

/-- Where the client is started, the families must have been without loops. -/
theorem sound_start_iff {up : Bool} (kept : Kept ledger)
    (current : ledger.current = false) (reaches : Reaches runs applies)
    (stopped : applies = true → runs .inet = false → stops .inet = true) :
    Sound runs up (ledger.apply runs stops applies) ↔
      (∀ family, ledger.loops family = 0) ∧
        (up = true → runs .inet = true → runs .inet6 = false) := by
  cases inet : runs .inet with
  | true =>
      obtain ⟨loops, loops6, -⟩ :=
        @loops_apply_of_inet runs stops applies ledger current inet
      constructor
      · intro sound
        have none : ledger.loops .inet = 0 := by
          have := sound.single .inet
          omega
        have none6 : ledger.loops .inet6 = 0 := by
          by_contra some6
          have := sound.single .inet6
          rw [loops6, if_pos (kept.own (Nat.pos_of_ne_zero some6))] at this
          omega
        have all : ∀ family, ledger.loops family = 0 :=
          forall_family.mpr ⟨none, none6⟩
        refine ⟨all, fun upward _ => ?_⟩
        by_contra served
        have := sound.served upward .inet6 (Bool.not_eq_false _ ▸ served)
        rw [loops6, none6, (kept.fresh all).1] at this
        simp at this
      · rintro ⟨all, alone⟩
        rw [all .inet] at loops
        rw [all .inet6, (kept.fresh all).1] at loops6
        refine ⟨forall_family.mpr ⟨by omega, by simp [loops6]⟩,
          forall_family.mpr ⟨fun runsNot => ?_, fun _ => by simp [loops6]⟩,
          fun upward => forall_family.mpr ⟨fun _ => by omega, fun served => ?_⟩⟩
        · rw [inet] at runsNot
          cases runsNot
        · rw [alone upward rfl] at served
          cases served
  | false =>
      obtain ⟨applies', served⟩ := reaches.resolve_left (by simp [inet])
      obtain ⟨loops, loops6, -⟩ := @loops_apply_of_inet6 runs stops applies
        ledger current inet applies' (stopped applies' inet) served
      constructor
      · intro sound
        have none := loops ▸ sound.quiet .inet inet
        have none6 := sound.single .inet6
        exact ⟨forall_family.mpr ⟨none, by omega⟩, fun _ other => by cases other⟩
      · rintro ⟨all, -⟩
        rw [all .inet] at loops
        rw [all .inet6] at loops6
        refine ⟨forall_family.mpr ⟨by omega, by omega⟩,
          forall_family.mpr ⟨fun _ => loops, fun runsNot => ?_⟩,
          fun _ => forall_family.mpr ⟨fun other => ?_, fun _ => by omega⟩⟩
        · rw [served] at runsNot
          cases runsNot
        · rw [inet] at other
          cases other

theorem sound_apply_iff {up : Bool} (kept : Kept ledger)
    (single : ∀ family, ledger.loops family ≤ 1)
    (stopped : applies = true → runs .inet = false → stops .inet = true) :
    Sound runs up (ledger.apply runs stops applies) ↔
      Undisturbed runs up applies ledger := by
  by_cases starts : ledger.current = false ∧ Reaches runs applies
  · rw [sound_start_iff kept starts.1 starts.2 stopped]
    constructor
    · rintro ⟨all, alone⟩
      refine ⟨fun family some => ?_, fun _ _ => all, fun upward => ?_⟩
      · have := all family
        omega
      · refine forall_family.mpr ⟨fun _ => Or.inr ⟨starts.1, starts.2, .inl rfl⟩,
          fun served => Or.inr ⟨starts.1, starts.2, .inr ?_⟩⟩
        by_contra inet
        rw [alone upward (Bool.not_eq_false _ ▸ inet)] at served
        cases served
    · rintro ⟨-, once, gets⟩
      have all := once starts.1 starts.2
      refine ⟨all, fun upward inet => ?_⟩
      by_contra served
      rcases gets upward .inet6 (Bool.not_eq_false _ ▸ served) with
        some | ⟨-, -, first | runsNot⟩
      · have := all .inet6
        omega
      · cases first
      · rw [inet] at runsNot
        cases runsNot
  · have same : (ledger.apply runs stops applies).loops = ledger.loops := by
      by_cases current : ledger.current = false
      · exact (loops_apply_of_not_reaches fun reaches =>
          starts ⟨current, reaches⟩).1
      · exact (loops_apply_of_current (Bool.not_eq_false _ ▸ current)).1
    constructor
    · rintro ⟨-, quiet, served⟩
      rw [same] at quiet served
      refine ⟨fun family some => ?_, fun current reaches =>
        absurd ⟨current, reaches⟩ starts, fun upward family runs =>
        Or.inl (served upward family runs)⟩
      by_contra runsNot
      have := quiet family (Bool.not_eq_true _ ▸ runsNot)
      omega
    · rintro ⟨stays, -, gets⟩
      refine ⟨same ▸ single, fun family runsNot => ?_,
        fun upward family runs => ?_⟩
      · rw [same]
        by_contra some
        rw [stays family (Nat.pos_of_ne_zero some)] at runsNot
        cases runsNot
      · rw [same]
        rcases gets upward family runs with some | ⟨current, reaches, -⟩
        · exact some
        · exact absurd ⟨current, reaches⟩ starts

theorem kept_apply {up : Bool} (kept : Kept ledger)
    (sound : Sound runs up (ledger.apply runs stops applies))
    (applied : runs .inet = true → applies = true)
    (stopped : applies = true → runs .inet = false → stops .inet = true) :
    Kept (ledger.apply runs stops applies) := by
  have idle : ¬Reaches runs applies →
      (ledger.apply runs stops applies).loops = ledger.loops :=
    fun not => (loops_apply_of_not_reaches not).1
  constructor
  · intro some
    cases done : applies with
    | true =>
        rw [done] at some sound
        rw [enabled_apply rfl]
        cases six : runs .inet6 with
        | true => rfl
        | false =>
            have := sound.quiet .inet6 six
            omega
    | false =>
        have not : ¬Reaches runs applies := by
          rintro (inet | ⟨other, -⟩)
          · rw [applied inet] at done
            cases done
          · rw [other] at done
            cases done
        rw [idle not] at some
        rw [enabled_apply_of_not rfl]
        exact kept.own some
  · intro none
    have zero : ¬(ledger.current = false ∧ Reaches runs applies) := by
      rintro ⟨current, reaches⟩
      cases inet : runs .inet with
      | true =>
          have := none .inet
          rw [(loops_apply_of_inet current inet).1] at this
          omega
      | false =>
          obtain ⟨done, served⟩ := reaches.resolve_left (by simp [inet])
          have := none .inet6
          rw [(loops_apply_of_inet6 current inet done (stopped done inet)
            served).2.1] at this
          omega
    have current : ledger.current = false := by
      by_contra other
      have running := Bool.not_eq_false _ ▸ other
      rw [(loops_apply_of_current running).1] at none
      rw [(kept.fresh none).2] at running
      cases running
    have not : ¬Reaches runs applies := fun reaches => zero ⟨current, reaches⟩
    rw [idle not] at none
    refine ⟨?_, (loops_apply_of_not_reaches not).2.trans current⟩
    cases done : applies with
    | true =>
        have six : runs .inet6 = false := by
          by_contra served
          exact not (Or.inr ⟨done, Bool.not_eq_false _ ▸ served⟩)
        rw [enabled_apply rfl, six, (kept.fresh none).1]
        simp
    | false => rw [enabled_apply_of_not rfl, (kept.fresh none).1]

end Ledger

/-! ### The clients follow the ledger -/

/-- What there is of the DHCP clients in the ledger -/
def ledger (dc : DHCPClient) : Ledger where
  loops := fun family =>
    dc.made.countP fun client => (client family).loop.isSome
  enabled := fun family =>
    match family with
    | .inet => dc.ipv4Enabled
    | .inet6 => dc.ipv6Enabled
  current := dc.client.isSome

/-- A client of this program whose loops are never left without a timer. -/
structure Wired (dc : DHCPClient) : Prop where
  kind : dc.clientType = "jetdhcpc"
  live : ∀ client ∈ dc.made, ∀ family, (client family).Live

theorem forall_modify {holds : Client → Prop} {change : Client → Client}
    (keeps : ∀ client, holds client → holds (change client)) :
    ∀ (made : List Client) (index : Nat), (∀ client ∈ made, holds client) →
      ∀ client ∈ made.modify index change, holds client := by
  intro made
  induction made with
  | nil => simp
  | cons first rest ih =>
      intro index all
      rw [List.forall_mem_cons] at all
      cases index with
      | zero =>
          rw [List.modify_zero_cons]
          exact List.forall_mem_cons.mpr ⟨keeps first all.1, all.2⟩
      | succ index =>
          rw [List.modify_succ_cons]
          exact List.forall_mem_cons.mpr ⟨all.1, ih index all.2⟩

theorem countP_modify {test : Client → Bool} {change : Client → Client}
    (same : ∀ client, test (change client) = test client) :
    ∀ (made : List Client) (index : Nat),
      (made.modify index change).countP test = made.countP test := by
  intro made
  induction made with
  | nil => simp
  | cons first rest ih =>
      intro index
      cases index with
      | zero => rw [List.modify_zero_cons, List.countP_cons, same,
          List.countP_cons]
      | succ index => rw [List.modify_succ_cons, List.countP_cons, ih,
          List.countP_cons]

theorem wired_onClient {dc : DHCPClient} (wired : Wired dc)
    {change : Client → Client}
    (keeps : ∀ client : Client, (∀ family, (client family).Live) →
      ∀ family, (change client family).Live) : Wired (dc.onClient change) := by
  obtain ⟨kind, live⟩ := wired
  rw [DHCPClient.onClient]
  split
  · exact ⟨kind, forall_modify keeps _ _ live⟩
  · exact ⟨kind, live⟩

theorem ledger_onClient (dc : DHCPClient) {change : Client → Client}
    (same : ∀ (client : Client) (family : Family),
      (change client family).loop.isSome = (client family).loop.isSome) :
    ledger (dc.onClient change) = ledger dc := by
  rw [DHCPClient.onClient]
  split
  · simp only [ledger]
    congr 1
    funext family
    exact countP_modify (fun client => same client family) _ _
  · rfl

/-- The enabled families and the clients make the two settings one. -/
def setFamily (family : Family) (enabled : Bool) (dc : DHCPClient) :
    DHCPClient :=
  match family with
  | .inet => dc.setIPv4 enabled
  | .inet6 => dc.setIPv6 enabled

theorem setFamily_spec (family : Family) (enabled : Bool) {dc : DHCPClient}
    (wired : Wired dc) :
    Wired (setFamily family enabled dc) ∧
      ledger (setFamily family enabled dc) =
        (ledger dc).enable family enabled := by
  have live : ∀ client : Client, (∀ each, (client each).Live) →
      ∀ each, (client.setEnabled family enabled each).Live := fun client live =>
    client.live_setEnabled live family enabled
  have loops : ∀ (client : Client) (each : Family),
      (client.setEnabled family enabled each).loop.isSome =
        (client each).loop.isSome := by
    intro client each
    rw [Client.loop_setEnabled]
  cases family with
  | inet =>
      have same : ledger (setFamily .inet enabled dc) = _ :=
        ledger_onClient { dc with ipv4Enabled := enabled } loops
      refine ⟨@wired_onClient { dc with ipv4Enabled := enabled }
        ⟨wired.kind, wired.live⟩ _ live, same.trans ?_⟩
      simp only [ledger, Ledger.enable]
      congr 1
      funext other
      cases other <;> rfl
  | inet6 =>
      have same : ledger (setFamily .inet6 enabled dc) = _ :=
        ledger_onClient { dc with ipv6Enabled := enabled } loops
      refine ⟨@wired_onClient { dc with ipv6Enabled := enabled }
        ⟨wired.kind, wired.live⟩ _ live, same.trans ?_⟩
      simp only [ledger, Ledger.enable]
      congr 1
      funext other
      cases other <;> rfl

theorem start_spec {dc : DHCPClient} (wired : Wired dc) :
    ∃ started, dc.start = .ok started ∧ Wired started ∧
      ledger started = (ledger dc).start := by
  rw [DHCPClient.start]
  cases client : dc.client with
  | some underlying =>
      refine ⟨dc, rfl, wired, ?_⟩
      simp only [Ledger.start, ledger, client]
      rfl
  | none =>
      rw [if_neg (by decide), wired.kind]
      refine ⟨_, rfl, ⟨rfl, ?_⟩, ?_⟩
      · intro client member
        rcases List.mem_append.mp member with old | new
        · exact wired.live client old
        · rw [List.mem_singleton.mp new]
          exact live_start_newClient dc.ipv4Enabled dc.ipv6Enabled
      · simp only [Ledger.start, ledger, client]
        congr 1
        funext family
        rw [List.countP_append, List.countP_singleton]
        cases family <;> cases dc.ipv4Enabled <;> cases dc.ipv6Enabled <;> rfl

theorem stop_spec {dc : DHCPClient} (wired : Wired dc) :
    Wired dc.stop ∧ ledger dc.stop = { ledger dc with current := false } :=
  ⟨⟨wired.kind, wired.live⟩, rfl⟩

theorem renew_spec {dc renewed : DHCPClient} (wired : Wired dc)
    (renews : dc.renew = .ok renewed) :
    Wired renewed ∧ ledger renewed = ledger dc := by
  rw [DHCPClient.renew] at renews
  split_ifs at renews
  cases renews
  refine ⟨wired_onClient wired fun client live family => ?_,
    ledger_onClient dc fun _ _ => rfl⟩
  intro running
  have was := live family running
  rw [Half.canSend] at was ⊢
  have same : (client.renew family).loop = (client family).loop := rfl
  cases loop : (client family).loop with
  | none => simp [loop] at was
  | some phase =>
      rw [same, loop]
      cases phase <;> rfl

theorem tick_spec {dc next : DHCPClient} (wired : Wired dc) {index : Nat}
    {family : Family} {tick : Tick}
    (taken : dc.tick index family tick = some next) :
    Wired next ∧ ledger next = ledger dc := by
  simp only [DHCPClient.tick, Option.bind_eq_bind, Option.bind_eq_some_iff,
    Option.pure_def, Option.some.injEq] at taken
  obtain ⟨client, here, half, ticked, rfl⟩ := taken
  obtain ⟨live, same⟩ := Half.live_of_tick ticked
  obtain ⟨inside, rfl⟩ := List.getElem?_eq_some_iff.mp here
  constructor
  · refine ⟨wired.kind, fun other member => ?_⟩
    rcases List.mem_or_eq_of_mem_set member with old | rfl
    · exact wired.live other old
    · intro each
      by_cases equal : each = family
      · subst equal
        rw [Function.update_self]
        exact live
      · rw [Function.update_of_ne equal]
        exact wired.live _ (List.getElem_mem inside) each
  · simp only [ledger]
    congr 1
    funext each
    have unchanged : (Function.update dc.made[index] family half
        each).loop.isSome = (dc.made[index] each).loop.isSome := by
      by_cases equal : each = family
      · subst equal
        rw [Function.update_self, same]
      · rw [Function.update_of_ne equal]
    rw [List.countP_set inside, unchanged]
    have counted := List.countP_pos_iff (p := fun client : Client =>
      (client each).loop.isSome) (l := dc.made)
    split_ifs with running
    · have := counted.mpr ⟨_, List.getElem_mem inside, running⟩
      omega
    · omega

end DhcpLifecycle

end JetKvm
