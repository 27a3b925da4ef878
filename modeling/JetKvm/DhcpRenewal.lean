import JetKvm.DhcpAnswers

/-!
# When a lease is renewed

The timer that a round of `requestLoop` sets is compared with the lifetime of
the lease that the round obtained.
-/

namespace JetKvm

namespace DhcpAnswers

def hour : Int := 60 * 60 * second

/-- What is left of the lease when it is obtained; a reply is asked for its
address, whose lifetime the lease does not keep. -/
def Answer.lifetime : Answer → Int
  | .failed => 0
  | .ack l => l.ipAddressLeaseTime defaultLeaseTime
  | .reply l =>
      match l.oneIANA.bind IANA.oneAddress with
      | some address => address.validLifetime.toNat * second
      | none => 0

/-- The timer runs out, and before the lease does. -/
def RenewedInTime (answer : Answer) (timer : Int) : Prop :=
  0 < timer ∧ timer < answer.lifetime

/-- The lease outlasts the time that replaces the server's, or the server's
renewal time is used and comes first. -/
def LongEnough : Answer → Prop
  | .failed => False
  | .ack l =>
      let lease := l.ipAddressLeaseTime defaultLeaseTime
      let renewal := l.ipAddressRenewalTime defaultRenewalTime
      2 * hour < lease ∨ lease ≤ hour ∧ 0 < renewal ∧ renewal < lease
  | .reply l =>
      ∃ address ∈ l.oneIANA.bind IANA.oneAddress,
        2 * hour < address.validLifetime.toNat * second

theorem maxRenewalAttemptDuration_eq :
    maxRenewalAttemptDuration = 2 * hour ∧
      maxRenewalAttemptDuration / 2 = hour := by decide

theorem hour_pos : 0 < hour := by decide

/-- The rule of the timer against any lifetime that the lease tells -/
theorem getRenewalTime_lt_iff {lease : DHCPLease} :
    (0 < getRenewalTime lease ∧ getRenewalTime lease < lease.leaseTime) ↔
      2 * hour < lease.leaseTime ∨ lease.leaseTime ≤ hour ∧
        0 < lease.renewalTime ∧ lease.renewalTime < lease.leaseTime := by
  obtain ⟨whole, half⟩ := maxRenewalAttemptDuration_eq
  have positive := hour_pos
  unfold getRenewalTime
  rw [whole] at half ⊢
  rw [half]
  split
  · omega
  · omega

/-- Without times of its own the lease waits for as long as any lease may. -/
theorem getRenewalTime_of_unset {lease : DHCPLease} (unset : lease.renewalTime = 0) :
    getRenewalTime lease = 2 * hour := by
  unfold getRenewalTime
  rw [if_pos (.inl (Int.le_of_eq unset))]
  exact maxRenewalAttemptDuration_eq.1

theorem renewedInTime_iff_longEnough {Kernel : Type} (setting : Setting Kernel)
    (iface : Text) (state next : State Kernel) (answer : Answer) (timer : Int)
    (answered : answer ≠ .failed)
    (round : requestRound setting iface state answer = .ok (next, timer)) :
    RenewedInTime answer timer ↔ LongEnough answer := by
  obtain ⟨lease, made, -, rfl⟩ := (requestRound_eq_ok_iff answered).mp round
  cases answer with
  | failed => exact absurd rfl answered
  | ack l =>
      have ofACK := ofACK_of_fromNclient4Lease (answer_lease_ack_iff.mp made)
      have rule := @getRenewalTime_lt_iff lease.lease
      rw [ofACK.leaseTime, ofACK.renewalTime] at rule
      exact rule
  | reply l =>
      obtain ⟨iana, isIANA, address, isAddress, ofReply⟩ :=
        fromNclient6Lease_eq_some (Except.ok.inj made)
      have only : l.oneIANA.bind IANA.oneAddress = some address := by
        rw [Option.mem_def.mp isIANA, Option.bind_some, Option.mem_def.mp isAddress]
      have positive := hour_pos
      unfold RenewedInTime LongEnough Answer.lifetime
      simp only [only, getRenewalTime_of_unset ofReply.renewalTime,
        Option.mem_some_iff, exists_eq_left']
      omega

/-- A lease for half an hour is renewed after a quarter. -/
theorem renewedInTime_iff_longEnough_halfHour :
    RenewedInTime (.ack (leaseFor 1800)) (15 * 60 * second) ↔
      LongEnough (.ack (leaseFor 1800)) :=
  renewedInTime_iff_longEnough dhcpSetting [] ⟨{}, 0, {}, {}⟩ _ (.ack (leaseFor 1800))
    (15 * 60 * second) (by simp) rfl

/-- A lease for 90 minutes runs out half an hour before it is renewed. -/
theorem not_renewedInTime_ninetyMinutes :
    ¬ ∀ (setting : Setting Table) (iface : Text) (state next : State Table)
      (answer : Answer) (timer : Int), answer ≠ .failed →
        requestRound setting iface state answer = .ok (next, timer) →
          RenewedInTime answer timer := by
  intro always
  have renewed := always dhcpSetting [] ⟨{}, 0, {}, {}⟩ _ (.ack (leaseFor 5400))
    (2 * hour) (by simp) rfl
  exact absurd renewed.2 (by decide)

end DhcpAnswers

end JetKvm
