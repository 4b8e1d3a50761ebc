import KdfProtocol.PaymentAgreement

/-!
# The gate in front of a refund

`can_refund_htlc` compares one reading of the median time past with the lock time a refund
would have; the refund takes its lock time from a later reading of the clocks.
-/

namespace KdfProtocol

open V2

inductive CanRefundHtlc where
  | canRefundNow
  | haveToWait (secs : UInt64)
  deriving DecidableEq, Repr

def MAX_REFUND_WAIT_SECS : UInt64 := 3600

def cappedRefundWait (remainingSecs : UInt64) : CanRefundHtlc :=
  .haveToWait (min remainingSecs MAX_REFUND_WAIT_SECS)

def refundEligibility (now locktime : UInt64) (p2shLocktimeAndMtp : Option (UInt32 × UInt32)) :
    CanRefundHtlc :=
  if now < locktime then cappedRefundWait (locktime - now + 1)
  else match p2shLocktimeAndMtp with
    | some (p2shLocktime, mtp) =>
      if mtp ≤ p2shLocktime then cappedRefundWait (p2shLocktime - mtp + 1).toUInt64
      else .canRefundNow
    | none => .canRefundNow

structure Clocks where
  nowMs : UInt64
  mtp : UInt32

namespace Clocks

def now (clocks : Clocks) : UInt64 :=
  clocks.nowMs / 1000

def kmdLockTime (clocks : Clocks) : UInt32 :=
  clocks.now.toUInt32 - 3600 + 2 * 777

def chainTime (ticker : String) (clocks : Clocks) : UInt32 :=
  if ticker = "KMD" then clocks.kmdLockTime else clocks.mtp - 1

def p2shTxLocktime (ticker : String) (clocks : Clocks) (htlcLocktime : UInt32) : UInt32 :=
  max (clocks.chainTime ticker) htlcLocktime

end Clocks

/-- The clocks are read one after the other: at the call, for the median time past, and for
the lock time of a refund. -/
def canRefundHtlc (ticker : String) (atCall atMtp atLocktime : Clocks) (locktime : UInt64) :
    CanRefundHtlc :=
  if atCall.now < locktime then refundEligibility atCall.now locktime none
  else refundEligibility atCall.now locktime
    (some (atLocktime.p2shTxLocktime ticker locktime.toUInt32, atMtp.mtp))

structure Advances (clock : ℕ → Clocks) : Prop where
  now : Monotone fun moment => (clock moment).nowMs.toNat
  mtp : Monotone fun moment => (clock moment).mtp.toNat
  mtp_start : 500000001 ≤ (clock 0).mtp.toNat

theorem cappedRefundWait_bounds {remaining secs : UInt64} (hpos : 1 ≤ remaining.toNat)
    (hwait : cappedRefundWait remaining = .haveToWait secs) :
    1 ≤ secs.toNat ∧ secs.toNat ≤ 3600 := by
  cases hwait
  rw [UInt64.toNat_min]
  exact ⟨le_min hpos (by decide), min_le_right _ _⟩

theorem refundEligibility_bounds {now locktime secs : UInt64} {times : Option (UInt32 × UInt32)}
    (hupper : locktime.toNat < 2 ^ 32) (hmtp : ∀ time ∈ times, 500000001 ≤ time.2.toNat)
    (hwait : refundEligibility now locktime times = .haveToWait secs) :
    1 ≤ secs.toNat ∧ secs.toNat ≤ 3600 := by
  unfold refundEligibility at hwait
  split at hwait
  next hearly =>
    rw [UInt64.lt_iff_toNat_lt] at hearly
    have hle := UInt64.toNat_sub_of_le locktime now (UInt64.le_iff_toNat_le.mpr hearly.le)
    refine cappedRefundWait_bounds ?_ hwait
    rw [UInt64.toNat_add, hle, UInt64.toNat_one]
    omega
  · split at hwait
    next p2shLocktime mtp =>
      have hmtp : 500000001 ≤ mtp.toNat := hmtp _ rfl
      split at hwait
      next hlate =>
        have hle := UInt32.toNat_sub_of_le p2shLocktime mtp hlate
        have hlt := p2shLocktime.toNat_lt
        refine cappedRefundWait_bounds ?_ hwait
        rw [UInt32.toNat_toUInt64, UInt32.toNat_add, hle, UInt32.toNat_one]
        omega
      · cases hwait
    · cases hwait

theorem lt_mtp_of_canRefundNow {ticker : String} {atCall atMtp atLocktime : Clocks}
    {locktime : UInt64}
    (hans : canRefundHtlc ticker atCall atMtp atLocktime locktime = .canRefundNow) :
    locktime.toUInt32 < atMtp.mtp := by
  unfold canRefundHtlc refundEligibility at hans
  split at hans
  · cases hans
  · dsimp only at hans
    split at hans
    · cases hans
    next hlock =>
      rw [UInt32.le_iff_toNat_le, Clocks.p2shTxLocktime, UInt32.toNat_max] at hlock
      rw [UInt32.lt_iff_toNat_lt]
      omega

theorem p2shTxLocktime_sound_iff {ticker : String} {clocks : Clocks} {htlcLocktime : UInt32}
    (hpos : 1 ≤ clocks.mtp.toNat) (hlt : htlcLocktime < clocks.mtp) :
    (htlcLocktime ≤ clocks.p2shTxLocktime ticker htlcLocktime ∧
        clocks.p2shTxLocktime ticker htlcLocktime < clocks.mtp) ↔
      (ticker = "KMD" → clocks.kmdLockTime < clocks.mtp) := by
  have hbelow : (clocks.mtp - 1).toNat = clocks.mtp.toNat - 1 :=
    UInt32.toNat_sub_of_le _ _ (UInt32.le_iff_toNat_le.mpr hpos)
  simp only [UInt32.lt_iff_toNat_lt, UInt32.le_iff_toNat_le, Clocks.p2shTxLocktime,
    Clocks.chainTime, UInt32.toNat_max] at hlt ⊢
  split
  next hkmd =>
    rw [imp_iff_right hkmd]
    omega
  next hother =>
    rw [hbelow]
    exact iff_of_true (by omega) fun hkmd => absurd hkmd hother

/-- A wait is capped.  After the gate has opened, a refund that is built at any later moment
has a lock time the script and the chain accept, on KMD exactly if the wall clock has not run
ahead of the median time past. -/
theorem refund_gate_sound_iff (ticker : String) (locktime : UInt64)
    (hupper : locktime.toNat < 2 ^ 32)
    (clock : ℕ → Clocks) (hclock : Advances clock) (atCall atMtp atLocktime built : ℕ)
    (hlocktime : atMtp ≤ atLocktime) (hbuilt : atLocktime ≤ built) :
    (∀ secs, canRefundHtlc ticker (clock atCall) (clock atMtp) (clock atLocktime) locktime =
        .haveToWait secs → 1 ≤ secs.toNat ∧ secs.toNat ≤ 3600) ∧
      (canRefundHtlc ticker (clock atCall) (clock atMtp) (clock atLocktime) locktime =
        .canRefundNow →
      ∀ (coin : UtxoCoin) (redeem scriptData : Bytes) (sequence : UInt32)
        (signature : Signature) (refund : SpendingInput),
        coin.chainTime = (clock built).chainTime ticker →
        coin.p2shSpendingTx redeem scriptData sequence locktime.toUInt32 signature =
          some refund →
        ((locktime.toUInt32 ≤ refund.lockTime ∧ refund.lockTime < (clock built).mtp) ↔
          (ticker = "KMD" → (clock built).kmdLockTime < (clock built).mtp))) := by
  have hstart : ∀ moment, 500000001 ≤ (clock moment).mtp.toNat := fun moment =>
    hclock.mtp_start.trans (hclock.mtp (Nat.zero_le moment))
  constructor
  · intro secs hwait
    unfold canRefundHtlc at hwait
    split at hwait
    · exact refundEligibility_bounds hupper (by simp) hwait
    · exact refundEligibility_bounds hupper (by simpa using hstart atMtp) hwait
  · intro hans coin redeem scriptData sequence signature refund htime hrefund
    have hlt : locktime.toUInt32 < (clock built).mtp := by
      have hgate := lt_mtp_of_canRefundNow hans
      have hlater := hclock.mtp (hlocktime.trans hbuilt)
      rw [UInt32.lt_iff_toNat_lt] at hgate ⊢
      exact hgate.trans_le hlater
    rw [UtxoCoin.p2shSpendingTx] at hrefund
    obtain ⟨scriptSig, -, hpure⟩ := Option.bind_eq_some_iff.mp hrefund
    cases hpure
    rw [UtxoCoin.p2shTxLocktime, htime]
    exact p2shTxLocktime_sound_iff (by have := hstart built; omega) hlt

/-- Blocks come between the first reading and the second and after the third. -/
def sampleClock (moment : ℕ) : Clocks :=
  [⟨1699999700000, 1699999701⟩, ⟨1699999800000, 1699999801⟩,
    ⟨1699999801000, 1699999801⟩].getD moment ⟨1700000000000, 1700000001⟩

theorem sampleClock_advances : Advances sampleClock := by
  refine ⟨monotone_nat_of_le_succ ?_, monotone_nat_of_le_succ ?_, by decide⟩ <;>
    rintro (_ | _ | _ | moment) <;> simp [sampleClock]

theorem sample_refund_gate_sound :
    ∃ redeem scriptData sequence signature refund,
      (sampleUtxoCoin.p2shSpendingTx redeem scriptData sequence 1699990000 signature =
        some refund) ∧ refund.lockTime < 1700000001 := by
  refine ⟨[1], [1], SEQUENCE_FINAL - 1, ⟨[5], by decide⟩, _, rfl, ?_⟩
  have hsound := (refund_gate_sound_iff "RICK" 1699990000 (by decide) sampleClock
    sampleClock_advances 0 1 2 3 (by decide) (by decide)).2 (by decide) sampleUtxoCoin [1] [1]
    (SEQUENCE_FINAL - 1) ⟨[5], by decide⟩ _ (by decide) rfl
  exact (hsound.mpr (by decide)).2

/-- The wall clock moves on and no block comes. -/
theorem kmd_refund_not_final :
    canRefundHtlc "KMD" ⟨1700000000000, 1699998000⟩ ⟨1700000000000, 1699998000⟩
        ⟨1700000000000, 1699998000⟩ 1699990000 = .canRefundNow ∧
      ∃ refund, ({ sampleUtxoCoin with
          chainTime := Clocks.chainTime "KMD" ⟨1700000100000, 1699998000⟩ } :
            UtxoCoin).p2shSpendingTx [1] [1] (SEQUENCE_FINAL - 1) 1699990000 ⟨[5], by decide⟩ =
          some refund ∧ ¬refund.lockTime < 1699998000 :=
  ⟨by decide, _, rfl, by decide⟩

end KdfProtocol
