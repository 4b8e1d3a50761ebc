import KdfProtocol.SwapResume

/-!
# Time locks of a legacy negotiation

Each side compares the start time of the other with its own by a signed
difference and an absolute value, both of which wrap around, and computes the
lock it expects from the other's start time.  The start times are close, and the
locks in order, exactly for start times that are less than `2 ^ 63` seconds
apart and sums that do not overflow.
-/

namespace KdfProtocol

/-! ## The signed distance of two times -/

theorem toInt_timeDif (own other : UInt64) :
    (timeDif own other).toInt = (own - other).toBitVec.abs.toInt := rfl

theorem toInt_bitVec_abs (x : BitVec 64) : x.abs.toInt =
      if x.toNat = 2 ^ 63 then (-2 ^ 63 : ℤ)
      else if 2 ^ 63 ≤ x.toNat then (2 ^ 64 - x.toNat : ℤ)
      else (x.toNat : ℤ) := by
  have hmin : x = BitVec.intMin 64 ↔ x.toNat = 2 ^ 63 := by
    rw [← BitVec.toNat_inj]
    rfl
  have hmsb : x.msb = true ↔ 2 ^ 63 ≤ x.toNat := by
    rw [BitVec.msb_eq_decide, decide_eq_true_iff]
  have htoInt : x.toInt =
      if 2 ^ 63 ≤ x.toNat then (x.toNat - 2 ^ 64 : ℤ)
      else (x.toNat : ℤ) := by
    rw [BitVec.toInt_eq_toNat_cond]
    split <;> split <;> omega
  rw [BitVec.toInt_abs_eq_ite, htoInt]
  simp only [hmin, hmsb]
  split
  · rfl
  · split <;> omega

theorem not_lt_timeDif_iff (own other : UInt64) : ¬60 < timeDif own other ↔
      (own - other).toNat ≤ 60 ∨ 2 ^ 64 - 60 ≤ (own - other).toNat ∨
        (own - other).toNat = 2 ^ 63 := by
  have hlt := (own - other).toNat_lt
  have hnat : (own - other).toBitVec.toNat = (own - other).toNat := rfl
  have hsixty : (60 : Int64).toInt = 60 := by decide
  rw [Int64.lt_iff_toInt_lt, toInt_timeDif, toInt_bitVec_abs, hnat, hsixty]
  split
  · omega
  · split <;> omega

def StartsClose (own other : UInt64) : Prop :=
  own.toNat ≤ other.toNat + 60 ∧ other.toNat ≤ own.toNat + 60

def StartsComparable (own other : UInt64) : Prop :=
  own.toNat < other.toNat + 2 ^ 63 ∧ other.toNat < own.toNat + 2 ^ 63

theorem startsClose_iff {own other : UInt64} (hdif : ¬60 < timeDif own other) :
    StartsClose own other ↔ StartsComparable own other := by
  have hown := own.toNat_lt
  have hother := other.toNat_lt
  rw [not_lt_timeDif_iff, UInt64.toNat_sub] at hdif
  unfold StartsClose StartsComparable
  omega

/-! ## What an accepted message says -/

variable {coins : SwapCoins} {own other lockDuration : UInt64} {swap : TakerSwap} {now : UInt64}

theorem TakerSwap.startData_times {answers : TakerStartAnswers} {data : TakerSwapData}
    (hstart : swap.startData coins now answers = .ok data) :
    data.startedAt = now ∧ data.lockDuration = swap.paymentLocktime ∧
      data.takerPaymentLock = now + swap.paymentLocktime := by
  simp only [startData, except_bind_eq_ok, answered_eq_ok] at hstart
  obtain ⟨_, -, _, -, pubkeys, -, _, -, _, -, _, -, _, -, _, -, _, -, _, -, hdata⟩ := hstart
  cases hdata
  exact ⟨rfl, rfl, rfl⟩

theorem MakerSwap.startData_times {swap : MakerSwap} {answers : MakerStartAnswers}
    {data : MakerSwapData} (hstart : swap.startData coins now answers = .ok data) :
    data.startedAt = now ∧ data.lockDuration = swap.paymentLocktime := by
  simp only [startData, except_bind_eq_ok, answered_eq_ok] at hstart
  obtain ⟨_, -, _, -, _, -, _, -, _, -, _, -, _, -, pubkeys, -, hdata⟩ := hstart
  cases hdata
  exact ⟨rfl, rfl⟩

/-! ## The locks -/

/-- The maker's lock is its start time and twice the lock duration, and so at
least the taker's lock and the lock duration, less a minute. -/
def MakerLockAfter (lockDuration takerLock makerStart makerLock : UInt64) : Prop :=
  makerLock.toNat = makerStart.toNat + 2 * lockDuration.toNat ∧
    takerLock.toNat + lockDuration.toNat ≤ makerLock.toNat + 60

theorem makerLockAfter_iff (hlong : 300 < lockDuration) (hclose : StartsClose own other) :
    MakerLockAfter lockDuration (own + lockDuration) other (other + lockDuration * 2) ↔
      other.toNat + 2 * lockDuration.toNat < 2 ^ 64 := by
  have hlong' : 300 < lockDuration.toNat := hlong
  have hown := own.toNat_lt
  have hother := other.toNat_lt
  have htwo : (2 : UInt64).toNat = 2 := rfl
  unfold MakerLockAfter
  unfold StartsClose at hclose
  rw [UInt64.toNat_add, UInt64.toNat_add, UInt64.toNat_mul, htwo]
  omega

namespace MakerSwap

def Reveals (swap : MakerSwap) (answers : MakerAnswers) : Prop :=
  ∃ e, swap.spendTakerPayment answers = .exited e ∧ e.sent ≠ []

theorem now_le_of_reveals {swap : MakerSwap} {answers : MakerAnswers}
    (hreveals : swap.Reveals answers) : answers.now ≤ swap.spendTimeout := by
  obtain ⟨e, hexit, hsent⟩ := hreveals
  unfold spendTakerPayment at hexit
  dsimp only at hexit
  split at hexit
  · cases hexit
    exact absurd rfl hsent
  next hintime => exact UInt64.not_lt.mp hintime

/-- Every later state of a swap reveals the secret before the lock. -/
def RevealsBefore (startedAt lockDuration lock : UInt64) : Prop :=
  ∀ (later : MakerSwap) (answers : MakerAnswers), later.data.startedAt = startedAt →
    later.data.lockDuration = lockDuration →
    later.Reveals answers → answers.now < lock

def withTakerPayment (swap : MakerSwap) (tx : TransactionIdentifier)
    (startedAt lockDuration : UInt64) : MakerSwap :=
  { swap with
    takerPayment := some tx
    data := { swap.data with
      startedAt := startedAt
      lockDuration := lockDuration } }

theorem revealsBefore_iff {startedAt lockDuration lock : UInt64} :
    RevealsBefore startedAt lockDuration lock ↔ startedAt + lockDuration * 4 / 5 < lock := by
  constructor
  · intro hpre
    -- The maker reveals the secret in the last second that the code allows.
    refine hpre ((MakerSwap.new [] 0).withTakerPayment (sampleTx 1) startedAt lockDuration)
      { makerSucceeds with
        now := startedAt + lockDuration * 4 / 5
        takerPaymentSpend := .sent (sampleTx 1) } rfl rfl
      ⟨⟨some .confirmTakerPaymentSpend, [.takerPaymentSpent (sampleTx 1),
        .takerPaymentSpendConfirmStarted], [.takerPaymentSpend (sampleTx 1)]⟩, ?_,
        List.cons_ne_nil _ _⟩
    simp only [spendTakerPayment, withTakerPayment, spendTimeout,
      UInt64.lt_irrefl, if_false, SendAnswer.result]
  · intro hlock later answers hstart hduration hreveals
    have hnow := now_le_of_reveals hreveals
    unfold spendTimeout at hnow
    rw [hstart, hduration] at hnow
    exact UInt64.lt_of_le_of_lt hnow hlock

end MakerSwap

/-- The end of the maker's spending time overflows if the taker's lock does. -/
def OverflowTogether (own other lockDuration : UInt64) : Prop :=
  other.toNat + lockDuration.toNat < 2 ^ 64 ∨
    2 ^ 64 ≤ own.toNat + lockDuration.toNat * 4 % 2 ^ 64 / 5

theorem four_fifths_le (lockDuration : UInt64) (hlong : 300 < lockDuration) :
    lockDuration.toNat * 4 % 2 ^ 64 / 5 + 60 < lockDuration.toNat := by
  have hlong' : 300 < lockDuration.toNat := hlong
  have hle : lockDuration.toNat * 4 % 2 ^ 64 ≤ lockDuration.toNat * 4 := Nat.mod_le _ _
  omega

theorem le_four_fifths (lockDuration : UInt64) :
    lockDuration.toNat + 120 < 2 ^ 64 + lockDuration.toNat * 4 % 2 ^ 64 / 5 := by
  have hduration := lockDuration.toNat_lt
  by_cases hnear : lockDuration.toNat + 120 < 2 ^ 64
  · omega
  · have hwrapped : lockDuration.toNat * 4 % 2 ^ 64 = lockDuration.toNat * 4 - 3 * 2 ^ 64 := by
      omega
    omega

theorem spendTimeout_lt_iff (hlong : 300 < lockDuration) (hclose : StartsClose own other) :
    own + lockDuration * 4 / 5 < other + lockDuration ↔
      OverflowTogether own other lockDuration := by
  have hown := own.toNat_lt
  have hother := other.toNat_lt
  have hduration := lockDuration.toNat_lt
  have hupper := four_fifths_le lockDuration hlong
  have hlower := le_four_fifths lockDuration
  have hfour : (4 : UInt64).toNat = 4 := rfl
  have hfive : (5 : UInt64).toNat = 5 := rfl
  unfold OverflowTogether
  unfold StartsClose at hclose
  rw [UInt64.lt_iff_toNat_lt, UInt64.toNat_add, UInt64.toNat_add,
    UInt64.toNat_div, UInt64.toNat_mul, hfour, hfive]
  generalize lockDuration.toNat * 4 % 2 ^ 64 / 5 = spending at *
  omega

/-- A started taker that accepts the maker's message has close start times and
its locks in order exactly when the start times are comparable and the maker's
lock does not overflow; a started maker that accepts the taker's message reveals
its secret before the taker's lock exactly when the start times are comparable
and the two ends overflow together. -/
theorem legacy_negotiation_safe_iff (coins : SwapCoins) :
    (∀ (swap : TakerSwap) (now : UInt64) (start : TakerStartAnswers)
      (data : TakerSwapData) (answers : TakerAnswers)
      (makerData : NegotiationDataMsg) (negotiation : MakerNegotiationData),
      300 < swap.paymentLocktime →
      swap.startData coins now start = .ok data →
      answers.negotiation = .ok makerData →
      (swap.applyEvent (.started data)).checkMakerData coins answers =
        .ok negotiation →
      (StartsClose now makerData.startedAt ∧
          MakerLockAfter swap.paymentLocktime data.takerPaymentLock
            makerData.startedAt negotiation.makerPaymentLocktime ↔
        StartsComparable now makerData.startedAt ∧
          makerData.startedAt.toNat + 2 * swap.paymentLocktime.toNat <
            2 ^ 64)) ∧
    (∀ (swap : MakerSwap) (now : UInt64) (start : MakerStartAnswers)
      (data : MakerSwapData) (answers : MakerAnswers)
      (takerData : NegotiationDataMsg) (negotiation : TakerNegotiationData),
      300 < swap.paymentLocktime →
      swap.startData coins now start = .ok data →
      answers.negotiationReply = .ok takerData →
      (swap.applyEvent (.started data)).checkTakerData coins answers =
        .ok negotiation →
      (StartsClose now takerData.startedAt ∧
          MakerSwap.RevealsBefore now swap.paymentLocktime
            negotiation.takerPaymentLocktime ↔
        StartsComparable now takerData.startedAt ∧
          OverflowTogether now takerData.startedAt swap.paymentLocktime)) := by
  constructor
  · intro swap now start data answers makerData negotiation hlong hstart hmsg hcheck
    obtain ⟨hstarted, hduration, hlock⟩ := TakerSwap.startData_times hstart
    simp only [TakerSwap.checkMakerData, except_bind_eq_ok, answered_eq_ok, rejectIf_eq_ok, hmsg,
      Except.ok.injEq] at hcheck
    obtain ⟨_, rfl, _, hdif, _, hexpected, _, -, _, -, _, -, _, -, _, -, _, -, _, -,
      _, -, _, -, hdata⟩ := hcheck
    cases hdata
    change ¬60 < timeDif data.startedAt makerData.startedAt at hdif
    change ¬makerData.paymentLocktime ≠ makerData.startedAt + data.lockDuration * 2 at hexpected
    rw [hstarted] at hdif
    rw [not_not.mp hexpected, hduration, hlock, ← startsClose_iff hdif]
    exact and_congr_right fun hclose => makerLockAfter_iff hlong hclose
  · intro swap now start data answers takerData negotiation hlong hstart hmsg hcheck
    obtain ⟨hstarted, hduration⟩ := MakerSwap.startData_times hstart
    simp only [MakerSwap.checkTakerData, except_bind_eq_ok, answered_eq_ok, rejectIf_eq_ok, hmsg,
      Except.ok.injEq] at hcheck
    obtain ⟨_, rfl, _, hdif, _, hexpected, _, -, _, -, _, -, _, -, _, -, _, -, hdata⟩ := hcheck
    cases hdata
    change ¬60 < timeDif data.startedAt takerData.startedAt at hdif
    change ¬takerData.paymentLocktime ≠ takerData.startedAt + data.lockDuration at hexpected
    rw [hstarted] at hdif
    rw [not_not.mp hexpected, hduration, ← startsClose_iff hdif, MakerSwap.revealsBefore_iff]
    exact and_congr_right fun hclose => spendTimeout_lt_iff hlong hclose

/-! ## A peer with its own clock -/

def sampleTakerData : TakerSwapData where
  takerCoin := "MORTY"
  makerCoin := "RICK"
  maker := List.replicate 32 4
  terms := sampleTerms
  myPersistentPub := List.replicate 33 2
  lockDuration := 7800
  takerPaymentLock := 1700007800
  startedAt := 1700000000
  makerPaymentWait := 1700003120
  makerCoinSwapContractAddress := none
  takerCoinSwapContractAddress := none
  makerCoinHtlcPubkey := List.replicate 33 2
  takerCoinHtlcPubkey := List.replicate 33 2

def sampleMakerData : MakerSwapData where
  takerCoin := "MORTY"
  makerCoin := "RICK"
  taker := List.replicate 32 4
  terms := sampleTerms
  secret := List.replicate 32 7
  secretHash := some (List.replicate 20 1)
  myPersistentPub := List.replicate 33 2
  lockDuration := 7800
  makerPaymentLock := 1700015600
  startedAt := 1700000000
  makerCoinSwapContractAddress := none
  takerCoinSwapContractAddress := none
  makerCoinHtlcPubkey := List.replicate 33 2
  takerCoinHtlcPubkey := List.replicate 33 2

def takerReplies (startedAt paymentLocktime : UInt64) : MakerAnswers :=
  { makerSucceeds with
    negotiationReply := .ok (sampleNegotiation startedAt paymentLocktime) }

def makerProposes (startedAt paymentLocktime : UInt64) : TakerAnswers :=
  { takerSucceeds with
    negotiation := .ok (sampleNegotiation startedAt paymentLocktime) }

def startedTaker : TakerSwap :=
  (TakerSwap.startNew sampleKeys 7800).applyEvent (.started sampleTakerData)

def startedMaker : MakerSwap :=
  (MakerSwap.startNew sampleKeys 7800).applyEvent (.started sampleMakerData)

theorem legacy_negotiation_safe_minute :
    (StartsClose 1700000000 1700000060 ∧
      MakerLockAfter 7800 1700007800 1700000060 1700015660) ∧
    StartsClose 1700000000 1700000060 ∧
      MakerSwap.RevealsBefore 1700000000 7800 1700007860 := by
  have hsafe := legacy_negotiation_safe_iff sampleCoins
  constructor
  · exact (hsafe.1 (TakerSwap.startNew sampleKeys 7800) 1700000000
      takerSucceeds.start sampleTakerData (makerProposes 1700000060 1700015660)
      (sampleNegotiation 1700000060 1700015660) _ (by decide) rfl rfl rfl).mpr
      ⟨by unfold StartsComparable; decide, by decide⟩
  · exact (hsafe.2 (MakerSwap.startNew sampleKeys 7800) 1700000000
      (takerReplies 1700000060 1700007860).start sampleMakerData
      (takerReplies 1700000060 1700007860)
      (sampleNegotiation 1700000060 1700007860) _ (by decide) rfl rfl rfl).mpr
      ⟨by unfold StartsComparable; decide, by unfold OverflowTogether; decide⟩

/-- Both sides accept a peer that claims to have started `2 ^ 63` seconds
later. -/
theorem distant_start_accepted :
    ((TakerSwap.startNew sampleKeys 7800).startData sampleCoins 1700000000
        takerSucceeds.start).toOption = some sampleTakerData ∧
    (startedTaker.checkMakerData sampleCoins
        (makerProposes 9223372038554775808 9223372038554791408)).toOption.map
          MakerNegotiationData.makerPaymentLocktime =
            some 9223372038554791408 ∧
    ((MakerSwap.startNew sampleKeys 7800).startData sampleCoins 1700000000
        (takerReplies 9223372038554775808 9223372038554783608).start).toOption =
          some sampleMakerData ∧
    (startedMaker.checkTakerData sampleCoins
        (takerReplies 9223372038554775808 9223372038554783608)).toOption.map
          TakerNegotiationData.takerPaymentLocktime =
            some 9223372038554783608 ∧
    ¬StartsClose 1700000000 9223372038554775808 := by
  refine ⟨by decide +kernel, by decide +kernel, by decide +kernel, by decide +kernel, ?_⟩
  unfold StartsClose
  decide

end KdfProtocol
