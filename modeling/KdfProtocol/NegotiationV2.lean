import KdfProtocol.MakerSwapV2
import KdfProtocol.TakerSwapV2

/-!
# The negotiation of two honest V2 parties

Each party starts by its own clock and sends lock times counted from its own
start.  The maker expects the taker's locks from the taker's start; the taker
expects the maker's lock from its own start, and so refuses every maker that did
not start in the same second.
-/

namespace KdfProtocol

namespace V2

/-- Two machines, the coins and the answers of each, and the messages that the
two send. -/
structure Negotiation where
  maker : MakerSwapStateMachine
  makerCoins : SwapCoins
  makerAnswers : MakerAnswers
  offer : MakerNegotiation
  taker : TakerSwapStateMachine
  takerCoins : SwapCoins
  takerAnswers : TakerAnswers
  reply : TakerNegotiationData

namespace Negotiation

structure Honest (n : Negotiation) : Prop where
  lockDuration_eq : n.taker.lockDuration = n.maker.lockDuration
  starts : absDiff n.maker.startedAt n.taker.startedAt ≤ maxStartedAtDiff
  offer_built : n.maker.negotiationMsg n.makerCoins n.makerAnswers = .ok n.offer
  reply_built : n.taker.negotiationReply n.takerCoins = .ok n.reply
  offer_maker_key : n.takerCoins.parseMakerPubkey n.offer.makerCoinHtlcPub = .ok ()
  offer_taker_key : n.takerCoins.parseTakerPubkey n.offer.takerCoinHtlcPub = .ok ()
  reply_maker_key : n.makerCoins.parseMakerPubkey n.reply.makerCoinHtlcPub = .ok ()
  reply_taker_key : n.makerCoins.parseTakerPubkey n.reply.takerCoinHtlcPub = .ok ()
  offer_delivered : n.takerAnswers.makerNegotiation.askThenCheck
    (recvDeadline n.takerAnswers.negotiationRecvStarted
      negotiationTimeoutSec < ·) = .answered n.offer
  reply_delivered : n.makerAnswers.takerNegotiation.askThenCheck
    (recvDeadline n.makerAnswers.recvStarted negotiationTimeoutSec < ·) =
      .answered ⟨some (.continue n.reply)⟩
  negotiated_delivered : n.takerAnswers.makerNegotiated.askThenCheck
    (recvDeadline n.takerAnswers.negotiatedRecvStarted
      negotiationTimeoutSec < ·) = .answered MakerSwapStateMachine.negotiatedMsg

/-- Both sides accept, and the lock times that they record are the lock duration
apart, less a minute. -/
def Succeeds (n : Negotiation) : Prop :=
  ∃ makerStored takerStored, n.maker.negotiate n.makerCoins n.makerAnswers = .ok makerStored ∧
    n.taker.negotiate n.takerCoins n.takerAnswers = .ok takerStored ∧
    makerStored.takerPaymentLocktime.toNat + n.maker.lockDuration.toNat ≤
      takerStored.makerPaymentLocktime.toNat + 60

end Negotiation

/-- The lock times of one start wrap around equally often. -/
def WrapTogether (startedAt lockDuration : UInt64) : Prop :=
  (startedAt.toNat + lockDuration.toNat) / 2 ^ 64 =
    (startedAt.toNat + 2 * lockDuration.toNat) / 2 ^ 64

theorem locks_ordered_iff {startedAt lockDuration : UInt64} :
    (startedAt + lockDuration).toNat + lockDuration.toNat ≤
        (startedAt + 2 * lockDuration).toNat + 60 ↔
      WrapTogether startedAt lockDuration := by
  have htwo : (2 : UInt64).toNat = 2 := rfl
  have hstart := startedAt.toNat_lt
  have hduration := lockDuration.toNat_lt
  unfold WrapTogether
  rw [UInt64.toNat_add, UInt64.toNat_add, UInt64.toNat_mul, htwo]
  omega

/-! ## The messages -/

theorem MakerSwapStateMachine.negotiationMsg_eq_ok {coins : SwapCoins}
    {machine : MakerSwapStateMachine} {answers : MakerAnswers} {offer : MakerNegotiation}
    (hoffer : machine.negotiationMsg coins answers = .ok offer) :
    offer.startedAt = machine.startedAt ∧
      offer.paymentLocktime = machine.startedAt + 2 * machine.lockDuration ∧
      offer.secretHash = machine.secretHash coins := by
  simp only [negotiationMsg, except_bind_eq_ok] at hoffer
  obtain ⟨_, -, _, -, _, -, hdata⟩ := hoffer
  cases hdata
  exact ⟨rfl, rfl, rfl⟩

open MakerSwapStateMachine

theorem TakerSwapStateMachine.negotiationReply_eq_ok {coins : SwapCoins}
    {machine : TakerSwapStateMachine} {reply : TakerNegotiationData}
    (hreply : machine.negotiationReply coins = .ok reply) :
    reply.startedAt = machine.startedAt ∧
      reply.paymentLocktime = machine.startedAt + machine.lockDuration ∧
      reply.fundingLocktime = machine.startedAt + 3 * machine.lockDuration := by
  simp only [negotiationReply, except_bind_eq_ok] at hreply
  obtain ⟨_, -, _, -, hdata⟩ := hreply
  cases hdata
  exact ⟨rfl, rfl, rfl⟩

open TakerSwapStateMachine

theorem not_maxStartedAtDiff_lt_absDiff_comm {a b : UInt64} :
    ¬maxStartedAtDiff < absDiff a b ↔ ¬maxStartedAtDiff < absDiff b a := by
  rw [not_maxStartedAtDiff_lt_absDiff, not_maxStartedAtDiff_lt_absDiff]
  exact and_comm

namespace Negotiation

variable {n : Negotiation}

theorem Honest.maker_accepts (hhonest : n.Honest) :
    ∃ stored, n.maker.negotiate n.makerCoins n.makerAnswers = .ok stored ∧
      stored.takerPaymentLocktime = n.taker.startedAt + n.maker.lockDuration := by
  obtain ⟨hstart, hpay, hfund⟩ := negotiationReply_eq_ok hhonest.reply_built
  have hdiff : ¬maxStartedAtDiff < absDiff n.maker.startedAt n.reply.startedAt := by
    rw [hstart]
    exact UInt64.not_lt.mpr hhonest.starts
  have hpayment' : n.reply.paymentLocktime = n.reply.startedAt + n.maker.lockDuration := by
    rw [hpay, hstart, hhonest.lockDuration_eq]
  have hfunding' : n.reply.fundingLocktime = n.reply.startedAt + 3 * n.maker.lockDuration := by
    rw [hfund, hstart, hhonest.lockDuration_eq]
  refine ⟨MakerSwapStateMachine.storedNegotiation n.reply, ?_, ?_⟩
  · simp only [MakerSwapStateMachine.negotiate,
      MakerSwapStateMachine.checkTakerNegotiation, except_bind_eq_ok,
      abortIf_eq_ok, abortOn_eq_ok, recvSwapV2Msg_eq_ok]
    exact ⟨n.offer, hhonest.offer_built, _, hhonest.reply_delivered, n.reply,
      rfl, (), hdiff, (), not_not.mpr hpayment', (), not_not.mpr hfunding', (),
      hhonest.reply_taker_key, (), hhonest.reply_maker_key, rfl⟩
  · change n.reply.paymentLocktime = _
    rw [hpay, hhonest.lockDuration_eq]

theorem Honest.taker_accepts_iff (hhonest : n.Honest) (stored : StoredTakerNegotiationData) :
    n.taker.negotiate n.takerCoins n.takerAnswers = .ok stored ↔
      n.maker.startedAt = n.taker.startedAt ∧ stored = storedNegotiation n.offer := by
  obtain ⟨hstart, hpay, hhash⟩ := negotiationMsg_eq_ok hhonest.offer_built
  have hdiff : ¬maxStartedAtDiff < absDiff n.taker.startedAt n.offer.startedAt := by
    rw [hstart, not_maxStartedAtDiff_lt_absDiff_comm]
    exact UInt64.not_lt.mpr hhonest.starts
  have hlen : ¬(n.offer.secretHash.length ≠ 20 ∧ n.offer.secretHash.length ≠ 32) := by
    have hwidth := n.maker.secretHashAlgo.length_hashSecret n.makerCoins.ripemd160 n.maker.secret
    rw [hhash, secretHash]
    omega
  have hlock : n.offer.paymentLocktime =
      n.taker.startedAt + 2 * n.taker.lockDuration ↔ n.maker.startedAt = n.taker.startedAt := by
    rw [hpay, hhonest.lockDuration_eq]
    exact UInt64.add_left_inj _
  constructor
  · intro hneg
    simp only [TakerSwapStateMachine.negotiate,
      TakerSwapStateMachine.checkMakerNegotiation, except_bind_eq_ok,
      abortIf_eq_ok, abortOn_eq_ok, recvSwapV2Msg_eq_ok] at hneg
    obtain ⟨offer, hoffer, _, ⟨_, -, _, -, _, hexp, -⟩, _, -, _, -, _, -, hstore⟩ := hneg
    rw [hhonest.offer_delivered] at hoffer
    cases hoffer
    cases hstore
    exact ⟨hlock.mp (not_not.mp hexp), rfl⟩
  · rintro ⟨hsame, rfl⟩
    simp only [TakerSwapStateMachine.negotiate,
      TakerSwapStateMachine.checkMakerNegotiation, except_bind_eq_ok,
      abortIf_eq_ok, abortOn_eq_ok, recvSwapV2Msg_eq_ok]
    exact ⟨n.offer, hhonest.offer_delivered, (),
      ⟨(), hdiff, (), hlen, (), not_not.mpr (hlock.mpr hsame), (),
        hhonest.offer_maker_key, hhonest.offer_taker_key⟩,
      n.reply, hhonest.reply_built, _, hhonest.negotiated_delivered, (),
      Bool.noConfusion, rfl⟩

/-- An honest negotiation succeeds exactly when the two parties started in the
same second and their lock times wrap around equally often. -/
theorem honest_succeeds_iff (n : Negotiation) (hhonest : n.Honest) :
    n.Succeeds ↔
      n.maker.startedAt = n.taker.startedAt ∧
        WrapTogether n.maker.startedAt n.maker.lockDuration := by
  obtain ⟨makerStored, hmaker, htakerLock⟩ := hhonest.maker_accepts
  have hmakerLock := (negotiationMsg_eq_ok hhonest.offer_built).2.1
  constructor
  · rintro ⟨stored, takerStored, hstored, htaker, hordered⟩
    rw [hmaker] at hstored
    cases hstored
    obtain ⟨hsame, rfl⟩ := (hhonest.taker_accepts_iff takerStored).mp htaker
    change _ ≤ n.offer.paymentLocktime.toNat + 60 at hordered
    rw [htakerLock, hmakerLock, ← hsame, locks_ordered_iff] at hordered
    exact ⟨hsame, hordered⟩
  · rintro ⟨hsame, hwrap⟩
    refine ⟨makerStored, _, hmaker, (hhonest.taker_accepts_iff _).mpr ⟨hsame, rfl⟩, ?_⟩
    change _ ≤ n.offer.paymentLocktime.toNat + 60
    rw [htakerLock, hmakerLock, ← hsame, locks_ordered_iff]
    exact hwrap

end Negotiation

/-! ## Parties that start a second apart -/

def negotiationOf (makerStart takerStart : UInt64) : Negotiation where
  maker := sampleMaker makerStart
  makerCoins := sampleCoins
  makerAnswers := sampleMakerAnswers takerStart 1700000005 1700000005 1700000006 1700000007
  offer := sampleOffer makerStart
  taker := sampleTaker takerStart
  takerCoins := sampleCoins
  takerAnswers :=
    { sampleTakerAnswers makerStart with
      negotiationRecvStarted := 1700000005
      makerNegotiation := atOnce 1700000006 (sampleOffer makerStart)
      negotiatedRecvStarted := 1700000006
      makerNegotiated := atOnce 1700000007 MakerSwapStateMachine.negotiatedMsg }
  reply := sampleTakerData takerStart

theorem honest_negotiationOf {makerStart takerStart : UInt64}
    (hstarts : absDiff makerStart takerStart ≤ maxStartedAtDiff) :
    (negotiationOf makerStart takerStart).Honest where
  lockDuration_eq := rfl
  starts := hstarts
  offer_built := rfl
  reply_built := rfl
  offer_maker_key := rfl
  offer_taker_key := rfl
  reply_maker_key := rfl
  reply_taker_key := rfl
  offer_delivered := rfl
  reply_delivered := rfl
  negotiated_delivered := rfl

theorem same_second_honest_succeeds : (negotiationOf 1700000000 1700000000).Succeeds := by
  have hhonest : (negotiationOf 1700000000 1700000000).Honest :=
    honest_negotiationOf (by decide)
  refine (Negotiation.honest_succeeds_iff _ hhonest).mpr ⟨rfl, ?_⟩
  unfold WrapTogether
  decide

/-- A taker that starts one second after the maker refuses the maker's lock
time. -/
theorem next_second_honest_fails :
    (negotiationOf 1700000000 1700000001).Honest ∧
    (sampleTaker 1700000001).checkMakerNegotiation sampleCoins
        (sampleOffer 1700000000) =
      .error (.abort (.negotiationFailed
        "Unexpected maker payment locktime: got 1700015600, expected 1700015601")) ∧
    ¬(negotiationOf 1700000000 1700000001).Succeeds := by
  have hhonest : (negotiationOf 1700000000 1700000001).Honest :=
    honest_negotiationOf (by decide)
  refine ⟨hhonest, by decide +kernel, ?_⟩
  rintro ⟨_, stored, -, htaker, -⟩
  have hsame := ((hhonest.taker_accepts_iff stored).mp htaker).1
  exact absurd hsame (by decide)

end V2

end KdfProtocol
