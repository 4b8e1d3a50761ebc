import KdfProtocol.MakerSwapV2
import KdfProtocol.TakerSwapV2

/-!
# The funds of a V2 swap that has ended

A swap ends without a loss if nothing of its own is on the chain, or the payment
of the other party was spent, or its own payment was refunded.  The machines end
in the state `Aborted` also when the refund or the spend itself has failed, and
nothing is tried again after that.  Among the runs whose payments are recorded
as soon as they are on the chain, those that abandon no funds are those in which
every refund and every spend that a state exists for gets on the chain.
-/

namespace KdfProtocol

open SendAnswer

namespace V2

theorem any_broadcast_map {τ : Type} (answer : SendAnswer Bytes)
    (make : Bytes → τ) (kind : τ → Bool) (isKind : Bool) (hkind : ∀ tx, kind (make tx) = isKind) :
    (answer.broadcast.toList.map make).any kind = (answer.broadcast.isSome && isKind) := by
  cases answer with
  | sent tx | failedAfterBroadcast tx err => simp [broadcast, hkind]
  | failed err => simp [broadcast]

section Settle

variable {σ τ α : Type} {aborted : AbortReason → σ} {steps : Except Halt α}
  {finish : α → Activation σ τ}

/-- A state is left with its transaction on the chain, unless it was there, exactly if the
steps wait or come to an end with a transaction that gets there. -/
theorem settle_sends_iff {answer : SendAnswer Bytes} {make : Bytes → τ} {kind : τ → Bool}
    {sent : Prop} (hkind : ∀ tx, kind (make tx) = true)
    (hsent : ∀ a, (finish a).sent = answer.broadcast.toList.map make)
    (hnext : ∀ a, (finish a).next.isSome = true) :
    ((settle aborted (steps.map finish)).next.isSome = true →
        sent ∨ (settle aborted (steps.map finish)).sent.any kind = true) ↔
      sent ∨ steps = .error .waiting ∨ (∃ a, steps = .ok a) ∧ answer.broadcast.isSome = true := by
  cases steps with
  | ok a => simp [settle, Except.map, hsent, hnext, any_broadcast_map answer make kind true hkind]
  | error halt => cases halt <;> simp [settle, Except.map]

theorem abortOn_ne_waiting {reason : String → AbortReason} {label : String}
    {answer : Except String α} : abortOn reason label answer ≠ .error .waiting := by
  cases answer <;> simp [abortOn, Except.mapError]

theorem bind_eq_waiting {β : Type} {rest : α → Except Halt β} :
    (steps >>= rest) = .error .waiting ↔
      steps = .error .waiting ∨ ∃ a, steps = .ok a ∧ rest a = .error .waiting := by
  cases steps <;> simp [bind, Except.bind]

theorem awaitRefund_eq_waiting {rounds : Rounds UInt64 Unit} :
    awaitRefund rounds = .error .waiting ↔ awaitRefund rounds ≠ .ok () := by
  unfold awaitRefund
  split <;> simp

end Settle

theorem sent_or_failed_of_recorded {τ : Type} {answer : SendAnswer Bytes} {make : Bytes → τ}
    {kind : τ → Bool} (hkind : ∀ tx, kind (make tx) = true)
    (hrec : (answer.broadcast.toList.map make).any kind = true → ∃ tx, answer = .sent tx) :
    (∃ tx, answer = .sent tx) ∨ ∃ err, answer = .failed err := by
  rw [any_broadcast_map answer make kind true hkind] at hrec
  cases answer with
  | sent tx => exact Or.inl ⟨tx, rfl⟩
  | failed err => exact Or.inr ⟨err, rfl⟩
  | failedAfterBroadcast tx err => exact Or.inl (hrec rfl)

/-- What has to be recorded once it is sent is not sent when nothing is recorded. -/
theorem any_eq_false_of_lost {σ τ : Type} {sent : List τ} {kind : τ → Bool} {state : σ}
    {stored : Bool} {recorded : Prop} (hlost : some state = none ∨ stored = false)
    (hrec : sent.any kind = true → stored = true ∧ recorded) : sent.any kind = false := by
  by_contra hsome
  rw [Bool.not_eq_false] at hsome
  rcases hlost with hnone | hunstored
  · cases hnone
  · rw [(hrec hsome).1] at hunstored
    cases hunstored

/-! ## The maker -/

def MakerSent.isPayment : MakerSent → Bool
  | .makerPayment _ => true
  | _ => false

open KdfProtocol.V2.MakerSent

def MakerSent.isSpend : MakerSent → Bool
  | .takerPaymentSpend _ _ _ => true
  | _ => false

def MakerSent.isRefund : MakerSent → Bool
  | .makerPaymentRefund _ => true
  | _ => false

/-- The maker payment is not on the chain, or the taker payment was spent, or the
maker payment was refunded. -/
def MakerResolved (sent : List MakerSent) : Prop :=
  sent.any MakerSent.isPayment = true →
    sent.any MakerSent.isSpend = true ∨ sent.any MakerSent.isRefund = true

section MakerRuns

variable (coins : SwapCoins)

def MakerPaymentRecorded (machine : MakerSwapStateMachine) (position : Option MakerSwapState)
    (answers : MakerAnswers) (stored : Bool) (_ : List MakerSent) : Prop :=
  ((makerProgram coins).activate machine position answers).sent.any MakerSent.isPayment = true →
    stored = true ∧ ∃ makerPayment, answers.makerPayment = .sent makerPayment

/-- When the coin allows the refund of the maker payment, the refund gets on the chain, or
it or a spend of the taker payment is there. -/
def MakerRefundGoesOut (_ : MakerSwapStateMachine) (position : Option MakerSwapState)
    (answers : MakerAnswers) (stored : Bool) (sent : List MakerSent) : Prop :=
  ∀ blocks negotiation makerPayment reason,
    position = some (.makerPaymentRefundRequired blocks negotiation makerPayment reason) →
    stored = true → awaitRefund answers.refundAllowed = .ok () →
      sent.any MakerSent.isSpend = true ∨ sent.any MakerSent.isRefund = true ∨
        answers.makerPaymentRefund.broadcast.isSome = true

def MakerFunds (position : Option MakerSwapState) (sent : List MakerSent) : Prop :=
  match position with
  | none | some (.initialized ..) | some (.waitingForTakerFunding ..)
  | some (.takerFundingReceived ..) => sent.any isPayment = false
  | some (.makerPaymentSentFundingSpendGenerated ..) | some (.takerPaymentReceived ..)
  | some (.takerPaymentReceivedPreimageSkipped ..)
  | some (.makerPaymentRefundRequired ..) => sent.any isPayment = true
  | some (.takerPaymentSpent ..) => sent.any isPayment = true ∧ sent.any isSpend = true
  | some (.makerPaymentRefunded ..) | some (.aborted _) | some .completed => MakerResolved sent

variable {position : Option MakerSwapState} {sent : List MakerSent} {state : MakerSwapState}

theorem MakerResolved.of_unpaid (hunpaid : sent.any isPayment = false) : MakerResolved sent := by
  intro hpay
  rw [hunpaid] at hpay
  cases hpay

theorem MakerFunds.unpaid (hunpaid : ∀ state, position = some state → state.unpaid = true)
    (hfunds : MakerFunds position sent) : sent.any isPayment = false := by
  cases position with
  | none => exact hfunds
  | some state =>
    have hstate := hunpaid state rfl
    cases state with
    | initialized | waitingForTakerFunding | takerFundingReceived => exact hfunds
    | _ => cases hstate

theorem MakerFunds.paid (hpaid : state.paid = true) (hfunds : MakerFunds (some state) sent) :
    sent.any isPayment = true := by
  cases state with
  | makerPaymentSentFundingSpendGenerated | takerPaymentReceived
  | takerPaymentReceivedPreimageSkipped => exact hfunds
  | takerPaymentSpent => exact hfunds.1
  | _ => cases hpaid

theorem MakerSwapState.paid_of_spending (hspend : state.spending = true) : state.paid = true := by
  cases state with
  | takerPaymentReceived | takerPaymentReceivedPreimageSkipped => rfl
  | _ => cases hspend

theorem MakerFunds.spending (hspend : state.spending = true) :
    MakerFunds (some state) sent ↔ sent.any isPayment = true := by
  cases state with
  | takerPaymentReceived | takerPaymentReceivedPreimageSkipped => exact Iff.rfl
  | _ => cases hspend

variable {machine : MakerSwapStateMachine} {answers : MakerAnswers} {activation : MakerActivation}
  {stored : Bool}

theorem makerFunds_stays (hmove : MakerMove answers position activation)
    (hfunds : MakerFunds position sent)
    (hrec : activation.sent.any isPayment = true →
      stored = true ∧ ∃ makerPayment, answers.makerPayment = .sent makerPayment)
    (hlost : activation.next = none ∨ stored = false) :
    MakerFunds position (sent ++ activation.sent) := by
  cases hmove with
  | sendsPayment blocks negotiation takerFunding fee preimage =>
    have hnone := any_eq_false_of_lost hlost hrec
    change _ = false at hfunds ⊢
    rw [List.any_append, hfunds, hnone, Bool.false_or]
  | spendsTakerPayment state hspend =>
    rw [MakerFunds.spending hspend] at hfunds ⊢
    rw [List.any_append, hfunds, Bool.true_or]
  | refunds =>
    change _ = true at hfunds ⊢
    rw [List.any_append, hfunds, Bool.true_or]
  | _ =>
    simp only [changeTo, List.append_nil]
    exact hfunds

theorem makerFunds_moves {next : MakerSwapState} (hmove : MakerMove answers position activation)
    (hfunds : MakerFunds position sent)
    (hrec : activation.sent.any isPayment = true →
      ∃ makerPayment, answers.makerPayment = .sent makerPayment)
    (hgoesOut : ∀ blocks negotiation makerPayment reason,
      position = some (.makerPaymentRefundRequired blocks negotiation makerPayment reason) →
        sent.any isSpend = true ∨ (sent ++ activation.sent).any isRefund = true)
    (hnext : activation.next = some next) : MakerFunds (some next) (sent ++ activation.sent) := by
  cases hmove with
  | waits => cases hnext
  | starts blocks fees | negotiates | receivesFunding =>
    cases hnext
    rw [changeTo, List.append_nil]
    exact hfunds
  | aborts position reason hunpaid =>
    cases hnext
    rw [changeTo, List.append_nil]
    exact MakerResolved.of_unpaid (hfunds.unpaid hunpaid)
  | sendsPayment blocks negotiation takerFunding fee preimage =>
    simp only [MakerSwapStateMachine.sendMakerPayment, Option.some.injEq] at hnext hrec ⊢
    subst hnext
    rcases sent_or_failed_of_recorded (fun _ => rfl) hrec with ⟨makerPayment, hans⟩ | ⟨err, hans⟩
    · simp [hans, result, broadcast, MakerFunds, isPayment]
    · rw [hans]
      refine MakerResolved.of_unpaid ?_
      change _ = false at hfunds
      simp [broadcast, hfunds]
  | findsTakerPayment blocks negotiation makerPayment takerFunding preimage later hlater =>
      cases hnext
      rw [changeTo, List.append_nil, MakerFunds.spending hlater]
      exact hfunds
  | spendsTakerPayment state hspending blocks negotiation makerPayment takerPayment =>
      have hpay := hfunds.paid (MakerSwapState.paid_of_spending hspending)
      simp only [MakerSwapStateMachine.spendTakerPayment, Option.some.injEq] at hnext ⊢
      subst hnext
      cases hans : answers.takerPaymentSpend with
      | sent tx =>
        simp [result, broadcast, MakerFunds, hpay, isSpend]
      | failed err | failedAfterBroadcast tx err =>
        simp [result, broadcast, MakerFunds, hpay]
  | completes =>
    cases hnext
    rw [changeTo, List.append_nil]
    exact fun _ => Or.inl hfunds.2
  | requiresRefund state hpaid =>
    cases hnext
    rw [changeTo, List.append_nil]
    exact hfunds.paid hpaid
  | refunds blocks negotiation makerPayment reason =>
    have hout := hgoesOut blocks negotiation makerPayment reason rfl
    have hres : MakerResolved (sent ++
        (MakerSwapStateMachine.refundMakerPayment makerPayment reason answers).sent) := by
      intro _
      rcases hout with hspend | hrefund
      · rw [List.any_append, hspend, Bool.true_or]
        exact Or.inl rfl
      · exact Or.inr hrefund
    cases hnext
    split
    · exact hres
    · exact hres

/-- The coin's answers decide what is on the chain when the state is left. -/
theorem makerRefundGoesOut_iff :
    MakerRefundGoesOut machine position answers stored sent ↔
      ∀ blocks negotiation makerPayment reason,
        position = some (.makerPaymentRefundRequired blocks negotiation makerPayment reason) →
        stored = true →
        ((makerProgram coins).activate machine position answers).next.isSome = true →
          sent.any isSpend = true ∨ (sent ++ ((makerProgram coins).activate machine position
            answers).sent).any isRefund = true := by
  refine forall₄_congr fun blocks negotiation makerPayment reason => imp_congr_right ?_
  rintro rfl
  refine imp_congr_right fun _ => ?_
  simp only [makerProgram, StorableMachine.activate, MakerSwapStateMachine.onChanged,
    MakerSwapStateMachine.waitForRefund, List.any_append, Bool.or_eq_true, ← or_assoc]
  rw [settle_sends_iff (fun _ => rfl) (fun _ => rfl) (fun _ => rfl), awaitRefund_eq_waiting,
    Unique.exists_iff]
  tauto

theorem makerProgram_carries_funds :
    (makerProgram coins).Carries (fun machine position answers stored sent =>
        MakerPaymentRecorded coins machine position answers stored sent ∧
          MakerRefundGoesOut machine position answers stored sent)
      MakerFunds where
  start := rfl
  stays := by
    intro machine position answers stored sent hfunds hguard hlost
    exact makerFunds_stays (makerProgram_move coins machine position answers) hfunds hguard.1 hlost
  moves := by
    intro machine position answers next sent hfunds hguard hnext
    refine makerFunds_moves (makerProgram_move coins machine position answers) hfunds
      (fun hpay => (hguard.1 hpay).2) ?_ hnext
    intro blocks negotiation makerPayment reason hposition
    exact (makerRefundGoesOut_iff coins).mp hguard.2 blocks negotiation makerPayment reason
      hposition rfl (by rw [hnext]; rfl)

theorem MakerFunds.resolved_of_isLast (hlast : state.isLast = true)
    (hfunds : MakerFunds (some state) sent) : MakerResolved sent := by
  cases state with
  | makerPaymentRefunded | aborted | completed => exact hfunds
  | _ => cases hlast

theorem abandons_of_not_refundGoesOut (hfunds : MakerFunds position sent)
    (hstuck : ¬MakerRefundGoesOut machine position answers stored sent) :
    position.any MakerSwapState.isLast = false ∧ stored = true ∧
      ∃ next, ((makerProgram coins).activate machine position answers).next =
          some next ∧ next.isLast = true ∧
        ¬MakerResolved (sent ++ ((makerProgram coins).activate machine position answers).sent) := by
  unfold MakerRefundGoesOut at hstuck
  push Not at hstuck
  obtain ⟨blocks, negotiation, payment, reason, rfl, rfl, hallowed, hspend, hrefund, hunsent⟩ :=
    hstuck
  have hnone : answers.makerPaymentRefund.broadcast = none := by simpa using hunsent
  refine ⟨rfl, rfl, ?_⟩
  simp only [makerProgram, StorableMachine.activate, MakerSwapStateMachine.onChanged,
    MakerSwapStateMachine.waitForRefund, hallowed, Except.map, settle,
    MakerSwapStateMachine.refundMakerPayment, hnone, Option.toList_none, List.map_nil,
    List.append_nil]
  refine ⟨_, rfl, ?_, fun hres => (hres hfunds).elim hspend hrefund⟩
  cases answers.makerPaymentRefund.result <;> rfl

end MakerRuns

/-! ## The taker -/

def TakerSent.isFunding : TakerSent → Bool
  | .takerFunding _ => true
  | _ => false

open KdfProtocol.V2.TakerSent

def TakerSent.isPayment : TakerSent → Bool
  | .takerPayment _ => true
  | _ => false

def TakerSent.isSpend : TakerSent → Bool
  | .makerPaymentSpend _ => true
  | _ => false

def TakerSent.isFundingRefund : TakerSent → Bool
  | .takerFundingRefund _ => true
  | _ => false

def TakerSent.isPaymentRefund : TakerSent → Bool
  | .takerPaymentRefund _ => true
  | _ => false

/-- The maker payment was spent, or every own transaction that nothing of the
swap has spent was refunded. -/
def TakerResolved (sent : List TakerSent) : Prop :=
  sent.any TakerSent.isSpend = true ∨
    (sent.any TakerSent.isPayment = true → sent.any TakerSent.isPaymentRefund = true) ∧
    (sent.any TakerSent.isFunding = true →
      sent.any TakerSent.isPayment = false → sent.any TakerSent.isFundingRefund = true)

/-- The transaction that a state exists to send, without which the swap is
over. -/
def TakerSwapState.exitKind : TakerSwapState → Option (TakerSent → Bool)
  | .takerPaymentSpent _ _ _ _ _ => some TakerSent.isSpend
  | .takerFundingRefundRequired _ _ _ _ => some TakerSent.isFundingRefund
  | .takerPaymentRefundRequired _ _ _ => some TakerSent.isPaymentRefund
  | _ => none

open TakerSwapState

section TakerRuns

variable (coins : SwapCoins)

def TakerPaymentsRecorded (machine : TakerSwapStateMachine) (position : Option TakerSwapState)
    (answers : TakerAnswers) (stored : Bool) (_ : List TakerSent) : Prop :=
  (((takerProgram coins).activate machine position answers).sent.any TakerSent.isFunding = true →
    stored = true ∧ ∃ takerFunding, answers.takerFunding = .sent takerFunding) ∧
  (((takerProgram coins).activate machine position answers).sent.any TakerSent.isPayment = true →
    stored = true ∧ ∃ takerPayment, answers.takerPayment = .sent takerPayment)

/-- The coins answer all that a state asks for before it sends its transaction, and the
transaction gets on the chain.  The payment is refunded when the coin allows it. -/
def TakerExitAnswered (machine : TakerSwapStateMachine) (answers : TakerAnswers) :
    TakerSwapState → Prop
  | .takerPaymentSpent _ spend payment negotiation _ =>
    coins.parseTakerTx spend = .ok () ∧ (∃ secret, answers.makerSecret = .ok secret) ∧
      coins.parseMakerTx payment = .ok () ∧
      coins.parseMakerPubkey negotiation.makerCoinHtlcPub = .ok () ∧
      answers.makerPaymentSpend.broadcast.isSome = true
  | .takerFundingRefundRequired _ negotiation funding _ =>
    coins.parseTakerTx funding = .ok () ∧
      coins.parseTakerPubkey negotiation.takerCoinHtlcPub = .ok () ∧
      (∃ key, coins.deriveTakerHtlcPubkey machine.uniqueData = .ok key) ∧
      coins.netConfig = .ok () ∧ answers.takerFundingRefund.broadcast.isSome = true
  | .takerPaymentRefundRequired _ _ _ =>
    awaitRefund answers.refundAllowed = .ok () →
      (∃ key, coins.deriveTakerHtlcPubkey machine.uniqueData = .ok key) ∧
      coins.netConfig = .ok () ∧ answers.takerPaymentRefund.broadcast.isSome = true
  | _ => True

/-- In a state that exists to send a refund or a spend, that transaction gets on the chain,
or it or a spend of the maker payment is there. -/
def TakerExitGoesOut (machine : TakerSwapStateMachine) (position : Option TakerSwapState)
    (answers : TakerAnswers) (stored : Bool) (sent : List TakerSent) : Prop :=
  ∀ state kind, position = some state → state.exitKind = some kind → stored = true →
    sent.any TakerSent.isSpend = true ∨ sent.any kind = true ∨
      TakerExitAnswered coins machine answers state

structure TakerUnpaid (sent : List TakerSent) : Prop where
  payment : sent.any TakerSent.isPayment = false
  paymentRefund : sent.any TakerSent.isPaymentRefund = false

structure TakerPaid (sent : List TakerSent) : Prop where
  payment : sent.any TakerSent.isPayment = true
  paymentRefund : sent.any TakerSent.isPaymentRefund = false

def TakerFunds (position : Option TakerSwapState) (sent : List TakerSent) : Prop :=
  match position with
  | none | some (.initialized ..) | some (.negotiated ..) =>
    sent.any isFunding = false ∧ TakerUnpaid sent
  | some (.takerFundingSent ..) | some (.makerPaymentAndFundingSpendPreimgReceived ..)
  | some (.makerPaymentConfirmed ..) | some (.takerFundingRefundRequired ..) =>
    sent.any isFunding = true ∧ TakerUnpaid sent
  | some (.takerPaymentSent ..) | some (.takerPaymentSentPreimageSendingSkipped ..)
  | some (.takerPaymentSpent ..) => TakerPaid sent
  | some (.makerPaymentSpent ..) => sent.any isPayment = true ∧ sent.any isSpend = true
  | some (.takerPaymentRefundRequired ..) => sent.any isPayment = true
  | some (.takerFundingRefunded ..) | some (.takerPaymentRefunded ..) | some (.aborted _)
  | some .completed => TakerResolved sent

open TakerFunds

structure TakerNeutral (sent : List TakerSent) : Prop where
  funding : sent.any TakerSent.isFunding = false
  payment : sent.any TakerSent.isPayment = false

variable {position : Option TakerSwapState} {sent more : List TakerSent}
  {state : TakerSwapState} {kind : TakerSent → Bool}

theorem TakerUnpaid.append (hunpaid : TakerUnpaid sent) (hpay : more.any isPayment = false)
    (hrefund : more.any isPaymentRefund = false) : TakerUnpaid (sent ++ more) := by
  constructor
  · rw [List.any_append, hunpaid.payment, hpay, Bool.false_or]
  · rw [List.any_append, hunpaid.paymentRefund, hrefund, Bool.false_or]

theorem TakerPaid.append (hpaid : TakerPaid sent)
    (hrefund : more.any isPaymentRefund = false) : TakerPaid (sent ++ more) := by
  constructor
  · rw [List.any_append, hpaid.payment, Bool.true_or]
  · rw [List.any_append, hpaid.paymentRefund, hrefund, Bool.false_or]

theorem TakerResolved.of_unfunded (hunfunded : sent.any isFunding = false)
    (hunpaid : TakerUnpaid sent) : TakerResolved sent := by
  refine Or.inr ⟨?_, ?_⟩
  · intro hpay
    rw [hunpaid.payment] at hpay
    cases hpay
  · intro hfund
    rw [hunfunded] at hfund
    cases hfund

theorem TakerFunds.funded (hfunded : state.funded = true) :
    TakerFunds (some state) sent ↔ sent.any isFunding = true ∧ TakerUnpaid sent := by
  cases state with
  | takerFundingSent | makerPaymentAndFundingSpendPreimgReceived | makerPaymentConfirmed =>
    exact Iff.rfl
  | _ => cases hfunded

theorem TakerSwapState.funded_of_paying (hpaying : state.paying = true) : state.funded = true := by
  cases state with
  | makerPaymentAndFundingSpendPreimgReceived | makerPaymentConfirmed => rfl
  | _ => cases hpaying

theorem TakerFunds.awaitingSpend (hawait : state.awaitingSpend = true) :
    TakerFunds (some state) sent ↔ TakerPaid sent := by
  cases state with
  | takerPaymentSent | takerPaymentSentPreimageSendingSkipped => exact Iff.rfl
  | _ => cases hawait

theorem TakerFunds.paid (hpaid : state.paid = true) (hfunds : TakerFunds (some state) sent) :
    sent.any isPayment = true := by
  cases state with
  | takerPaymentSent | takerPaymentSentPreimageSendingSkipped => exact hfunds.payment
  | makerPaymentSpent => exact hfunds.1
  | _ => cases hpaid

theorem TakerSwapState.unfunded_or_exitKind (haborts : state.aborts = true) :
    state.unfunded = true ∨ ∃ kind, state.exitKind = some kind := by
  cases state with
  | initialized | negotiated => exact Or.inl rfl
  | takerPaymentSpent | takerFundingRefundRequired | takerPaymentRefundRequired =>
    exact Or.inr ⟨_, rfl⟩
  | _ => cases haborts

theorem TakerFunds.unfunded (hunfunded : state.unfunded = true) :
    TakerFunds (some state) sent ↔ sent.any isFunding = false ∧ TakerUnpaid sent := by
  cases state with
  | initialized | negotiated => exact Iff.rfl
  | _ => cases hunfunded

theorem TakerFunds.resolved_iff (hfunds : TakerFunds (some state) sent)
    (hkind : state.exitKind = some kind) (hneutral : TakerNeutral more)
    (hspend : more.any isSpend = true → more.any kind = true)
    (hrefund : more.any isPaymentRefund = true → more.any kind = true) :
    TakerResolved (sent ++ more) ↔ sent.any isSpend = true ∨ (sent ++ more).any kind = true := by
  have hpay : (sent ++ more).any isPayment = sent.any isPayment := by
    rw [List.any_append, hneutral.payment, Bool.or_false]
  have hfund : (sent ++ more).any isFunding = sent.any isFunding := by
    rw [List.any_append, hneutral.funding, Bool.or_false]
  have hspends : (sent ++ more).any isSpend = true →
      sent.any isSpend = true ∨ (sent ++ more).any kind = true := by
    intro hany
    rw [List.any_append, Bool.or_eq_true] at hany
    rcases hany with hpre | hnow
    · exact Or.inl hpre
    · rw [List.any_append, hspend hnow, Bool.or_true]
      exact Or.inr rfl
  have hkeeps : sent.any isSpend = true → (sent ++ more).any isSpend = true := by
    intro hany
    rw [List.any_append, hany, Bool.true_or]
  -- It is left to compare the refunds with the transaction of the kind.
  suffices hrefunds : (TakerResolved (sent ++ more) →
        (sent ++ more).any isSpend = true ∨ (sent ++ more).any kind = true) ∧
      ((sent ++ more).any kind = true → TakerResolved (sent ++ more)) from
    ⟨fun hres => (hrefunds.1 hres).elim hspends Or.inr,
      fun h => h.elim (fun hpre => Or.inl (hkeeps hpre)) hrefunds.2⟩
  unfold TakerResolved
  rw [hpay, hfund]
  cases state with
  | takerPaymentSpent =>
    cases hkind
    refine ⟨Or.imp_right fun hrefunded => ?_, Or.inl⟩
    have hany := hrefunded.1 hfunds.payment
    rw [List.any_append, hfunds.paymentRefund, Bool.false_or] at hany
    rw [List.any_append, hrefund hany, Bool.or_true]
  | takerFundingRefundRequired =>
    cases hkind
    refine ⟨Or.imp_right fun hrefunded => hrefunded.2 hfunds.1 hfunds.2.payment,
      fun hnow => Or.inr ⟨?_, fun _ _ => hnow⟩⟩
    rw [hfunds.2.payment]
    exact Bool.noConfusion
  | takerPaymentRefundRequired =>
    cases hkind
    change _ = true at hfunds
    refine ⟨Or.imp_right fun hrefunded => hrefunded.1 hfunds,
      fun hnow => Or.inr ⟨fun _ => hnow, ?_⟩⟩
    rw [hfunds]
    exact fun _ => Bool.noConfusion
  | _ => cases hkind

structure ExitSends (kind : TakerSent → Bool) (activation : TakerActivation) : Prop where
  neutral : TakerNeutral activation.sent
  spend : activation.sent.any TakerSent.isSpend = true → activation.sent.any kind = true
  paymentRefund : activation.sent.any TakerSent.isPaymentRefund = true →
    activation.sent.any kind = true
  next : ∀ next, activation.next = some next →
    next.isLast = true ∨ activation.sent.any kind = true

variable {answers : TakerAnswers} {activation : TakerActivation}

theorem exitSends_of_nil (hsent : activation.sent = [])
    (hnext : ∀ next, activation.next = some next → next.isLast = true) :
    ExitSends kind activation := by
  refine ⟨⟨?_, ?_⟩, ?_, ?_, fun next h => Or.inl (hnext next h)⟩
  · rw [hsent, List.any_nil]
  · rw [hsent, List.any_nil]
  · rw [hsent, List.any_nil]
    exact Bool.noConfusion
  · rw [hsent, List.any_nil]
    exact Bool.noConfusion

variable {answer : SendAnswer Bytes} {make : Bytes → TakerSent} {stored : Bool}

theorem any_broadcast_none (hkind : ∀ tx, kind (make tx) = false) :
    (answer.broadcast.toList.map make).any kind = false := by
  rw [any_broadcast_map answer _ _ false hkind, Bool.and_false]

theorem exitSends_of_broadcast (hsent : activation.sent = answer.broadcast.toList.map make)
    (hkind : ∀ tx, kind (make tx) = true) (hfund : ∀ tx, (make tx).isFunding = false)
    (hpay : ∀ tx, (make tx).isPayment = false)
    (hnext : ∀ next, activation.next = some next →
      next.isLast = true ∨ activation.sent.any kind = true) : ExitSends kind activation := by
  have hany : ∀ other : TakerSent → Bool,
      activation.sent.any other = true → activation.sent.any kind = true := by
    intro other hother
    obtain ⟨tx, hmem, -⟩ := List.any_eq_true.mp hother
    obtain ⟨bytes, -, rfl⟩ := List.mem_map.mp (hsent ▸ hmem)
    exact List.any_eq_true.mpr ⟨_, hmem, hkind bytes⟩
  refine ⟨⟨?_, ?_⟩, hany _, hany _, hnext⟩
  · rw [hsent, any_broadcast_none hfund]
  · rw [hsent, any_broadcast_none hpay]

theorem TakerSwapState.exitKind_eq_none
    (hother : (state.funded || state.paying || state.awaitingSpend || state.paid) = true) :
    state.exitKind = none := by
  cases state with
  | takerPaymentSpent | takerFundingRefundRequired | takerPaymentRefundRequired => cases hother
  | _ => rfl

theorem TakerMove.exitSends (hmove : TakerMove coins answers (some state)
      activation) (hkind : state.exitKind = some kind) : ExitSends kind activation := by
  cases hmove with
  | waits =>
    refine exitSends_of_nil rfl ?_
    intro next hnext
    cases hnext
  | aborts =>
    refine exitSends_of_nil rfl ?_
    intro next hnext
    cases hnext
    rfl
  | spendsMakerPayment blocks spend makerPayment negotiation takerPayment =>
    cases hkind
    refine exitSends_of_broadcast rfl (fun _ => rfl) (fun _ => rfl) (fun _ => rfl) ?_
    intro next hnext
    simp only [TakerSwapStateMachine.spendMakerPayment, Option.some.injEq] at hnext ⊢
    subst hnext
    rw [any_broadcast_map _ _ _ true fun _ => rfl]
    cases answers.makerPaymentSpend with
    | sent tx => exact Or.inr rfl
    | failed err | failedAfterBroadcast tx err => exact Or.inl rfl
  | refundsFunding | refundsPayment =>
    cases hkind
    refine exitSends_of_broadcast rfl (fun _ => rfl) (fun _ => rfl) (fun _ => rfl) ?_
    intro next hnext
    cases hnext
    split
    · exact Or.inl rfl
    · exact Or.inl rfl
  | requiresFundingRefund state hstate | sendsPayment state hstate | findsSpend state hstate
  | requiresPaymentRefund state hstate =>
    rw [exitKind_eq_none (by simp [hstate])] at hkind
    cases hkind
  | _ => cases hkind

variable {machine : TakerSwapStateMachine}

theorem takerFunds_stays (hmove : TakerMove coins answers position activation)
    (hfunds : TakerFunds position sent)
    (hfund : activation.sent.any isFunding = true →
      stored = true ∧ ∃ takerFunding, answers.takerFunding = .sent takerFunding)
    (hpay : activation.sent.any isPayment = true →
      stored = true ∧ ∃ takerPayment, answers.takerPayment = .sent takerPayment)
    (hlost : activation.next = none ∨ stored = false) :
    TakerFunds position (sent ++ activation.sent) := by
  cases hmove with
  | sendsFunding blocks negotiation fee spendFee =>
    have hnone := any_eq_false_of_lost hlost hfund
    refine ⟨?_, hfunds.2.append (any_broadcast_none fun _ => rfl) (any_broadcast_none fun _ => rfl)⟩
    rw [List.any_append, hfunds.1, hnone, Bool.false_or]
  | sendsPayment state hpaying blocks negotiation takerFunding makerPayment =>
    have hnone := any_eq_false_of_lost hlost hpay
    have hfunded := funded_of_paying hpaying
    rw [funded hfunded] at hfunds ⊢
    refine ⟨?_, hfunds.2.append hnone (any_broadcast_none fun _ => rfl)⟩
    rw [List.any_append, hfunds.1, Bool.true_or]
  | spendsMakerPayment => exact hfunds.append (any_broadcast_none fun _ => rfl)
  | refundsFunding =>
    refine ⟨?_, hfunds.2.append (any_broadcast_none fun _ => rfl) (any_broadcast_none fun _ => rfl)⟩
    rw [List.any_append, hfunds.1, Bool.true_or]
  | refundsPayment =>
    change _ = true at hfunds ⊢
    rw [List.any_append, hfunds, Bool.true_or]
  | _ =>
    simp only [changeTo, List.append_nil]
    exact hfunds

theorem takerFunds_moves {next : TakerSwapState}
    (hmove : TakerMove coins answers position activation) (hfunds : TakerFunds position sent)
    (hfund : activation.sent.any isFunding = true →
      ∃ takerFunding, answers.takerFunding = .sent takerFunding)
    (hpay : activation.sent.any isPayment = true →
      ∃ takerPayment, answers.takerPayment = .sent takerPayment)
    (hgoesOut : ∀ state kind, position = some state → state.exitKind = some kind →
      sent.any isSpend = true ∨ (sent ++ activation.sent).any kind = true)
    (hnext : activation.next = some next) : TakerFunds (some next) (sent ++ activation.sent) := by
  -- A state that exists to send a transaction is left with its funds resolved.
  have hexit : ∀ state kind, position = some state →
      state.exitKind = some kind → TakerResolved (sent ++ activation.sent) := by
    intro state kind hstate hkind
    subst hstate
    have hsends := hmove.exitSends coins hkind
    rw [hfunds.resolved_iff hkind hsends.neutral hsends.spend hsends.paymentRefund]
    exact hgoesOut state kind rfl hkind
  cases hmove with
  | waits => cases hnext
  | starts | negotiates | receivesMakerPayment =>
    cases hnext
    rw [changeTo, List.append_nil]
    exact hfunds
  | aborts position reason haborts =>
    cases hnext
    cases position with
    | none =>
      rw [changeTo, List.append_nil]
      exact TakerResolved.of_unfunded hfunds.1 hfunds.2
    | some state =>
      rcases unfunded_or_exitKind (haborts state rfl) with hunfunded | ⟨kind, hkind⟩
      · rw [unfunded hunfunded] at hfunds
        rw [changeTo, List.append_nil]
        exact TakerResolved.of_unfunded hfunds.1 hfunds.2
      · exact hexit state kind rfl hkind
  | sendsFunding blocks negotiation fee spendFee =>
    have hunpaid : TakerUnpaid (sent ++ answers.takerFunding.broadcast.toList.map .takerFunding) :=
      hfunds.2.append (any_broadcast_none fun _ => rfl) (any_broadcast_none fun _ => rfl)
    simp only [TakerSwapStateMachine.sendTakerFunding, Option.some.injEq] at hnext hfund ⊢
    subst hnext
    rcases sent_or_failed_of_recorded (fun _ => rfl) hfund with ⟨takerFunding, hans⟩ | ⟨err, hans⟩
    · rw [hans] at hunpaid ⊢
      refine ⟨?_, hunpaid⟩
      simp [broadcast, isFunding]
    · rw [hans] at hunpaid ⊢
      refine TakerResolved.of_unfunded ?_ hunpaid
      have hunfunded := hfunds.1
      simp [broadcast, hunfunded]
  | requiresFundingRefund state hfunded =>
    cases hnext
    rw [funded hfunded] at hfunds
    rw [changeTo, List.append_nil]
    exact hfunds
  | sendsPayment state hpaying blocks negotiation takerFunding makerPayment =>
    rw [funded (funded_of_paying hpaying)] at hfunds
    simp only [TakerSwapStateMachine.sendTakerPayment, Option.some.injEq] at hnext hpay ⊢
    subst hnext
    rcases sent_or_failed_of_recorded (fun _ => rfl) hpay with ⟨takerPayment, hans⟩ | ⟨err, hans⟩
    · have hpaid : TakerPaid (sent ++ [.takerPayment takerPayment]) := by
        constructor
        · simp [TakerSent.isPayment]
        · rw [List.any_append, hfunds.2.paymentRefund]
          rfl
      rw [hans]
      cases coins.skipTakerPaymentSpendPreimage with
      | false | true => exact hpaid
    · simp only [hans, result, broadcast, Option.toList_none, List.map_nil, List.append_nil]
      exact hfunds
  | findsSpend state hawait =>
    cases hnext
    rw [awaitingSpend hawait] at hfunds
    rw [changeTo, List.append_nil]
    exact hfunds
  | requiresPaymentRefund state hpaid =>
    cases hnext
    rw [changeTo, List.append_nil]
    exact hfunds.paid hpaid
  | spendsMakerPayment blocks spend makerPayment negotiation takerPayment =>
    have hres := hexit _ _ rfl rfl
    simp only [TakerSwapStateMachine.spendMakerPayment, Option.some.injEq] at hnext hres ⊢
    subst hnext
    cases hans : answers.makerPaymentSpend with
    | sent tx =>
      have hpay := hfunds.payment
      simp [result, broadcast, TakerFunds, hpay, TakerSent.isSpend]
    | failed err | failedAfterBroadcast tx err =>
      rw [hans] at hres
      exact hres
  | completes =>
    cases hnext
    rw [changeTo, List.append_nil]
    exact Or.inl hfunds.2
  | refundsFunding | refundsPayment =>
    have hres := hexit _ _ rfl rfl
    cases hnext
    split
    · exact hres
    · exact hres

open TakerSwapStateMachine

theorem takerExitGoesOut_iff :
    TakerExitGoesOut coins machine position answers stored sent ↔
      ∀ state kind, position = some state → state.exitKind = some kind → stored = true →
        ((takerProgram coins).activate machine position answers).next.isSome = true →
          sent.any isSpend = true ∨ (sent ++ ((takerProgram coins).activate machine position
            answers).sent).any kind = true := by
  refine forall₂_congr fun state kind => imp_congr_right ?_
  rintro rfl
  refine forall₂_congr fun hkind _ => ?_
  simp only [takerProgram, StorableMachine.activate, List.any_append, Bool.or_eq_true, ← or_assoc]
  cases state with
  | takerPaymentSpent | takerFundingRefundRequired | takerPaymentRefundRequired =>
    cases hkind
    rw [onChanged, settle_sends_iff (fun _ => rfl) (fun _ => rfl) (fun _ => rfl)]
    by_cases hallowed : awaitRefund answers.refundAllowed = .ok () <;>
      simp [TakerExitAnswered, prepareMakerPaymentSpend, prepareFundingRefund,
        preparePaymentRefund, bind_eq_waiting, abortOn_ne_waiting, awaitRefund_eq_waiting,
        except_bind_eq_ok, Unique.exists_iff, and_assoc, hallowed]
  | _ => cases hkind

theorem takerProgram_carries_funds :
    (takerProgram coins).Carries (fun machine position answers stored sent =>
        TakerPaymentsRecorded coins machine position answers stored sent ∧
          TakerExitGoesOut coins machine position answers stored sent)
      TakerFunds where
  start := ⟨rfl, rfl, rfl⟩
  stays := by
    intro machine position answers stored sent hfunds hguard hlost
    exact takerFunds_stays coins (takerProgram_move coins machine position answers) hfunds
      hguard.1.1 hguard.1.2 hlost
  moves := by
    intro machine position answers next sent hfunds hguard hnext
    refine takerFunds_moves coins (takerProgram_move coins machine position answers) hfunds
      (fun hfund => (hguard.1.1 hfund).2) (fun hpay => (hguard.1.2 hpay).2) ?_ hnext
    intro state kind hposition hkind
    exact (takerExitGoesOut_iff coins).mp hguard.2 state kind hposition hkind rfl
      (by rw [hnext]; rfl)

theorem TakerFunds.resolved_of_isLast (hlast : state.isLast = true)
    (hfunds : TakerFunds (some state) sent) : TakerResolved sent := by
  cases state with
  | takerFundingRefunded | takerPaymentRefunded | aborted | completed => exact hfunds
  | _ => cases hlast

theorem TakerSwapState.not_isLast_of_exitKind
    (hkind : state.exitKind = some kind) : state.isLast = false := by
  cases state with
  | takerPaymentSpent | takerFundingRefundRequired | takerPaymentRefundRequired => rfl
  | _ => cases hkind

theorem abandons_of_not_exitGoesOut (hfunds : TakerFunds position sent)
    (hstuck : ¬TakerExitGoesOut coins machine position answers stored sent) :
    position.any isLast = false ∧ stored = true ∧
      ∃ next, ((takerProgram coins).activate machine position answers).next =
          some next ∧ next.isLast = true ∧
        ¬TakerResolved (sent ++ ((takerProgram coins).activate machine position answers).sent) := by
  rw [takerExitGoesOut_iff coins] at hstuck
  push Not at hstuck
  obtain ⟨state, kind, rfl, hkind, rfl, hsome, hspend, hmissing⟩ := hstuck
  have hmove := takerProgram_move coins machine (some state) answers
  have hsends := hmove.exitSends coins hkind
  obtain ⟨next, hnext⟩ := Option.isSome_iff_exists.mp hsome
  refine ⟨not_isLast_of_exitKind hkind, rfl, next, hnext, ?_, ?_⟩
  · rcases hsends.next next hnext with hlast | hany
    · exact hlast
    · rw [List.any_append, hany, Bool.or_true] at hmissing
      exact absurd rfl hmissing
  · rw [hfunds.resolved_iff hkind hsends.neutral hsends.spend hsends.paymentRefund]
    rintro (hpre | hnow)
    · exact hspend hpre
    · exact hmissing hnow

end TakerRuns

/-! ## Both machines -/

/-- In every run of the maker's or the taker's machine, with crashes and restarts
at any time, in which the own payments are recorded as soon as they are on the
chain, the swap ends only with its funds resolved exactly when every refund and
every spend that a state exists for goes out. -/
theorem abandons_no_funds_iff (coins : SwapCoins)
    (maker : MakerSwapStateMachine) (taker : TakerSwapStateMachine)
    (makerInputs : List (MachineInput MakerAnswers))
    (takerInputs : List (MachineInput TakerAnswers))
    (hmaker : EveryStep (MachineRun.step (makerProgram coins))
      (MachineRun.GuardedChange (MakerPaymentRecorded coins))
      (MachineRun.fresh maker) makerInputs)
    (htaker : EveryStep (MachineRun.step (takerProgram coins))
      (MachineRun.GuardedChange (TakerPaymentsRecorded coins))
      (MachineRun.fresh taker) takerInputs) :
    (EveryState (MachineRun.step (makerProgram coins))
        (fun run => run.Ended (makerProgram coins) → MakerResolved run.sent)
        (MachineRun.fresh maker) makerInputs ↔
      EveryStep (MachineRun.step (makerProgram coins))
        (MachineRun.GuardedChange MakerRefundGoesOut)
        (MachineRun.fresh maker) makerInputs) ∧
    (EveryState (MachineRun.step (takerProgram coins))
        (fun run => run.Ended (takerProgram coins) → TakerResolved run.sent)
        (MachineRun.fresh taker) takerInputs ↔
      EveryStep (MachineRun.step (takerProgram coins))
        (MachineRun.GuardedChange (TakerExitGoesOut coins))
        (MachineRun.fresh taker) takerInputs) := by
  constructor
  · refine MachineRun.everyState_ended_iff (makerProgram_keepsEvents coins).journal
      (makerProgram_carries_funds coins) ?_ ?_ maker hmaker
    · intro state sent hlast hfunds
      exact hfunds.resolved_of_isLast hlast
    · intro machine position answers stored sent hfunds _ hstuck
      exact abandons_of_not_refundGoesOut coins hfunds hstuck
  · refine MachineRun.everyState_ended_iff (takerProgram_keepsEvents coins).journal
      (takerProgram_carries_funds coins) ?_ ?_ taker htaker
    · intro state sent hlast hfunds
      exact hfunds.resolved_of_isLast hlast
    · intro machine position answers stored sent hfunds _ hstuck
      exact abandons_of_not_exitGoesOut coins hfunds hstuck

/-! ## Refunds and spends that fail -/

def sixChanges {α : Type} (answers : α) : List (MachineInput α) :=
  [.onStart true, .change answers true, .change answers true,
    .change answers true, .change answers true, .change answers true,
    .change answers true, .finish true]

/-- The taker does not go on after the maker payment, and the maker payment is
refunded as the coin answers. -/
def refundAnswers (refund : SendAnswer Bytes) : MakerAnswers :=
  { sampleMakerAnswers 1700000000 1700005200 1700005210 1700005220
      1700005230 with
    takerFundingSpend := atOnce 1700005201 (.ok .refundedTimelock)
    makerPaymentRefund := refund }

theorem guarded_of_mem {μ σ ρ ε α τ : Type} {program : StorableMachine μ σ ρ ε α τ}
    {guard : μ → Option σ → α → Bool → List τ → Prop} {start : MachineRun μ σ ρ τ} {answers : α}
    {inputs : List (MachineInput α)}
    (hmem : ∀ other stored, .change other stored ∈ inputs → other = answers ∧ stored = true)
    (hguard : ∀ machine position sent, guard machine position answers true sent) :
    EveryStep (MachineRun.step program) (MachineRun.GuardedChange guard) start inputs := by
  refine everyStep_of_forall ?_
  rintro run input hinput machine position other stored - rfl
  obtain ⟨rfl, rfl⟩ := hmem other stored hinput
  exact hguard machine position run.sent

theorem mem_sixChanges {α : Type} (answers other : α) (stored : Bool) :
    .change other stored ∈ sixChanges answers → other = answers ∧ stored = true := by
  simp [sixChanges]

theorem sample_abandons_no_funds :
    EveryState (MachineRun.step (makerProgram sampleCoins))
      (fun run => run.Ended (makerProgram sampleCoins) →
        MakerResolved run.sent)
      (MachineRun.fresh (sampleMaker 1700000000))
      (sixChanges (refundAnswers (.sent [7]))) ∧
    EveryState (MachineRun.step (takerProgram sampleCoins))
      (fun run => run.Ended (takerProgram sampleCoins) →
        TakerResolved run.sent)
      (MachineRun.fresh (sampleTaker 1700000000))
      (sixChanges (sampleTakerAnswers 1700000000)) := by
  have hboth := abandons_no_funds_iff sampleCoins (sampleMaker 1700000000)
    (sampleTaker 1700000000) (sixChanges (refundAnswers (.sent [7])))
    (sixChanges (sampleTakerAnswers 1700000000))
    (guarded_of_mem (mem_sixChanges _) fun _ _ _ _ => ⟨rfl, [3], rfl⟩)
    (guarded_of_mem (mem_sixChanges _)
      fun _ _ _ => ⟨fun _ => ⟨rfl, [1], rfl⟩, fun _ => ⟨rfl, [4], rfl⟩⟩)
  constructor
  · refine hboth.1.mpr (guarded_of_mem (mem_sixChanges _) ?_)
    exact fun _ _ _ _ _ _ _ _ _ _ => Or.inr (Or.inr rfl)
  · refine hboth.2.mpr (guarded_of_mem (mem_sixChanges _) ?_)
    rintro machine _ sent state kind rfl hkind -
    refine Or.inr (Or.inr ?_)
    cases state with
    | takerPaymentSpent => exact ⟨rfl, ⟨_, rfl⟩, rfl, rfl, rfl⟩
    | takerFundingRefundRequired => exact ⟨rfl, rfl, ⟨_, rfl⟩, rfl, rfl⟩
    | takerPaymentRefundRequired => exact fun _ => ⟨⟨_, rfl⟩, rfl, rfl⟩
    | _ => trivial

/-- The maker payment is on the chain and its refund fails once; the swap is
marked as finished.  So is the swap of a taker whose payment was spent and who
cannot extract the secret. -/
theorem failed_refund_abandons_funds :
    (run (MachineRun.step (makerProgram sampleCoins))
      (MachineRun.fresh (sampleMaker 1700000000))
      (sixChanges (refundAnswers (.failed "no connection")))).finished = true ∧
    (run (MachineRun.step (makerProgram sampleCoins))
      (MachineRun.fresh (sampleMaker 1700000000))
      (sixChanges (refundAnswers (.failed "no connection")))).sent =
        [.makerPayment [3]] ∧
    ¬MakerResolved [.makerPayment [3]] ∧
    (run (MachineRun.step (takerProgram sampleCoins))
      (MachineRun.fresh (sampleTaker 1700000000))
      (sixChanges { sampleTakerAnswers 1700000000 with
          makerSecret := .error "no secret" } ++
        [.change { sampleTakerAnswers 1700000000 with
          makerSecret := .error "no secret" } true, .finish true])).finished =
            true ∧
    (run (MachineRun.step (takerProgram sampleCoins))
      (MachineRun.fresh (sampleTaker 1700000000))
      (sixChanges { sampleTakerAnswers 1700000000 with
          makerSecret := .error "no secret" } ++
        [.change { sampleTakerAnswers 1700000000 with
          makerSecret := .error "no secret" } true, .finish true])).sent =
        [.takerFunding [1], .takerPayment [4]] ∧
    ¬TakerResolved [.takerFunding [1], .takerPayment [4]] := by
  refine ⟨by decide +kernel, by decide +kernel, ?_, by decide +kernel, by decide +kernel, ?_⟩
  · unfold MakerResolved
    decide
  · unfold TakerResolved
    decide

end V2

end KdfProtocol
