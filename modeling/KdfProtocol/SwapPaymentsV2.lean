import KdfProtocol.SwapFundsV2

/-!
# The payments of a V2 swap across crashes

A state sends its payment before the event of the next state is stored, and an
interrupted machine is recreated in the state whose event was stored last.  The
states that send the maker payment and the taker funding do not ask the coin
whether it was sent before, so each is sent once if no crash falls between the
broadcast and the stored event.
-/

namespace KdfProtocol

namespace V2

theorem countP_broadcast_map {τ : Type} (answer : SendAnswer Bytes)
    (make : Bytes → τ) (kind : τ → Bool) (hkind : ∀ tx, kind (make tx) = true) :
    (answer.broadcast.toList.map make).countP kind = if answer.broadcast.isSome then 1 else 0 := by
  cases answer with
  | sent tx | failedAfterBroadcast tx err => simp [SendAnswer.broadcast, hkind]
  | failed err => simp [SendAnswer.broadcast]

theorem countP_broadcast_none {τ : Type} (answer : SendAnswer Bytes)
    (make : Bytes → τ) (kind : τ → Bool) (hkind : ∀ tx, kind (make tx) = false) :
    (answer.broadcast.toList.map make).countP kind = 0 := by
  cases answer with
  | sent tx | failedAfterBroadcast tx err => simp [SendAnswer.broadcast, hkind]
  | failed err => simp [SendAnswer.broadcast]

/-! ## The maker payment -/

def makerPaymentPending (position : Option MakerSwapState) : Bool :=
  position.all MakerSwapState.unpaid

theorem makerPaymentPending_iff {position : Option MakerSwapState} :
    makerPaymentPending position = true ↔ 5 ≤ makerRank position := by
  cases position with
  | none => simp [makerPaymentPending, makerRank]
  | some state =>
    cases state <;> simp [makerPaymentPending, MakerSwapState.unpaid, makerRank]

theorem makerProgram_sendsOnce (coins : SwapCoins) :
    (makerProgram coins).SendsOnce MakerSent.isPayment makerPaymentPending where
  sends := by
    intro machine position answers
    have hmove := makerProgram_move coins machine position answers
    generalize (makerProgram coins).activate machine position answers = activation at hmove ⊢
    intro hsome
    cases hmove with
    | sendsPayment blocks negotiation takerFunding fee preimage =>
      rw [MakerSwapStateMachine.sendMakerPayment,
        countP_broadcast_map _ _ _ fun _ => rfl] at hsome ⊢
      refine ⟨rfl, ?_, rfl⟩
      split at hsome
      next hsent => exact if_pos hsent
      · exact absurd rfl hsome
    | spendsTakerPayment | refunds =>
      exact absurd (countP_broadcast_none _ _ _ fun _ => rfl) hsome
    | _ => exact absurd rfl hsome
  stays := by
    intro machine position answers next hnext hlater
    have hmove := makerProgram_move coins machine position answers
    generalize (makerProgram coins).activate machine position answers = activation at hmove hnext ⊢
    rw [makerPaymentPending_iff] at hlater ⊢
    have hlower := hmove.lowers hnext
    refine ⟨by omega, ?_⟩
    cases hmove with
    | sendsPayment =>
      cases hnext
      revert hlater
      cases answers.makerPayment.result with
      | ok makerPayment | error err => simp [makerRank]
    | spendsTakerPayment | refunds => exact countP_broadcast_none _ _ _ fun _ => rfl
    | _ => rfl

/-! ## The taker funding -/

def takerFundingPending (position : Option TakerSwapState) : Bool :=
  position.all TakerSwapState.unfunded

theorem takerFundingPending_iff {position : Option TakerSwapState} :
    takerFundingPending position = true ↔ 7 ≤ takerRank position := by
  cases position with
  | none => simp [takerFundingPending, takerRank]
  | some state =>
    cases state <;> simp [takerFundingPending, TakerSwapState.unfunded, takerRank]

theorem takerProgram_sendsOnce (coins : SwapCoins) :
    (takerProgram coins).SendsOnce TakerSent.isFunding takerFundingPending where
  sends := by
    intro machine position answers
    have hmove := takerProgram_move coins machine position answers
    generalize (takerProgram coins).activate machine position answers = activation at hmove ⊢
    intro hsome
    cases hmove with
    | sendsFunding blocks negotiation fee spendFee =>
      rw [TakerSwapStateMachine.sendTakerFunding,
        countP_broadcast_map _ _ _ fun _ => rfl] at hsome ⊢
      refine ⟨rfl, ?_, rfl⟩
      split at hsome
      next hsent => exact if_pos hsent
      · exact absurd rfl hsome
    | sendsPayment | spendsMakerPayment | refundsFunding | refundsPayment =>
      exact absurd (countP_broadcast_none _ _ _ fun _ => rfl) hsome
    | _ => exact absurd rfl hsome
  stays := by
    intro machine position answers next hnext hlater
    have hmove := takerProgram_move coins machine position answers
    generalize (takerProgram coins).activate machine position answers = activation at hmove hnext ⊢
    rw [takerFundingPending_iff] at hlater ⊢
    have hlower := hmove.lowers hnext
    refine ⟨by omega, ?_⟩
    cases hmove with
    | sendsFunding =>
      cases hnext
      revert hlater
      cases answers.takerFunding.result with
      | ok takerFunding | error err => simp [takerRank]
    | sendsPayment | spendsMakerPayment | refundsFunding | refundsPayment =>
      exact countP_broadcast_none _ _ _ fun _ => rfl
    | _ => rfl

/-! ## Both machines -/

/-- In every run of the maker's or the taker's machine, with crashes and restarts
at any time, at most one maker payment and at most one taker funding are sent, if
the event that follows a broadcast is always stored. -/
theorem payments_sent_once (coins : SwapCoins)
    (maker : MakerSwapStateMachine) (taker : TakerSwapStateMachine)
    (makerInputs : List (MachineInput MakerAnswers))
    (takerInputs : List (MachineInput TakerAnswers))
    (hmaker : EveryStep (MachineRun.step (makerProgram coins))
      (MachineRun.GuardedChange
        ((makerProgram coins).SentIsStored MakerSent.isPayment))
      (MachineRun.fresh maker) makerInputs)
    (htaker : EveryStep (MachineRun.step (takerProgram coins))
      (MachineRun.GuardedChange
        ((takerProgram coins).SentIsStored TakerSent.isFunding))
      (MachineRun.fresh taker) takerInputs) :
    EveryState (MachineRun.step (makerProgram coins))
        (fun run => run.sent.countP MakerSent.isPayment ≤ 1)
        (MachineRun.fresh maker) makerInputs ∧
    EveryState (MachineRun.step (takerProgram coins))
        (fun run => run.sent.countP TakerSent.isFunding ≤ 1)
        (MachineRun.fresh taker) takerInputs := by
  constructor
  · exact MachineRun.everyState_sentOnce
      (makerProgram_keepsEvents coins).journal (makerProgram_sendsOnce coins) maker hmaker
  · exact MachineRun.everyState_sentOnce
      (takerProgram_keepsEvents coins).journal (takerProgram_sendsOnce coins) taker htaker

/-- The machine crashes in the middle and goes on after the restart. -/
def crashedInputs {α : Type} (states : ℕ) (answers : α) : List (MachineInput α) :=
  .onStart true :: List.replicate states (.change answers true) ++
    [.crash, .kickstart, .onStart true, .change answers true, .change answers true]

theorem mem_crashedInputs {α : Type} (states : ℕ) (answers other : α) (stored : Bool) :
    .change other stored ∈ crashedInputs states answers → other = answers ∧ stored = true := by
  simp only [crashedInputs, List.mem_append, List.mem_cons, List.mem_replicate]
  grind

theorem sample_payments_sent_once :
    EveryState (MachineRun.step (makerProgram sampleCoins))
      (fun run => run.sent.countP MakerSent.isPayment ≤ 1)
      (MachineRun.fresh (sampleMaker 1700000000))
      (crashedInputs 4 (refundAnswers (.sent [7]))) ∧
    EveryState (MachineRun.step (takerProgram sampleCoins))
      (fun run => run.sent.countP TakerSent.isFunding ≤ 1)
      (MachineRun.fresh (sampleTaker 1700000000))
      (crashedInputs 3 (sampleTakerAnswers 1700000000)) := by
  refine payments_sent_once sampleCoins (sampleMaker 1700000000) (sampleTaker 1700000000) _ _ ?_ ?_
  · exact guarded_of_mem (mem_crashedInputs _ _) fun _ _ _ _ => rfl
  · exact guarded_of_mem (mem_crashedInputs _ _) fun _ _ _ _ => rfl

/-- The machine stops after the broadcast and before the event of the next state
is stored; the recreated machine sends the payment again. -/
def resentInputs {α : Type} (states : ℕ) (answers : α) : List (MachineInput α) :=
  .onStart true :: List.replicate states (.change answers true) ++
    [.change answers false, .kickstart, .onStart true, .change answers true]

theorem crash_before_store_pays_twice :
    (run (MachineRun.step (makerProgram sampleCoins))
      (MachineRun.fresh (sampleMaker 1700000000))
      (resentInputs 3 (refundAnswers (.sent [7])))).sent.countP
        MakerSent.isPayment = 2 ∧
    (run (MachineRun.step (takerProgram sampleCoins))
      (MachineRun.fresh (sampleTaker 1700000000))
      (resentInputs 2 (sampleTakerAnswers 1700000000))).sent.countP
        TakerSent.isFunding = 2 := by
  decide +kernel

end V2

end KdfProtocol
