import KdfProtocol.SwapFundsV2

/-!
# The order of the transactions of a V2 swap

The machines of both parties follow one protocol in every run: what is sent again
after a restart does not bring an earlier phase back, and the funding is never
refunded once the maker payment was spent.
-/

namespace KdfProtocol

/-! ## Machines that follow a protocol -/

section Follows

variable {μ σ ρ ε α τ φ : Type} (send : φ → τ → Option φ) (phases : Option σ → List φ)

/-- What is sent leads to a phase that goes with the state that sends it and with
the next state. -/
@[simp] def Activation.Follows (position : Option σ) (phase : φ) (activation : Activation σ τ) :
    Prop :=
  ∃ later ∈ phases position, activation.sent.foldlM send phase = some later ∧
    ∀ next, activation.next = some next → later ∈ phases (some next)

/-- The protocol allows everything that was sent, and its phase goes with the
state of the machine. -/
def MachineRun.InPhase (start : φ) (run : MachineRun μ σ ρ τ) : Prop :=
  ∃ phase, run.sent.foldlM send start = some phase ∧
    ∀ machine position, run.process.At machine position → phase ∈ phases position

variable {send phases}

theorem Activation.Follows.changeTo {position : Option σ} {phase : φ} {next : σ}
    (hphase : phase ∈ phases position) (hnext : phase ∈ phases (some next)) :
    (V2.changeTo next).Follows send phases position phase :=
  ⟨phase, hphase, rfl, fun _ hother => Option.some.inj hother ▸ hnext⟩

theorem MachineRun.everyState_inPhase {program : StorableMachine μ σ ρ ε α τ} {start : φ}
    {endsWith : ρ → Option σ → Prop} (hjournal : program.Journal endsWith)
    (hstart : start ∈ phases none)
    (hfollows : ∀ machine position answers, ∀ phase ∈ phases position,
      (program.activate machine position answers).Follows send phases position phase)
    (machine : μ) (inputs : List (MachineInput α)) :
    EveryState (step program) (InPhase send phases start) (fresh machine) inputs := by
  have hcarry : program.Carries (fun _ _ _ _ _ => True) fun position sent =>
      ∃ phase ∈ phases position, sent.foldlM send start = some phase := by
    refine ⟨⟨start, hstart, rfl⟩, ?_, ?_⟩
    · rintro machine position answers stored sent ⟨phase, hphase, hsent⟩ - -
      obtain ⟨later, hlater, hacts, -⟩ := hfollows machine position answers phase hphase
      exact ⟨later, hlater, by rw [List.foldlM_append, hsent]; exact hacts⟩
    · rintro machine position answers next sent ⟨phase, hphase, hsent⟩ - hnext
      obtain ⟨later, -, hacts, hmoves⟩ := hfollows machine position answers phase hphase
      exact ⟨later, hmoves next hnext, by rw [List.foldlM_append, hsent]; exact hacts⟩
  refine (everyState_recorded (hjournal.guarded _) hcarry machine
    (everyStep_of_forall fun _ _ _ _ _ _ _ _ _ => trivial)).imp ?_
  rintro run ⟨position, hrun⟩
  obtain ⟨phase, hphase, hsent⟩ := hrun.sent
  exact ⟨phase, hsent, fun machine other hat => hrun.process machine other hat ▸ hphase⟩

end Follows

namespace V2

/-! ## The protocol -/

inductive SwapTx where
  | funding | payment | spend | fundingRefund | paymentRefund

inductive SwapPhase where
  | unfunded | funded | paid | spent | fundingRefunded | paymentRefunded

namespace SwapPhase

/-- Each transaction can go out again, and none after one of a later phase. -/
@[simp] def send : SwapPhase → SwapTx → Option SwapPhase
  | .unfunded, .funding | .funded, .funding => some .funded
  | .funded, .payment | .paid, .payment => some .paid
  | .paid, .spend | .spent, .spend => some .spent
  | .funded, .fundingRefund | .paid, .fundingRefund | .fundingRefunded, .fundingRefund =>
    some .fundingRefunded
  | .paid, .paymentRefund | .spent, .paymentRefund | .paymentRefunded, .paymentRefund =>
    some .paymentRefunded
  | _, _ => none

@[simp] def sendMaker (phase : SwapPhase) : MakerSent → Option SwapPhase
  | .makerPayment _ => phase.send .payment
  | .takerPaymentSpend .. => phase.send .spend
  | .makerPaymentRefund _ => phase.send .paymentRefund

@[simp] def sendTaker (phase : SwapPhase) : TakerSent → Option SwapPhase
  | .takerFunding _ => phase.send .funding
  | .takerPayment _ => phase.send .payment
  | .makerPaymentSpend _ => phase.send .spend
  | .takerFundingRefund _ => phase.send .fundingRefund
  | .takerPaymentRefund _ => phase.send .paymentRefund

@[simp] def all : List SwapPhase :=
  [.unfunded, .funded, .paid, .spent, .fundingRefunded, .paymentRefunded]

/-- The phases that go with a state.  What the state sends can be on the chain
already, if the machine stopped in it before. -/
@[simp] def ofMaker : Option MakerSwapState → List SwapPhase
  | none | some (.initialized ..) | some (.waitingForTakerFunding ..) => [.funded]
  | some (.takerFundingReceived ..) => [.paid, .funded]
  | some (.makerPaymentSentFundingSpendGenerated ..) => [.paid]
  | some (.takerPaymentReceived ..) | some (.takerPaymentReceivedPreimageSkipped ..) =>
    [.spent, .paid]
  | some (.takerPaymentSpent ..) | some .completed => [.spent]
  | some (.makerPaymentRefundRequired ..) => [.paymentRefunded, .spent, .paid]
  | some (.makerPaymentRefunded ..) => [.paymentRefunded]
  | some (.aborted _) => all

/-- The taker payment can be on the chain while the funding is to be refunded, if
the machine does not know of it. -/
@[simp] def ofTaker : Option TakerSwapState → List SwapPhase
  | none | some (.initialized ..) => [.unfunded]
  | some (.negotiated ..) => [.funded, .unfunded]
  | some (.takerFundingSent ..) => [.funded]
  | some (.makerPaymentAndFundingSpendPreimgReceived ..) | some (.makerPaymentConfirmed ..) =>
    [.paid, .funded]
  | some (.takerPaymentSent ..) | some (.takerPaymentSentPreimageSendingSkipped ..) => [.paid]
  | some (.takerPaymentSpent ..) => [.spent, .paid]
  | some (.makerPaymentSpent ..) | some .completed => [.spent]
  | some (.takerFundingRefundRequired ..) => [.fundingRefunded, .paid, .funded]
  | some (.takerPaymentRefundRequired ..) => [.paymentRefunded, .spent, .paid]
  | some (.takerFundingRefunded ..) => [.fundingRefunded]
  | some (.takerPaymentRefunded ..) => [.paymentRefunded]
  | some (.aborted _) => all

end SwapPhase

open SwapPhase SendAnswer

variable {coins : SwapCoins} {phase : SwapPhase}

open MakerSwapStateMachine in
theorem MakerMove.follows {answers : MakerAnswers} {position : Option MakerSwapState}
    {activation : MakerActivation} (hmove : MakerMove answers position activation)
    (hphase : phase ∈ ofMaker position) : activation.Follows sendMaker ofMaker position phase := by
  cases hmove with
  | waits => exact ⟨phase, hphase, rfl, nofun⟩
  | starts | negotiates | completes => exact .changeTo hphase hphase
  | receivesFunding => exact .changeTo hphase (List.mem_cons_of_mem _ hphase)
  | aborts => exact .changeTo hphase (by cases phase <;> simp)
  | findsTakerPayment _ _ _ _ _ next hnext =>
    refine .changeTo hphase ?_
    cases next <;> simp_all [MakerSwapState.spending]
  | requiresRefund state hpaid =>
    refine .changeTo hphase ?_
    cases state <;> simp_all [MakerSwapState.paid]
  | sendsPayment =>
    cases phase <;> cases hans : answers.makerPayment <;>
      simp_all [sendMakerPayment, result, broadcast]
  | spendsTakerPayment state hspending =>
    have hspent : ofMaker (some state) = [.spent, .paid] := by
      cases state <;> simp_all [MakerSwapState.spending]
    simp only [Activation.Follows, hspent] at hphase ⊢
    cases phase <;> cases hans : answers.takerPaymentSpend <;>
      simp_all [spendTakerPayment, result, broadcast]
  | refunds =>
    cases phase <;> cases hans : answers.makerPaymentRefund <;>
      simp_all [refundMakerPayment, result, broadcast]

open TakerSwapStateMachine TakerSwapState in
theorem TakerMove.follows {answers : TakerAnswers} {position : Option TakerSwapState}
    {activation : TakerActivation} (hmove : TakerMove coins answers position activation)
    (hphase : phase ∈ ofTaker position) : activation.Follows sendTaker ofTaker position phase := by
  cases hmove with
  | waits => exact ⟨phase, hphase, rfl, nofun⟩
  | starts | completes => exact .changeTo hphase hphase
  | negotiates | receivesMakerPayment => exact .changeTo hphase (List.mem_cons_of_mem _ hphase)
  | aborts => exact .changeTo hphase (by cases phase <;> simp)
  | requiresFundingRefund state hstate | findsSpend state hstate
  | requiresPaymentRefund state hstate =>
    refine .changeTo hphase ?_
    cases state <;> simp_all [TakerSwapState.funded, awaitingSpend, TakerSwapState.paid]
  | sendsFunding =>
    cases phase <;> cases hans : answers.takerFunding <;>
      simp_all [sendTakerFunding, result, broadcast]
  | sendsPayment state hpaying =>
    have hpaid : ofTaker (some state) = [.paid, .funded] := by cases state <;> simp_all [paying]
    simp only [Activation.Follows, hpaid] at hphase ⊢
    cases phase <;> cases hans : answers.takerPayment <;>
      cases hskip : coins.skipTakerPaymentSpendPreimage <;>
      simp_all [sendTakerPayment, result, broadcast]
  | spendsMakerPayment =>
    cases phase <;> cases hans : answers.makerPaymentSpend <;>
      simp_all [spendMakerPayment, result, broadcast]
  | refundsFunding =>
    cases phase <;> cases hans : answers.takerFundingRefund <;>
      simp_all [refundTakerFunding, result, broadcast]
  | refundsPayment =>
    cases phase <;> cases hans : answers.takerPaymentRefund <;>
      simp_all [refundTakerPayment, result, broadcast]

open MachineRun

/-- Wherever the machines stop and whatever fails to be stored, both parties
follow the protocol.  The maker has nothing to fund. -/
theorem transactions_follow_protocol (coins : SwapCoins) (maker : MakerSwapStateMachine)
    (makerInputs : List (MachineInput MakerAnswers)) (taker : TakerSwapStateMachine)
    (takerInputs : List (MachineInput TakerAnswers)) :
    EveryState (step (makerProgram coins)) (InPhase sendMaker ofMaker .funded)
        (fresh maker) makerInputs ∧
      EveryState (step (takerProgram coins)) (InPhase sendTaker ofTaker .unfunded)
        (fresh taker) takerInputs := by
  constructor
  · refine everyState_inPhase (makerProgram_keepsEvents coins).journal List.mem_cons_self ?_ _ _
    intro machine position answers phase hphase
    exact (makerProgram_move coins machine position answers).follows hphase
  · refine everyState_inPhase (takerProgram_keepsEvents coins).journal List.mem_cons_self ?_ _ _
    intro machine position answers phase hphase
    exact (takerProgram_move coins machine position answers).follows hphase

end V2

end KdfProtocol
