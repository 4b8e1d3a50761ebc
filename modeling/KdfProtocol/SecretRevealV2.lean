import KdfProtocol.MakerSwapV2

/-!
# When the maker of a V2 swap reveals its secret

The spend of the taker payment reveals the secret, and the taker can take the
payment back from the negotiated lock time on.  The clock is read for the last
time in the wait before the spend, so the spend can come as late as the coins,
the peer and the process allow.  It comes before the lock time in every run, with
restarts at any time, in which no two moments of a spending state are further
apart than a pause that the lock duration has room for.
-/

namespace KdfProtocol

namespace V2

/-- A spend of the taker payment is sent before the taker can take the payment
back. -/
def MakerSent.RevealedInTime : MakerSent → Prop
  | .takerPaymentSpend _ timeLock spendAt => spendAt < timeLock
  | .makerPayment _ | .makerPaymentRefund _ => True

/-- The moments of a state that spends the taker payment: the rounds of the
waits, and the spend. -/
def spendingMoments (position : Option MakerSwapState) (answers : MakerAnswers) : List UInt64 :=
  match position with
  | some (.takerPaymentReceived ..) =>
    answers.takerPaymentConfirmed.moments ++
      answers.recvStarted :: (answers.takerPaymentSpendPreimage.moments ++ [answers.spendAt])
  | some (.takerPaymentReceivedPreimageSkipped ..) =>
    answers.takerPaymentConfirmed.moments ++ [answers.spendAt]
  | _ => []

def Soon (pause : ℕ) (first second : UInt64) : Prop :=
  second.toNat ≤ first.toNat + pause

/-- No pause between two moments of a spending state is longer than `pause`. -/
def Paced (pause : ℕ) (_ : MakerSwapStateMachine)
    (position : Option MakerSwapState) (answers : MakerAnswers) : Prop :=
  (spendingMoments position answers).IsChain (Soon pause)

/-- The last third of the lock duration is longer than the wait for the
preimage, the difference of the start times and three pauses, and no lock time
overflows. -/
structure RoomFor (pause : ℕ) (startedAt lockDuration : UInt64) : Prop where
  last_third : lockDuration.toNat * 2 / 3 + 3 * pause + 240 < lockDuration.toNat
  no_overflow : startedAt.toNat + 2 * lockDuration.toNat + 60 < 2 ^ 64

def AgreedLock (startedAt lockDuration lock : UInt64) : Prop :=
  ∃ takerStart, ¬maxStartedAtDiff < absDiff startedAt takerStart ∧ lock = takerStart + lockDuration

/-! ## The times of the waits -/

section Times

variable {pause : ℕ} {startedAt lockDuration : UInt64}

theorem RoomFor.le_agreedLock (hroom : RoomFor pause startedAt lockDuration)
    {lock : UInt64} (hlock : AgreedLock startedAt lockDuration lock) :
    startedAt.toNat + lockDuration.toNat ≤ lock.toNat + 60 := by
  obtain ⟨takerStart, hdiff, rfl⟩ := hlock
  have hclose := not_maxStartedAtDiff_lt_absDiff.mp hdiff
  have hrange := hroom.no_overflow
  have hsum : (takerStart + lockDuration).toNat = takerStart.toNat + lockDuration.toNat := by
    rw [UInt64.toNat_add]
    omega
  omega

theorem RoomFor.toNat_confTimeout (hroom : RoomFor pause startedAt lockDuration) :
    (startedAt + lockDuration * 2 / 3).toNat = startedAt.toNat + lockDuration.toNat * 2 / 3 := by
  have hrange := hroom.no_overflow
  have htwo : (2 : UInt64).toNat = 2 := rfl
  have hthree : (3 : UInt64).toNat = 3 := rfl
  rw [UInt64.toNat_add, UInt64.toNat_div, UInt64.toNat_mul, htwo, hthree]
  have hdouble : lockDuration.toNat * 2 % 2 ^ 64 = lockDuration.toNat * 2 := by
    omega
  rw [hdouble]
  omega

theorem toNat_recvDeadline {started : UInt64} (hstart : started.toNat + 180 < 2 ^ 64) :
    (recvDeadline started negotiationTimeoutSec).toNat = started.toNat + 180 := by
  have htotal : (basicCommTimeout + negotiationTimeoutSec).toNat = 180 := rfl
  unfold recvDeadline
  rw [UInt64.toNat_add, htotal]
  omega

theorem received_le {α : Type} {started now : UInt64} {msg : α}
    {rounds : Rounds UInt64 α} {next : UInt64} (hstart : started.toNat + 180 < 2 ^ 64)
    (hanswered : rounds.askThenCheck
      (recvDeadline started negotiationTimeoutSec < ·) = .answered msg)
    (hround : rounds.answered = some (now, msg))
    (hchain : (started :: (rounds.moments ++ [next])).IsChain (Soon pause)) :
    now.toNat ≤ started.toNat + 180 + pause ∧ Soon pause now next := by
  have hdeadline := toNat_recvDeadline hstart
  have hunanswered := (Rounds.askThenCheck_eq_answered hanswered).2
  have hmoments : rounds.moments ++ [next] = rounds.unanswered ++ now :: next :: [] := by
    simp [Rounds.moments, hround]
  rw [hmoments, List.isChain_cons_append_cons_cons] at hchain
  obtain ⟨hpre, hafter, -⟩ := hchain
  have hfirst : ¬recvDeadline started negotiationTimeoutSec < started := by
    rw [UInt64.lt_iff_toNat_lt]
    omega
  obtain ⟨last, hintime, hsoon⟩ := exists_inTime_of_isChain hfirst hunanswered hpre
  rw [UInt64.lt_iff_toNat_lt] at hintime
  unfold Soon at hsoon
  exact ⟨by omega, hafter⟩

end Times

namespace MakerSwapStateMachine

section Spend

variable {coins : SwapCoins} {machine : MakerSwapStateMachine} {pause : ℕ}
  {negotiation : StoredMakerNegotiationData} {takerPayment : Bytes}
  {answers : MakerAnswers} {u : Unit}

variable (hroom : RoomFor pause machine.startedAt machine.lockDuration)

include hroom

theorem after_confirmTakerPayment (hconf : machine.confirmTakerPayment coins answers = .ok ())
    {next : UInt64} {rest : List UInt64}
    (hchain : (answers.takerPaymentConfirmed.moments ++ next :: rest).IsChain (Soon pause)) :
    next.toNat ≤ machine.startedAt.toNat + machine.lockDuration.toNat * 2 / 3 + pause ∧
      (next :: rest).IsChain (Soon pause) := by
  obtain ⟨now, hround, hnow⟩ := waitForConfirmations_eq_ok hconf
  have hmoments : answers.takerPaymentConfirmed.moments ++ next :: rest =
      answers.takerPaymentConfirmed.unanswered ++ now :: next :: rest := by
    simp [Rounds.moments, hround]
  rw [hmoments, List.isChain_append_cons_cons] at hchain
  obtain ⟨-, hsoon, hrest⟩ := hchain
  have hintime := UInt64.le_iff_toNat_le.mp hnow
  unfold takerPaymentConfTimeout at hintime
  rw [hroom.toNat_confTimeout] at hintime
  unfold Soon at hsoon
  exact ⟨by omega, hrest⟩

theorem spendAt_lt_of_prepareSpend
    {lock : UInt64} (hlock : AgreedLock machine.startedAt machine.lockDuration lock)
    (hprep : machine.prepareSpend coins negotiation takerPayment answers = .ok u)
    (hchain : (answers.takerPaymentConfirmed.moments ++
      answers.recvStarted ::
        (answers.takerPaymentSpendPreimage.moments ++
          [answers.spendAt])).IsChain (Soon pause)) : answers.spendAt < lock := by
  have hend := hroom.le_agreedLock hlock
  have hthird := hroom.last_third
  have hrange := hroom.no_overflow
  simp only [prepareSpend, receiveSpendPreimage, except_bind_eq_ok, recvSwapV2Msg_eq_ok] at hprep
  obtain ⟨_, hconf, _, ⟨preimage, hanswered, -⟩, -⟩ := hprep
  obtain ⟨hstart, hrest⟩ := after_confirmTakerPayment hroom hconf hchain
  obtain ⟨now, hround⟩ := (Rounds.askThenCheck_eq_answered hanswered).1
  have hrecvStarted : answers.recvStarted.toNat + 180 < 2 ^ 64 := by omega
  obtain ⟨hnow, hsoon⟩ := received_le hrecvStarted hanswered hround hrest
  unfold Soon at hsoon
  rw [UInt64.lt_iff_toNat_lt]
  omega

theorem spendAt_lt_of_prepareSpendPreimageSkipped {lock : UInt64}
    (hlock : AgreedLock machine.startedAt machine.lockDuration lock)
    (hprep : machine.prepareSpendPreimageSkipped coins negotiation takerPayment answers = .ok u)
    (hchain : (answers.takerPaymentConfirmed.moments ++
      [answers.spendAt]).IsChain (Soon pause)) : answers.spendAt < lock := by
  have hend := hroom.le_agreedLock hlock
  have hthird := hroom.last_third
  simp only [prepareSpendPreimageSkipped, except_bind_eq_ok] at hprep
  obtain ⟨_, hconf, -⟩ := hprep
  have hspend := (after_confirmTakerPayment hroom hconf hchain).1
  rw [UInt64.lt_iff_toNat_lt]
  omega

end Spend

/-! ## One state -/

section OneState

variable {coins : SwapCoins} {machine : MakerSwapStateMachine} {state next : MakerSwapState}
  {answers : MakerAnswers} {negotiation : StoredMakerNegotiationData}

theorem negotiate_agreedLock (hneg : machine.negotiate coins answers = .ok negotiation) :
    AgreedLock machine.startedAt machine.lockDuration negotiation.takerPaymentLocktime := by
  simp only [negotiate, checkTakerNegotiation, except_bind_eq_ok, abortIf_eq_ok] at hneg
  obtain ⟨_, -, _, -, takerData, -, _, hdiff, _, hpay, _, -, _, -, _, -, hdata⟩ := hneg
  cases hdata
  exact ⟨takerData.startedAt, hdiff, not_not.mp hpay⟩

theorem onInitial_negotiation? (hnext : (machine.onInitial coins answers).next = some next) :
    next.negotiation? = none := by
  rcases settle_next hnext with ⟨reason, rfl⟩ | ⟨started, hstart, hchange⟩
  · rfl
  · cases hchange
    simp only [initializeSwap, except_bind_eq_ok] at hstart
    obtain ⟨_, -, _, -, _, -, _, -, _, -, _, -, hstate⟩ := hstart
    cases hstate
    rfl

theorem onChanged_negotiation? (hnext : (machine.onChanged coins state answers).next = some next)
    (hdata : next.negotiation? = some negotiation) :
    state.negotiation? = some negotiation ∨ machine.negotiate coins answers = .ok negotiation := by
  cases state with
  | initialized blocks fees =>
    rcases settle_next hnext with ⟨reason, rfl⟩ | ⟨stored, hstore, hchange⟩
    · cases hdata
    · cases hchange
      cases hdata
      exact Or.inr hstore
  | waitingForTakerFunding blocks stored fee =>
    rcases settle_next hnext with ⟨reason, rfl⟩ | ⟨funding, -, hchange⟩
    · cases hdata
    · cases hchange
      exact Or.inl hdata
  | takerFundingReceived blocks stored takerFunding fee =>
    rcases settle_next hnext with ⟨reason, rfl⟩ | ⟨preimage, -, hchange⟩
    · cases hdata
    · cases hchange
      split at hdata
      · exact Or.inl hdata
      · cases hdata
  | makerPaymentSentFundingSpendGenerated blocks stored makerPayment takerFunding preimage =>
      rcases settle_next hnext with ⟨reason, rfl⟩ | ⟨takerPayment, -, hchange⟩
      · exact Or.inl hdata
      · cases hchange
        split at hdata
        · exact Or.inl hdata
        · exact Or.inl hdata
  | makerPaymentRefundRequired blocks stored makerPayment reason =>
    rcases settle_next hnext with ⟨reason, rfl⟩ | ⟨_, -, hchange⟩
    · cases hdata
    · cases hchange
      split at hdata
      · cases hdata
      · cases hdata
  | makerPaymentRefunded makerPayment refund reason => cases hnext
  | takerPaymentReceived blocks stored makerPayment takerPayment
  | takerPaymentReceivedPreimageSkipped blocks stored makerPayment takerPayment =>
    rcases settle_next hnext with ⟨reason, rfl⟩ | ⟨_, -, hchange⟩
    · exact Or.inl hdata
    · cases hchange
      split at hdata
      · exact Or.inl hdata
      · exact Or.inl hdata
  | takerPaymentSpent blocks makerPayment takerPayment spend stored =>
    rcases settle_next hnext with ⟨reason, rfl⟩ | ⟨_, -, hchange⟩
    · exact Or.inl hdata
    · cases hchange
      cases hdata
  | aborted reason | completed => cases hnext

theorem mem_broadcast_map {τ : Type} {answer : SendAnswer Bytes} {kind : Bytes → τ} {tx : τ}
    (htx : tx ∈ answer.broadcast.toList.map kind) : ∃ bytes, tx = kind bytes := by
  obtain ⟨bytes, -, rfl⟩ := List.mem_map.mp htx
  exact ⟨bytes, rfl⟩

theorem onChanged_revealedInTime {pause : ℕ} {tx : MakerSent}
    (hroom : RoomFor pause machine.startedAt machine.lockDuration)
    (hagreed : ∀ negotiation, state.negotiation? = some negotiation →
      AgreedLock machine.startedAt machine.lockDuration
        negotiation.takerPaymentLocktime) (hpaced : Paced pause machine (some state) answers)
    (htx : tx ∈ (machine.onChanged coins state answers).sent) :
    tx.RevealedInTime := by
  cases state with
  | initialized blocks fees | waitingForTakerFunding blocks stored fee
  | makerPaymentSentFundingSpendGenerated blocks stored makerPayment takerFunding preimage
  | takerPaymentSpent blocks makerPayment takerPayment spend stored =>
    obtain ⟨_, -, hsent⟩ := settle_sent htx
    cases hsent
  | takerFundingReceived blocks stored takerFunding fee
  | makerPaymentRefundRequired blocks stored makerPayment reason =>
    obtain ⟨_, -, hsent⟩ := settle_sent htx
    obtain ⟨bytes, rfl⟩ := mem_broadcast_map hsent
    exact True.intro
  | makerPaymentRefunded makerPayment refund reason => cases htx
  | takerPaymentReceived blocks stored makerPayment takerPayment =>
    obtain ⟨_, hprep, hsent⟩ := settle_sent htx
    obtain ⟨bytes, rfl⟩ := mem_broadcast_map hsent
    exact spendAt_lt_of_prepareSpend hroom (hagreed stored rfl) hprep hpaced
  | takerPaymentReceivedPreimageSkipped blocks stored makerPayment takerPayment =>
    obtain ⟨_, hprep, hsent⟩ := settle_sent htx
    obtain ⟨bytes, rfl⟩ := mem_broadcast_map hsent
    exact spendAt_lt_of_prepareSpendPreimageSkipped hroom (hagreed stored rfl) hprep hpaced
  | aborted reason | completed => cases htx

end OneState

end MakerSwapStateMachine

/-! ## Whole runs -/

section Runs

variable (startedAt lockDuration : UInt64)

def AgreedState (state : MakerSwapState) : Prop :=
  ∀ negotiation, state.negotiation? = some negotiation →
    AgreedLock startedAt lockDuration negotiation.takerPaymentLocktime

structure AgreedMachine (machine : MakerSwapStateMachine)
    (position : Option MakerSwapState) : Prop where
  startedAt_eq : machine.startedAt = startedAt
  lockDuration_eq : machine.lockDuration = lockDuration
  state : ∀ state, position = some state → AgreedState startedAt lockDuration state

structure AgreedRecord (repr : MakerSwapDbRepr) : Prop where
  startedAt_eq : repr.startedAt = startedAt
  lockDuration_eq : repr.lockDuration = lockDuration
  events : ∀ event ∈ repr.events, ∀ state, event.restore = .ok state →
    AgreedState startedAt lockDuration state

variable {startedAt lockDuration} {machine : MakerSwapStateMachine}
  {position : Option MakerSwapState} {repr : MakerSwapDbRepr}

theorem AgreedMachine.next {coins : SwapCoins} {answers : MakerAnswers} {next : MakerSwapState}
    (hmach : AgreedMachine startedAt lockDuration machine position)
    (hnext : ((makerProgram coins).activate machine position answers).next = some next) :
    AgreedState startedAt lockDuration next := by
  intro negotiation hdata
  cases position with
  | none =>
    have hnone := MakerSwapStateMachine.onInitial_negotiation? hnext
    rw [hnone] at hdata
    cases hdata
  | some state =>
    rcases MakerSwapStateMachine.onChanged_negotiation? hnext hdata with
      hpre | hneg
    · exact hmach.state state rfl negotiation hpre
    · have hagreed := MakerSwapStateMachine.negotiate_agreedLock hneg
      rw [hmach.startedAt_eq, hmach.lockDuration_eq] at hagreed
      exact hagreed

theorem AgreedMachine.onEvent {event : MakerSwapEvent} {next : MakerSwapState}
    (hmach : AgreedMachine startedAt lockDuration machine position)
    (hnext : AgreedState startedAt lockDuration next) :
    AgreedMachine startedAt lockDuration (machine.onEvent event) (some next) where
  startedAt_eq := by
    have hsame : (machine.onEvent event).startedAt = machine.startedAt := by
      cases event <;> rfl
    rw [hsame, hmach.startedAt_eq]
  lockDuration_eq := by
    have hsame : (machine.onEvent event).lockDuration = machine.lockDuration := by
      cases event <;> rfl
    rw [hsame, hmach.lockDuration_eq]
  state := by
    intro state hstate
    cases hstate
    exact hnext

theorem AgreedRecord.addEvent {state : MakerSwapState}
    (hrepr : AgreedRecord startedAt lockDuration repr)
    (hstate : AgreedState startedAt lockDuration state) :
    AgreedRecord startedAt lockDuration (repr.addEvent state.getEvent) where
  startedAt_eq := hrepr.startedAt_eq
  lockDuration_eq := hrepr.lockDuration_eq
  events := by
    intro event hevent restored hrestore
    rcases List.mem_append.mp hevent with hold | hnew
    · exact hrepr.events event hold restored hrestore
    · rw [List.mem_singleton] at hnew
      subst hnew
      rw [MakerSwapState.restore_getEvent hrestore]
      exact hstate

theorem AgreedRecord.recreate {coins : SwapCoins} {uuid : Uuid} {state : MakerSwapState}
    (hrepr : AgreedRecord startedAt lockDuration repr)
    (hrec : recreateMachine coins uuid repr = .ok (machine, state)) :
    AgreedMachine startedAt lockDuration machine (some state) := by
  unfold recreateMachine at hrec
  split at hrec
  · cases hrec
  next lastEvent hlast =>
    obtain ⟨restored, hrestore, hmach⟩ := except_bind_eq_ok.mp hrec
    cases hmach
    refine ⟨hrepr.startedAt_eq, hrepr.lockDuration_eq, ?_⟩
    intro current hcurrent
    cases hcurrent
    exact hrepr.events lastEvent (List.mem_of_getLast? hlast) state hrestore

theorem maintains_revealedInTime (coins : SwapCoins) {pause : ℕ}
    (hroom : RoomFor pause startedAt lockDuration) :
    (makerProgram coins).Maintains (Paced pause) (AgreedMachine startedAt lockDuration)
      (AgreedRecord startedAt lockDuration) MakerSent.RevealedInTime where
  toDbRepr := by
    intro machine position hmach
    refine ⟨hmach.startedAt_eq, hmach.lockDuration_eq, ?_⟩
    intro event hevent
    cases hevent
  sent := by
    intro machine position answers hmach hpaced tx htx
    cases position with
    | none =>
      obtain ⟨_, -, hsent⟩ := settle_sent htx
      cases hsent
    | some state =>
      have hagreed := hmach.state state rfl
      obtain ⟨rfl, rfl, -⟩ := hmach
      exact MakerSwapStateMachine.onChanged_revealedInTime hroom hagreed hpaced htx
  next := by
    intro machine position answers next hmach hnext
    exact hmach.onEvent (hmach.next hnext)
  addEvent := by
    intro machine state repr hmach hrepr
    exact hrepr.addEvent (hmach.state state rfl)
  recreate := by
    intro repr machine state hrepr hrec
    exact hrepr.recreate (swapKickstartHandlerForMaker_eq_some hrec)

/-- In every run of the maker machine, with crashes and restarts at any time, the
secret is revealed before the negotiated lock time, if the spending states are
paced and the lock duration has room for their pauses. -/
theorem secret_revealed_before_lock (coins : SwapCoins)
    (machine : MakerSwapStateMachine) (pause : ℕ) (inputs : List (MachineInput MakerAnswers))
    (hroom : RoomFor pause machine.startedAt machine.lockDuration)
    (hpaced : EveryStep (MachineRun.step (makerProgram coins))
      (MachineRun.Guarded (Paced pause)) (MachineRun.fresh machine) inputs) :
    EveryState (MachineRun.step (makerProgram coins))
      (fun run => ∀ tx ∈ run.sent, tx.RevealedInTime)
      (MachineRun.fresh machine) inputs := by
  have hfresh : AgreedMachine machine.startedAt machine.lockDuration machine
      none := by
    refine ⟨rfl, rfl, ?_⟩
    intro state hstate
    cases hstate
  have hholds := MachineRun.everyState_holds (MachineRun.holds_fresh hfresh)
    (maintains_revealedInTime coins hroom) hpaced
  exact hholds.imp fun run hrun => hrun.sent

end Runs

/-! ## A pause before the spend -/

def resumedSpend (answers : MakerAnswers) : List (MachineInput MakerAnswers) :=
  [.onStart true, .change answers true, .change answers true,
    .change answers true, .change answers true, .change answers true, .crash,
    .kickstart, .onStart true, .change answers true]

def promptAnswers : MakerAnswers :=
  sampleMakerAnswers 1700000000 1700005200 1700005210 1700005220 1700005230

theorem paced_promptAnswers (machine : MakerSwapStateMachine) (position : Option MakerSwapState) :
    Paced 60 machine position promptAnswers := by
  have hlong : ([1700005200, 1700005210, 1700005220, 1700005230] :
      List UInt64).IsChain (Soon 60) := by
    simp [Soon]
  have hshort : ([1700005200, 1700005230] : List UInt64).IsChain (Soon 60) := by
    simp [Soon]
  unfold Paced spendingMoments
  split
  · exact hlong
  · exact hshort
  · exact List.isChain_nil

theorem prompt_secret_revealed_before_lock :
    EveryState (MachineRun.step (makerProgram sampleCoins))
      (fun run => ∀ tx ∈ run.sent, tx.RevealedInTime)
      (MachineRun.fresh (sampleMaker 1700000000))
      (resumedSpend promptAnswers) := by
  have hroom : RoomFor 60 1700000000 7800 := ⟨by decide, by decide⟩
  refine secret_revealed_before_lock sampleCoins (sampleMaker 1700000000) 60
    (resumedSpend promptAnswers) hroom ?_
  refine everyStep_of_forall ?_
  intro run input hinput machine position answers stored _ hchange
  subst hchange
  have hprompt : answers = promptAnswers ∧ stored = true := by
    simpa [resumedSpend] using hinput
  rw [hprompt.1]
  exact paced_promptAnswers machine position

/-- The process is held up between the confirmations and the spend, and the
secret is revealed in the second in which the taker can take the payment
back. -/
theorem held_up_secret_revealed_late :
    (run (MachineRun.step (makerProgram sampleCoins))
      (MachineRun.fresh (sampleMaker 1700000000))
      (resumedSpend (sampleMakerAnswers 1700000000 1700005200 1700005210
        1700005220 1700007800))).sent =
      [.makerPayment [3], .takerPaymentSpend [6] 1700007800 1700007800] ∧
    ¬(MakerSent.takerPaymentSpend [6] 1700007800 1700007800).RevealedInTime := by
  refine ⟨by decide +kernel, ?_⟩
  unfold MakerSent.RevealedInTime
  decide

end V2

end KdfProtocol
