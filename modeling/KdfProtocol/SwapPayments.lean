import KdfProtocol.SwapResume

/-!
# Payments of a legacy swap across crashes

The coins put a payment on the chain before the swap saves the event that says
so.  The taker payment and the maker payment are looked up on the chain before
they are sent again; the dex fee is not.
-/

namespace KdfProtocol

open TakerSent TakerSwap MakerSent

theorem LoadsFromFirst.not_marked {σ κ ε τ α : Type} {program : CommandProgram σ κ ε τ α}
    {mark : σ → Bool} (hloads : LoadsFromFirst program fun s => mark s = false)
    (hkeeps : ∀ s event, mark (program.apply s event) = mark s) {journal : List ε} {s : σ}
    {next : Option κ} (hload : program.load journal = .ok (s, next)) : ¬mark s = true := by
  obtain ⟨start, events, hbegun, rfl⟩ := hloads.replayed hload
  exact Bool.eq_false_iff.mp (List.foldlRecOn events program.apply hbegun
    fun s hs event _ => (hkeeps s event).trans hs)

theorem exists_findSome {τ β : Type} {p : τ → Bool} {f : τ → Option β}
    (hfinds : ∀ a, p a = true → (f a).isSome = true) {l : List τ} (hcount : l.countP p ≠ 0) :
    ∃ b, l.findSome? f = some b := by
  obtain ⟨a, hmem, ha⟩ := List.countP_pos_iff.mp (Nat.pos_of_ne_zero hcount)
  exact Option.isSome_iff_exists.mp (List.findSome?_isSome_iff.mpr ⟨a, hmem, hfinds a ha⟩)

variable {τ : Type} {kind : TransactionIdentifier → τ} {sent : List τ}

theorem SentAtMost.countP_le_one (hsent : SentAtMost kind sent) (p : τ → Bool) :
    sent.countP p ≤ 1 := by
  rcases hsent with rfl | ⟨tx, rfl⟩
  · exact Nat.zero_le 1
  · exact List.countP_le_length

theorem SentAtMost.countP_eq_zero {p : τ → Bool} (hsent : SentAtMost kind sent)
    (hother : ∀ tx, p (kind tx) = false) : sent.countP p = 0 := by
  rcases hsent with rfl | ⟨tx, rfl⟩
  · rfl
  · simp [hother]

/-! ## The taker -/

namespace TakerSent

def isFee : TakerSent → Bool
  | .fee _ => true
  | .payment _ => false

def isPayment : TakerSent → Bool
  | .fee _ => false
  | .payment _ => true

def payment? : TakerSent → Option TransactionIdentifier
  | .fee _ => none
  | .payment tx => some tx

end TakerSent

namespace TakerSwap

def PastFee : Option TakerSwapCommand → Prop
  | some .start | some .negotiate | some .sendTakerFee => False
  | _ => True

def PastPayment : Option TakerSwapCommand → Prop
  | some .waitForTakerPaymentSpend | some .spendMakerPayment | some .refundTakerPayment
  | some .finish | none => True
  | _ => False

/-- The question whether the taker payment is on the chain is answered with the
payment that is there, or not at all. -/
def AnswersFromChain (run : CrashRun TakerSwap TakerSwapCommand TakerSwapEvent TakerSent)
    (answers : TakerAnswers) : Prop :=
  match answers.takerPaymentAlreadySent with
  | .error _ => True
  | .ok found => found = run.ledger.findSome? TakerSent.payment?

variable {coins : SwapCoins} {swap : TakerSwap}

section Ends

variable {coins : SwapCoins} {swap : TakerSwap} {answers : TakerAnswers}
  {command : TakerSwapCommand} {e : TakerExit}

theorem Ends.countP_isFee (hends : Ends coins swap answers command e) :
    e.sent.countP isFee ≤ 1 ∧ (command ≠ .sendTakerFee → e.sent.countP isFee = 0) := by
  cases hends with
  | takerFeeSendFailed err sent hsent | takerFeeSent tx sent hsent =>
    exact ⟨hsent.countP_le_one _, fun hne => absurd rfl hne⟩
  | takerPaymentFailed err sent hsent | takerPaymentSent tx sent hsent =>
    exact ⟨hsent.countP_le_one _, fun _ => hsent.countP_eq_zero fun _ => rfl⟩
  | _ => exact ⟨Nat.zero_le 1, fun _ => rfl⟩

theorem Ends.countP_isPayment (hends : Ends coins swap answers command e) :
    e.sent.countP isPayment ≤ 1 ∧ (command ≠ .sendTakerPayment → e.sent.countP isPayment = 0) := by
  cases hends with
  | takerFeeSendFailed err sent hsent | takerFeeSent tx sent hsent =>
    exact ⟨hsent.countP_le_one _, fun _ => hsent.countP_eq_zero fun _ => rfl⟩
  | takerPaymentFailed err sent hsent | takerPaymentSent tx sent hsent =>
    exact ⟨hsent.countP_le_one _, fun hne => absurd rfl hne⟩
  | _ => exact ⟨Nat.zero_le 1, fun _ => rfl⟩

theorem Ends.pastFee (hends : Ends coins swap answers command e)
    (hcmd : command = .sendTakerFee ∨ PastFee (some command)) :
    PastFee e.next ∧ ∀ event ∈ e.events, PastFee event.getCommand := by
  cases hends with
  | startFailed err hans | started data hans hdata | negotiateFailed err
  | negotiated data => simp [PastFee] at hcmd
  | _ =>
    simp [finishWith, TakerSwap.takerPaymentSent, refundAfter, PastFee, TakerSwapEvent.getCommand]

theorem Ends.pastPayment (hends : Ends coins swap answers command e)
    (hcmd : command = .sendTakerPayment ∨ PastPayment (some command)) :
    PastPayment e.next ∧ ∀ event ∈ e.events, PastPayment event.getCommand := by
  cases hends with
  | startFailed err hans | started data hans hdata | negotiateFailed err
  | negotiated data | takerFeeSendFailed err sent hsent | takerFeeSent tx sent hsent
  | makerPaymentNotReceived err | makerPaymentReceived tx
  | makerPaymentWaitConfirmFailed err | makerPaymentValidateFailed err
  | makerPaymentValidated => simp [PastPayment] at hcmd
  | _ =>
    simp [finishWith, TakerSwap.takerPaymentSent, refundAfter, PastPayment,
      TakerSwapEvent.getCommand]

end Ends

theorem startedInThisProcess_applyEvent (swap : TakerSwap) (event : TakerSwapEvent) :
    (swap.applyEvent event).startedInThisProcess = swap.startedInThisProcess := by
  cases event <;> rfl

theorem sendsOnce_fee (keys : NodeKeys) (coins : SwapCoins) :
    SendsOnce (program keys coins) isFee .sendTakerFee PastFee where
  sender_not_past := id
  sent_le_one _ _ _ hexit := (ends_of_handle hexit).countP_isFee.1
  sent_eq_zero _ _ _ _ hne hexit := (ends_of_handle hexit).countP_isFee.2 hne
  next_past _ _ _ _ hcmd hexit :=
    ((ends_of_handle hexit).pastFee hcmd).1
  events_past _ _ _ _ hcmd hexit := ((ends_of_handle hexit).pastFee hcmd).2
  load_command _ _ _ hload := (loadsFromFirst keys coins).load_command hload

theorem sendsOnce_payment (keys : NodeKeys) (coins : SwapCoins) :
    SendsOnce (program keys coins) isPayment .sendTakerPayment PastPayment where
  sender_not_past := id
  sent_le_one _ _ _ hexit := (ends_of_handle hexit).countP_isPayment.1
  sent_eq_zero _ _ _ _ hne hexit := (ends_of_handle hexit).countP_isPayment.2 hne
  next_past _ _ _ _ hcmd hexit :=
    ((ends_of_handle hexit).pastPayment hcmd).1
  events_past _ _ _ _ hcmd hexit := ((ends_of_handle hexit).pastPayment hcmd).2
  load_command _ _ _ hload := (loadsFromFirst keys coins).load_command hload

theorem sendTakerPayment_asks {answers : TakerAnswers}
    {run : CrashRun TakerSwap TakerSwapCommand TakerSwapEvent TakerSent}
    (hrest : ¬swap.startedInThisProcess = true) (htrue : AnswersFromChain run answers)
    (hledger : run.ledger.countP isPayment ≠ 0) :
    (swap.sendTakerPayment coins answers).sent = [] := by
  obtain ⟨tx, hfound⟩ : ∃ tx, run.ledger.findSome? payment? = some tx := by
    refine exists_findSome ?_ hledger
    intro sent hpay
    cases sent with
    | payment tx => rfl
    | fee tx => cases hpay
  have hasked : swap.takerPaymentAlreadySent coins answers = answers.takerPaymentAlreadySent := by
    simp [takerPaymentAlreadySent, skipsAlreadySentQuestion, hrest]
  unfold sendTakerPayment
  rw [hasked]
  unfold AnswersFromChain at htrue
  split at htrue
  next err hans =>
    rw [hans]
    rfl
  next found hans =>
    rw [hans, htrue, hfound]
    rfl

theorem asksLedger (keys : NodeKeys) (coins : SwapCoins) :
    AsksLedger (program keys coins) isPayment .sendTakerPayment
      (fun swap => swap.startedInThisProcess = true) AnswersFromChain where
  fresh_of_apply swap event := (startedInThisProcess_applyEvent swap event).symm.trans
  not_fresh_load _ _ _ :=
    (loadsFromFirst keys coins).not_marked startedInThisProcess_applyEvent
  asks run process answers exit _ hrest _ htrue hexit hledger := by
    have hsent : (process.state.sendTakerPayment coins answers).sent = [] :=
      sendTakerPayment_asks hrest htrue hledger
    change Outcome.exited (process.state.sendTakerPayment coins answers) = .exited exit at hexit
    cases hexit
    rw [hsent]
    rfl

end TakerSwap

/-! ## The maker -/

namespace MakerSent

def isPayment : MakerSent → Bool
  | .payment _ => true
  | .takerPaymentSpend _ => false

def payment? : MakerSent → Option TransactionIdentifier
  | .payment tx => some tx
  | .takerPaymentSpend _ => none

end MakerSent

namespace MakerSwap

def PastPayment : Option MakerSwapCommand → Prop
  | some .start | some .negotiate | some .waitForTakerFee | some .sendPayment => False
  | _ => True

def AnswersFromChain (run : CrashRun MakerSwap MakerSwapCommand MakerSwapEvent MakerSent)
    (answers : MakerAnswers) : Prop :=
  match answers.makerPaymentAlreadySent with
  | .error _ => True
  | .ok found => found = run.ledger.findSome? MakerSent.payment?

section Ends

variable {coins : SwapCoins} {swap : MakerSwap} {answers : MakerAnswers}
  {command : MakerSwapCommand} {e : MakerExit}

theorem Ends.countP_isPayment (hends : Ends coins swap answers command e) :
    e.sent.countP MakerSent.isPayment ≤ 1 ∧
      (command ≠ .sendPayment → e.sent.countP MakerSent.isPayment = 0) := by
  cases hends with
  | makerPaymentFailed err sent hsent | makerPaymentSent tx sent hsent =>
    exact ⟨hsent.countP_le_one _, fun hne => absurd rfl hne⟩
  | spendFailed failed sent hfail hsent =>
    exact ⟨hsent.countP_le_one _, fun _ => hsent.countP_eq_zero fun _ => rfl⟩
  | _ => exact ⟨Nat.zero_le 1, fun _ => rfl⟩

theorem forall_refundAfter {failed : MakerSwapEvent} {past : Option MakerSwapCommand → Prop}
    (hpast : past (some .refundMakerPayment))
    (hfail : failed.getCommand = some .refundMakerPayment) :
    ∀ event ∈ (swap.refundAfter failed).events, past event.getCommand := by
  intro event hmem
  rcases List.mem_pair.mp hmem with rfl | rfl
  · rw [hfail]
    exact hpast
  · exact hpast

theorem Ends.pastPayment (hends : Ends coins swap answers command e)
    (hcmd : command = .sendPayment ∨ PastPayment (some command)) :
    PastPayment e.next ∧ ∀ event ∈ e.events, PastPayment event.getCommand := by
  cases hends with
  | startFailed err hans | started data hans hdata | negotiateFailed err
  | negotiated data | takerFeeValidateFailed err | takerFeeValidated tx =>
    simp [PastPayment] at hcmd
  | waitFailed failed hfail | validateFailed failed hfail
  | spendFailed failed sent hfail hsent | confirmFailed failed hfail =>
    exact ⟨trivial, forall_refundAfter trivial hfail⟩
  | _ =>
    simp [finishWith, MakerSwap.makerPaymentSent, PastPayment, MakerSwapEvent.getCommand]

end Ends

variable {coins : SwapCoins} {swap : MakerSwap}

theorem startedInThisProcess_applyEvent (swap : MakerSwap) (event : MakerSwapEvent) :
    (swap.applyEvent event).startedInThisProcess = swap.startedInThisProcess := by
  cases event <;> rfl

theorem sendsOnce_payment (keys : NodeKeys) (coins : SwapCoins) :
    SendsOnce (program keys coins) isPayment .sendPayment PastPayment where
  sender_not_past := id
  sent_le_one _ _ _ hexit := (ends_of_handle hexit).countP_isPayment.1
  sent_eq_zero _ _ _ _ hne hexit := (ends_of_handle hexit).countP_isPayment.2 hne
  next_past _ _ _ _ hcmd hexit :=
    ((ends_of_handle hexit).pastPayment hcmd).1
  events_past _ _ _ _ hcmd hexit := ((ends_of_handle hexit).pastPayment hcmd).2
  load_command _ _ _ hload := (loadsFromFirst keys coins).load_command hload

theorem sendPayment_asks {answers : MakerAnswers}
    {run : CrashRun MakerSwap MakerSwapCommand MakerSwapEvent MakerSent}
    (hrest : ¬swap.startedInThisProcess = true) (htrue : AnswersFromChain run answers)
    (hledger : run.ledger.countP MakerSent.isPayment ≠ 0) :
    (swap.sendPayment coins answers).sent = [] := by
  obtain ⟨tx, hfound⟩ : ∃ tx, run.ledger.findSome? MakerSent.payment? = some tx := by
    refine exists_findSome ?_ hledger
    intro sent hpay
    cases sent with
    | payment tx => rfl
    | takerPaymentSpend tx => cases hpay
  have hasked : swap.makerPaymentAlreadySent coins answers = answers.makerPaymentAlreadySent := by
    simp [makerPaymentAlreadySent, skipsAlreadySentQuestion, hrest]
  unfold sendPayment
  rw [hasked]
  unfold AnswersFromChain at htrue
  split at htrue
  next err hans =>
    rw [hans]
    rfl
  next found hans =>
    rw [hans, htrue, hfound]
    rfl

theorem asksLedger (keys : NodeKeys) (coins : SwapCoins) :
    AsksLedger (program keys coins) isPayment .sendPayment
      (fun swap => swap.startedInThisProcess = true) AnswersFromChain where
  fresh_of_apply swap event := (startedInThisProcess_applyEvent swap event).symm.trans
  not_fresh_load _ _ _ :=
    (loadsFromFirst keys coins).not_marked startedInThisProcess_applyEvent
  asks run process answers exit _ hrest _ htrue hexit hledger := by
    have hsent : (process.state.sendPayment coins answers).sent = [] :=
      sendPayment_asks hrest htrue hledger
    change Outcome.exited (process.state.sendPayment coins answers) = .exited exit at hexit
    cases hexit
    rw [hsent]
    rfl

end MakerSwap

/-! ## Both sides -/

def takerCrashRun (keys : NodeKeys) (paymentLocktime : UInt64) :
    CrashRun TakerSwap TakerSwapCommand TakerSwapEvent TakerSent where
  process := some ⟨TakerSwap.startNew keys paymentLocktime, .start, none⟩
  journal := []
  ledger := []

def makerCrashRun (keys : NodeKeys) (paymentLocktime : UInt64) :
    CrashRun MakerSwap MakerSwapCommand MakerSwapEvent MakerSent where
  process := some ⟨MakerSwap.startNew keys paymentLocktime, .start, none⟩
  journal := []
  ledger := []

/-- Whatever crashes, the taker payment and the maker payment are sent once if
the chain answers truthfully.  The dex fee is sent once if the taker does not
crash between sending it and saving that. -/
theorem swap_payments_sentOnce (keys : NodeKeys) (coins : SwapCoins) (paymentLocktime : UInt64) :
    (∀ events : List (CrashEvent TakerAnswers),
      EveryStep (CrashRun.step (TakerSwap.program keys coins))
        (SavesBeforeCrash TakerSent.isFee .sendTakerFee)
        (takerCrashRun keys paymentLocktime) events →
      EveryState (CrashRun.step (TakerSwap.program keys coins))
        (fun s => s.ledger.countP TakerSent.isFee ≤ 1)
        (takerCrashRun keys paymentLocktime) events) ∧
    (∀ events : List (CrashEvent TakerAnswers),
      EveryStep (CrashRun.step (TakerSwap.program keys coins))
        (TruthfulStep TakerSwap.AnswersFromChain)
        (takerCrashRun keys paymentLocktime) events →
      EveryState (CrashRun.step (TakerSwap.program keys coins))
        (fun s => s.ledger.countP TakerSent.isPayment ≤ 1)
        (takerCrashRun keys paymentLocktime) events) ∧
    (∀ events : List (CrashEvent MakerAnswers),
      EveryStep (CrashRun.step (MakerSwap.program keys coins))
        (TruthfulStep MakerSwap.AnswersFromChain)
        (makerCrashRun keys paymentLocktime) events →
      EveryState (CrashRun.step (MakerSwap.program keys coins))
        (fun s => s.ledger.countP MakerSent.isPayment ≤ 1)
        (makerCrashRun keys paymentLocktime) events) := by
  refine ⟨?_, ?_, ?_⟩
  · intro events hsaves
    exact everyState_sentOnce_of_saves (sendsOnce_fee keys coins)
      (fun _ _ _ hexit => (ends_of_handle hexit).events_ne_nil) rfl hsaves
  · intro events htruthful
    exact everyState_sentOnce_of_asks (sendsOnce_payment keys coins)
      (asksLedger keys coins) rfl htruthful
  · intro events htruthful
    exact everyState_sentOnce_of_asks (MakerSwap.sendsOnce_payment keys coins)
      (MakerSwap.asksLedger keys coins) rfl htruthful

def executeAndSave {α : Type} (answers : α) : List (CrashEvent α) :=
  [.execute answers, .saveNext, .saveNext, .saveNext]

def crashAfterFee : List (CrashEvent TakerAnswers) :=
  executeAndSave takerSucceeds ++ executeAndSave takerSucceeds ++
    executeAndSave takerSucceeds ++ [.crash, .kickStart true]

/-- The taker crashes when the fee is sent and not yet saved, and is started
again in time. -/
def crashBeforeSave : List (CrashEvent TakerAnswers) :=
  executeAndSave takerSucceeds ++ executeAndSave takerSucceeds ++
    [.execute takerSucceeds, .crash, .kickStart true, .execute takerSucceeds]

/-- The payment is sent by the command after these.  The node crashes before that is saved,
and finds the payment when it is started again. -/
def crashAfterPayment {α : Type} (commands : ℕ) (succeeds finds : α) : List (CrashEvent α) :=
  (List.replicate commands succeeds).flatMap executeAndSave ++
    [.execute succeeds, .crash, .kickStart true, .execute finds]

def takerFinds : TakerAnswers :=
  { takerSucceeds with takerPaymentAlreadySent := .ok (some (sampleTx 3)) }

def makerFinds : MakerAnswers :=
  { makerSucceeds with makerPaymentAlreadySent := .ok (some (sampleTx 2)) }

theorem saved_fee_sentOnce :
    EveryState (CrashRun.step (TakerSwap.program sampleKeys sampleCoins))
      (fun s => s.ledger.countP TakerSent.isFee ≤ 1)
      (takerCrashRun sampleKeys 7800) crashAfterFee ∧
    EveryState (CrashRun.step (TakerSwap.program sampleKeys sampleCoins))
      (fun s => s.ledger.countP TakerSent.isPayment ≤ 1)
      (takerCrashRun sampleKeys 7800) (crashAfterPayment 5 takerSucceeds takerFinds) ∧
    EveryState (CrashRun.step (MakerSwap.program sampleKeys sampleCoins))
      (fun s => s.ledger.countP MakerSent.isPayment ≤ 1)
      (makerCrashRun sampleKeys 7800) (crashAfterPayment 3 makerSucceeds makerFinds) := by
  have honce := swap_payments_sentOnce sampleKeys sampleCoins 7800
  refine ⟨honce.1 _ ?_, honce.2.1 _ ?_, honce.2.2 _ ?_⟩
  · refine ⟨trivial, trivial, trivial, trivial, trivial, trivial, trivial, trivial, trivial,
      trivial, trivial, trivial, ?_, trivial, trivial⟩
    rintro - ⟨process, event, rest, next, hproc, -, hunsaved⟩
    cases hproc
    cases hunsaved
  · exact ⟨rfl, trivial, trivial, trivial, rfl, trivial, trivial, trivial, rfl, trivial, trivial,
      trivial, rfl, trivial, trivial, trivial, rfl, trivial, trivial, trivial, rfl, trivial,
      trivial, rfl, trivial⟩
  · exact ⟨rfl, trivial, trivial, trivial, rfl, trivial, trivial, trivial, rfl, trivial, trivial,
      trivial, rfl, trivial, trivial, rfl, trivial⟩

/-- Two dex fees are on the chain, although the chain answers truthfully. -/
theorem unsaved_fee_sentTwice :
    EveryStep (CrashRun.step (TakerSwap.program sampleKeys sampleCoins))
      (TruthfulStep TakerSwap.AnswersFromChain)
      (takerCrashRun sampleKeys 7800) crashBeforeSave ∧
    (run (CrashRun.step (TakerSwap.program sampleKeys sampleCoins))
      (takerCrashRun sampleKeys 7800) crashBeforeSave).ledger.countP
        TakerSent.isFee = 2 := by
  refine ⟨?_, by decide +kernel⟩
  exact ⟨rfl, trivial, trivial, trivial, rfl, trivial, trivial, trivial, rfl, trivial, trivial, rfl,
    trivial⟩

end KdfProtocol
