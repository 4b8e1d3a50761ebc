import KdfProtocol.SwapPayments
import KdfProtocol.RecreatedEvents

/-!
# Which finished swaps are recoverable

The funds of a finished swap can be recovered unless its journal tells that the swap
gave up before its own payment, or that this payment was refunded or the payment of the
other side spent.  The journal of a payment that could not be sent is the same whether
or not the payment went out before the error.
-/

namespace KdfProtocol

section SavedSwap

variable {ε : Type} [DecidableEq ε]

def SavedSwap.isFinished (finished : ε) (saved : SavedSwap ε) : Bool :=
  match saved.journal.getLast? with
  | some event => event = finished
  | none => false

def SavedSwap.isRecoverable (finished : ε) (rulesOut : ε → Bool) (saved : SavedSwap ε) : Bool :=
  if !saved.isFinished finished then false
  else saved.journal.all fun event => !rulesOut event

theorem SavedSwap.isFinished_iff {finished : ε} {saved : SavedSwap ε} :
    saved.isFinished finished = true ↔ saved.journal.getLast? = some finished := by
  unfold isFinished
  split
  next event hlast => simp [hlast]
  next hlast => simp [hlast]

theorem SavedSwap.isRecoverable_iff {finished : ε} {rulesOut : ε → Bool} {saved : SavedSwap ε} :
    saved.isRecoverable finished rulesOut = true ↔
      saved.isFinished finished = true ∧ ∀ event ∈ saved.journal, rulesOut event = false := by
  unfold isRecoverable
  cases saved.isFinished finished <;> simp

end SavedSwap

/-! ## The taker -/

namespace TakerSwapEvent

/-- The event ends a swap before its own payment. -/
def Aborts : TakerSwapEvent → Prop
  | .startFailed _ | .negotiateFailed _ | .takerFeeSendFailed _ | .makerPaymentValidateFailed _
  | .makerPaymentWaitConfirmFailed _ => True
  | _ => False

/-- The own payment was sent, was found on the chain or could not be sent. -/
def Pays : TakerSwapEvent → Prop
  | .takerPaymentSent _ | .takerPaymentTransactionFailed _ => True
  | _ => False

/-- The own payment is refunded, or the payment of the maker spent. -/
def Settles : TakerSwapEvent → Prop
  | .takerPaymentRefunded _ | .takerPaymentRefundedByWatcher _ | .makerPaymentSpent _
  | .makerPaymentSpendConfirmed | .makerPaymentSpentByWatcher _ => True
  | _ => False

instance : DecidablePred Pays := fun event => by
  cases event <;> first | exact isTrue trivial | exact isFalse id

instance : DecidablePred Settles := fun event => by
  cases event <;> first | exact isTrue trivial | exact isFalse id

def rulesOutRecovery : TakerSwapEvent → Bool
  | .startFailed _ | .negotiateFailed _ | .takerFeeSendFailed _ | .makerPaymentValidateFailed _
  | .takerPaymentRefunded _ | .makerPaymentSpent _ | .makerPaymentSpendConfirmed
  | .makerPaymentSpentByWatcher _ | .takerPaymentRefundedByWatcher _
  | .makerPaymentWaitConfirmFailed _ => true
  | _ => false

theorem rulesOutRecovery_iff (event : TakerSwapEvent) :
    event.rulesOutRecovery = true ↔ event.Aborts ∨ event.Settles := by
  cases event <;> simp [rulesOutRecovery, Aborts, Settles]

end TakerSwapEvent

def TakerSavedSwap.isRecoverable (saved : TakerSavedSwap) : Bool :=
  SavedSwap.isRecoverable .finished TakerSwapEvent.rulesOutRecovery saved

theorem TakerSwap.givesUpBefore (keys : NodeKeys) (coins : SwapCoins) :
    GivesUpBefore (program keys coins) TakerSent.isPayment .sendTakerPayment
      TakerSwap.PastPayment TakerSwapEvent.Aborts TakerSwapEvent.Pays where
  toSendsOnce := sendsOnce_payment keys coins
  events_ne_nil _ _ _ _ hexit := (ends_of_handle hexit).events_ne_nil
  before s command answers exit hpre hsender hexit := by
    cases ends_of_handle hexit <;>
      simp_all [program, TakerSwap.PastPayment, finishWith,
        Exit.Tabled, TakerSwapEvent.Aborts, TakerSwapEvent.Pays, TakerSwapEvent.getCommand]
  sender_pays s answers exit hexit := by
    cases ends_of_handle hexit <;> simp [finishWith, takerPaymentSent, TakerSwapEvent.Pays]
  not_pays s command answers exit hpast hexit := by
    cases ends_of_handle hexit <;>
      simp_all [TakerSwap.PastPayment, finishWith, refundAfter, TakerSwapEvent.Pays]
  not_aborts s command answers exit hreach hexit := by
    cases ends_of_handle hexit <;>
      simp_all [TakerSwap.PastPayment, finishWith, takerPaymentSent,
        refundAfter, TakerSwapEvent.Aborts]

/-! ## The maker -/

namespace MakerSwapEvent

def Aborts : MakerSwapEvent → Prop
  | .startFailed _ | .negotiateFailed _ | .takerFeeValidateFailed _ => True
  | _ => False

def Pays : MakerSwapEvent → Prop
  | .makerPaymentSent _ | .makerPaymentTransactionFailed _ => True
  | _ => False

def Settles : MakerSwapEvent → Prop
  | .makerPaymentRefunded _ | .takerPaymentSpent _ | .takerPaymentSpendConfirmed => True
  | _ => False

instance : DecidablePred Pays := fun event => by
  cases event <;> first | exact isTrue trivial | exact isFalse id

instance : DecidablePred Settles := fun event => by
  cases event <;> first | exact isTrue trivial | exact isFalse id

def rulesOutRecovery : MakerSwapEvent → Bool
  | .startFailed _ | .negotiateFailed _ | .takerFeeValidateFailed _ | .takerPaymentSpendConfirmed
  | .makerPaymentRefunded _ => true
  | _ => false

end MakerSwapEvent

def MakerSavedSwap.isRecoverable (saved : MakerSavedSwap) : Bool :=
  SavedSwap.isRecoverable .finished MakerSwapEvent.rulesOutRecovery saved

theorem MakerSwap.quiet_refundAfter {swap : MakerSwap} {failed : MakerSwapEvent}
    (hfail : failed.getCommand = some .refundMakerPayment) :
    ∀ event ∈ (swap.refundAfter failed).events, ¬event.Pays ∧ ¬event.Aborts := by
  have hquiet : ¬failed.Pays ∧ ¬failed.Aborts := by
    cases failed <;> simp_all [MakerSwapEvent.getCommand, MakerSwapEvent.Pays,
      MakerSwapEvent.Aborts]
  intro event hmem
  simp only [refundAfter, List.mem_cons, List.not_mem_nil, or_false] at hmem
  rcases hmem with rfl | rfl
  · exact hquiet
  · exact ⟨id, id⟩

theorem MakerSwap.Ends.quiet {coins : SwapCoins} {swap : MakerSwap}
    {answers : MakerAnswers} {command : MakerSwapCommand} {e : MakerExit}
    (hends : MakerSwap.Ends coins swap answers command e)
    (hpast : MakerSwap.PastPayment (some command)) :
    ∀ event ∈ e.events, ¬event.Pays ∧ ¬event.Aborts := by
  cases hends with
  | waitFailed failed hfail | validateFailed failed hfail
  | spendFailed failed sent hfail hsent | confirmFailed failed hfail =>
    exact quiet_refundAfter hfail
  | _ =>
    simp_all [MakerSwap.PastPayment, finishWith, MakerSwapEvent.Pays, MakerSwapEvent.Aborts]

theorem MakerSwap.givesUpBefore (keys : NodeKeys) (coins : SwapCoins) :
    GivesUpBefore (program keys coins) MakerSent.isPayment .sendPayment
      MakerSwap.PastPayment MakerSwapEvent.Aborts MakerSwapEvent.Pays where
  toSendsOnce := sendsOnce_payment keys coins
  events_ne_nil _ _ _ _ hexit := (ends_of_handle hexit).events_ne_nil
  before s command answers exit hpre hsender hexit := by
    cases ends_of_handle hexit <;>
      simp_all [program, MakerSwap.PastPayment, finishWith,
        takerFeeValidated, Exit.Tabled, MakerSwapEvent.Aborts,
        MakerSwapEvent.Pays, MakerSwapEvent.getCommand]
  sender_pays s answers exit hexit := by
    cases ends_of_handle hexit <;> simp [finishWith, makerPaymentSent, MakerSwapEvent.Pays]
  not_pays s command answers exit hpast hexit event hmem :=
    ((ends_of_handle hexit).quiet hpast event hmem).1
  not_aborts s command answers exit hreach hexit event hmem := by
    rcases hreach with rfl | hpast
    · cases ends_of_handle hexit <;> simp_all [finishWith, makerPaymentSent, MakerSwapEvent.Aborts]
    · exact ((ends_of_handle hexit).quiet hpast event hmem).2

/-! ## Both sides -/

/-- What the check is to tell of a journal: `broadcast` says that the own payment is on
the chain. -/
structure RecoversRight {ε : Type} (Pays Settles : ε → Prop) (broadcast : Prop)
    (isFinished isRecoverable : Bool) (journal : List ε) : Prop where
  recoverable : isFinished = true → (broadcast ∨ ∃ event ∈ journal, Pays event) →
    (∀ event ∈ journal, ¬Settles event) → isRecoverable = true
  not_recoverable : ¬broadcast → (∀ event ∈ journal, ¬Pays event) → isRecoverable = false

section Recovery

variable {σ κ ε τ α : Type} {program : CommandProgram σ κ ε τ α} {kind : τ → Bool}
  {sender : κ} {past : Option κ → Prop} {aborts pays : ε → Prop}

theorem CrashRun.Staged.recoversRight [DecidableEq ε] {initial : σ} {s : CrashRun σ κ ε τ}
    (hstaged : s.Staged program kind sender past aborts pays initial) (finished : ε)
    (hfin : past (program.command finished)) {rulesOut : ε → Bool}
    {settles : ε → Prop} (haborts : ∀ event, aborts event → rulesOut event = true)
    (hrulesOut : ∀ event, rulesOut event = true → aborts event ∨ settles event)
    {saved : SavedSwap ε} (hjournal : saved.journal = s.journal) :
    RecoversRight pays settles (s.ledger.countP kind ≠ 0) (saved.isFinished finished)
      (saved.isRecoverable finished rulesOut) saved.journal := by
  have hstage : saved.isFinished finished = true →
      Stage program past aborts pays saved.journal (program.command finished) := by
    intro hends
    have hlast := SavedSwap.isFinished_iff.mp hends
    rw [hjournal] at hlast ⊢
    exact hstaged.1.journal finished hlast
  constructor
  · intro hends hpaid hunsettled
    refine SavedSwap.isRecoverable_iff.mpr ⟨hends, fun event hmem => ?_⟩
    have hunaborted : ∀ event ∈ saved.journal, ¬aborts event := by
      cases hstage hends with
      | early _ _ hnext => exact absurd hfin hnext
      | paid _ _ _ hunaborted _ => exact hunaborted
      | aborted _ _ _ hunpaid _ =>
        rcases hpaid with hledger | ⟨event, hmem, hpays⟩
        · have hlast := SavedSwap.isFinished_iff.mp hends
          rw [hjournal] at hlast ⊢
          exact ((hstaged.2 hledger).journal finished hlast).1
        · exact absurd hpays (hunpaid event hmem)
    rw [← Bool.not_eq_true]
    intro hruled
    rcases hrulesOut event hruled with habort | hsettle
    · exact hunaborted event hmem habort
    · exact hunsettled event hmem hsettle
  · intro _ hunpaid
    rw [← Bool.not_eq_true]
    intro hrecoverable
    obtain ⟨hends, hclean⟩ := SavedSwap.isRecoverable_iff.mp hrecoverable
    cases hstage hends with
    | early _ _ hnext => exact hnext hfin
    | paid event hmem hpays _ _ => exact hunpaid event hmem hpays
    | aborted event hmem habort _ _ =>
      have hruled := hclean event hmem
      rw [haborts event habort] at hruled
      cases hruled

end Recovery

/-- Whatever crashes, a finished swap whose own payment may be on the chain is
recoverable unless a refund or a spend is recorded, and a swap is not if its payment was
neither sent nor found and no attempt to send it failed. -/
theorem swap_recovers_right (keys : NodeKeys) (coins : SwapCoins) (paymentLocktime : UInt64) :
    (∀ (events : List (CrashEvent TakerAnswers)) (saved : TakerSavedSwap),
      saved.journal = (run (CrashRun.step (TakerSwap.program keys coins))
        (takerCrashRun keys paymentLocktime) events).journal →
      RecoversRight TakerSwapEvent.Pays TakerSwapEvent.Settles
        ((run (CrashRun.step (TakerSwap.program keys coins))
          (takerCrashRun keys paymentLocktime) events).ledger.countP
            TakerSent.isPayment ≠ 0)
        (saved.isFinished .finished) (TakerSavedSwap.isRecoverable saved) saved.journal) ∧
    (∀ (events : List (CrashEvent MakerAnswers)) (saved : MakerSavedSwap),
      saved.journal = (run (CrashRun.step (MakerSwap.program keys coins))
        (makerCrashRun keys paymentLocktime) events).journal →
      RecoversRight MakerSwapEvent.Pays MakerSwapEvent.Settles
        ((run (CrashRun.step (MakerSwap.program keys coins))
          (makerCrashRun keys paymentLocktime) events).ledger.countP
            MakerSent.isPayment ≠ 0)
        (saved.isFinished .finished) (MakerSavedSwap.isRecoverable saved) saved.journal) := by
  constructor
  · intro events saved hjournal
    have hstaged := (TakerSwap.givesUpBefore keys coins).run
      (TakerSwap.startNew keys paymentLocktime) .start id events
    refine hstaged.recoversRight .finished trivial ?_ ?_ hjournal
    · intro event haborts
      exact (event.rulesOutRecovery_iff).mpr (Or.inl haborts)
    · intro event
      exact (event.rulesOutRecovery_iff).mp
  · intro events saved hjournal
    have hstaged := (MakerSwap.givesUpBefore keys coins).run
      (MakerSwap.startNew keys paymentLocktime) .start id events
    refine hstaged.recoversRight .finished trivial ?_ ?_ hjournal
    · intro event haborts
      cases event <;> first | rfl | exact haborts.elim
    · intro event hruled
      cases event <;> simp_all [MakerSwapEvent.rulesOutRecovery, MakerSwapEvent.Aborts,
        MakerSwapEvent.Settles]

def sevenCommands {α : Type} (answers : α) : List (CrashEvent α) :=
  (List.replicate 7 answers).flatMap executeAndSave

def takerAnswered (answers : TakerAnswers) :
    CrashRun TakerSwap TakerSwapCommand TakerSwapEvent TakerSent :=
  run (CrashRun.step (TakerSwap.program sampleKeys sampleCoins))
    (takerCrashRun sampleKeys 7800) (sevenCommands answers)

def makerAnswered (answers : MakerAnswers) :
    CrashRun MakerSwap MakerSwapCommand MakerSwapEvent MakerSent :=
  run (CrashRun.step (MakerSwap.program sampleKeys sampleCoins))
    (makerCrashRun sampleKeys 7800) (sevenCommands answers)

/-- The taker pays the fee, accepts the maker payment and gets this answer when it sends
its own. -/
def paymentAnswered (answer : SendAnswer TransactionIdentifier) :
    CrashRun TakerSwap TakerSwapCommand TakerSwapEvent TakerSent :=
  takerAnswered { takerSucceeds with takerPayment := answer }

/-- The journals of a payment that did not go out and of one that did are the same. -/
theorem unsent_payment_recoverable :
    (paymentAnswered (.failed "no connection")).ledger.countP TakerSent.isPayment = 0 ∧
      TakerSavedSwap.isRecoverable
        (savedAt 0 (paymentAnswered (.failed "no connection")).journal) = true ∧
      (paymentAnswered (.failedAfterBroadcast (sampleTx 3)
        "no connection")).ledger.countP TakerSent.isPayment = 1 ∧
      (paymentAnswered (.failedAfterBroadcast (sampleTx 3) "no connection")).journal =
        (paymentAnswered (.failed "no connection")).journal := by
  decide +kernel

/-- On either side a payment that failed after it went out is recoverable, and a swap that
failed before it is not. -/
theorem sent_payment_recoverable :
    (TakerSavedSwap.isRecoverable (savedAt 0 (paymentAnswered
        (.failedAfterBroadcast (sampleTx 3) "no connection")).journal) = true ∧
      TakerSavedSwap.isRecoverable (savedAt 0 (takerAnswered
        { takerSucceeds with negotiation := .error "timeout" }).journal) = false) ∧
    MakerSavedSwap.isRecoverable (savedAt 0 (makerAnswered { makerSucceeds with
        makerPayment := .failedAfterBroadcast (sampleTx 2) "no connection" }).journal) = true ∧
      MakerSavedSwap.isRecoverable (savedAt 0 (makerAnswered makerStartFails).journal) =
        false := by
  obtain ⟨htaker, hmaker⟩ := swap_recovers_right sampleKeys sampleCoins 7800
  refine ⟨⟨(htaker _ _ (journal_savedAt 0 _)).recoverable ?_ (Or.inl ?_) ?_,
    (htaker _ _ (journal_savedAt 0 _)).not_recoverable ?_ ?_⟩,
    (hmaker _ _ (journal_savedAt 0 _)).recoverable ?_ (Or.inl ?_) ?_,
    (hmaker _ _ (journal_savedAt 0 _)).not_recoverable ?_ ?_⟩
  all_goals decide +kernel

end KdfProtocol
