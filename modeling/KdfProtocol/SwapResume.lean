import KdfProtocol.TakerSwapV1
import KdfProtocol.MakerSwapV1

/-!
# Resuming a legacy swap

A live run chooses the next command inside the handler of the last one; a
resumed run looks it up in a table, by the last saved event alone.  The two
agree for every exit of the maker's commands, and of the taker's but two: a
secret that cannot be extracted and a maker payment that cannot be spent end
the live swap and start a refund in the resumed one.  A swap that failed to
start leaves a journal that cannot be loaded.
-/

namespace KdfProtocol

open TakerSwap MakerSwap

/-! ## The taker -/

namespace TakerSwap

/-- What loading brings back: everything but the mark of the process that
started the swap. -/
def restored (swap : TakerSwap) : TakerSwap :=
  { swap with startedInThisProcess := false }

theorem restored_applyEvent (swap : TakerSwap) (event : TakerSwapEvent) :
    (swap.applyEvent event).restored = swap.restored.applyEvent event := by
  cases event <;> rfl

variable {keys : NodeKeys} {coins : SwapCoins} {data : TakerSwapData} {swap : TakerSwap}
  {answers : TakerAnswers}

variable {paymentLocktime : UInt64} {nodePub : Bytes} {e : TakerExit}

theorem loadsFromFirst (keys : NodeKeys) (coins : SwapCoins) :
    LoadsFromFirst (program keys coins) fun swap => swap.startedInThisProcess = false := by
  intro journal swap next hload
  change loadFromSaved keys coins journal = _ at hload
  unfold loadFromSaved at hload
  split at hload
  · cases hload
  next data events =>
    obtain ⟨nodePub, hnode, -⟩ := except_bind_eq_ok.mp hload
    refine ⟨_, events, new nodePub data.lockDuration,
      .started (refreshContracts coins data), rfl, rfl, rfl, fun events => ?_⟩
    change loadFromSaved keys coins (.started data :: events) = _
    simp only [loadFromSaved, hnode]
    rfl
  · cases hload

theorem refreshContracts_of_startedBy {lockDuration : UInt64}
    (hdata : StartedBy coins nodePub lockDuration data) : refreshContracts coins data = data := by
  rw [refreshContracts, ← hdata.makerContract, ← hdata.takerContract, Option.or_self,
    Option.or_self]

theorem loadFromSaved_started (hdata : StartedBy coins keys.node paymentLocktime data) :
    loadFromSaved keys coins [.started data] =
      .ok ((new keys.node paymentLocktime).applyEvent (.started data), some .negotiate) := by
  have hnode : swapNodeKeyPair keys data.myPersistentPub = .ok keys.node := by
    rw [hdata.myPersistentPub, swapNodeKeyPair_node]
  rw [loadFromSaved, refreshContracts_of_startedBy hdata]
  simp only [hnode, hdata.lockDuration]
  rfl

theorem journals (keys : NodeKeys) (coins : SwapCoins) :
    Journals (program keys coins) .start Ready restored where
  events_ne_nil _ _ _ _ hexit := (ends_of_handle hexit).events_ne_nil
  next_ne_first _ _ _ _ hexit := (ends_of_handle hexit).next_ne_start
  ready_next _ _ _ _ hready hexit := hready.next (ends_of_handle hexit)
  not_panicked _ _ answers hready := handleCommand_ne_panicked answers hready
  restored_apply := restored_applyEvent
  load_append _ _ _ _ _ hload hlast := (loadsFromFirst keys coins).load_append hload hlast

/-- The answers under which the exit of a command agrees with the table: the
coin calls of the start succeed, a spend of the taker payment that was found
gives its secret, and the maker payment can be spent. -/
def AgreesWithTable : TakerSwapCommand → TakerAnswers → Prop
  | .start, answers => startSucceeds answers.start
  | .waitForTakerPaymentSpend, answers =>
    answers.takerPaymentConfirmed = .ok () →
    (∃ tx, answers.takerPaymentSpend = .ok tx) → ∃ secret, answers.secret = .ok secret
  | .spendMakerPayment, answers => ∃ tx, answers.makerPaymentSpend = .ok tx
  | _, _ => True

theorem tabled_iff {command : TakerSwapCommand}
    (hcmd : command ≠ .start) (hends : Ends coins swap answers command e) :
    e.Tabled TakerSwapEvent.getCommand ↔ AgreesWithTable command answers := by
  have htabled : ∀ event, e.events.getLast? = some event →
      event.getCommand = e.next → e.Tabled TakerSwapEvent.getCommand :=
    fun event hlast hnext => ⟨event, hlast, hnext⟩
  cases hends with
  | startFailed err hanswers | started data hanswers hdata => exact absurd rfl hcmd
  | secretNotExtracted err tx hconf hspend hsec =>
    -- The live run finishes; the table sends the same event to the refund.
    refine iff_of_false ?_ ?_
    · rintro ⟨event, hlast, hnext⟩
      cases hlast
      cases hnext
    · intro hagrees
      exact hsec (hagrees hconf ⟨tx, hspend⟩)
  | makerPaymentSpendFailed err hans =>
    refine iff_of_false ?_ hans
    rintro ⟨event, hlast, hnext⟩
    cases hlast
    cases hnext
  | takerPaymentWaitConfirmFailed err hans =>
    exact iff_of_true (htabled _ rfl rfl) fun hconf => absurd ⟨(), hconf⟩ hans
  | takerPaymentNotSpent err hans =>
    exact iff_of_true (htabled _ rfl rfl) fun _ hspend => absurd hspend hans
  | takerPaymentSpent data hsec =>
    exact iff_of_true (htabled _ rfl rfl) fun _ _ => ⟨data.secret, hsec⟩
  | makerPaymentSpent tx hans =>
    exact iff_of_true (htabled _ rfl rfl) ⟨tx, hans⟩
  | _ => exact iff_of_true (htabled _ rfl rfl) trivial

theorem load_start_iff (hends : Ends coins (startNew keys paymentLocktime) answers .start e) :
    loadFromSaved keys coins e.events =
        .ok ((e.events.foldl applyEvent (startNew keys paymentLocktime)).restored, e.next) ↔
      startSucceeds answers.start := by
  cases hends with
  | startFailed err hans =>
    refine iff_of_false ?_ hans
    intro hload
    cases hload
  | started data hans hdata =>
    refine iff_of_true ?_ hans
    exact loadFromSaved_started hdata

theorem agreesWithTable_of_waiting {command : TakerSwapCommand}
    (hwait : swap.handleCommand coins command answers = .waiting) :
    AgreesWithTable command answers := by
  cases command with
  | start => exact absurd hwait exitOr_ne_waiting
  | waitForTakerPaymentSpend =>
    simp only [handleCommand, waitForTakerPaymentSpend] at hwait
    split at hwait
    · cases hwait
    · split at hwait
      · cases hwait
      · split at hwait
        · cases hwait
        · exact absurd hwait exitOr_ne_waiting
  | spendMakerPayment =>
    simp only [handleCommand, spendMakerPayment] at hwait
    split at hwait
    · cases hwait
    · exact absurd hwait exitOr_ne_waiting
  | _ => trivial

end TakerSwap

/-! ## The maker -/

namespace MakerSwap

def restored (swap : MakerSwap) : MakerSwap :=
  { swap with startedInThisProcess := false }

theorem restored_applyEvent (swap : MakerSwap) (event : MakerSwapEvent) :
    (swap.applyEvent event).restored = swap.restored.applyEvent event := by
  cases event <;> rfl

variable {keys : NodeKeys} {coins : SwapCoins} {data : MakerSwapData} {swap : MakerSwap}
  {answers : MakerAnswers}

variable {paymentLocktime : UInt64} {nodePub : Bytes} {e : MakerExit}

theorem loadsFromFirst (keys : NodeKeys) (coins : SwapCoins) :
    LoadsFromFirst (program keys coins) fun swap => swap.startedInThisProcess = false := by
  intro journal swap next hload
  change loadFromSaved keys coins journal = _ at hload
  unfold loadFromSaved at hload
  split at hload
  · cases hload
  next data events =>
    obtain ⟨nodePub, hnode, -⟩ := except_bind_eq_ok.mp hload
    refine ⟨_, events, new nodePub data.lockDuration,
      .started (refreshContracts coins data), rfl, rfl, rfl, fun events => ?_⟩
    change loadFromSaved keys coins (.started data :: events) = _
    simp only [loadFromSaved, hnode]
    rfl
  · cases hload

theorem refreshContracts_of_startedBy {lockDuration : UInt64}
    (hdata : StartedBy coins nodePub lockDuration data) : refreshContracts coins data = data := by
  rw [refreshContracts, ← hdata.makerContract, ← hdata.takerContract, Option.or_self,
    Option.or_self]

theorem loadFromSaved_started (hdata : StartedBy coins keys.node paymentLocktime data) :
    loadFromSaved keys coins [.started data] =
      .ok ((new keys.node paymentLocktime).applyEvent (.started data), some .negotiate) := by
  have hnode : swapNodeKeyPair keys data.myPersistentPub = .ok keys.node := by
    rw [hdata.myPersistentPub, swapNodeKeyPair_node]
  rw [loadFromSaved, refreshContracts_of_startedBy hdata]
  simp only [hnode, hdata.lockDuration]
  rfl

theorem journals (keys : NodeKeys) (coins : SwapCoins) :
    Journals (program keys coins) .start Ready restored where
  events_ne_nil _ _ _ _ hexit := (ends_of_handle hexit).events_ne_nil
  next_ne_first _ _ _ _ hexit := (ends_of_handle hexit).next_ne_start
  ready_next _ _ _ _ hready hexit := hready.next (ends_of_handle hexit)
  not_panicked _ _ answers hready := handleCommand_ne_panicked answers hready
  restored_apply := restored_applyEvent
  load_append _ _ _ _ _ hload hlast := (loadsFromFirst keys coins).load_append hload hlast

/-- The answers under which the exit of a command agrees with the table: the
coin calls of the start succeed. -/
def AgreesWithTable : MakerSwapCommand → MakerAnswers → Prop
  | .start, answers => startSucceeds answers.start
  | _, _ => True

theorem tabled_of_ends {command : MakerSwapCommand}
    (hends : Ends coins swap answers command e) : e.Tabled MakerSwapEvent.getCommand := by
  cases hends <;> exact ⟨_, rfl, rfl⟩

theorem load_start_iff (hends : Ends coins (startNew keys paymentLocktime) answers .start e) :
    loadFromSaved keys coins e.events =
        .ok ((e.events.foldl applyEvent (startNew keys paymentLocktime)).restored, e.next) ↔
      startSucceeds answers.start := by
  cases hends with
  | startFailed err hans =>
    refine iff_of_false ?_ hans
    intro hload
    cases hload
  | started data hans hdata =>
    refine iff_of_true ?_ hans
    exact loadFromSaved_started hdata

theorem agreesWithTable_of_waiting {command : MakerSwapCommand}
    (hwait : swap.handleCommand coins command answers = .waiting) :
    AgreesWithTable command answers := by
  cases command with
  | start => exact absurd hwait exitOr_ne_waiting
  | _ => trivial

end MakerSwap

/-! ## Both sides -/

/-- A swap resumes like the live run from every prefix of its journal, on the
taker's and on the maker's side, exactly when all answers agree with the
tables. -/
theorem swap_resumes_iff (keys : NodeKeys) (coins : SwapCoins) (paymentLocktime : UInt64) :
    (∀ inputs : List TakerAnswers,
      EveryState (LiveRun.step (TakerSwap.program keys coins))
          (LiveRun.Resumes (TakerSwap.program keys coins) TakerSwap.restored)
          ⟨TakerSwap.startNew keys paymentLocktime, some .start, []⟩ inputs ↔
        EveryStep (LiveRun.step (TakerSwap.program keys coins))
          (LiveRun.Meets TakerSwap.AgreesWithTable)
          ⟨TakerSwap.startNew keys paymentLocktime, some .start, []⟩ inputs) ∧
    (∀ inputs : List MakerAnswers,
      EveryState (LiveRun.step (MakerSwap.program keys coins))
          (LiveRun.Resumes (MakerSwap.program keys coins) MakerSwap.restored)
          ⟨MakerSwap.startNew keys paymentLocktime, some .start, []⟩ inputs ↔
        EveryStep (LiveRun.step (MakerSwap.program keys coins))
          (LiveRun.Meets MakerSwap.AgreesWithTable)
          ⟨MakerSwap.startNew keys paymentLocktime, some .start, []⟩ inputs) := by
  constructor
  · refine LiveRun.everyState_resumes_iff (TakerSwap.journals keys coins) ?_ ?_ ?_ trivial
    · intro s command answers hwaiting
      exact agreesWithTable_of_waiting hwaiting
    · intro answers e hexit
      exact load_start_iff (ends_of_handle hexit)
    · intro s command answers e hne hexit
      exact tabled_iff hne (ends_of_handle hexit)
  · refine LiveRun.everyState_resumes_iff (MakerSwap.journals keys coins) ?_ ?_ ?_ trivial
    · intro s command answers hwaiting
      exact agreesWithTable_of_waiting hwaiting
    · intro answers e hexit
      exact load_start_iff (ends_of_handle hexit)
    · intro s command answers e hne hexit
      have htrue : MakerSwap.AgreesWithTable command answers := by
        cases command with
        | start => exact absurd rfl hne
        | _ => trivial
      exact iff_of_true (tabled_of_ends (ends_of_handle hexit)) htrue

def sampleKeys : NodeKeys where
  node := List.replicate 33 2
  legacy := List.replicate 33 3

def sampleTerms : MatchedTerms where
  uuid := 7
  makerAmount := 2
  takerAmount := 1
  makerPaymentConfirmations := 1
  makerPaymentRequiresNota := some false
  takerPaymentConfirmations := 1
  takerPaymentRequiresNota := some false

def sampleCoins : SwapCoins where
  makerTicker := "RICK"
  takerTicker := "MORTY"
  terms := sampleTerms
  otherPub := List.replicate 32 4
  makerSwapContractAddress := none
  takerSwapContractAddress := none
  makerKeyIsRandomPerSwap := false
  takerKeyIsRandomPerSwap := false
  noFee _ := false
  negotiateMakerContract _ := .ok none
  negotiateTakerContract _ := .ok none
  validateMakerPubkey _ := .ok ()
  validateTakerPubkey _ := .ok ()

def sampleTx (byte : UInt8) : TransactionIdentifier := ⟨[byte], [byte]⟩

def sampleNegotiation (startedAt paymentLocktime : UInt64) : NegotiationDataMsg :=
  .v2
    { startedAt := startedAt
      paymentLocktime := paymentLocktime
      secretHash := List.replicate 20 1
      persistentPubkey := List.replicate 33 4
      makerCoinSwapContract := []
      takerCoinSwapContract := [] }

def takerSucceeds : TakerAnswers where
  now := 1700000000
  start :=
    { makerHtlcKey := .ok ()
      takerHtlcKey := .ok ()
      htlcPubkeys := .ok (List.replicate 33 2, List.replicate 33 2)
      feeToSendTakerFee := .ok ()
      senderTradeFee := .ok ()
      receiverTradeFee := .ok ()
      balance := .ok ()
      ownPaymentWatchable := .ok ()
      makerCurrentBlock := .ok ()
      takerCurrentBlock := .ok () }
  negotiation := .ok (sampleNegotiation 1700000000 1700015600)
  negotiated := .ok true
  takerFee := .sent (sampleTx 1)
  makerPaymentMsg := .ok [2]
  makerPayment := .ok (sampleTx 2)
  makerPaymentConfirmed := .ok ()
  makerPaymentValid := .ok ()
  takerPaymentAlreadySent := .ok none
  takerPayment := .sent (sampleTx 3)
  takerPaymentConfirmed := .ok ()
  takerPaymentSpend := .ok (sampleTx 4)
  secret := .ok (List.replicate 32 7)
  makerPaymentSpend := .ok (sampleTx 5)
  refundSearch := .notFound
  refundRounds := []

def makerSucceeds : MakerAnswers where
  now := 1700000000
  start :=
    { senderTradeFee := .ok ()
      receiverTradeFee := .ok ()
      balance := .ok ()
      secret := List.replicate 32 7
      secretHash := List.replicate 20 1
      makerCurrentBlock := .ok ()
      takerCurrentBlock := .ok ()
      makerHtlcKey := .ok ()
      takerHtlcKey := .ok ()
      htlcPubkeys := .ok (List.replicate 33 2, List.replicate 33 2) }
  negotiationReply := .ok (sampleNegotiation 1700000000 1700007800)
  takerFeeMsg := .ok [1]
  takerFee := .ok (sampleTx 1)
  takerFeeValid := [.ok ()]
  makerPaymentAlreadySent := .ok none
  makerPayment := .sent (sampleTx 2)
  makerPaymentConfirmed := .ok ()
  takerPaymentMsg := .ok [3]
  takerPayment := .ok (sampleTx 3)
  takerPaymentConfirmed := .ok ()
  takerPaymentValid := .ok ()
  takerPaymentSpend := .sent (sampleTx 4)
  takerPaymentSpendConfirmed := .ok ()
  refundRounds := []

def makerStartFails : MakerAnswers :=
  { makerSucceeds with
    start := { makerSucceeds.start with senderTradeFee := .error "no connection" } }

def sampleTakerRun (inputs : List TakerAnswers) :
    LiveRun TakerSwap TakerSwapCommand TakerSwapEvent :=
  run (LiveRun.step (TakerSwap.program sampleKeys sampleCoins))
    ⟨TakerSwap.startNew sampleKeys 7800, some .start, []⟩ inputs

def sampleMakerRun (inputs : List MakerAnswers) :
    LiveRun MakerSwap MakerSwapCommand MakerSwapEvent :=
  run (LiveRun.step (MakerSwap.program sampleKeys sampleCoins))
    ⟨MakerSwap.startNew sampleKeys 7800, some .start, []⟩ inputs

/-- A taker that could not spend the maker payment, or not extract the secret,
finishes if it lives on and starts a refund if it is resumed; a swap that failed
to start cannot be loaded, on either side. -/
theorem resumed_swap_differs :
    ((sampleTakerRun (List.replicate 7 takerSucceeds ++
        [{ takerSucceeds with makerPaymentSpend := .error "rejected" }])).command =
          some .finish ∧
      (TakerSwap.loadFromSaved sampleKeys sampleCoins
        (sampleTakerRun (List.replicate 7 takerSucceeds ++
          [{ takerSucceeds with
            makerPaymentSpend := .error "rejected" }])).journal).toOption.map
              Prod.snd = some (some .refundTakerPayment)) ∧
    ((sampleTakerRun (List.replicate 6 takerSucceeds ++
        [{ takerSucceeds with secret := .error "no secret" }])).command =
          some .finish ∧
      (TakerSwap.loadFromSaved sampleKeys sampleCoins
        (sampleTakerRun (List.replicate 6 takerSucceeds ++
          [{ takerSucceeds with
            secret := .error "no secret" }])).journal).toOption.map
              Prod.snd = some (some .refundTakerPayment)) ∧
    ((sampleTakerRun
        [{ takerSucceeds with
          start := { takerSucceeds.start with
            balance := .error "not enough" } }]).journal.length = 1 ∧
      (TakerSwap.loadFromSaved sampleKeys sampleCoins
        (sampleTakerRun
          [{ takerSucceeds with
            start := { takerSucceeds.start with
              balance := .error "not enough" } }]).journal).toOption = none) ∧
    (sampleMakerRun [makerStartFails]).journal.length = 1 ∧
      (MakerSwap.loadFromSaved sampleKeys sampleCoins
        (sampleMakerRun [makerStartFails]).journal).toOption = none := by
  decide +kernel

end KdfProtocol
