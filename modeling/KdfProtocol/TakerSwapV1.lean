import KdfProtocol.SwapMessages

/-!
# The taker of a legacy swap

The commands of a taker swap, the events they end with and what the events
change, and how a swap is restored from its saved events.  What the coins, the
peer and the clock answer to a command is given to it.
-/

namespace KdfProtocol

inductive TakerSwapCommand where
  | start
  | negotiate
  | sendTakerFee
  | waitForMakerPayment
  | validateMakerPayment
  | sendTakerPayment
  | waitForTakerPaymentSpend
  | spendMakerPayment
  | refundTakerPayment
  | finish
  deriving DecidableEq

structure TakerSwapData where
  takerCoin : String
  makerCoin : String
  maker : Bytes
  terms : MatchedTerms
  myPersistentPub : Bytes
  lockDuration : UInt64
  takerPaymentLock : UInt64
  startedAt : UInt64
  makerPaymentWait : UInt64
  makerCoinSwapContractAddress : Option Bytes
  takerCoinSwapContractAddress : Option Bytes
  makerCoinHtlcPubkey : Bytes
  takerCoinHtlcPubkey : Bytes
  deriving DecidableEq

structure MakerNegotiationData where
  makerPaymentLocktime : UInt64
  makerPubkey : Bytes
  secretHash : Bytes
  makerCoinSwapContractAddr : Option Bytes
  takerCoinSwapContractAddr : Option Bytes
  makerCoinHtlcPubkey : Bytes
  takerCoinHtlcPubkey : Bytes
  deriving DecidableEq

structure TakerPaymentSpentData where
  transaction : TransactionIdentifier
  secret : Bytes
  deriving DecidableEq

inductive TakerSwapEvent where
  | started (data : TakerSwapData)
  | startFailed (err : String)
  | negotiated (data : MakerNegotiationData)
  | negotiateFailed (err : String)
  | takerFeeSent (tx : TransactionIdentifier)
  | takerFeeSendFailed (err : String)
  | takerPaymentInstructionsReceived
  | makerPaymentReceived (tx : TransactionIdentifier)
  | makerPaymentWaitConfirmStarted
  | makerPaymentValidatedAndConfirmed
  | makerPaymentValidateFailed (err : String)
  | makerPaymentWaitConfirmFailed (err : String)
  | takerPaymentSent (tx : TransactionIdentifier)
  | watcherMessageSent
  | takerPaymentTransactionFailed (err : String)
  | takerPaymentDataSendFailed (err : String)
  | takerPaymentWaitConfirmFailed (err : String)
  | takerPaymentSpent (data : TakerPaymentSpentData)
  | takerPaymentWaitForSpendFailed (err : String)
  | makerPaymentSpent (tx : TransactionIdentifier)
  | makerPaymentSpendConfirmed
  | makerPaymentSpendConfirmFailed (err : String)
  | makerPaymentSpentByWatcher (tx : TransactionIdentifier)
  | makerPaymentSpendFailed (err : String)
  | takerPaymentWaitRefundStarted (waitUntil : UInt64)
  | takerPaymentRefundStarted
  | takerPaymentRefunded (tx : TransactionIdentifier)
  | takerPaymentRefundFinished
  | takerPaymentRefundedByWatcher (tx : TransactionIdentifier)
  | takerPaymentRefundFailed (err : String)
  | finished
  deriving DecidableEq

def TakerSwapEvent.getCommand : TakerSwapEvent → Option TakerSwapCommand
  | .started _ => some .negotiate
  | .startFailed _ => some .finish
  | .negotiated _ => some .sendTakerFee
  | .negotiateFailed _ => some .finish
  | .takerFeeSent _ => some .waitForMakerPayment
  | .takerFeeSendFailed _ => some .finish
  | .takerPaymentInstructionsReceived | .makerPaymentReceived _ | .makerPaymentWaitConfirmStarted =>
    some .validateMakerPayment
  | .makerPaymentValidatedAndConfirmed => some .sendTakerPayment
  | .makerPaymentValidateFailed _ | .makerPaymentWaitConfirmFailed _ => some .finish
  | .takerPaymentSent _ | .watcherMessageSent => some .waitForTakerPaymentSpend
  | .takerPaymentTransactionFailed _ => some .finish
  | .takerPaymentDataSendFailed _ => some .refundTakerPayment
  | .takerPaymentSpent _ => some .spendMakerPayment
  | .takerPaymentWaitForSpendFailed _ | .takerPaymentWaitConfirmFailed _ => some .refundTakerPayment
  | .makerPaymentSpent _ | .makerPaymentSpendConfirmed | .makerPaymentSpendConfirmFailed _
  | .makerPaymentSpentByWatcher _ => some .finish
  | .makerPaymentSpendFailed _ | .takerPaymentWaitRefundStarted _ | .takerPaymentRefundStarted =>
    some .refundTakerPayment
  | .takerPaymentRefunded _ | .takerPaymentRefundFinished | .takerPaymentRefundedByWatcher _
  | .takerPaymentRefundFailed _ => some .finish
  | .finished => none

/-! ## The swap and its events -/

structure TakerSwap where
  myPersistentPub : Bytes
  paymentLocktime : UInt64
  makerPaymentLock : UInt64
  makerPaymentConfirmed : Bool
  errors : List String
  startedInThisProcess : Bool
  data : TakerSwapData
  otherMakerCoinHtlcPub : Bytes
  otherTakerCoinHtlcPub : Bytes
  takerFee : Option TransactionIdentifier
  makerPayment : Option TransactionIdentifier
  takerPayment : Option TransactionIdentifier
  makerPaymentSpend : Option TransactionIdentifier
  takerPaymentSpend : Option TransactionIdentifier
  takerPaymentRefund : Option TransactionIdentifier
  secretHash : Bytes
  secret : Bytes
  myMakerCoinHtlcPub : Bytes
  myTakerCoinHtlcPub : Bytes
  deriving DecidableEq

namespace TakerSwap

def emptyData : TakerSwapData where
  takerCoin := ""
  makerCoin := ""
  maker := List.replicate 32 0
  terms := .empty
  myPersistentPub := List.replicate 33 0
  lockDuration := 0
  takerPaymentLock := 0
  startedAt := 0
  makerPaymentWait := 0
  makerCoinSwapContractAddress := none
  takerCoinSwapContractAddress := none
  makerCoinHtlcPubkey := []
  takerCoinHtlcPubkey := []

def new (nodePub : Bytes) (paymentLocktime : UInt64) : TakerSwap where
  myPersistentPub := nodePub
  paymentLocktime := paymentLocktime
  makerPaymentLock := 0
  makerPaymentConfirmed := false
  errors := []
  startedInThisProcess := false
  data := emptyData
  otherMakerCoinHtlcPub := List.replicate 33 0
  otherTakerCoinHtlcPub := List.replicate 33 0
  takerFee := none
  makerPayment := none
  takerPayment := none
  makerPaymentSpend := none
  takerPaymentSpend := none
  takerPaymentRefund := none
  secretHash := []
  secret := List.replicate 32 0
  myMakerCoinHtlcPub := nodePub
  myTakerCoinHtlcPub := nodePub

def pushError (swap : TakerSwap) (err : String) : TakerSwap :=
  { swap with errors := swap.errors ++ [err] }

def applyNegotiated (swap : TakerSwap) (data : MakerNegotiationData) : TakerSwap :=
  { swap with
    makerPaymentLock := data.makerPaymentLocktime
    otherMakerCoinHtlcPub := data.makerCoinHtlcPubkey
    otherTakerCoinHtlcPub := data.takerCoinHtlcPubkey
    secretHash := data.secretHash
    data := { swap.data with
      makerCoinSwapContractAddress :=
        data.makerCoinSwapContractAddr.or swap.data.makerCoinSwapContractAddress
      takerCoinSwapContractAddress :=
        data.takerCoinSwapContractAddr.or swap.data.takerCoinSwapContractAddress } }

def applyEvent (swap : TakerSwap) : TakerSwapEvent → TakerSwap
  | .started data =>
    { swap with
      myMakerCoinHtlcPub := data.makerCoinHtlcPubkey
      myTakerCoinHtlcPub := data.takerCoinHtlcPubkey
      data := data }
  | .startFailed err => swap.pushError err
  | .negotiated data => swap.applyNegotiated data
  | .negotiateFailed err => swap.pushError err
  | .takerFeeSent tx => { swap with takerFee := some tx }
  | .takerFeeSendFailed err => swap.pushError err
  | .takerPaymentInstructionsReceived => swap
  | .makerPaymentReceived tx => { swap with makerPayment := some tx }
  | .makerPaymentWaitConfirmStarted => swap
  | .makerPaymentValidatedAndConfirmed =>
    { swap with makerPaymentConfirmed := true }
  | .makerPaymentValidateFailed err | .makerPaymentWaitConfirmFailed err => swap.pushError err
  | .takerPaymentSent tx => { swap with takerPayment := some tx }
  | .watcherMessageSent => swap
  | .takerPaymentTransactionFailed err | .takerPaymentDataSendFailed err
  | .takerPaymentWaitConfirmFailed err => swap.pushError err
  | .takerPaymentSpent data =>
    { swap with
      takerPaymentSpend := some data.transaction
      secret := data.secret }
  | .takerPaymentWaitForSpendFailed err => swap.pushError err
  | .makerPaymentSpent tx => { swap with makerPaymentSpend := some tx }
  | .makerPaymentSpendConfirmed => swap
  | .makerPaymentSpendConfirmFailed err => swap.pushError err
  | .makerPaymentSpentByWatcher tx => { swap with makerPaymentSpend := some tx }
  | .makerPaymentSpendFailed err => swap.pushError err
  | .takerPaymentWaitRefundStarted _ | .takerPaymentRefundStarted => swap
  | .takerPaymentRefunded tx => { swap with takerPaymentRefund := some tx }
  | .takerPaymentRefundFinished => swap
  | .takerPaymentRefundedByWatcher tx =>
    { swap with takerPaymentRefund := some tx }
  | .takerPaymentRefundFailed err => swap.pushError err
  | .finished => swap

def waitRefundUntil (swap : TakerSwap) : UInt64 :=
  swap.data.takerPaymentLock + 3700

end TakerSwap

/-! ## Answers -/

structure TakerStartAnswers where
  makerHtlcKey : Except String Unit
  takerHtlcKey : Except String Unit
  htlcPubkeys : Except String (Bytes × Bytes)
  feeToSendTakerFee : Except String Unit
  senderTradeFee : Except String Unit
  receiverTradeFee : Except String Unit
  balance : Except String Unit
  ownPaymentWatchable : Except String Unit
  makerCurrentBlock : Except String Unit
  takerCurrentBlock : Except String Unit

inductive TakerPaymentSearch where
  | failed
  | notFound
  | spent (tx : TransactionIdentifier) (secret : Except String Bytes)
  | refunded (tx : TransactionIdentifier)

inductive TakerRefundRound where
  | gateError
  /-- The lock time is not reached; the chain is looked at if the last look is
  old enough. -/
  | haveToWait (search : Option TakerPaymentSearch)
  | refunded (tx : TransactionIdentifier)
  | rejected (err : String) (retriable : Bool) (now : UInt64) (search : TakerPaymentSearch)

structure TakerAnswers where
  now : UInt64
  start : TakerStartAnswers
  negotiation : Except String NegotiationDataMsg
  negotiated : Except String Bool
  takerFee : SendAnswer TransactionIdentifier
  makerPaymentMsg : Except String Bytes
  makerPayment : Except String TransactionIdentifier
  makerPaymentConfirmed : Except String Unit
  makerPaymentValid : Except String Unit
  takerPaymentAlreadySent : Except String (Option TransactionIdentifier)
  takerPayment : SendAnswer TransactionIdentifier
  takerPaymentConfirmed : Except String Unit
  takerPaymentSpend : Except String TransactionIdentifier
  secret : Except String Bytes
  makerPaymentSpend : Except String TransactionIdentifier
  refundSearch : TakerPaymentSearch
  refundRounds : List TakerRefundRound

inductive TakerSent where
  | fee (tx : TransactionIdentifier)
  | payment (tx : TransactionIdentifier)
  deriving DecidableEq

abbrev TakerExit := Exit TakerSwapCommand TakerSwapEvent TakerSent

abbrev TakerOutcome := Outcome TakerSwapCommand TakerSwapEvent TakerSent

/-! ## Commands -/

def makerPaymentWait (swapStartedAt paymentLocktime : UInt64) : UInt64 :=
  swapStartedAt + paymentLocktime * 2 / 5

namespace TakerSwap

def finishWith (failed : String → TakerSwapEvent) (err : String) : TakerExit where
  next := some .finish
  events := [failed err]

variable (coins : SwapCoins) (swap : TakerSwap) (answers : TakerAnswers)

def startData (now : UInt64) (answers : TakerStartAnswers) : Except String TakerSwapData := do
  answered "" answers.makerHtlcKey
  answered "" answers.takerHtlcKey
  let pubkeys ← answered "" answers.htlcPubkeys
  answered "!taker_coin.get_fee_to_send_taker_fee " answers.feeToSendTakerFee
  answered "!taker_coin.get_sender_trade_fee " answers.senderTradeFee
  answered "!maker_coin.get_receiver_trade_fee " answers.receiverTradeFee
  answered "!check_balance_for_taker_swap " answers.balance
  answered "!taker_coin.ensure_own_payment_watchable " answers.ownPaymentWatchable
  answered "!maker_coin.current_block " answers.makerCurrentBlock
  answered "!taker_coin.current_block " answers.takerCurrentBlock
  pure
    { takerCoin := coins.takerTicker
      makerCoin := coins.makerTicker
      maker := coins.otherPub
      terms := coins.terms
      myPersistentPub := swap.myPersistentPub
      lockDuration := swap.paymentLocktime
      takerPaymentLock := now + swap.paymentLocktime
      startedAt := now
      makerPaymentWait := makerPaymentWait now swap.paymentLocktime
      makerCoinSwapContractAddress := coins.makerSwapContractAddress
      takerCoinSwapContractAddress := coins.takerSwapContractAddress
      makerCoinHtlcPubkey := pubkeys.1
      takerCoinHtlcPubkey := pubkeys.2 }

def start (coins : SwapCoins) (swap : TakerSwap) (answers : TakerAnswers) : TakerOutcome :=
  exitOr (finishWith .startFailed) (swap.startData coins answers.now answers.start)
    fun data => { next := some .negotiate, events := [.started data] }

def checkMakerData : Except String MakerNegotiationData := do
  let makerData ← answered "" answers.negotiation
  let dif := timeDif swap.data.startedAt makerData.startedAt
  rejectIf (60 < dif) s!"Started_at time_dif over 60 {dif}"
  let expectedLockTime := makerData.startedAt + swap.data.lockDuration * 2
  let locktime := makerData.paymentLocktime
  rejectIf (locktime ≠ expectedLockTime)
    s!"maker_data.payment_locktime {locktime} not equal to expected {expectedLockTime}"
  let makerContract ← answered "!maker_coin.negotiate_swap_contract_addr "
    (coins.negotiateMakerContract makerData.makerCoinSwapContract)
  let takerContract ← answered "!taker_coin.negotiate_swap_contract_addr "
    (coins.negotiateTakerContract makerData.takerCoinSwapContract)
  let negotiated ← answered "" answers.negotiated
  rejectIf (negotiated = false) "Maker sent negotiated = false"
  validateWirePubkey makerData.makerCoinHtlcPub "maker_coin_htlc_pub"
  validateWirePubkey makerData.takerCoinHtlcPub "taker_coin_htlc_pub"
  validateWireFieldLen makerData.secretHash swapWireSecretHashMinLen "secret_hash"
  answered ("!" ++ coins.makerTicker ++ ".validate_other_pubkey maker_coin_htlc_pub: ")
    (coins.validateMakerPubkey makerData.makerCoinHtlcPub)
  answered ("!" ++ coins.takerTicker ++ ".validate_other_pubkey taker_coin_htlc_pub: ")
    (coins.validateTakerPubkey makerData.takerCoinHtlcPub)
  pure
    { makerPaymentLocktime := makerData.paymentLocktime
      -- The field is not to be used in place of the HTLC keys.
      makerPubkey := List.replicate 33 0
      secretHash := makerData.secretHash
      makerCoinSwapContractAddr := makerContract
      takerCoinSwapContractAddr := takerContract
      makerCoinHtlcPubkey := makerData.makerCoinHtlcPub
      takerCoinHtlcPubkey := makerData.takerCoinHtlcPub }

def negotiate : TakerOutcome :=
  exitOr (finishWith .negotiateFailed) (swap.checkMakerData coins answers)
    fun data => { next := some .sendTakerFee, events := [.negotiated data] }

def sendTakerFee : TakerExit :=
  let timeout := swap.data.startedAt + swap.data.lockDuration / 3
  let now := answers.now
  if timeout < now then
    finishWith .takerFeeSendFailed s!"Timeout {now} > {timeout}"
  else if coins.noFee swap.myTakerCoinHtlcPub then
    -- A waived fee is recorded as sent and puts nothing on the chain.
    { next := some .waitForMakerPayment
      events := [.takerFeeSent ⟨[], []⟩] }
  else
    match answers.takerFee.result with
    | .ok tx =>
      { next := some .waitForMakerPayment
        events := [.takerFeeSent tx]
        sent := [.fee tx] }
    | .error err =>
      { finishWith .takerFeeSendFailed err with
        sent := answers.takerFee.broadcast.toList.map .fee }

def receiveMakerPayment : Except String TransactionIdentifier := do
  let _ ← answered "Error waiting for 'maker-payment' data: " answers.makerPaymentMsg
  answered "Error parsing the 'maker-payment': " answers.makerPayment

def waitForMakerPayment : TakerOutcome :=
  match swap.takerFee with
  | none => .panicked
  | some _ =>
    exitOr (finishWith .makerPaymentValidateFailed) (receiveMakerPayment answers)
      fun tx =>
        { next := some .validateMakerPayment
          events := [.makerPaymentReceived tx, .makerPaymentWaitConfirmStarted] }

def validateMakerPayment : TakerOutcome :=
  match swap.makerPayment with
  | none => .panicked
  | some _ =>
    match answers.makerPaymentConfirmed with
    | .error err =>
      .exited (finishWith .makerPaymentWaitConfirmFailed
        ("!wait for maker payment confirmations: " ++ err))
    | .ok _ =>
      exitOr (finishWith .makerPaymentValidateFailed)
        (answered "!validate maker payment: " answers.makerPaymentValid)
        fun _ =>
          { next := some .sendTakerPayment
            events := [.makerPaymentValidatedAndConfirmed] }

def takerPaymentAlreadySent (coins : SwapCoins) (swap : TakerSwap)
    (answers : TakerAnswers) : Except String (Option TransactionIdentifier) :=
  if skipsAlreadySentQuestion coins.takerKeyIsRandomPerSwap
      swap.startedInThisProcess swap.takerPayment.isSome then .ok none
  else answers.takerPaymentAlreadySent

def takerPaymentSent (tx : TransactionIdentifier) (sent : List TakerSent) : TakerExit where
  next := some .waitForTakerPaymentSpend
  events := [.takerPaymentSent tx]
  sent := sent

def sendTakerPayment : TakerExit :=
  match swap.takerPaymentAlreadySent coins answers with
  | .error err => finishWith .takerPaymentTransactionFailed err
  | .ok (some tx) => takerPaymentSent tx []
  | .ok none =>
    let timeout := swap.data.makerPaymentWait
    let now := answers.now
    if timeout < now then
      finishWith .takerPaymentTransactionFailed s!"Timeout {now} > {timeout}"
    else
      match answers.takerPayment.result with
      | .ok tx => takerPaymentSent tx [.payment tx]
      | .error err =>
        { finishWith .takerPaymentTransactionFailed err with
          sent := answers.takerPayment.broadcast.toList.map .payment }

def refundAfter (failed : TakerSwapEvent) : TakerExit where
  next := some .refundTakerPayment
  events := [failed, .takerPaymentWaitRefundStarted swap.waitRefundUntil]

def waitForTakerPaymentSpend : TakerOutcome :=
  match swap.takerPayment with
  | none => .panicked
  | some _ =>
    match answers.takerPaymentConfirmed with
    | .error err =>
      .exited (swap.refundAfter (.takerPaymentWaitConfirmFailed
        ("!taker_coin.wait_for_confirmations: " ++ err)))
    | .ok _ =>
      match answers.takerPaymentSpend with
      | .error err => .exited (swap.refundAfter (.takerPaymentWaitForSpendFailed err))
      | .ok tx =>
        exitOr (finishWith .takerPaymentWaitForSpendFailed) (answered "" answers.secret)
          fun secret =>
            { next := some .spendMakerPayment
              events := [.takerPaymentSpent ⟨tx, secret⟩] }

def spendMakerPayment : TakerOutcome :=
  match swap.makerPayment with
  | none => .panicked
  | some _ =>
    exitOr (finishWith .makerPaymentSpendFailed) (answered "" answers.makerPaymentSpend)
      fun tx => { next := some .finish, events := [.makerPaymentSpent tx] }

def refundOutcomeFromChain (search : TakerPaymentSearch) : Option TakerExit :=
  if swap.takerPaymentSpend.isSome || swap.takerPayment.isNone then none
  else
    match search with
    | .failed | .notFound => none
    | .spent tx (.ok secret) =>
      some
        { next := some .spendMakerPayment
          events := [.takerPaymentSpent ⟨tx, secret⟩] }
    | .spent _ (.error _) => none
    | .refunded tx => some { next := some .finish, events := [.takerPaymentRefunded tx] }

def refundLoop (swap : TakerSwap) : List TakerRefundRound → TakerOutcome
  | [] => .waiting
  | .gateError :: rounds | .haveToWait none :: rounds => refundLoop swap rounds
  | .haveToWait (some search) :: rounds =>
    match swap.refundOutcomeFromChain search with
    | some exit => .exited exit
    | none => refundLoop swap rounds
  | .refunded tx :: _ =>
    if swap.takerPayment.isNone then .panicked
    else
      .exited { next := some .finish, events := [.takerPaymentRefunded tx] }
  | .rejected err retriable now search :: rounds =>
    if swap.takerPayment.isNone then .panicked
    else if retriable && now < swap.waitRefundUntil then
      refundLoop swap rounds
    else
      match swap.refundOutcomeFromChain search with
      | some exit => .exited exit
      | none => .exited (finishWith .takerPaymentRefundFailed err)

def refundTakerPayment : TakerOutcome :=
  match swap.refundOutcomeFromChain answers.refundSearch with
  | some exit => .exited exit
  | none => swap.refundLoop answers.refundRounds

def handleCommand (command : TakerSwapCommand) (answers : TakerAnswers) : TakerOutcome :=
  match command with
  | .start => swap.start coins answers
  | .negotiate => swap.negotiate coins answers
  | .sendTakerFee => .exited (swap.sendTakerFee coins answers)
  | .waitForMakerPayment => swap.waitForMakerPayment answers
  | .validateMakerPayment => swap.validateMakerPayment answers
  | .sendTakerPayment => .exited (swap.sendTakerPayment coins answers)
  | .waitForTakerPaymentSpend => swap.waitForTakerPaymentSpend answers
  | .spendMakerPayment => swap.spendMakerPayment answers
  | .refundTakerPayment => swap.refundTakerPayment answers
  | .finish => .exited { next := none, events := [.finished] }

/-! ## Loading -/

def refreshContracts (data : TakerSwapData) : TakerSwapData :=
  { data with
    makerCoinSwapContractAddress :=
      data.makerCoinSwapContractAddress.or coins.makerSwapContractAddress
    takerCoinSwapContractAddress :=
      data.takerCoinSwapContractAddress.or coins.takerSwapContractAddress }

def loadFromSaved (keys : NodeKeys) (coins : SwapCoins) :
    List TakerSwapEvent → Except String (TakerSwap × Option TakerSwapCommand)
  | [] => .error "Can't restore swap from empty events set"
  | .started saved :: events => do
      let data := refreshContracts coins saved
      let nodePub ← swapNodeKeyPair keys data.myPersistentPub
      let swap := TakerSwap.new nodePub data.lockDuration
      let command := (events.getLast?.getD (.started data)).getCommand
      pure ((TakerSwapEvent.started data :: events).foldl applyEvent swap, command)
  | _ => .error "First swap event must be Started"

def program (keys : NodeKeys) (coins : SwapCoins) :
    CommandProgram TakerSwap TakerSwapCommand TakerSwapEvent TakerSent TakerAnswers where
  handle := handleCommand coins
  apply := applyEvent
  command := TakerSwapEvent.getCommand
  load := loadFromSaved keys coins

def startNew (keys : NodeKeys) (paymentLocktime : UInt64) : TakerSwap :=
  { TakerSwap.new keys.node paymentLocktime with startedInThisProcess := true }

/-! ## What a command can end with -/

def startSucceeds (answers : TakerStartAnswers) : Prop :=
  answers.makerHtlcKey = .ok () ∧ answers.takerHtlcKey = .ok () ∧
    (∃ pubkeys, answers.htlcPubkeys = .ok pubkeys) ∧
    answers.feeToSendTakerFee = .ok () ∧ answers.senderTradeFee = .ok () ∧
    answers.receiverTradeFee = .ok () ∧ answers.balance = .ok () ∧
    answers.ownPaymentWatchable = .ok () ∧
    answers.makerCurrentBlock = .ok () ∧ answers.takerCurrentBlock = .ok ()

structure StartedBy (coins : SwapCoins) (nodePub : Bytes)
    (lockDuration : UInt64) (data : TakerSwapData) : Prop where
  myPersistentPub : data.myPersistentPub = nodePub
  lockDuration : data.lockDuration = lockDuration
  makerContract : data.makerCoinSwapContractAddress = coins.makerSwapContractAddress
  takerContract : data.takerCoinSwapContractAddress = coins.takerSwapContractAddress
  makerCoin : data.makerCoin = coins.makerTicker
  takerCoin : data.takerCoin = coins.takerTicker
  terms : data.terms = coins.terms

variable {coins : SwapCoins} {swap : TakerSwap}

variable {answers : TakerStartAnswers}
  {command : TakerSwapCommand} {e : TakerExit} {now : UInt64}

theorem startData_isOk_iff :
    (∃ data, swap.startData coins now answers = .ok data) ↔ startSucceeds answers := by
  simp only [startData, except_bind_eq_ok, answered_eq_ok, startSucceeds]
  constructor
  · rintro ⟨data, _, h1, _, h2, pubkeys, h3, _, h4, _, h5, _, h6, _, h7, _, h8, _, h9, _, h10, -⟩
    exact ⟨h1, h2, ⟨pubkeys, h3⟩, h4, h5, h6, h7, h8, h9, h10⟩
  · rintro ⟨h1, h2, ⟨pubkeys, h3⟩, h4, h5, h6, h7, h8, h9, h10⟩
    exact ⟨_, _, h1, _, h2, pubkeys, h3, _, h4, _, h5, _, h6, _, h7, _, h8, _, h9, _, h10, rfl⟩

theorem startedBy_of_startData
    {data : TakerSwapData} (hstart : swap.startData coins now answers = .ok data) :
    StartedBy coins swap.myPersistentPub swap.paymentLocktime data := by
  simp only [startData, except_bind_eq_ok, answered_eq_ok] at hstart
  obtain ⟨_, -, _, -, pubkeys, -, _, -, _, -, _, -, _, -, _, -, _, -, _, -, hdata⟩ := hstart
  cases hdata
  exact ⟨rfl, rfl, rfl, rfl, rfl, rfl, rfl⟩

inductive Ends (coins : SwapCoins) (swap : TakerSwap) (answers : TakerAnswers) :
    TakerSwapCommand → TakerExit → Prop where
  | startFailed (err : String) (hanswers : ¬startSucceeds answers.start) :
      Ends coins swap answers .start (finishWith .startFailed err)
  | started (data : TakerSwapData) (hanswers : startSucceeds answers.start)
      (hdata : StartedBy coins swap.myPersistentPub swap.paymentLocktime data) :
      Ends coins swap answers .start { next := some .negotiate, events := [.started data] }
  | negotiateFailed (err : String) :
      Ends coins swap answers .negotiate (finishWith .negotiateFailed err)
  | negotiated (data : MakerNegotiationData) : Ends coins swap answers .negotiate
        { next := some .sendTakerFee, events := [.negotiated data] }
  | takerFeeSendFailed (err : String) (sent : List TakerSent) (hsent : SentAtMost .fee sent) :
      Ends coins swap answers .sendTakerFee { finishWith .takerFeeSendFailed err with sent := sent }
  | takerFeeSent (tx : TransactionIdentifier) (sent : List TakerSent)
      (hsent : SentAtMost .fee sent) :
      Ends coins swap answers .sendTakerFee
        { next := some .waitForMakerPayment
          events := [.takerFeeSent tx]
          sent := sent }
  | makerPaymentNotReceived (err : String) :
      Ends coins swap answers .waitForMakerPayment (finishWith .makerPaymentValidateFailed err)
  | makerPaymentReceived (tx : TransactionIdentifier) : Ends coins swap answers .waitForMakerPayment
        { next := some .validateMakerPayment
          events := [.makerPaymentReceived tx, .makerPaymentWaitConfirmStarted] }
  | makerPaymentWaitConfirmFailed (err : String) :
      Ends coins swap answers .validateMakerPayment (finishWith .makerPaymentWaitConfirmFailed err)
  | makerPaymentValidateFailed (err : String) :
      Ends coins swap answers .validateMakerPayment (finishWith .makerPaymentValidateFailed err)
  | makerPaymentValidated : Ends coins swap answers .validateMakerPayment
        { next := some .sendTakerPayment
          events := [.makerPaymentValidatedAndConfirmed] }
  | takerPaymentFailed (err : String) (sent : List TakerSent) (hsent : SentAtMost .payment sent) :
      Ends coins swap answers .sendTakerPayment
        { finishWith .takerPaymentTransactionFailed err with sent := sent }
  | takerPaymentSent (tx : TransactionIdentifier) (sent : List TakerSent)
      (hsent : SentAtMost .payment sent) :
      Ends coins swap answers .sendTakerPayment (takerPaymentSent tx sent)
  | takerPaymentWaitConfirmFailed (err : String)
      (hanswer : ¬∃ u, answers.takerPaymentConfirmed = .ok u) :
      Ends coins swap answers .waitForTakerPaymentSpend
        (swap.refundAfter (.takerPaymentWaitConfirmFailed err))
  | takerPaymentNotSpent (err : String) (hanswer : ¬∃ tx, answers.takerPaymentSpend = .ok tx) :
      Ends coins swap answers .waitForTakerPaymentSpend
        (swap.refundAfter (.takerPaymentWaitForSpendFailed err))
  | secretNotExtracted (err : String) (tx : TransactionIdentifier)
      (hconfirmed : answers.takerPaymentConfirmed = .ok ())
      (hspend : answers.takerPaymentSpend = .ok tx)
      (hsecret : ¬∃ secret, answers.secret = .ok secret) :
      Ends coins swap answers .waitForTakerPaymentSpend
        (finishWith .takerPaymentWaitForSpendFailed err)
  | takerPaymentSpent (data : TakerPaymentSpentData) (hsecret : answers.secret = .ok data.secret) :
      Ends coins swap answers .waitForTakerPaymentSpend
        { next := some .spendMakerPayment, events := [.takerPaymentSpent data] }
  | makerPaymentSpendFailed (err : String) (hanswer : ¬∃ tx, answers.makerPaymentSpend = .ok tx) :
      Ends coins swap answers .spendMakerPayment (finishWith .makerPaymentSpendFailed err)
  | makerPaymentSpent (tx : TransactionIdentifier) (hanswer : answers.makerPaymentSpend = .ok tx) :
      Ends coins swap answers .spendMakerPayment
        { next := some .finish, events := [.makerPaymentSpent tx] }
  | spentBeforeRefund (data : TakerPaymentSpentData) : Ends coins swap answers .refundTakerPayment
        { next := some .spendMakerPayment, events := [.takerPaymentSpent data] }
  | refunded (tx : TransactionIdentifier) : Ends coins swap answers .refundTakerPayment
        { next := some .finish, events := [.takerPaymentRefunded tx] }
  | refundFailed (err : String) :
      Ends coins swap answers .refundTakerPayment (finishWith .takerPaymentRefundFailed err)
  | finished : Ends coins swap answers .finish { next := none, events := [.finished] }

section Ends

variable {coins : SwapCoins} {swap : TakerSwap} {answers : TakerAnswers} {e : TakerExit}

theorem ends_of_start (hexit : swap.start coins answers = .exited e) :
    Ends coins swap answers .start e := by
  rcases exitOr_eq_exited hexit with ⟨data, hdata, rfl⟩ | ⟨err, herr, rfl⟩
  · exact .started data (startData_isOk_iff.mp ⟨data, hdata⟩) (startedBy_of_startData hdata)
  · exact .startFailed err fun hsucceeds =>
      not_isOk_of_error herr (startData_isOk_iff.mpr hsucceeds)

theorem ends_of_negotiate (hexit : swap.negotiate coins answers = .exited e) :
    Ends coins swap answers .negotiate e := by
  rcases exitOr_eq_exited hexit with ⟨data, -, rfl⟩ | ⟨err, -, rfl⟩
  · exact .negotiated data
  · exact .negotiateFailed err

theorem ends_sendTakerFee :
    Ends coins swap answers .sendTakerFee (swap.sendTakerFee coins answers) := by
  unfold sendTakerFee
  dsimp only
  split
  · exact .takerFeeSendFailed _ [] (Or.inl rfl)
  · split
    · exact .takerFeeSent ⟨[], []⟩ [] (Or.inl rfl)
    · split
      next tx _ => exact .takerFeeSent tx _ (Or.inr ⟨tx, rfl⟩)
      next err _ =>
        exact .takerFeeSendFailed err _ (sentAtMost_broadcast _ _)

theorem ends_of_waitForMakerPayment (hexit : swap.waitForMakerPayment answers = .exited e) :
    Ends coins swap answers .waitForMakerPayment e := by
  unfold waitForMakerPayment at hexit
  split at hexit
  · cases hexit
  · rcases exitOr_eq_exited hexit with ⟨tx, -, rfl⟩ | ⟨err, -, rfl⟩
    · exact .makerPaymentReceived tx
    · exact .makerPaymentNotReceived err

theorem ends_of_validateMakerPayment (hexit : swap.validateMakerPayment answers = .exited e) :
    Ends coins swap answers .validateMakerPayment e := by
  unfold validateMakerPayment at hexit
  split at hexit
  · cases hexit
  · split at hexit
    next err _ =>
      cases hexit
      exact .makerPaymentWaitConfirmFailed _
    · rcases exitOr_eq_exited hexit with ⟨_, -, rfl⟩ | ⟨err, -, rfl⟩
      · exact .makerPaymentValidated
      · exact .makerPaymentValidateFailed err

theorem ends_sendTakerPayment :
    Ends coins swap answers .sendTakerPayment (swap.sendTakerPayment coins answers) := by
  unfold sendTakerPayment
  split
  next err _ => exact .takerPaymentFailed err [] (Or.inl rfl)
  next tx _ => exact .takerPaymentSent tx [] (Or.inl rfl)
  · dsimp only
    split
    · exact .takerPaymentFailed _ [] (Or.inl rfl)
    · split
      next tx _ => exact .takerPaymentSent tx _ (Or.inr ⟨tx, rfl⟩)
      next err _ =>
        exact .takerPaymentFailed err _ (sentAtMost_broadcast _ _)

theorem ends_of_waitForTakerPaymentSpend
    (hexit : swap.waitForTakerPaymentSpend answers = .exited e) :
    Ends coins swap answers .waitForTakerPaymentSpend e := by
  unfold waitForTakerPaymentSpend at hexit
  split at hexit
  · cases hexit
  · split at hexit
    next err hconf =>
      cases hexit
      exact .takerPaymentWaitConfirmFailed _ (not_isOk_of_error hconf)
    next hconf =>
      split at hexit
      next err hspend =>
        cases hexit
        exact .takerPaymentNotSpent err (not_isOk_of_error hspend)
      next tx hspend =>
        rcases exitOr_eq_exited hexit with
          ⟨secret, hsec, rfl⟩ | ⟨err, hsec, rfl⟩
        · exact .takerPaymentSpent ⟨tx, secret⟩ (answered_eq_ok.mp hsec)
        · refine .secretNotExtracted err tx hconf hspend ?_
          rintro ⟨secret, hok⟩
          exact not_isOk_of_error hsec ⟨secret, answered_eq_ok.mpr hok⟩

theorem ends_of_spendMakerPayment (hexit : swap.spendMakerPayment answers = .exited e) :
    Ends coins swap answers .spendMakerPayment e := by
  unfold spendMakerPayment at hexit
  split at hexit
  · cases hexit
  · rcases exitOr_eq_exited hexit with ⟨tx, htx, rfl⟩ | ⟨err, herr, rfl⟩
    · exact .makerPaymentSpent tx (answered_eq_ok.mp htx)
    · refine .makerPaymentSpendFailed err ?_
      rintro ⟨tx, hok⟩
      exact not_isOk_of_error herr ⟨tx, answered_eq_ok.mpr hok⟩

theorem ends_of_refundOutcomeFromChain {search : TakerPaymentSearch}
    (hexit : swap.refundOutcomeFromChain search = some e) :
    Ends coins swap answers .refundTakerPayment e := by
  unfold refundOutcomeFromChain at hexit
  split at hexit
  · cases hexit
  · split at hexit
    · cases hexit
    · cases hexit
    next tx secret =>
      cases hexit
      exact .spentBeforeRefund ⟨tx, secret⟩
    · cases hexit
    next tx =>
      cases hexit
      exact .refunded tx

theorem ends_of_refundLoop {rounds : List TakerRefundRound}
    (hexit : swap.refundLoop rounds = .exited e) :
    Ends coins swap answers .refundTakerPayment e := by
  induction rounds with
  | nil => cases hexit
  | cons round rounds ih =>
    cases round with
    | gateError => exact ih hexit
    | haveToWait search =>
      cases search with
      | none => exact ih hexit
      | some search =>
        unfold refundLoop at hexit
        split at hexit
        next outcome hout =>
          cases hexit
          exact ends_of_refundOutcomeFromChain hout
        · exact ih hexit
    | refunded tx =>
      unfold refundLoop at hexit
      split at hexit
      · cases hexit
      · cases hexit
        exact .refunded tx
    | rejected err retriable now search =>
      unfold refundLoop at hexit
      split at hexit
      · cases hexit
      · split at hexit
        · exact ih hexit
        · split at hexit
          next outcome hout =>
            cases hexit
            exact ends_of_refundOutcomeFromChain hout
          · cases hexit
            exact .refundFailed err

theorem ends_of_refundTakerPayment (hexit : swap.refundTakerPayment answers = .exited e) :
    Ends coins swap answers .refundTakerPayment e := by
  unfold refundTakerPayment at hexit
  split at hexit
  next outcome hout =>
    cases hexit
    exact ends_of_refundOutcomeFromChain hout
  · exact ends_of_refundLoop hexit

variable {command : TakerSwapCommand}

theorem ends_of_handleCommand (hexit : swap.handleCommand coins command answers = .exited e) :
    Ends coins swap answers command e := by
  cases command with
  | start => exact ends_of_start hexit
  | negotiate => exact ends_of_negotiate hexit
  | sendTakerFee =>
    cases hexit
    exact ends_sendTakerFee
  | waitForMakerPayment => exact ends_of_waitForMakerPayment hexit
  | validateMakerPayment => exact ends_of_validateMakerPayment hexit
  | sendTakerPayment =>
    cases hexit
    exact ends_sendTakerPayment
  | waitForTakerPaymentSpend => exact ends_of_waitForTakerPaymentSpend hexit
  | spendMakerPayment => exact ends_of_spendMakerPayment hexit
  | refundTakerPayment => exact ends_of_refundTakerPayment hexit
  | finish =>
    cases hexit
    exact .finished

theorem ends_of_handle {keys : NodeKeys}
    (hexit : (program keys coins).handle swap command answers = .exited e) :
    Ends coins swap answers command e :=
  ends_of_handleCommand hexit

theorem Ends.events_ne_nil (hends : Ends coins swap answers command e) : e.events ≠ [] := by
  cases hends <;> exact List.cons_ne_nil _ _

theorem Ends.next_ne_start (hends : Ends coins swap answers command e) : e.next ≠ some .start := by
  cases hends <;> intro h <;> cases h

end Ends

/-! ## Commands that can run -/

def Ready (swap : TakerSwap) : Option TakerSwapCommand → Prop
  | some .waitForMakerPayment => swap.takerFee.isSome
  | some .validateMakerPayment | some .sendTakerPayment => swap.makerPayment.isSome
  | some .waitForTakerPaymentSpend => swap.makerPayment.isSome ∧ swap.takerPayment.isSome
  | some .spendMakerPayment => swap.makerPayment.isSome
  | some .refundTakerPayment => swap.makerPayment.isSome ∧ swap.takerPayment.isSome
  | _ => True

theorem refundLoop_ne_panicked (hpay : swap.takerPayment.isSome)
    (rounds : List TakerRefundRound) : swap.refundLoop rounds ≠ .panicked := by
  have hnone : swap.takerPayment.isNone = false := by
    rw [← Option.not_isSome, hpay]
    rfl
  induction rounds with
  | nil => intro h; cases h
  | cons round rounds ih =>
    unfold refundLoop
    cases round with
    | gateError => exact ih
    | haveToWait search =>
      cases search with
      | none => exact ih
      | some search =>
        dsimp only
        split
        · intro h; cases h
        · exact ih
    | refunded tx => simp [hnone]
    | rejected err retriable now search =>
      simp only [hnone, Bool.false_eq_true, if_false]
      split
      · exact ih
      · split <;> intro h <;> cases h

theorem handleCommand_ne_panicked (answers : TakerAnswers) (hready : swap.Ready (some command)) :
    swap.handleCommand coins command answers ≠ .panicked := by
  cases command with
  | start | negotiate => exact exitOr_ne_panicked
  | sendTakerFee | sendTakerPayment | finish => intro h; cases h
  | waitForMakerPayment =>
    obtain ⟨tx, htx⟩ := Option.isSome_iff_exists.mp hready
    simp only [handleCommand, waitForMakerPayment, htx]
    exact exitOr_ne_panicked
  | validateMakerPayment =>
    obtain ⟨tx, htx⟩ := Option.isSome_iff_exists.mp hready
    simp only [handleCommand, validateMakerPayment, htx]
    split
    · intro h; cases h
    · exact exitOr_ne_panicked
  | waitForTakerPaymentSpend =>
    obtain ⟨tx, htx⟩ := Option.isSome_iff_exists.mp hready.2
    simp only [handleCommand, waitForTakerPaymentSpend, htx]
    split
    · intro h; cases h
    · split
      · intro h; cases h
      · exact exitOr_ne_panicked
  | spendMakerPayment =>
    obtain ⟨tx, htx⟩ := Option.isSome_iff_exists.mp hready
    simp only [handleCommand, spendMakerPayment, htx]
    exact exitOr_ne_panicked
  | refundTakerPayment =>
    simp only [handleCommand, refundTakerPayment]
    split
    · intro h; cases h
    · exact refundLoop_ne_panicked hready.2 _

theorem Ready.next {answers : TakerAnswers}
    (hready : swap.Ready (some command)) (hends : Ends coins swap answers command e) :
    (e.events.foldl applyEvent swap).Ready e.next := by
  cases hends with
  | takerFeeSent tx sent hsent | makerPaymentReceived tx => exact rfl
  | makerPaymentValidated | takerPaymentWaitConfirmFailed err hans
  | takerPaymentNotSpent err hans => exact hready
  | takerPaymentSent tx sent hsent => exact ⟨hready, rfl⟩
  | takerPaymentSpent data hsec | spentBeforeRefund data => exact hready.1
  | _ => exact trivial

end TakerSwap

end KdfProtocol
