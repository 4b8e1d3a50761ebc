import KdfProtocol.SwapMessages

/-!
# The maker of a legacy swap

The commands of a maker swap, the events they end with and what the events
change, and how a swap is restored from its saved events.
-/

namespace KdfProtocol

inductive MakerSwapCommand where
  | start
  | negotiate
  | waitForTakerFee
  | sendPayment
  | waitForTakerPayment
  | validateTakerPayment
  | spendTakerPayment
  | confirmTakerPaymentSpend
  | refundMakerPayment
  | finish
  deriving DecidableEq

structure MakerSwapData where
  takerCoin : String
  makerCoin : String
  taker : Bytes
  terms : MatchedTerms
  secret : Bytes
  secretHash : Option Bytes
  myPersistentPub : Bytes
  lockDuration : UInt64
  makerPaymentLock : UInt64
  startedAt : UInt64
  makerCoinSwapContractAddress : Option Bytes
  takerCoinSwapContractAddress : Option Bytes
  makerCoinHtlcPubkey : Bytes
  takerCoinHtlcPubkey : Bytes
  deriving DecidableEq

structure TakerNegotiationData where
  takerPaymentLocktime : UInt64
  takerPubkey : Bytes
  makerCoinSwapContractAddr : Option Bytes
  takerCoinSwapContractAddr : Option Bytes
  makerCoinHtlcPubkey : Bytes
  takerCoinHtlcPubkey : Bytes
  deriving DecidableEq

inductive MakerSwapEvent where
  | started (data : MakerSwapData)
  | startFailed (err : String)
  | negotiated (data : TakerNegotiationData)
  | negotiateFailed (err : String)
  | makerPaymentInstructionsReceived
  | takerFeeValidated (tx : TransactionIdentifier)
  | takerFeeValidateFailed (err : String)
  | makerPaymentSent (tx : TransactionIdentifier)
  | makerPaymentTransactionFailed (err : String)
  | makerPaymentDataSendFailed (err : String)
  | makerPaymentWaitConfirmFailed (err : String)
  | takerPaymentReceived (tx : TransactionIdentifier)
  | takerPaymentWaitConfirmStarted
  | takerPaymentValidatedAndConfirmed
  | takerPaymentValidateFailed (err : String)
  | takerPaymentWaitConfirmFailed (err : String)
  | takerPaymentSpent (tx : TransactionIdentifier)
  | takerPaymentSpendFailed (err : String)
  | takerPaymentSpendConfirmStarted
  | takerPaymentSpendConfirmed
  | takerPaymentSpendConfirmFailed (err : String)
  | makerPaymentWaitRefundStarted (waitUntil : UInt64)
  | makerPaymentRefundStarted
  | makerPaymentRefunded (tx : TransactionIdentifier)
  | makerPaymentRefundFailed (err : String)
  | makerPaymentRefundFinished
  | finished
  deriving DecidableEq

/-- The command to execute after a swap is restored. -/
def MakerSwapEvent.getCommand : MakerSwapEvent → Option MakerSwapCommand
  | .started _ => some .negotiate
  | .startFailed _ => some .finish
  | .negotiated _ => some .waitForTakerFee
  | .negotiateFailed _ => some .finish
  | .makerPaymentInstructionsReceived => some .waitForTakerFee
  | .takerFeeValidated _ => some .sendPayment
  | .takerFeeValidateFailed _ => some .finish
  | .makerPaymentSent _ => some .waitForTakerPayment
  | .makerPaymentTransactionFailed _ => some .finish
  | .makerPaymentDataSendFailed _ | .makerPaymentWaitConfirmFailed _ => some .refundMakerPayment
  | .takerPaymentReceived _ | .takerPaymentWaitConfirmStarted => some .validateTakerPayment
  | .takerPaymentValidatedAndConfirmed => some .spendTakerPayment
  | .takerPaymentValidateFailed _ | .takerPaymentWaitConfirmFailed _ => some .refundMakerPayment
  | .takerPaymentSpent _ => some .confirmTakerPaymentSpend
  | .takerPaymentSpendFailed _ => some .refundMakerPayment
  | .takerPaymentSpendConfirmStarted => some .confirmTakerPaymentSpend
  | .takerPaymentSpendConfirmed => some .finish
  | .takerPaymentSpendConfirmFailed _ | .makerPaymentWaitRefundStarted _
  | .makerPaymentRefundStarted => some .refundMakerPayment
  | .makerPaymentRefunded _ | .makerPaymentRefundFailed _ | .makerPaymentRefundFinished =>
    some .finish
  | .finished => none

/-! ## The swap and its events -/

structure MakerSwap where
  myPersistentPub : Bytes
  paymentLocktime : UInt64
  takerPaymentLock : UInt64
  takerPaymentConfirmed : Bool
  errors : List String
  startedInThisProcess : Bool
  data : MakerSwapData
  otherMakerCoinHtlcPub : Bytes
  otherTakerCoinHtlcPub : Bytes
  takerFee : Option TransactionIdentifier
  makerPayment : Option TransactionIdentifier
  takerPayment : Option TransactionIdentifier
  takerPaymentSpend : Option TransactionIdentifier
  takerPaymentSpendConfirmed : Bool
  makerPaymentRefund : Option TransactionIdentifier
  myMakerCoinHtlcPub : Bytes
  myTakerCoinHtlcPub : Bytes
  deriving DecidableEq

namespace MakerSwap

def emptyData : MakerSwapData where
  takerCoin := ""
  makerCoin := ""
  taker := List.replicate 32 0
  terms := .empty
  secret := List.replicate 32 0
  secretHash := none
  myPersistentPub := List.replicate 33 0
  lockDuration := 0
  makerPaymentLock := 0
  startedAt := 0
  makerCoinSwapContractAddress := none
  takerCoinSwapContractAddress := none
  makerCoinHtlcPubkey := []
  takerCoinHtlcPubkey := []

def new (nodePub : Bytes) (paymentLocktime : UInt64) : MakerSwap where
  myPersistentPub := nodePub
  paymentLocktime := paymentLocktime
  takerPaymentLock := 0
  takerPaymentConfirmed := false
  errors := []
  startedInThisProcess := false
  data := emptyData
  otherMakerCoinHtlcPub := List.replicate 33 0
  otherTakerCoinHtlcPub := List.replicate 33 0
  takerFee := none
  makerPayment := none
  takerPayment := none
  takerPaymentSpend := none
  takerPaymentSpendConfirmed := false
  makerPaymentRefund := none
  myMakerCoinHtlcPub := nodePub
  myTakerCoinHtlcPub := nodePub

def pushError (swap : MakerSwap) (err : String) : MakerSwap :=
  { swap with errors := swap.errors ++ [err] }

def applyNegotiated (swap : MakerSwap) (data : TakerNegotiationData) : MakerSwap :=
  { swap with
    takerPaymentLock := data.takerPaymentLocktime
    otherMakerCoinHtlcPub := data.makerCoinHtlcPubkey
    otherTakerCoinHtlcPub := data.takerCoinHtlcPubkey
    data := { swap.data with
      makerCoinSwapContractAddress :=
        data.makerCoinSwapContractAddr.or swap.data.makerCoinSwapContractAddress
      takerCoinSwapContractAddress :=
        data.takerCoinSwapContractAddr.or swap.data.takerCoinSwapContractAddress } }

def applyEvent (swap : MakerSwap) : MakerSwapEvent → MakerSwap
  | .started data =>
    { swap with
      myMakerCoinHtlcPub := data.makerCoinHtlcPubkey
      myTakerCoinHtlcPub := data.takerCoinHtlcPubkey
      data := data }
  | .startFailed err => swap.pushError err
  | .negotiated data => swap.applyNegotiated data
  | .negotiateFailed err => swap.pushError err
  | .makerPaymentInstructionsReceived => swap
  | .takerFeeValidated tx => { swap with takerFee := some tx }
  | .takerFeeValidateFailed err => swap.pushError err
  | .makerPaymentSent tx => { swap with makerPayment := some tx }
  | .makerPaymentTransactionFailed err | .makerPaymentDataSendFailed err
  | .makerPaymentWaitConfirmFailed err => swap.pushError err
  | .takerPaymentReceived tx => { swap with takerPayment := some tx }
  | .takerPaymentWaitConfirmStarted => swap
  | .takerPaymentValidatedAndConfirmed =>
    { swap with takerPaymentConfirmed := true }
  | .takerPaymentValidateFailed err | .takerPaymentWaitConfirmFailed err => swap.pushError err
  | .takerPaymentSpent tx => { swap with takerPaymentSpend := some tx }
  | .takerPaymentSpendFailed err => swap.pushError err
  | .takerPaymentSpendConfirmStarted => swap
  | .takerPaymentSpendConfirmed =>
    { swap with takerPaymentSpendConfirmed := true }
  | .takerPaymentSpendConfirmFailed err => swap.pushError err
  | .makerPaymentWaitRefundStarted _ | .makerPaymentRefundStarted => swap
  | .makerPaymentRefunded tx => { swap with makerPaymentRefund := some tx }
  | .makerPaymentRefundFailed err => swap.pushError err
  | .makerPaymentRefundFinished | .finished => swap

def waitRefundUntil (swap : MakerSwap) : UInt64 :=
  swap.data.makerPaymentLock + 3700

end MakerSwap

/-! ## Answers -/

structure MakerStartAnswers where
  senderTradeFee : Except String Unit
  receiverTradeFee : Except String Unit
  balance : Except String Unit
  /-- The random secret and its hash under the algorithm of the two coins. -/
  secret : Bytes
  secretHash : Bytes
  makerCurrentBlock : Except String Unit
  takerCurrentBlock : Except String Unit
  makerHtlcKey : Except String Unit
  takerHtlcKey : Except String Unit
  htlcPubkeys : Except String (Bytes × Bytes)

inductive MakerRefundRound where
  | gateError
  | haveToWait
  | refunded (tx : TransactionIdentifier)
  | rejected (err : String) (retriable : Bool) (now : UInt64)

/-- What the clock, the coins and the peer answer to one command. -/
structure MakerAnswers where
  now : UInt64
  start : MakerStartAnswers
  negotiationReply : Except String NegotiationDataMsg
  takerFeeMsg : Except String Bytes
  takerFee : Except String TransactionIdentifier
  takerFeeValid : List (Except String Unit)
  makerPaymentAlreadySent : Except String (Option TransactionIdentifier)
  makerPayment : SendAnswer TransactionIdentifier
  makerPaymentConfirmed : Except String Unit
  takerPaymentMsg : Except String Bytes
  takerPayment : Except String TransactionIdentifier
  takerPaymentConfirmed : Except String Unit
  takerPaymentValid : Except String Unit
  takerPaymentSpend : SendAnswer TransactionIdentifier
  takerPaymentSpendConfirmed : Except String Unit
  refundRounds : List MakerRefundRound

/-- A transaction of the maker that the coins have put on the chain. -/
inductive MakerSent where
  | payment (tx : TransactionIdentifier)
  /-- The spend of the taker payment carries the secret. -/
  | takerPaymentSpend (tx : TransactionIdentifier)
  deriving DecidableEq

abbrev MakerExit := Exit MakerSwapCommand MakerSwapEvent MakerSent

abbrev MakerOutcome := Outcome MakerSwapCommand MakerSwapEvent MakerSent

/-! ## Commands -/

namespace MakerSwap

def finishWith (failed : String → MakerSwapEvent) (err : String) : MakerExit where
  next := some .finish
  events := [failed err]

variable (coins : SwapCoins) (swap : MakerSwap) (answers : MakerAnswers)

/-- A failure after the maker payment turns the swap to its refund. -/
def refundAfter (failed : MakerSwapEvent) : MakerExit where
  next := some .refundMakerPayment
  events := [failed, .makerPaymentWaitRefundStarted swap.waitRefundUntil]

def startData (now : UInt64) (answers : MakerStartAnswers) : Except String MakerSwapData := do
  answered "!maker_coin.get_sender_trade_fee " answers.senderTradeFee
  answered "!taker_coin.get_receiver_trade_fee " answers.receiverTradeFee
  answered "!check_balance_for_maker_swap " answers.balance
  answered "!maker_coin.current_block " answers.makerCurrentBlock
  answered "!taker_coin.current_block " answers.takerCurrentBlock
  answered "" answers.makerHtlcKey
  answered "" answers.takerHtlcKey
  let pubkeys ← answered "" answers.htlcPubkeys
  pure
    { takerCoin := coins.takerTicker
      makerCoin := coins.makerTicker
      taker := coins.otherPub
      terms := coins.terms
      secret := answers.secret
      secretHash := some answers.secretHash
      myPersistentPub := swap.myPersistentPub
      lockDuration := swap.paymentLocktime
      makerPaymentLock := now + swap.paymentLocktime * 2
      startedAt := now
      makerCoinSwapContractAddress := coins.makerSwapContractAddress
      takerCoinSwapContractAddress := coins.takerSwapContractAddress
      makerCoinHtlcPubkey := pubkeys.1
      takerCoinHtlcPubkey := pubkeys.2 }

def start (coins : SwapCoins) (swap : MakerSwap) (answers : MakerAnswers) : MakerOutcome :=
  exitOr (finishWith .startFailed) (swap.startData coins answers.now answers.start)
    fun data => { next := some .negotiate, events := [.started data] }

def checkTakerData : Except String TakerNegotiationData := do
  let takerData ← answered "" answers.negotiationReply
  let dif := timeDif swap.data.startedAt takerData.startedAt
  rejectIf (60 < dif) s!"Started_at time_dif over 60 {dif}"
  let expectedLockTime := takerData.startedAt + swap.data.lockDuration
  let locktime := takerData.paymentLocktime
  rejectIf (locktime ≠ expectedLockTime)
    s!"taker_data.payment_locktime {locktime} not equal to expected {expectedLockTime}"
  let makerContract ← answered "!maker_coin.negotiate_swap_contract_addr "
    (coins.negotiateMakerContract takerData.makerCoinSwapContract)
  let takerContract ← answered "!taker_coin.negotiate_swap_contract_addr "
    (coins.negotiateTakerContract takerData.takerCoinSwapContract)
  validateWirePubkey takerData.makerCoinHtlcPub "maker_coin_htlc_pub"
  validateWirePubkey takerData.takerCoinHtlcPub "taker_coin_htlc_pub"
  answered ("!" ++ coins.makerTicker ++ ".validate_other_pubkey maker_coin_htlc_pub: ")
    (coins.validateMakerPubkey takerData.makerCoinHtlcPub)
  answered ("!" ++ coins.takerTicker ++ ".validate_other_pubkey taker_coin_htlc_pub: ")
    (coins.validateTakerPubkey takerData.takerCoinHtlcPub)
  pure
    { takerPaymentLocktime := takerData.paymentLocktime
      -- The field is not to be used in place of the HTLC keys.
      takerPubkey := List.replicate 33 0
      makerCoinSwapContractAddr := makerContract
      takerCoinSwapContractAddr := takerContract
      makerCoinHtlcPubkey := takerData.makerCoinHtlcPub
      takerCoinHtlcPubkey := takerData.takerCoinHtlcPub }

def negotiate : MakerOutcome :=
  exitOr (finishWith .negotiateFailed) (swap.checkTakerData coins answers)
    fun data => { next := some .waitForTakerFee, events := [.negotiated data] }

/-- The fee is validated again after an error, four times in all. -/
def validateFee : ℕ → List (Except String Unit) → Option (Except String Unit)
  | _, [] => none
  | _, .ok _ :: _ => some (.ok ())
  | 0, .error err :: _ => some (.error err)
  | retries + 1, .error _ :: answers => validateFee retries answers

def takerFeeValidated (tx : TransactionIdentifier) : MakerExit where
  next := some .sendPayment
  events := [.takerFeeValidated tx]

def waitTakerFee : MakerOutcome :=
  match answers.takerFeeMsg with
  | .error err => .exited (finishWith .takerFeeValidateFailed err)
  | .ok _ =>
    if coins.noFee swap.otherTakerCoinHtlcPub then
      .exited (takerFeeValidated ⟨[], []⟩)
    else
      match answers.takerFee with
      | .error err => .exited (finishWith .takerFeeValidateFailed err)
      | .ok tx =>
        match validateFee 3 answers.takerFeeValid with
        | none => .waiting
        | some (.error err) => .exited (finishWith .takerFeeValidateFailed err)
        | some (.ok _) => .exited (takerFeeValidated tx)

/-- The answer to the question whether the maker payment is on the chain, for a
swap that asks it. -/
def makerPaymentAlreadySent (coins : SwapCoins) (swap : MakerSwap)
    (answers : MakerAnswers) : Except String (Option TransactionIdentifier) :=
  if skipsAlreadySentQuestion coins.makerKeyIsRandomPerSwap
      swap.startedInThisProcess swap.makerPayment.isSome then .ok none
  else answers.makerPaymentAlreadySent

def makerPaymentSent (tx : TransactionIdentifier) (sent : List MakerSent) : MakerExit where
  next := some .waitForTakerPayment
  events := [.makerPaymentSent tx]
  sent := sent

/-- The command that sends the maker payment (`maker_payment`). -/
def sendPayment : MakerExit :=
  match swap.makerPaymentAlreadySent coins answers with
  | .error err => finishWith .makerPaymentTransactionFailed err
  | .ok (some tx) => makerPaymentSent tx []
  | .ok none =>
    let timeout := swap.data.startedAt + swap.data.lockDuration / 3
    let now := answers.now
    if timeout < now then
      finishWith .makerPaymentTransactionFailed s!"Timeout {now} > {timeout}"
    else
      match answers.makerPayment.result with
      | .ok tx => makerPaymentSent tx [.payment tx]
      | .error err =>
        { finishWith .makerPaymentTransactionFailed err with
          sent := answers.makerPayment.broadcast.toList.map .payment }

def receiveTakerPayment : Except String TransactionIdentifier := do
  let _ ← answered "" answers.takerPaymentMsg
  answered "!taker_coin.tx_enum_from_bytes: " answers.takerPayment

def waitForTakerPayment : MakerOutcome :=
  match swap.makerPayment with
  | none => .panicked
  | some _ =>
    match answers.makerPaymentConfirmed with
    | .error err =>
      .exited (swap.refundAfter (.makerPaymentWaitConfirmFailed
        ("!wait for maker payment confirmations: " ++ err)))
    | .ok _ =>
      exitOr (fun err => swap.refundAfter (.takerPaymentValidateFailed err))
        (receiveTakerPayment answers)
        fun tx =>
          { next := some .validateTakerPayment
            events := [.takerPaymentReceived tx, .takerPaymentWaitConfirmStarted] }

def validateTakerPayment : MakerOutcome :=
  match swap.takerPayment with
  | none => .panicked
  | some _ =>
    match answers.takerPaymentConfirmed with
    | .error err =>
      .exited (swap.refundAfter (.takerPaymentWaitConfirmFailed
        ("!taker_coin.wait_for_confirmations: " ++ err)))
    | .ok _ =>
      exitOr (fun err => swap.refundAfter (.takerPaymentValidateFailed err))
        (answered "!taker_coin.validate_taker_payment: " answers.takerPaymentValid)
        fun _ =>
          { next := some .spendTakerPayment
            events := [.takerPaymentValidatedAndConfirmed] }

def spendTimeout : UInt64 :=
  swap.data.startedAt + swap.data.lockDuration * 4 / 5

def spendTakerPayment : MakerOutcome :=
  let timeout := swap.spendTimeout
  let now := answers.now
  if timeout < now then
    .exited (swap.refundAfter (.takerPaymentSpendFailed s!"Timeout {now} > {timeout}"))
  else
    match swap.takerPayment with
    | none => .panicked
    | some _ =>
      match answers.takerPaymentSpend.result with
      | .error err =>
        .exited { swap.refundAfter (.takerPaymentSpendFailed
            ("!taker_coin.send_maker_spends_taker_payment: " ++ err)) with
          sent := answers.takerPaymentSpend.broadcast.toList.map .takerPaymentSpend }
      | .ok tx =>
        .exited
          { next := some .confirmTakerPaymentSpend
            events := [.takerPaymentSpent tx, .takerPaymentSpendConfirmStarted]
            sent := [.takerPaymentSpend tx] }

def confirmTakerPaymentSpend : MakerOutcome :=
  match swap.takerPaymentSpend with
  | none => .panicked
  | some _ =>
    match answers.takerPaymentSpendConfirmed with
    | .error err =>
      .exited (swap.refundAfter (.takerPaymentSpendConfirmFailed
        ("!wait for taker payment spend confirmations: " ++ err)))
    | .ok _ =>
      .exited { next := some .finish, events := [.takerPaymentSpendConfirmed] }

def refundLoop (swap : MakerSwap) : List MakerRefundRound → MakerOutcome
  | [] => .waiting
  | .gateError :: rounds | .haveToWait :: rounds => refundLoop swap rounds
  | .refunded tx :: _ =>
    if swap.makerPayment.isNone then .panicked
    else
      .exited { next := some .finish, events := [.makerPaymentRefunded tx] }
  | .rejected err retriable now :: rounds =>
    if swap.makerPayment.isNone then .panicked
    else if retriable && now < swap.waitRefundUntil then
      refundLoop swap rounds
    else
      .exited (finishWith .makerPaymentRefundFailed
        ("!maker_coin.send_maker_refunds_payment: " ++ err))

def refundMakerPayment : MakerOutcome :=
  swap.refundLoop answers.refundRounds

def handleCommand (command : MakerSwapCommand) (answers : MakerAnswers) : MakerOutcome :=
  match command with
  | .start => swap.start coins answers
  | .negotiate => swap.negotiate coins answers
  | .waitForTakerFee => swap.waitTakerFee coins answers
  | .sendPayment => .exited (swap.sendPayment coins answers)
  | .waitForTakerPayment => swap.waitForTakerPayment answers
  | .validateTakerPayment => swap.validateTakerPayment answers
  | .spendTakerPayment => swap.spendTakerPayment answers
  | .confirmTakerPaymentSpend => swap.confirmTakerPaymentSpend answers
  | .refundMakerPayment => swap.refundMakerPayment answers
  | .finish => .exited { next := none, events := [.finished] }

/-! ## Loading -/

def refreshContracts (data : MakerSwapData) : MakerSwapData :=
  { data with
    makerCoinSwapContractAddress :=
      data.makerCoinSwapContractAddress.or coins.makerSwapContractAddress
    takerCoinSwapContractAddress :=
      data.takerCoinSwapContractAddress.or coins.takerSwapContractAddress }

def loadFromSaved (keys : NodeKeys) (coins : SwapCoins) :
    List MakerSwapEvent → Except String (MakerSwap × Option MakerSwapCommand)
  | [] => .error "Can't restore swap from empty events set"
  | .started saved :: events => do
      let data := refreshContracts coins saved
      let nodePub ← swapNodeKeyPair keys data.myPersistentPub
      let swap := MakerSwap.new nodePub data.lockDuration
      let command := (events.getLast?.getD (.started data)).getCommand
      pure ((MakerSwapEvent.started data :: events).foldl applyEvent swap, command)
  | _ => .error "First swap event must be Started"

def program (keys : NodeKeys) (coins : SwapCoins) :
    CommandProgram MakerSwap MakerSwapCommand MakerSwapEvent MakerSent MakerAnswers where
  handle := handleCommand coins
  apply := applyEvent
  command := MakerSwapEvent.getCommand
  load := loadFromSaved keys coins

def startNew (keys : NodeKeys) (paymentLocktime : UInt64) : MakerSwap :=
  { MakerSwap.new keys.node paymentLocktime with startedInThisProcess := true }

/-! ## What a command can end with -/

def startSucceeds (answers : MakerStartAnswers) : Prop :=
  answers.senderTradeFee = .ok () ∧ answers.receiverTradeFee = .ok () ∧
    answers.balance = .ok () ∧ answers.makerCurrentBlock = .ok () ∧
    answers.takerCurrentBlock = .ok () ∧ answers.makerHtlcKey = .ok () ∧
    answers.takerHtlcKey = .ok () ∧
    ∃ pubkeys, answers.htlcPubkeys = .ok pubkeys

structure StartedBy (coins : SwapCoins) (nodePub : Bytes)
    (lockDuration : UInt64) (data : MakerSwapData) : Prop where
  myPersistentPub : data.myPersistentPub = nodePub
  lockDuration : data.lockDuration = lockDuration
  makerContract : data.makerCoinSwapContractAddress = coins.makerSwapContractAddress
  takerContract : data.takerCoinSwapContractAddress = coins.takerSwapContractAddress
  makerCoin : data.makerCoin = coins.makerTicker
  takerCoin : data.takerCoin = coins.takerTicker
  terms : data.terms = coins.terms
  secretHash : ∃ secretHash, data.secretHash = some secretHash

variable {coins : SwapCoins} {swap : MakerSwap}

variable {answers : MakerStartAnswers} {command : MakerSwapCommand}
  {e : MakerExit} {now : UInt64}

theorem startData_isOk_iff :
    (∃ data, swap.startData coins now answers = .ok data) ↔ startSucceeds answers := by
  simp only [startData, except_bind_eq_ok, answered_eq_ok, startSucceeds]
  constructor
  · rintro ⟨data, _, h1, _, h2, _, h3, _, h4, _, h5, _, h6, _, h7, pubkeys, h8, -⟩
    exact ⟨h1, h2, h3, h4, h5, h6, h7, pubkeys, h8⟩
  · rintro ⟨h1, h2, h3, h4, h5, h6, h7, pubkeys, h8⟩
    exact ⟨_, _, h1, _, h2, _, h3, _, h4, _, h5, _, h6, _, h7, pubkeys, h8, rfl⟩

theorem startedBy_of_startData
    {data : MakerSwapData} (hstart : swap.startData coins now answers = .ok data) :
    StartedBy coins swap.myPersistentPub swap.paymentLocktime data := by
  simp only [startData, except_bind_eq_ok, answered_eq_ok] at hstart
  obtain ⟨_, -, _, -, _, -, _, -, _, -, _, -, _, -, pubkeys, -, hdata⟩ := hstart
  cases hdata
  exact ⟨rfl, rfl, rfl, rfl, rfl, rfl, rfl, _, rfl⟩

/-- The exits of every command, with the answers that lead to them.  A failed
command after the maker payment ends with an event that stands for the
refund. -/
inductive Ends (coins : SwapCoins) (swap : MakerSwap) (answers : MakerAnswers) :
    MakerSwapCommand → MakerExit → Prop where
  | startFailed (err : String) (hanswers : ¬startSucceeds answers.start) :
      Ends coins swap answers .start (finishWith .startFailed err)
  | started (data : MakerSwapData) (hanswers : startSucceeds answers.start)
      (hdata : StartedBy coins swap.myPersistentPub swap.paymentLocktime data) :
      Ends coins swap answers .start { next := some .negotiate, events := [.started data] }
  | negotiateFailed (err : String) :
      Ends coins swap answers .negotiate (finishWith .negotiateFailed err)
  | negotiated (data : TakerNegotiationData) : Ends coins swap answers .negotiate
        { next := some .waitForTakerFee, events := [.negotiated data] }
  | takerFeeValidateFailed (err : String) :
      Ends coins swap answers .waitForTakerFee (finishWith .takerFeeValidateFailed err)
  | takerFeeValidated (tx : TransactionIdentifier) :
      Ends coins swap answers .waitForTakerFee (takerFeeValidated tx)
  | makerPaymentFailed (err : String) (sent : List MakerSent) (hsent : SentAtMost .payment sent) :
      Ends coins swap answers .sendPayment
        { finishWith .makerPaymentTransactionFailed err with sent := sent }
  | makerPaymentSent (tx : TransactionIdentifier) (sent : List MakerSent)
      (hsent : SentAtMost .payment sent) :
      Ends coins swap answers .sendPayment (makerPaymentSent tx sent)
  | waitFailed (failed : MakerSwapEvent) (hfailed : failed.getCommand = some .refundMakerPayment) :
      Ends coins swap answers .waitForTakerPayment (swap.refundAfter failed)
  | takerPaymentReceived (tx : TransactionIdentifier) : Ends coins swap answers .waitForTakerPayment
        { next := some .validateTakerPayment
          events := [.takerPaymentReceived tx, .takerPaymentWaitConfirmStarted] }
  | validateFailed (failed : MakerSwapEvent)
      (hfailed : failed.getCommand = some .refundMakerPayment) :
      Ends coins swap answers .validateTakerPayment (swap.refundAfter failed)
  | takerPaymentValidated : Ends coins swap answers .validateTakerPayment
        { next := some .spendTakerPayment
          events := [.takerPaymentValidatedAndConfirmed] }
  | spendFailed (failed : MakerSwapEvent) (sent : List MakerSent)
      (hfailed : failed.getCommand = some .refundMakerPayment)
      (hsent : SentAtMost .takerPaymentSpend sent) :
      Ends coins swap answers .spendTakerPayment { swap.refundAfter failed with sent := sent }
  | takerPaymentSpent (tx : TransactionIdentifier) : Ends coins swap answers .spendTakerPayment
        { next := some .confirmTakerPaymentSpend
          events := [.takerPaymentSpent tx, .takerPaymentSpendConfirmStarted]
          sent := [.takerPaymentSpend tx] }
  | confirmFailed (failed : MakerSwapEvent)
      (hfailed : failed.getCommand = some .refundMakerPayment) :
      Ends coins swap answers .confirmTakerPaymentSpend (swap.refundAfter failed)
  | takerPaymentSpendConfirmed : Ends coins swap answers .confirmTakerPaymentSpend
        { next := some .finish, events := [.takerPaymentSpendConfirmed] }
  | refunded (tx : TransactionIdentifier) : Ends coins swap answers .refundMakerPayment
        { next := some .finish, events := [.makerPaymentRefunded tx] }
  | refundFailed (err : String) :
      Ends coins swap answers .refundMakerPayment (finishWith .makerPaymentRefundFailed err)
  | finished : Ends coins swap answers .finish { next := none, events := [.finished] }

section Ends

variable {coins : SwapCoins} {swap : MakerSwap} {answers : MakerAnswers} {e : MakerExit}

theorem ends_of_start (hexit : swap.start coins answers = .exited e) :
    Ends coins swap answers .start e := by
  rcases exitOr_eq_exited hexit with ⟨data, hdata, rfl⟩ | ⟨err, herr, rfl⟩
  · exact .started data (startData_isOk_iff.mp ⟨data, hdata⟩) (startedBy_of_startData hdata)
  · exact .startFailed err fun hsucceeds =>
      not_isOk_of_error herr (startData_isOk_iff.mpr hsucceeds)

theorem ends_of_negotiate (hexit : swap.negotiate coins answers = .exited e) :
    Ends coins swap answers .negotiate e := by
  rcases exitOr_eq_exited hexit with ⟨data, -, rfl⟩ | ⟨err, -, rfl⟩
  · exact .negotiated data
  · exact .negotiateFailed err

theorem ends_of_waitTakerFee (hexit : swap.waitTakerFee coins answers = .exited e) :
    Ends coins swap answers .waitForTakerFee e := by
  unfold waitTakerFee at hexit
  split at hexit
  next err _ =>
    cases hexit
    exact .takerFeeValidateFailed err
  · split at hexit
    · cases hexit
      exact .takerFeeValidated ⟨[], []⟩
    · split at hexit
      next err _ =>
        cases hexit
        exact .takerFeeValidateFailed err
      next tx _ =>
        split at hexit
        · cases hexit
        next err _ =>
          cases hexit
          exact .takerFeeValidateFailed err
        · cases hexit
          exact .takerFeeValidated tx

theorem ends_sendPayment :
    Ends coins swap answers .sendPayment (swap.sendPayment coins answers) := by
  unfold sendPayment
  split
  next err _ => exact .makerPaymentFailed err [] (Or.inl rfl)
  next tx _ => exact .makerPaymentSent tx [] (Or.inl rfl)
  · dsimp only
    split
    · exact .makerPaymentFailed _ [] (Or.inl rfl)
    · split
      next tx _ => exact .makerPaymentSent tx _ (Or.inr ⟨tx, rfl⟩)
      next err _ =>
        exact .makerPaymentFailed err _ (sentAtMost_broadcast _ _)

theorem ends_of_waitForTakerPayment (hexit : swap.waitForTakerPayment answers = .exited e) :
    Ends coins swap answers .waitForTakerPayment e := by
  unfold waitForTakerPayment at hexit
  split at hexit
  · cases hexit
  · split at hexit
    · cases hexit
      exact .waitFailed _ rfl
    · rcases exitOr_eq_exited hexit with ⟨tx, -, rfl⟩ | ⟨err, -, rfl⟩
      · exact .takerPaymentReceived tx
      · exact .waitFailed _ rfl

theorem ends_of_validateTakerPayment (hexit : swap.validateTakerPayment answers = .exited e) :
    Ends coins swap answers .validateTakerPayment e := by
  unfold validateTakerPayment at hexit
  split at hexit
  · cases hexit
  · split at hexit
    · cases hexit
      exact .validateFailed _ rfl
    · rcases exitOr_eq_exited hexit with ⟨_, -, rfl⟩ | ⟨err, -, rfl⟩
      · exact .takerPaymentValidated
      · exact .validateFailed _ rfl

theorem ends_of_spendTakerPayment (hexit : swap.spendTakerPayment answers = .exited e) :
    Ends coins swap answers .spendTakerPayment e := by
  unfold spendTakerPayment at hexit
  dsimp only at hexit
  split at hexit
  · cases hexit
    exact .spendFailed _ [] rfl (Or.inl rfl)
  · split at hexit
    · cases hexit
    · split at hexit
      · cases hexit
        exact .spendFailed _ _ rfl (sentAtMost_broadcast _ _)
      next tx _ =>
        cases hexit
        exact .takerPaymentSpent tx

theorem ends_of_confirmTakerPaymentSpend
    (hexit : swap.confirmTakerPaymentSpend answers = .exited e) :
    Ends coins swap answers .confirmTakerPaymentSpend e := by
  unfold confirmTakerPaymentSpend at hexit
  split at hexit
  · cases hexit
  · split at hexit
    · cases hexit
      exact .confirmFailed _ rfl
    · cases hexit
      exact .takerPaymentSpendConfirmed

theorem ends_of_refundLoop {rounds : List MakerRefundRound}
    (hexit : swap.refundLoop rounds = .exited e) :
    Ends coins swap answers .refundMakerPayment e := by
  induction rounds with
  | nil => cases hexit
  | cons round rounds ih =>
    unfold refundLoop at hexit
    cases round with
    | gateError | haveToWait => exact ih hexit
    | refunded tx =>
      dsimp only at hexit
      split at hexit
      · cases hexit
      · cases hexit
        exact .refunded tx
    | rejected err retriable now =>
      dsimp only at hexit
      split at hexit
      · cases hexit
      · split at hexit
        · exact ih hexit
        · cases hexit
          exact .refundFailed _

variable {command : MakerSwapCommand}

theorem ends_of_handleCommand (hexit : swap.handleCommand coins command answers = .exited e) :
    Ends coins swap answers command e := by
  cases command with
  | start => exact ends_of_start hexit
  | negotiate => exact ends_of_negotiate hexit
  | waitForTakerFee => exact ends_of_waitTakerFee hexit
  | sendPayment =>
    cases hexit
    exact ends_sendPayment
  | waitForTakerPayment => exact ends_of_waitForTakerPayment hexit
  | validateTakerPayment => exact ends_of_validateTakerPayment hexit
  | spendTakerPayment => exact ends_of_spendTakerPayment hexit
  | confirmTakerPaymentSpend => exact ends_of_confirmTakerPaymentSpend hexit
  | refundMakerPayment => exact ends_of_refundLoop hexit
  | finish =>
    cases hexit
    exact .finished

theorem ends_of_handle {keys : NodeKeys}
    (hexit : (program keys coins).handle swap command answers = .exited e) :
    Ends coins swap answers command e :=
  ends_of_handleCommand hexit

theorem Ends.events_ne_nil (hends : Ends coins swap answers command e) : e.events ≠ [] := by
  cases hends <;> exact List.cons_ne_nil _ _

theorem Ends.next_ne_start (hends : Ends coins swap answers command e) : e.next ≠ some .start := by
  cases hends <;> intro h <;> cases h

end Ends

/-! ## Commands that can run -/

/-- The transactions that a command unwraps are recorded. -/
def Ready (swap : MakerSwap) : Option MakerSwapCommand → Prop
  | some .waitForTakerPayment => swap.makerPayment.isSome
  | some .validateTakerPayment | some .spendTakerPayment =>
    swap.makerPayment.isSome ∧ swap.takerPayment.isSome
  | some .confirmTakerPaymentSpend => swap.makerPayment.isSome ∧ swap.takerPaymentSpend.isSome
  | some .refundMakerPayment => swap.makerPayment.isSome
  | _ => True

theorem refundLoop_ne_panicked (hpay : swap.makerPayment.isSome)
    (rounds : List MakerRefundRound) : swap.refundLoop rounds ≠ .panicked := by
  have hnone : swap.makerPayment.isNone = false := by
    rw [← Option.not_isSome, hpay]
    rfl
  induction rounds with
  | nil => intro h; cases h
  | cons round rounds ih =>
    unfold refundLoop
    cases round with
    | gateError | haveToWait => exact ih
    | refunded tx => simp [hnone]
    | rejected err retriable now =>
      simp only [hnone, Bool.false_eq_true, if_false]
      split
      · exact ih
      · intro h; cases h

theorem handleCommand_ne_panicked (answers : MakerAnswers) (hready : swap.Ready (some command)) :
    swap.handleCommand coins command answers ≠ .panicked := by
  cases command with
  | start | negotiate => exact exitOr_ne_panicked
  | waitForTakerFee =>
    simp only [handleCommand, waitTakerFee]
    repeat' split
    all_goals intro h; cases h
  | sendPayment => intro h; cases h
  | waitForTakerPayment =>
    obtain ⟨tx, htx⟩ := Option.isSome_iff_exists.mp hready
    simp only [handleCommand, waitForTakerPayment, htx]
    split
    · intro h; cases h
    · exact exitOr_ne_panicked
  | validateTakerPayment =>
    obtain ⟨tx, htx⟩ := Option.isSome_iff_exists.mp hready.2
    simp only [handleCommand, validateTakerPayment, htx]
    split
    · intro h; cases h
    · exact exitOr_ne_panicked
  | spendTakerPayment =>
    obtain ⟨tx, htx⟩ := Option.isSome_iff_exists.mp hready.2
    simp only [handleCommand, spendTakerPayment, htx]
    split
    · intro h; cases h
    · split <;> intro h <;> cases h
  | confirmTakerPaymentSpend =>
    obtain ⟨tx, htx⟩ := Option.isSome_iff_exists.mp hready.2
    simp only [handleCommand, confirmTakerPaymentSpend, htx]
    split <;> intro h <;> cases h
  | refundMakerPayment => exact refundLoop_ne_panicked hready _
  | finish => intro h; cases h

theorem makerPayment_isSome_applyEvent (hpay : swap.makerPayment.isSome)
    (event : MakerSwapEvent) : (swap.applyEvent event).makerPayment.isSome := by
  cases event with
  | makerPaymentSent tx => rfl
  | _ => exact hpay

theorem Ready.next {answers : MakerAnswers}
    (hready : swap.Ready (some command)) (hends : Ends coins swap answers command e) :
    (e.events.foldl applyEvent swap).Ready e.next := by
  cases hends with
  | makerPaymentSent tx sent hsent => exact rfl
  | waitFailed failed hfail =>
    exact makerPayment_isSome_applyEvent hready failed
  | takerPaymentReceived tx => exact ⟨hready, rfl⟩
  | validateFailed failed hfail | spendFailed failed sent hfail hsent
  | confirmFailed failed hfail =>
    exact makerPayment_isSome_applyEvent hready.1 failed
  | takerPaymentValidated => exact hready
  | takerPaymentSpent tx => exact ⟨hready.1, rfl⟩
  | _ => exact trivial

end MakerSwap

end KdfProtocol
