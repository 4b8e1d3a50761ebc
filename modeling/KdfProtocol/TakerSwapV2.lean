import KdfProtocol.SwapMessagesV2

/-!
# The taker of a V2 swap

The states of the taker's machine, what each state does with the answers of the
coins, the peer and the clock, the events that are stored, and how the machine
is recreated from them.
-/

namespace KdfProtocol

namespace V2

/-! ## States and events -/

structure TakerFees where
  takerPaymentFee : ℚ
  makerPaymentSpendFee : ℚ
  makerPaymentSpendHeadroom : ℚ
  takerPaymentFeeReservable : Option ℚ
  deriving DecidableEq

inductive TakerSwapEvent where
  | initialized (blocks : StartBlocks) (fees : TakerFees)
  | negotiated (blocks : StartBlocks) (negotiation : StoredTakerNegotiationData)
      (takerPaymentFee makerPaymentSpendFee : ℚ)
  | takerFundingSent (blocks : StartBlocks)
      (negotiation : StoredTakerNegotiationData) (takerFunding : Bytes)
  | takerFundingRefundRequired (blocks : StartBlocks)
      (negotiation : StoredTakerNegotiationData) (takerFunding : Bytes)
      (reason : AbortReason)
  | makerPaymentAndFundingSpendPreimgReceived (blocks : StartBlocks)
      (negotiation : StoredTakerNegotiationData) (takerFunding : Bytes)
      (fundingSpendPreimage : StoredTxPreimage) (makerPayment : Bytes)
  | makerPaymentConfirmed (blocks : StartBlocks)
      (negotiation : StoredTakerNegotiationData) (takerFunding : Bytes)
      (fundingSpendPreimage : StoredTxPreimage) (makerPayment : Bytes)
  | takerPaymentSent (blocks : StartBlocks) (negotiation : StoredTakerNegotiationData)
      (takerPayment makerPayment : Bytes)
  | takerPaymentSentPreimageSendingSkipped (blocks : StartBlocks)
      (negotiation : StoredTakerNegotiationData)
      (takerPayment makerPayment : Bytes)
  | takerPaymentRefundRequired (takerPayment : Bytes)
      (negotiation : StoredTakerNegotiationData) (reason : AbortReason)
  | takerPaymentSpent (blocks : StartBlocks) (takerPaymentSpend makerPayment : Bytes)
      (negotiation : StoredTakerNegotiationData) (takerPayment : Bytes)
  | makerPaymentSpent (blocks : StartBlocks) (makerPaymentSpend : Bytes)
      (negotiation : StoredTakerNegotiationData) (takerPayment : Bytes)
  | takerFundingRefunded (fundingTx fundingTxRefund : Bytes) (reason : AbortReason)
  | takerPaymentRefunded (takerPayment takerPaymentRefund : Bytes) (reason : AbortReason)
  | aborted (reason : AbortReason)
  | completed
  deriving DecidableEq

inductive TakerSwapState where
  | initialized (blocks : StartBlocks) (fees : TakerFees)
  | negotiated (blocks : StartBlocks) (negotiation : StoredTakerNegotiationData)
      (takerPaymentFee makerPaymentSpendFee : ℚ)
  | takerFundingSent (blocks : StartBlocks)
      (negotiation : StoredTakerNegotiationData) (takerFunding : Bytes)
  | takerFundingRefundRequired (blocks : StartBlocks)
      (negotiation : StoredTakerNegotiationData) (takerFunding : Bytes)
      (reason : AbortReason)
  | makerPaymentAndFundingSpendPreimgReceived (blocks : StartBlocks)
      (negotiation : StoredTakerNegotiationData) (takerFunding : Bytes)
      (fundingSpendPreimage : StoredTxPreimage) (makerPayment : Bytes)
  | makerPaymentConfirmed (blocks : StartBlocks)
      (negotiation : StoredTakerNegotiationData) (takerFunding : Bytes)
      (fundingSpendPreimage : StoredTxPreimage) (makerPayment : Bytes)
  | takerPaymentSent (blocks : StartBlocks) (negotiation : StoredTakerNegotiationData)
      (takerPayment makerPayment : Bytes)
  | takerPaymentSentPreimageSendingSkipped (blocks : StartBlocks)
      (negotiation : StoredTakerNegotiationData)
      (takerPayment makerPayment : Bytes)
  | takerPaymentRefundRequired (takerPayment : Bytes)
      (negotiation : StoredTakerNegotiationData) (reason : AbortReason)
  | takerPaymentSpent (blocks : StartBlocks) (takerPaymentSpend makerPayment : Bytes)
      (negotiation : StoredTakerNegotiationData) (takerPayment : Bytes)
  | makerPaymentSpent (blocks : StartBlocks) (makerPaymentSpend : Bytes)
      (negotiation : StoredTakerNegotiationData) (takerPayment : Bytes)
  | takerFundingRefunded (fundingTx fundingTxRefund : Bytes) (reason : AbortReason)
  | takerPaymentRefunded (takerPayment takerPaymentRefund : Bytes) (reason : AbortReason)
  | aborted (reason : AbortReason)
  | completed
  deriving DecidableEq

def TakerSwapState.getEvent : TakerSwapState → TakerSwapEvent
  | .initialized blocks fees => .initialized blocks fees
  | .negotiated blocks negotiation fee spendFee => .negotiated blocks negotiation fee spendFee
  | .takerFundingSent blocks negotiation takerFunding =>
    .takerFundingSent blocks negotiation takerFunding
  | .takerFundingRefundRequired blocks negotiation takerFunding reason =>
    .takerFundingRefundRequired blocks negotiation takerFunding reason
  | .makerPaymentAndFundingSpendPreimgReceived blocks negotiation
        takerFunding preimage makerPayment =>
      .makerPaymentAndFundingSpendPreimgReceived blocks negotiation takerFunding
        preimage makerPayment
  | .makerPaymentConfirmed blocks negotiation takerFunding preimage
        makerPayment =>
      .makerPaymentConfirmed blocks negotiation takerFunding preimage makerPayment
  | .takerPaymentSent blocks negotiation takerPayment makerPayment =>
    .takerPaymentSent blocks negotiation takerPayment makerPayment
  | .takerPaymentSentPreimageSendingSkipped blocks negotiation takerPayment
        makerPayment =>
      .takerPaymentSentPreimageSendingSkipped blocks negotiation takerPayment makerPayment
  | .takerPaymentRefundRequired takerPayment negotiation reason =>
    .takerPaymentRefundRequired takerPayment negotiation reason
  | .takerPaymentSpent blocks spend makerPayment negotiation takerPayment =>
    .takerPaymentSpent blocks spend makerPayment negotiation takerPayment
  | .makerPaymentSpent blocks spend negotiation takerPayment =>
    .makerPaymentSpent blocks spend negotiation takerPayment
  | .takerFundingRefunded fundingTx refund reason => .takerFundingRefunded fundingTx refund reason
  | .takerPaymentRefunded takerPayment refund reason =>
    .takerPaymentRefunded takerPayment refund reason
  | .aborted reason => .aborted reason
  | .completed => .completed

def TakerSwapState.isLast : TakerSwapState → Bool
  | .takerFundingRefunded .. | .takerPaymentRefunded .. | .completed | .aborted _ => true
  | _ => false

/-! ## The machine and its record -/

structure TakerSwapStateMachine where
  startedAt : UInt64
  lockDuration : UInt64
  makerVolume : ℚ
  takerVolume : ℚ
  takerPremium : ℚ
  secretHashAlgo : SecretHashAlgo
  confSettings : SwapConfirmationsSettings
  uuid : Uuid
  p2pKeypair : Option Bytes
  takerSecret : Bytes
  makerP2pPubkey : Bytes
  requireMakerPaymentConfirm : Bool
  requireMakerPaymentSpendConfirm : Bool
  swapVersion : UInt8
  makerPaymentSpendHeadroom : ℚ
  takerPaymentFeeReservable : ℚ
  deriving DecidableEq

structure TakerSwapDbRepr where
  makerCoin : String
  makerVolume : ℚ
  takerSecret : Bytes
  takerSecretHash : Bytes
  secretHashAlgo : SecretHashAlgo
  startedAt : UInt64
  lockDuration : UInt64
  takerCoin : String
  takerVolume : ℚ
  takerPremium : ℚ
  dexFeeAmount : ℚ
  dexFeeBurn : ℚ
  confSettings : SwapConfirmationsSettings
  uuid : Uuid
  p2pKeypair : Option Bytes
  events : List TakerSwapEvent
  makerP2pPub : Bytes
  swapVersion : UInt8
  deriving DecidableEq

/-! ## Answers -/

structure TakerAnswers where
  makerCurrentBlock : Except String UInt64
  takerCurrentBlock : Except String UInt64
  senderTradeFee : Except String TradeFee
  receiverTradeFee : Except String TradeFee
  spendableBalance : Except String ℚ
  negotiationRecvStarted : UInt64
  makerNegotiation : Rounds UInt64 MakerNegotiation
  negotiatedRecvStarted : UInt64
  makerNegotiated : Rounds UInt64 MakerNegotiated
  takerFunding : SendAnswer Bytes
  paymentRecvStarted : UInt64
  makerPaymentInfo : Rounds UInt64 MakerPaymentInfo
  makerPaymentValid : Except String Unit
  fundingSpendPreimageValid : Except String Unit
  makerPaymentConfirmed : Rounds UInt64 (Except String Unit)
  takerPayment : SendAnswer Bytes
  takerCoinAddress : Except String String
  takerPaymentSpendPreimage : Except String Unit
  /-- None while the coin still looks for the spend. -/
  takerPaymentSpend : Option (Except String Bytes)
  makerSecret : Except String Bytes
  makerPaymentSpend : SendAnswer Bytes
  makerPaymentSpendConfirmed : Rounds UInt64 (Except String Unit)
  takerFundingRefund : SendAnswer Bytes
  refundAllowed : Rounds UInt64 Unit
  takerPaymentRefund : SendAnswer Bytes

inductive TakerSent where
  | takerFunding (tx : Bytes)
  /-- The taker payment spends the taker funding. -/
  | takerPayment (tx : Bytes)
  | makerPaymentSpend (tx : Bytes)
  | takerFundingRefund (tx : Bytes)
  | takerPaymentRefund (tx : Bytes)
  deriving DecidableEq

abbrev TakerActivation := Activation TakerSwapState TakerSent

namespace TakerSwapStateMachine

variable (coins : SwapCoins) (machine : TakerSwapStateMachine) (answers : TakerAnswers)
  (negotiation : StoredTakerNegotiationData)

def makerPaymentConfTimeout : UInt64 :=
  machine.startedAt + machine.lockDuration / 3

def takerFundingLocktime : UInt64 :=
  machine.startedAt + 3 * machine.lockDuration

def takerPaymentLocktime : UInt64 :=
  machine.startedAt + machine.lockDuration

def uniqueData : Bytes :=
  uuidBytes machine.uuid

def takerSecretHash : Bytes :=
  machine.secretHashAlgo.hashSecret coins.ripemd160 machine.takerSecret

/-! ## Initialize -/

def initializeSwap : Except Halt TakerSwapState := do
  let makerCoinStartBlock ← abortOn .internalError
    "Failed to get maker coin block: " answers.makerCurrentBlock
  let takerCoinStartBlock ← abortOn .internalError
    "Failed to get taker coin block: " answers.takerCurrentBlock
  let takerPaymentTradeFee ← abortOn .internalError
    "Failed to get taker payment fee: " answers.senderTradeFee
  let makerPaymentSpendTradeFee ← abortOn .internalError
    "Failed to get maker payment spend fee: " answers.receiverTradeFee
  let spendable ← abortOn .internalError
    "Failed to get spendable balance: " answers.spendableBalance
  let required := toDecimal machine.takerVolume +
    toDecimal machine.takerPremium + toDecimal takerPaymentTradeFee.amount
  abortIf (spendable < required)
    (.internalError ("Insufficient balance: need " ++
      coins.showAmount required ++ " but have " ++ coins.showAmount spendable))
  pure (.initialized ⟨makerCoinStartBlock, takerCoinStartBlock⟩
    { takerPaymentFee := takerPaymentTradeFee.amount
      makerPaymentSpendFee := makerPaymentSpendTradeFee.amount
      makerPaymentSpendHeadroom := feeReservableAmount makerPaymentSpendTradeFee
      takerPaymentFeeReservable := some (feeReservableAmount takerPaymentTradeFee) })

/-! ## Initialized -/

/-- The checks of the maker's negotiation message.  The expected lock time is
counted from the taker's own start. -/
def checkMakerNegotiation (makerNegotiation : MakerNegotiation) : Except Halt Unit := do
  let startedAtDiff := absDiff machine.startedAt makerNegotiation.startedAt
  abortIf (maxStartedAtDiff < startedAtDiff) (.negotiationFailed
    s!"started_at difference too large: {startedAtDiff} > {maxStartedAtDiff}")
  let hashLength := makerNegotiation.secretHash.length
  abortIf (hashLength ≠ 20 ∧ hashLength ≠ 32) (.negotiationFailed
    s!"Invalid maker secret hash length: {hashLength}")
  let payment := makerNegotiation.paymentLocktime
  let expectedPayment := machine.startedAt + 2 * machine.lockDuration
  abortIf (payment ≠ expectedPayment) (.negotiationFailed
    s!"Unexpected maker payment locktime: got {payment}, expected {expectedPayment}")
  abortOn (fun _ => .negotiationFailed "Invalid maker's maker-coin HTLC pubkey") ""
    (coins.parseMakerPubkey makerNegotiation.makerCoinHtlcPub)
  abortOn (fun _ => .negotiationFailed "Invalid maker's taker-coin HTLC pubkey") ""
    (coins.parseTakerPubkey makerNegotiation.takerCoinHtlcPub)

def negotiationReply : Except Halt TakerNegotiationData := do
  let makerCoinHtlcPub ← abortOn .internalError "Failed to derive maker-coin V2 HTLC pubkey: "
    (coins.deriveMakerHtlcPubkey machine.uniqueData)
  let takerCoinHtlcPub ← abortOn .internalError "Failed to derive taker-coin V2 HTLC pubkey: "
    (coins.deriveTakerHtlcPubkey machine.uniqueData)
  pure
    { startedAt := machine.startedAt
      fundingLocktime := machine.takerFundingLocktime
      paymentLocktime := machine.takerPaymentLocktime
      takerSecretHash := machine.takerSecretHash coins
      makerCoinHtlcPub := makerCoinHtlcPub
      takerCoinHtlcPub := takerCoinHtlcPub
      makerCoinSwapContract := coins.makerSwapContractAddress
      takerCoinSwapContract := coins.takerSwapContractAddress }

def storedNegotiation (makerNegotiation : MakerNegotiation) : StoredTakerNegotiationData where
  makerSecretHash := makerNegotiation.secretHash
  makerCoinHtlcPub := makerNegotiation.makerCoinHtlcPub
  takerCoinHtlcPub := makerNegotiation.takerCoinHtlcPub
  makerCoinSwapContract := makerNegotiation.makerCoinSwapContract
  takerCoinSwapContract := makerNegotiation.takerCoinSwapContract
  makerPaymentLocktime := makerNegotiation.paymentLocktime
  takerCoinAddress := makerNegotiation.takerCoinAddress

def negotiate : Except Halt StoredTakerNegotiationData := do
  let makerNegotiation ← recvSwapV2Msg answers.negotiationRecvStarted
    negotiationTimeoutSec answers.makerNegotiation
    fun _ => .negotiationTimeout
  machine.checkMakerNegotiation coins makerNegotiation
  let _ ← machine.negotiationReply coins
  let makerNegotiated ← recvSwapV2Msg answers.negotiatedRecvStarted
    negotiationTimeoutSec answers.makerNegotiated
    fun _ => .negotiationTimeout
  abortIf (makerNegotiated.negotiated = false)
    (.makerAborted (makerNegotiated.reason.getD "unknown"))
  pure (storedNegotiation makerNegotiation)

/-! ## Negotiated -/

def prepareFunding : Except Halt Unit := do
  let _ ← abortOn .internalError "Failed to derive taker-coin V2 HTLC pubkey: "
    (coins.deriveTakerHtlcPubkey machine.uniqueData)
  abortOn .internalError "" coins.netConfig

variable (blocks : StartBlocks) (takerPayment : Bytes) (takerFunding : Bytes)

def sendTakerFunding (negotiation : StoredTakerNegotiationData) (answers : TakerAnswers) :
    TakerActivation where
  sent := answers.takerFunding.broadcast.toList.map .takerFunding
  next := some <| match answers.takerFunding.result with
    | .ok takerFunding => .takerFundingSent blocks negotiation takerFunding
    | .error err => .aborted (.failedToSendPayment ("Failed to send taker funding: " ++ err))

/-! ## TakerFundingSent -/

def receiveMakerPayment : Except Halt MakerPaymentInfo := do
  let info ← recvSwapV2Msg answers.paymentRecvStarted negotiationTimeoutSec
    answers.makerPaymentInfo .didNotReceiveMakerPayment
  abortOn .failedToParseMakerPayment "" (coins.parseMakerTx info.txBytes)
  abortOn .failedToParseFundingSpendPreimg "" (coins.parseTakerPreimage info.fundingPreimageTx)
  abortOn .failedToParseFundingSpendSig "" (coins.parseTakerSignature info.fundingPreimageSig)
  pure info

/-! ## MakerPaymentAndFundingSpendPreimgReceived and MakerPaymentConfirmed -/

def ownTakerPubkey : Except Halt Unit := do
  let pubkey ← abortOn .internalError "Failed to derive own taker-coin V2 HTLC pubkey: "
    (coins.deriveTakerHtlcPubkey machine.uniqueData)
  abortOn .internalError "Failed to parse own taker-coin pubkey: " (coins.parseTakerPubkey pubkey)

def checkMakerPayment (fundingSpendPreimage : StoredTxPreimage) (makerPayment : Bytes)
    (answers : TakerAnswers) : Except Halt Unit := do
  abortOn .failedToParseMakerPayment "" (coins.parseMakerTx makerPayment)
  abortOn .internalError "Failed to parse own funding tx: " (coins.parseTakerTx takerFunding)
  abortOn .internalError "Failed to parse maker's maker-coin pubkey: "
    (coins.parseMakerPubkey negotiation.makerCoinHtlcPub)
  abortOn .internalError "Failed to parse maker's taker-coin pubkey: "
    (coins.parseTakerPubkey negotiation.takerCoinHtlcPub)
  abortOn .makerPaymentValidationFailed "" answers.makerPaymentValid
  machine.ownTakerPubkey coins
  abortOn .failedToParseFundingSpendPreimg ""
    (coins.parseTakerPreimage fundingSpendPreimage.preimage)
  abortOn .failedToParseFundingSpendSig ""
    (coins.parseTakerSignature fundingSpendPreimage.signature)
  abortOn .fundingSpendPreimageValidationFailed "" answers.fundingSpendPreimageValid
  if machine.requireMakerPaymentConfirm then
    awaitConfirmations coins machine.makerPaymentConfTimeout
      answers.makerPaymentConfirmed .makerPaymentNotConfirmedInTime ""

def prepareFundingSpend (fundingSpendPreimage : StoredTxPreimage) : Except Halt Unit := do
  abortOn .internalError "Failed to parse own funding tx: " (coins.parseTakerTx takerFunding)
  abortOn .internalError "Failed to parse maker's taker-coin pubkey: "
    (coins.parseTakerPubkey negotiation.takerCoinHtlcPub)
  machine.ownTakerPubkey coins
  abortOn .internalError "Failed to parse preimage: "
    (coins.parseTakerPreimage fundingSpendPreimage.preimage)
  abortOn .internalError "Failed to parse signature: "
    (coins.parseTakerSignature fundingSpendPreimage.signature)

def sendTakerPayment (negotiation : StoredTakerNegotiationData) (takerFunding makerPayment : Bytes)
    (answers : TakerAnswers) : TakerActivation where
  sent := answers.takerPayment.broadcast.toList.map .takerPayment
  next := some <| match answers.takerPayment.result with
    | .ok takerPayment =>
      if coins.skipTakerPaymentSpendPreimage then
        .takerPaymentSentPreimageSendingSkipped blocks negotiation takerPayment makerPayment
      else .takerPaymentSent blocks negotiation takerPayment makerPayment
    | .error err => .takerFundingRefundRequired blocks negotiation takerFunding
        (.failedToSendPayment ("Failed to send taker payment: " ++ err))

/-! ## TakerPaymentSent and TakerPaymentSentPreimageSendingSkipped -/

def generateSpendPreimage (answers : TakerAnswers) : Except Halt Unit := do
  abortOn .internalError "Failed to parse own payment tx: " (coins.parseTakerTx takerPayment)
  abortOn .internalError "Failed to parse maker's taker-coin pubkey: "
    (coins.parseTakerPubkey negotiation.takerCoinHtlcPub)
  machine.ownTakerPubkey coins
  let _ ← abortOn .internalError "Failed to select taker-coin V2 address: " answers.takerCoinAddress
  abortOn .internalError "" coins.netConfig
  abortOn .failedToGenerateSpendPreimage "" answers.takerPaymentSpendPreimage

def findTakerPaymentSpend : Except Halt Bytes :=
  match answers.takerPaymentSpend with
  | none => .error .waiting
  | some answer => abortOn .makerDidNotSpendInTime "" answer

def awaitSpend (answers : TakerAnswers) : Except Halt Bytes := do
  machine.generateSpendPreimage coins negotiation takerPayment answers
  findTakerPaymentSpend answers

def awaitSpendPreimageSkipped (answers : TakerAnswers) : Except Halt Bytes := do
  abortOn .internalError "Failed to parse own payment tx: " (coins.parseTakerTx takerPayment)
  findTakerPaymentSpend answers

/-! ## TakerPaymentSpent -/

def prepareMakerPaymentSpend (takerPaymentSpend makerPayment : Bytes) (answers : TakerAnswers) :
    Except Halt Unit := do
  abortOn .internalError "Failed to parse taker payment spend tx: "
    (coins.parseTakerTx takerPaymentSpend)
  let _ ← abortOn .couldNotExtractSecret "" answers.makerSecret
  abortOn .internalError "Failed to parse maker payment tx: " (coins.parseMakerTx makerPayment)
  abortOn .internalError "Failed to parse maker's maker-coin pubkey: "
    (coins.parseMakerPubkey negotiation.makerCoinHtlcPub)

def spendMakerPayment (negotiation : StoredTakerNegotiationData) (takerPayment : Bytes)
    (answers : TakerAnswers) : TakerActivation where
  sent := answers.makerPaymentSpend.broadcast.toList.map .makerPaymentSpend
  next := some <| match answers.makerPaymentSpend.result with
    | .ok spend => .makerPaymentSpent blocks spend negotiation takerPayment
    | .error err => .aborted (.failedToSpendMakerPayment err)

/-! ## MakerPaymentSpent -/

def confirmMakerPaymentSpend : Except Halt Unit :=
  if machine.requireMakerPaymentSpendConfirm then
    awaitConfirmations coins machine.takerPaymentLocktime
      answers.makerPaymentSpendConfirmed .makerPaymentSpendNotConfirmedInTime ""
  else .ok ()

/-! ## TakerFundingRefundRequired -/

def prepareFundingRefund : Except Halt Unit := do
  abortOn .internalError "Failed to parse own funding tx for refund: "
    (coins.parseTakerTx takerFunding)
  abortOn .internalError "Failed to parse maker's taker-coin pubkey: "
    (coins.parseTakerPubkey negotiation.takerCoinHtlcPub)
  let _ ← abortOn .internalError "Failed to derive taker-coin V2 HTLC pubkey: "
    (coins.deriveTakerHtlcPubkey machine.uniqueData)
  abortOn .internalError "" coins.netConfig

def refundTakerFunding (reason : AbortReason) (answers : TakerAnswers) : TakerActivation where
  sent := answers.takerFundingRefund.broadcast.toList.map .takerFundingRefund
  next := some <| match answers.takerFundingRefund.result with
    | .ok refund => .takerFundingRefunded takerFunding refund reason
    | .error err => .aborted (.takerFundingRefundFailed err)

/-! ## TakerPaymentRefundRequired -/

def preparePaymentRefund : Except Halt Unit := do
  awaitRefund answers.refundAllowed
  let _ ← abortOn .internalError "Failed to derive taker-coin V2 HTLC pubkey: "
    (coins.deriveTakerHtlcPubkey machine.uniqueData)
  abortOn .internalError "" coins.netConfig

def refundTakerPayment (reason : AbortReason) (answers : TakerAnswers) : TakerActivation where
  sent := answers.takerPaymentRefund.broadcast.toList.map .takerPaymentRefund
  next := some <| match answers.takerPaymentRefund.result with
    | .ok refund => .takerPaymentRefunded takerPayment refund reason
    | .error err => .aborted (.takerPaymentRefundFailed err)

/-! ## All states -/

def onInitial : TakerActivation :=
  settle .aborted ((machine.initializeSwap coins answers).map changeTo)

def onChanged (state : TakerSwapState) (answers : TakerAnswers) : TakerActivation :=
  match state with
  | .initialized blocks fees =>
    settle .aborted <| (machine.negotiate coins answers).map fun negotiation =>
      changeTo (.negotiated blocks negotiation fees.takerPaymentFee fees.makerPaymentSpendFee)
  | .negotiated blocks negotiation _ _ =>
    settle .aborted <| (machine.prepareFunding coins).map fun _ =>
      sendTakerFunding blocks negotiation answers
  | .takerFundingSent blocks negotiation takerFunding =>
    settle (.takerFundingRefundRequired blocks negotiation takerFunding) <|
      (receiveMakerPayment coins answers).map fun info =>
        changeTo (.makerPaymentAndFundingSpendPreimgReceived blocks negotiation takerFunding
          ⟨info.fundingPreimageTx, info.fundingPreimageSig⟩ info.txBytes)
  | .makerPaymentAndFundingSpendPreimgReceived blocks negotiation takerFunding
        preimage makerPayment =>
      settle (.takerFundingRefundRequired blocks negotiation takerFunding) <|
        (machine.checkMakerPayment coins negotiation takerFunding preimage
          makerPayment answers).map fun _ =>
            sendTakerPayment coins blocks negotiation takerFunding makerPayment answers
  | .makerPaymentConfirmed blocks negotiation takerFunding preimage
        makerPayment =>
      settle (.takerFundingRefundRequired blocks negotiation takerFunding) <|
        (machine.prepareFundingSpend coins negotiation takerFunding
          preimage).map fun _ =>
            sendTakerPayment coins blocks negotiation takerFunding makerPayment answers
  | .takerPaymentSent blocks negotiation takerPayment makerPayment =>
    settle (.takerPaymentRefundRequired takerPayment negotiation) <|
      (machine.awaitSpend coins negotiation takerPayment answers).map
        fun spend => changeTo (.takerPaymentSpent blocks spend makerPayment
          negotiation takerPayment)
  | .takerPaymentSentPreimageSendingSkipped blocks negotiation takerPayment
        makerPayment =>
      settle (.takerPaymentRefundRequired takerPayment negotiation) <|
        (awaitSpendPreimageSkipped coins takerPayment answers).map
          fun spend => changeTo (.takerPaymentSpent blocks spend makerPayment
            negotiation takerPayment)
  | .takerPaymentSpent blocks spend makerPayment negotiation takerPayment =>
    settle .aborted <|
      (prepareMakerPaymentSpend coins negotiation spend makerPayment
        answers).map fun _ => spendMakerPayment blocks negotiation takerPayment answers
  | .makerPaymentSpent _ _ negotiation takerPayment =>
    settle (.takerPaymentRefundRequired takerPayment negotiation) <|
      (machine.confirmMakerPaymentSpend coins answers).map fun _ => changeTo .completed
  | .takerFundingRefundRequired _ negotiation takerFunding reason =>
    settle .aborted <|
      (machine.prepareFundingRefund coins negotiation takerFunding).map
        fun _ => refundTakerFunding takerFunding reason answers
  | .takerPaymentRefundRequired takerPayment _ reason =>
    settle .aborted <| (machine.preparePaymentRefund coins answers).map
      fun _ => refundTakerPayment takerPayment reason answers
  | .takerFundingRefunded .. | .takerPaymentRefunded .. | .aborted _ | .completed =>
    { sent := [], next := none }

/-! ## The record -/

def onEvent : TakerSwapEvent → TakerSwapStateMachine
  | .initialized _ fees =>
    { machine with
      takerPaymentFeeReservable :=
        fees.takerPaymentFeeReservable.getD fees.takerPaymentFee
      makerPaymentSpendHeadroom := fees.makerPaymentSpendHeadroom }
  | _ => machine

def toDbRepr : TakerSwapDbRepr where
  makerCoin := coins.makerTicker
  makerVolume := machine.makerVolume
  takerSecret := machine.takerSecret
  takerSecretHash := machine.takerSecretHash coins
  secretHashAlgo := machine.secretHashAlgo
  startedAt := machine.startedAt
  lockDuration := machine.lockDuration
  takerCoin := coins.takerTicker
  takerVolume := machine.takerVolume
  takerPremium := machine.takerPremium
  dexFeeAmount := 0
  dexFeeBurn := 0
  confSettings := machine.confSettings
  uuid := machine.uuid
  p2pKeypair := machine.p2pKeypair
  events := []
  makerP2pPub := machine.makerP2pPubkey
  swapVersion := machine.swapVersion

def initAdditionalContext : Bool :=
  coins.p2pPubkeyValid machine.makerP2pPubkey

end TakerSwapStateMachine

variable (coins : SwapCoins) (repr : TakerSwapDbRepr)

def TakerSwapDbRepr.addEvent (event : TakerSwapEvent) : TakerSwapDbRepr :=
  { repr with events := repr.events ++ [event] }

def TakerSwapEvent.restore : TakerSwapEvent → Except SwapRecreateError TakerSwapState
  | .initialized blocks fees => .ok (.initialized blocks fees)
  | .negotiated blocks negotiation fee spendFee => .ok (.negotiated blocks negotiation fee spendFee)
  | .takerFundingSent blocks negotiation takerFunding =>
    .ok (.takerFundingSent blocks negotiation takerFunding)
  | .takerFundingRefundRequired blocks negotiation takerFunding reason =>
    .ok (.takerFundingRefundRequired blocks negotiation takerFunding reason)
  | .makerPaymentAndFundingSpendPreimgReceived blocks negotiation
        takerFunding preimage makerPayment =>
      .ok (.makerPaymentAndFundingSpendPreimgReceived blocks negotiation
        takerFunding preimage makerPayment)
  | .makerPaymentConfirmed blocks negotiation takerFunding preimage
        makerPayment =>
      .ok (.makerPaymentConfirmed blocks negotiation takerFunding preimage makerPayment)
  | .takerPaymentSent blocks negotiation takerPayment makerPayment =>
    .ok (.takerPaymentSent blocks negotiation takerPayment makerPayment)
  | .takerPaymentSentPreimageSendingSkipped blocks negotiation takerPayment
        makerPayment =>
      .ok (.takerPaymentSentPreimageSendingSkipped blocks negotiation takerPayment makerPayment)
  | .takerPaymentRefundRequired takerPayment negotiation reason =>
    .ok (.takerPaymentRefundRequired takerPayment negotiation reason)
  | .takerPaymentSpent blocks spend makerPayment negotiation takerPayment =>
    .ok (.takerPaymentSpent blocks spend makerPayment negotiation takerPayment)
  | .makerPaymentSpent blocks spend negotiation takerPayment =>
    .ok (.makerPaymentSpent blocks spend negotiation takerPayment)
  | .takerFundingRefunded _ _ _ => .error (.internal "Cannot recreate from TakerFundingRefunded")
  | .takerPaymentRefunded _ _ _ => .error (.internal "Cannot recreate from TakerPaymentRefunded")
  | .aborted _ => .error (.internal "Cannot recreate from Aborted")
  | .completed => .error (.internal "Cannot recreate from Completed")

def TakerSwapEvent.fees? : TakerSwapEvent → Option TakerFees
  | .initialized _ fees => some fees
  | _ => none

def TakerSwapDbRepr.reservedFees : ℚ × ℚ :=
  match repr.events.findSome? TakerSwapEvent.fees? with
  | some fees =>
    (fees.makerPaymentSpendHeadroom, fees.takerPaymentFeeReservable.getD fees.takerPaymentFee)
  | none => (0, 0)

def TakerSwapDbRepr.toMachine (uuid : Uuid) (repr : TakerSwapDbRepr) : TakerSwapStateMachine where
  startedAt := repr.startedAt
  lockDuration := repr.lockDuration
  makerVolume := repr.makerVolume
  takerVolume := repr.takerVolume
  takerPremium := repr.takerPremium
  secretHashAlgo := repr.secretHashAlgo
  confSettings := repr.confSettings
  uuid := uuid
  p2pKeypair := restoreKeypair coins repr.p2pKeypair
  takerSecret := repr.takerSecret
  makerP2pPubkey := repr.makerP2pPub
  requireMakerPaymentConfirm := true
  requireMakerPaymentSpendConfirm := true
  swapVersion := repr.swapVersion
  makerPaymentSpendHeadroom := repr.reservedFees.1
  takerPaymentFeeReservable := repr.reservedFees.2

def recreateTakerMachine (uuid : Uuid) (repr : TakerSwapDbRepr) :
    Except SwapRecreateError (TakerSwapStateMachine × TakerSwapState) :=
  match repr.events.getLast? with
  | none => .error .noEvents
  | some lastEvent => do
      let state ← lastEvent.restore
      pure (repr.toMachine coins uuid, state)

def swapKickstartHandlerForTaker : Option (TakerSwapStateMachine × TakerSwapState) :=
  if interceptNftV2MakerRestart repr.swapVersion then none
  else (recreateTakerMachine coins repr.uuid repr).toOption

def takerProgram :
    StorableMachine TakerSwapStateMachine TakerSwapState TakerSwapDbRepr
      TakerSwapEvent TakerAnswers TakerSent where
  onInitial := TakerSwapStateMachine.onInitial coins
  onChanged := TakerSwapStateMachine.onChanged coins
  isLast := TakerSwapState.isLast
  getEvent := TakerSwapState.getEvent
  onEvent := TakerSwapStateMachine.onEvent
  toDbRepr := TakerSwapStateMachine.toDbRepr coins
  initAdditionalContext := TakerSwapStateMachine.initAdditionalContext coins
  addEvent := TakerSwapDbRepr.addEvent
  recreate := swapKickstartHandlerForTaker coins

variable {state : TakerSwapState} {coins : SwapCoins}

theorem TakerSwapState.restore_getEvent {restored : TakerSwapState}
    (hrestore : state.getEvent.restore = .ok restored) : restored = state := by
  cases state <;> cases hrestore <;> rfl

theorem recreateTakerMachine_eq_ok {uuid : Uuid} {repr : TakerSwapDbRepr}
    {machine : TakerSwapStateMachine}
    (hrec : recreateTakerMachine coins uuid repr = .ok (machine, state)) :
    machine = repr.toMachine coins uuid ∧
      ∃ event, repr.events.getLast? = some event ∧ event.restore = .ok state := by
  unfold recreateTakerMachine at hrec
  split at hrec
  · cases hrec
  next event hlast =>
    obtain ⟨restored, hrestore, hmach⟩ := except_bind_eq_ok.mp hrec
    cases hmach
    exact ⟨rfl, event, hlast, hrestore⟩

theorem swapKickstartHandlerForTaker_eq_some {repr : TakerSwapDbRepr}
    {restored : TakerSwapStateMachine × TakerSwapState}
    (hkickstart : swapKickstartHandlerForTaker coins repr = some restored) :
    recreateTakerMachine coins repr.uuid repr = .ok restored := by
  unfold swapKickstartHandlerForTaker at hkickstart
  split at hkickstart
  · cases hkickstart
  · exact eq_ok_of_toOption hkickstart

theorem takerProgram_keepsEvents (coins : SwapCoins) :
    (takerProgram coins).KeepsEvents TakerSwapDbRepr.events where
  toDbRepr := fun _ => rfl
  addEvent := fun _ _ => rfl
  recreate := by
    intro repr machine state hrec
    obtain ⟨-, event, hlast, hrestore⟩ :=
      recreateTakerMachine_eq_ok (swapKickstartHandlerForTaker_eq_some hrec)
    refine ⟨event, hlast, ?_⟩
    rintro other rfl
    exact (TakerSwapState.restore_getEvent hrestore).symm

/-! ## What one state can lead to -/

def TakerSwapState.unfunded : TakerSwapState → Bool
  | .initialized .. | .negotiated .. => true
  | _ => false

def TakerSwapState.funded : TakerSwapState → Bool
  | .takerFundingSent .. | .makerPaymentAndFundingSpendPreimgReceived ..
  | .makerPaymentConfirmed .. => true
  | _ => false

def TakerSwapState.paying : TakerSwapState → Bool
  | .makerPaymentAndFundingSpendPreimgReceived .. | .makerPaymentConfirmed .. => true
  | _ => false

def TakerSwapState.awaitingSpend : TakerSwapState → Bool
  | .takerPaymentSent .. | .takerPaymentSentPreimageSendingSkipped .. => true
  | _ => false

def TakerSwapState.paid : TakerSwapState → Bool
  | .takerPaymentSent .. | .takerPaymentSentPreimageSendingSkipped .. | .makerPaymentSpent .. =>
    true
  | _ => false

def TakerSwapState.aborts : TakerSwapState → Bool
  | .initialized .. | .negotiated .. | .takerPaymentSpent .. | .takerFundingRefundRequired ..
  | .takerPaymentRefundRequired .. => true
  | _ => false

inductive TakerMove (coins : SwapCoins) (answers : TakerAnswers) :
    Option TakerSwapState → TakerActivation → Prop where
  | waits (position : Option TakerSwapState) :
      TakerMove coins answers position { sent := [], next := none }
  | starts (blocks : StartBlocks) (fees : TakerFees) :
      TakerMove coins answers none (changeTo (.initialized blocks fees))
  | aborts (position : Option TakerSwapState) (reason : AbortReason)
      (haborts : ∀ state, position = some state → state.aborts = true) :
      TakerMove coins answers position (changeTo (.aborted reason))
  | negotiates (blocks : StartBlocks) (fees : TakerFees)
      (negotiation : StoredTakerNegotiationData) (fee spendFee : ℚ) :
      TakerMove coins answers (some (.initialized blocks fees))
        (changeTo (.negotiated blocks negotiation fee spendFee))
  | sendsFunding (blocks : StartBlocks)
      (negotiation : StoredTakerNegotiationData) (fee spendFee : ℚ) :
      TakerMove coins answers (some (.negotiated blocks negotiation fee spendFee))
        (TakerSwapStateMachine.sendTakerFunding blocks negotiation answers)
  | receivesMakerPayment (blocks : StartBlocks) (negotiation : StoredTakerNegotiationData)
      (takerFunding makerPayment : Bytes) (preimage : StoredTxPreimage) :
      TakerMove coins answers
        (some (.takerFundingSent blocks negotiation takerFunding))
        (changeTo (.makerPaymentAndFundingSpendPreimgReceived blocks negotiation
          takerFunding preimage makerPayment))
  | requiresFundingRefund (state : TakerSwapState) (hfunded : state.funded = true)
      (blocks : StartBlocks) (negotiation : StoredTakerNegotiationData) (takerFunding : Bytes)
      (reason : AbortReason) :
      TakerMove coins answers (some state)
        (changeTo (.takerFundingRefundRequired blocks negotiation takerFunding reason))
  | sendsPayment (state : TakerSwapState) (hpaying : state.paying = true) (blocks : StartBlocks)
      (negotiation : StoredTakerNegotiationData) (takerFunding makerPayment : Bytes) :
      TakerMove coins answers (some state)
        (TakerSwapStateMachine.sendTakerPayment coins blocks negotiation
          takerFunding makerPayment answers)
  | findsSpend (state : TakerSwapState) (hawaiting : state.awaitingSpend = true)
      (blocks : StartBlocks) (spend makerPayment : Bytes)
      (negotiation : StoredTakerNegotiationData) (takerPayment : Bytes) :
      TakerMove coins answers (some state)
        (changeTo (.takerPaymentSpent blocks spend makerPayment negotiation takerPayment))
  | requiresPaymentRefund (state : TakerSwapState) (hpaid : state.paid = true)
      (takerPayment : Bytes) (negotiation : StoredTakerNegotiationData) (reason : AbortReason) :
      TakerMove coins answers (some state)
        (changeTo (.takerPaymentRefundRequired takerPayment negotiation reason))
  | spendsMakerPayment (blocks : StartBlocks) (spend makerPayment : Bytes)
      (negotiation : StoredTakerNegotiationData) (takerPayment : Bytes) :
      TakerMove coins answers
        (some (.takerPaymentSpent blocks spend makerPayment negotiation takerPayment))
        (TakerSwapStateMachine.spendMakerPayment blocks negotiation takerPayment answers)
  | completes (blocks : StartBlocks) (spend : Bytes)
      (negotiation : StoredTakerNegotiationData) (takerPayment : Bytes) :
      TakerMove coins answers
        (some (.makerPaymentSpent blocks spend negotiation takerPayment))
        (changeTo .completed)
  | refundsFunding (blocks : StartBlocks) (negotiation : StoredTakerNegotiationData)
      (takerFunding : Bytes) (reason : AbortReason) :
      TakerMove coins answers
        (some (.takerFundingRefundRequired blocks negotiation takerFunding reason))
        (TakerSwapStateMachine.refundTakerFunding takerFunding reason answers)
  | refundsPayment (takerPayment : Bytes)
      (negotiation : StoredTakerNegotiationData) (reason : AbortReason) :
      TakerMove coins answers
        (some (.takerPaymentRefundRequired takerPayment negotiation reason))
        (TakerSwapStateMachine.refundTakerPayment takerPayment reason answers)

theorem TakerSwapStateMachine.onInitial_move (coins : SwapCoins) (machine : TakerSwapStateMachine)
    (answers : TakerAnswers) : TakerMove coins answers none (machine.onInitial coins answers) := by
  refine settle_induction (.waits none) ?_ ?_
  · intro reason _
    refine .aborts none reason ?_
    intro state hstate
    cases hstate
  · intro started hstart
    simp only [initializeSwap, except_bind_eq_ok] at hstart
    obtain ⟨_, -, _, -, _, -, _, -, _, -, _, -, hstate⟩ := hstart
    cases hstate
    exact .starts _ _

theorem TakerSwapStateMachine.onChanged_move (coins : SwapCoins)
    (machine : TakerSwapStateMachine) (state : TakerSwapState) (answers : TakerAnswers) :
    TakerMove coins answers (some state) (machine.onChanged coins state answers) := by
  have haborts : ∀ reason, state.aborts = true →
      TakerMove coins answers (some state) (changeTo (.aborted reason)) := by
    intro reason hstate
    refine .aborts (some state) reason ?_
    intro other hother
    cases hother
    exact hstate
  cases state with
  | initialized blocks fees =>
    refine settle_induction (.waits _) (fun reason _ => haborts reason rfl) ?_
    intro negotiation _
    exact .negotiates blocks fees negotiation _ _
  | negotiated blocks negotiation fee spendFee =>
    refine settle_induction (.waits _) (fun reason _ => haborts reason rfl) ?_
    intro _ _
    exact .sendsFunding blocks negotiation fee spendFee
  | takerFundingSent blocks negotiation takerFunding =>
    refine settle_induction (.waits _) (fun reason _ => .requiresFundingRefund _ rfl _ _ _ reason) ?_
    intro info _
    exact .receivesMakerPayment blocks negotiation takerFunding info.txBytes _
  | takerFundingRefundRequired blocks negotiation takerFunding reason =>
    refine settle_induction (.waits _) (fun reason _ => haborts reason rfl) ?_
    intro _ _
    exact .refundsFunding blocks negotiation takerFunding reason
  | makerPaymentAndFundingSpendPreimgReceived blocks negotiation takerFunding preimage makerPayment
  | makerPaymentConfirmed blocks negotiation takerFunding preimage makerPayment =>
    refine settle_induction (.waits _) (fun reason _ => .requiresFundingRefund _ rfl _ _ _ reason) ?_
    intro _ _
    exact .sendsPayment _ rfl blocks negotiation takerFunding makerPayment
  | takerPaymentSent blocks negotiation takerPayment makerPayment
  | takerPaymentSentPreimageSendingSkipped blocks negotiation takerPayment makerPayment =>
    refine settle_induction (.waits _) (fun reason _ => .requiresPaymentRefund _ rfl _ _ reason) ?_
    intro spend _
    exact .findsSpend _ rfl blocks spend makerPayment negotiation takerPayment
  | takerPaymentRefundRequired takerPayment negotiation reason =>
    refine settle_induction (.waits _) (fun reason _ => haborts reason rfl) ?_
    intro _ _
    exact .refundsPayment takerPayment negotiation reason
  | takerPaymentSpent blocks spend makerPayment negotiation takerPayment =>
    refine settle_induction (.waits _) (fun reason _ => haborts reason rfl) ?_
    intro _ _
    exact .spendsMakerPayment blocks spend makerPayment negotiation takerPayment
  | makerPaymentSpent blocks spend negotiation takerPayment =>
    refine settle_induction (.waits _) (fun reason _ => .requiresPaymentRefund _ rfl _ _ reason) ?_
    intro _ _
    exact .completes blocks spend negotiation takerPayment
  | takerFundingRefunded | takerPaymentRefunded | aborted | completed => exact .waits _

theorem takerProgram_move (coins : SwapCoins) (machine : TakerSwapStateMachine)
    (position : Option TakerSwapState) (answers : TakerAnswers) :
    TakerMove coins answers position ((takerProgram coins).activate machine position answers) := by
  cases position with
  | none => exact machine.onInitial_move coins answers
  | some state => exact machine.onChanged_move coins state answers

def takerRank : Option TakerSwapState → ℕ
  | none => 9
  | some (.initialized _ _) => 8
  | some (.negotiated _ _ _ _) => 7
  | some (.takerFundingSent _ _ _) => 6
  | some (.makerPaymentAndFundingSpendPreimgReceived ..) | some (.makerPaymentConfirmed ..) => 5
  | some (.takerPaymentSent ..) | some (.takerPaymentSentPreimageSendingSkipped ..) => 4
  | some (.takerPaymentSpent _ _ _ _ _) => 3
  | some (.makerPaymentSpent _ _ _ _) => 2
  | some (.takerFundingRefundRequired ..) | some (.takerPaymentRefundRequired ..) => 1
  | some (.takerFundingRefunded ..) | some (.takerPaymentRefunded ..) | some (.aborted _)
  | some .completed => 0

theorem takerRank_le (position : Option TakerSwapState) : takerRank position ≤ 9 := by
  cases position with
  | none => exact le_rfl
  | some state => cases state <;> simp [takerRank]

theorem takerRank_pos_of_aborts {position : Option TakerSwapState}
    (haborts : ∀ state, position = some state → state.aborts = true) : 0 < takerRank position := by
  cases position with
  | none => decide
  | some state =>
    have hstate := haborts state rfl
    cases state with
    | initialized | negotiated | takerPaymentSpent | takerFundingRefundRequired
    | takerPaymentRefundRequired => simp [takerRank]
    | _ => cases hstate

theorem takerRank_of_paying (hpaying : state.paying = true) : takerRank (some state) = 5 := by
  cases state with
  | makerPaymentAndFundingSpendPreimgReceived | makerPaymentConfirmed => rfl
  | _ => cases hpaying

theorem takerRank_of_awaitingSpend (hawait : state.awaitingSpend = true) : takerRank
    (some state) = 4 := by
  cases state with
  | takerPaymentSent | takerPaymentSentPreimageSendingSkipped => rfl
  | _ => cases hawait

theorem one_lt_takerRank_of_funded (hfunded : state.funded = true) : 1 < takerRank
    (some state) := by
  cases state with
  | takerFundingSent | makerPaymentAndFundingSpendPreimgReceived | makerPaymentConfirmed =>
    simp [takerRank]
  | _ => cases hfunded

theorem one_lt_takerRank_of_paid (hpaid : state.paid = true) : 1 < takerRank (some state) := by
  cases state with
  | takerPaymentSent | takerPaymentSentPreimageSendingSkipped | makerPaymentSpent =>
    simp [takerRank]
  | _ => cases hpaid

theorem TakerMove.lowers {answers : TakerAnswers} {position : Option TakerSwapState}
    {activation : TakerActivation} (hmove : TakerMove coins answers position activation)
    {next : TakerSwapState} (hnext : activation.next = some next) :
    takerRank (some next) < takerRank position := by
  cases hmove with
  | waits => cases hnext
  | starts | negotiates | receivesMakerPayment | completes =>
    cases hnext
    simp [takerRank]
  | aborts _ _ haborts =>
    cases hnext
    exact takerRank_pos_of_aborts haborts
  | sendsFunding | spendsMakerPayment | refundsFunding | refundsPayment =>
    cases hnext
    split
    · simp [takerRank]
    · simp [takerRank]
  | requiresFundingRefund state hfunded =>
    cases hnext
    exact one_lt_takerRank_of_funded hfunded
  | sendsPayment state hpaying =>
    rw [takerRank_of_paying hpaying]
    cases hnext
    cases answers.takerPayment.result with
    | ok takerPayment =>
      dsimp only
      split
      · simp [takerRank]
      · simp [takerRank]
    | error err => simp [takerRank]
  | findsSpend state hawait =>
    rw [takerRank_of_awaitingSpend hawait]
    cases hnext
    simp [takerRank]
  | requiresPaymentRefund state hpaid =>
    cases hnext
    exact one_lt_takerRank_of_paid hpaid

theorem takerProgram_ranked (coins : SwapCoins) :
    MachineRun.Ranked (takerProgram coins) takerRank where
  initial := by decide
  last := by
    intro state
    cases state <;> simp [takerProgram, TakerSwapState.isLast, takerRank]
  lowers := by
    intro machine position answers next hnext
    exact (takerProgram_move coins machine position answers).lowers hnext

/-! ## A sample swap -/

def sampleTaker (startedAt : UInt64) : TakerSwapStateMachine where
  startedAt := startedAt
  lockDuration := 7800
  makerVolume := 1
  takerVolume := 1
  takerPremium := 0
  secretHashAlgo := .dhash160
  confSettings := sampleConfs
  uuid := 0
  p2pKeypair := none
  takerSecret := List.replicate 32 9
  makerP2pPubkey := List.replicate 33 2
  requireMakerPaymentConfirm := true
  requireMakerPaymentSpendConfirm := true
  swapVersion := 2
  makerPaymentSpendHeadroom := 0
  takerPaymentFeeReservable := 0

def sampleOffer (startedAt : UInt64) : MakerNegotiation where
  startedAt := startedAt
  paymentLocktime := startedAt + 15600
  secretHash := List.replicate 20 1
  makerCoinHtlcPub := List.replicate 33 2
  takerCoinHtlcPub := List.replicate 33 2
  makerCoinSwapContract := none
  takerCoinSwapContract := none
  takerCoinAddress := "address"

def sampleTakerAnswers (makerStart : UInt64) : TakerAnswers where
  makerCurrentBlock := .ok 100
  takerCurrentBlock := .ok 200
  senderTradeFee := .ok ⟨"MORTY", 0, false⟩
  receiverTradeFee := .ok ⟨"RICK", 0, false⟩
  spendableBalance := .ok 2
  negotiationRecvStarted := makerStart + 5
  makerNegotiation := atOnce (makerStart + 6) (sampleOffer makerStart)
  negotiatedRecvStarted := makerStart + 6
  makerNegotiated := atOnce (makerStart + 7) ⟨true, none⟩
  takerFunding := .sent [1]
  paymentRecvStarted := makerStart + 8
  makerPaymentInfo := atOnce (makerStart + 9) ⟨[3], [2], [2]⟩
  makerPaymentValid := .ok ()
  fundingSpendPreimageValid := .ok ()
  makerPaymentConfirmed := atOnce (makerStart + 60) (.ok ())
  takerPayment := .sent [4]
  takerCoinAddress := .ok "address"
  takerPaymentSpendPreimage := .ok ()
  takerPaymentSpend := some (.ok [6])
  makerSecret := .ok (List.replicate 32 7)
  makerPaymentSpend := .sent [8]
  makerPaymentSpendConfirmed := atOnce (makerStart + 120) (.ok ())
  takerFundingRefund := .sent [9]
  refundAllowed := atOnce (makerStart + 7801) ()
  takerPaymentRefund := .sent [10]

end V2

end KdfProtocol
