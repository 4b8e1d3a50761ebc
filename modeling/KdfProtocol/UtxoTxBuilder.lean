import KdfProtocol.KmdInterest
import KdfProtocol.PaymentSpendsV2
import Mathlib.Data.UInt

/-!
# The builder of transactions

The builder adds inputs one by one until they pay the outputs and the fee.  The fee
depends on the size that the transaction has so far and on whether it will have a
change output, and it is worked out again after every input.
-/

namespace KdfProtocol

open BitcoinScript ScriptReader WireCodec V2 TransactionOutput

/-! ## Fees -/

def KILO_BYTE : ℕ := 1000

def MAX_DER_SIGNATURE_LEN : ℕ := 72

def COMPRESSED_PUBKEY_LEN : ℕ := 33

def P2PKH_OUTPUT_LEN : ℕ := 34

def saturate (n : ℕ) : UInt64 := UInt64.ofNat (min n (2 ^ 64 - 1))

def divCeil (n d : ℕ) : ℕ := (n + d - 1) / d

inductive ActualTxFee where
  | dynamic (rate : UInt64)
  | fixedPerKb (rate : UInt64)
  | fixedPerStartedKb (rate : UInt64)
  deriving DecidableEq

namespace ActualTxFee

/-- Sizes are lengths of data in memory, so their sums do not wrap. -/
def feeForSize : ActualTxFee → ℕ → UInt64
  | dynamic rate, size | fixedPerKb rate, size => saturate (rate.toNat * size / KILO_BYTE)
  | fixedPerStartedKb rate, size => saturate (rate.toNat * divCeil size KILO_BYTE)

def changeOutputIncrease (rule : ActualTxFee) (size : ℕ) : UInt64 :=
  saturate ((rule.feeForSize (size + P2PKH_OUTPUT_LEN)).toNat - (rule.feeForSize size).toNat)

end ActualTxFee

inductive FeePolicy where
  | sendExact
  | deductFromOutput (i : ℕ)
  deriving DecidableEq

/-! ## Addresses -/

inductive UtxoAddressFormat where
  | standard
  | segwit
  | cashAddress
  deriving DecidableEq

inductive AddressHashEnum where
  | addressHash (hash : FixedBytes 20)
  | witnessScriptHash (hash : FixedBytes 32)

def AddressHashEnum.toVec : AddressHashEnum → Bytes
  | addressHash hash | witnessScriptHash hash => hash.val

structure Address where
  addrFormat : UtxoAddressFormat
  hash : AddressHashEnum

inductive ScriptType where
  | p2pkh
  | p2sh
  | p2wpkh
  | p2wsh

variable (hash : AddressHashEnum)

/-- The bytes that the pushes of a hash give; a hash is never too long for one. -/
def pushedHash : Script :=
  UInt8.ofNat hash.toVec.length :: hash.toVec

def buildP2pkh : Script :=
  [0x76, Opcode.opHash160.code] ++ pushedHash hash ++
    [Opcode.opEqualverify.code, Opcode.opChecksig.code]

def buildP2sh : Script :=
  Opcode.opHash160.code :: pushedHash hash ++ [Opcode.opEqual.code]

def buildWitnessScript : Script :=
  Opcode.op0.code :: pushedHash hash

def outputScript (address : Address) (scriptType : ScriptType) : Script :=
  match address.addrFormat with
  | .segwit => buildWitnessScript address.hash
  | _ =>
    match scriptType with
    | .p2pkh => buildP2pkh address.hash
    | .p2sh => buildP2sh address.hash
    | .p2wpkh => buildWitnessScript address.hash
    | .p2wsh => buildWitnessScript address.hash

/-! ## Sizes -/

def segwitVirtualSize (baseSize totalSize : ℕ) : ℕ := divCeil (baseSize * 3 + totalSize) 4

def txSizeInVBytes (fromAddrFormat : UtxoAddressFormat) (tx : UtxoTx) : ℕ :=
  let additionalLen := 2 + MAX_DER_SIGNATURE_LEN + COMPRESSED_PUBKEY_LEN
  let size := tx.serialize.length
  match fromAddrFormat with
  | .segwit => segwitVirtualSize size (size + 4 + tx.inputs.length * (additionalLen + 1))
  | _ => size + tx.inputs.length * additionalLen

/-! ## The builder -/

structure UnspentInfo where
  outpoint : OutPoint
  value : UInt64
  height : Option UInt64
  deriving DecidableEq

open UnspentInfo

structure UtxoTxCoin extends UtxoCoinFields where
  ticker : String
  forceMinRelayFee : Bool
  /-- The address of a wallet with one key. -/
  myAddress : Option Address

/-- The time of a transaction that has one is the time of the coin. -/
def UtxoTxCoin.transactionPreimage (coin : UtxoTxCoin) (nowMs : UInt64) :
    TransactionInputSigner where
  version := coin.txVersion
  nTime := coin.nTime
  overwintered := coin.overwintered
  versionGroupId := coin.versionGroupId
  consensusBranchId := coin.consensusBranchId
  expiryHeight := 0
  valueBalance := 0
  inputs := []
  outputs := []
  lockTime := if coin.ticker = "KMD" then lowestLockTime nowMs else (nowMs / 1000).toUInt32
  joinSplits := []
  shieldedSpends := []
  shieldedOutputs := []
  zcash := coin.zcash
  strDZeel := if coin.ticker = "NAV" then some "" else none
  hashAlgo := coin.txHashAlgo
  sighashSuffix := coin.sighashSuffix

inductive GenerateTxError where
  | emptyUtxoSet (required : UInt64)
  | emptyOutputs
  | outputValueLessThanDust (value dust : UInt64)
  | deductFeeFromOutputFailed (outputIdx : ℕ) (outputValue required : UInt64)
  | notEnoughUtxos (sumUtxos required : UInt64)
  | transport (err : String)
  | internal (err : String)
  deriving DecidableEq

def GenerateTxError.fromUtxoRpcError : UtxoRpcError → GenerateTxError
  | .transport err | .responseParseError err | .invalidResponse err => .transport err
  | .internal err => .internal err

structure UtxoTxBuilder where
  coin : UtxoTxCoin
  fromAddress : Option Address
  availableInputs : List UnspentInfo
  feePolicy : FeePolicy
  fee : Option ActualTxFee
  gasFee : Option UInt64
  tx : TransactionInputSigner
  change : UInt64
  sumInputs : UInt64
  sumOutputsValue : UInt64
  txFee : UInt64
  minRelayFee : Option UInt64
  dust : Option UInt64

open UtxoTxBuilder

structure BuilderAnswers extends InterestAnswers where
  txFee : Except UtxoRpcError ActualTxFee
  minRelayFee : Except String ℚ

def UnspentInfo.toInput (unspent : UnspentInfo) : UnsignedTransactionInput where
  previousOutput := unspent.outpoint
  sequence := SEQUENCE_FINAL
  amount := unspent.value
  witness := []

namespace UtxoTxBuilder

def new (coin : UtxoTxCoin) (nowMs : UInt64) : UtxoTxBuilder where
  coin := coin
  fromAddress := coin.myAddress
  availableInputs := []
  feePolicy := .sendExact
  fee := none
  gasFee := none
  tx := coin.transactionPreimage nowMs
  change := 0
  sumInputs := 0
  sumOutputsValue := 0
  txFee := 0
  minRelayFee := none
  dust := none

variable (builder : UtxoTxBuilder)

def withFromAddress (address : Address) : UtxoTxBuilder :=
  { builder with fromAddress := some address }

def withDust (dustAmount : UInt64) : UtxoTxBuilder :=
  { builder with dust := some dustAmount }

def pushInput (unspent : UnspentInfo) : UtxoTxBuilder :=
  { builder with
    sumInputs := builder.sumInputs + unspent.value
    tx := { builder.tx with inputs := builder.tx.inputs ++ [unspent.toInput] } }

def addRequiredInputs (inputs : List UnspentInfo) : UtxoTxBuilder :=
  inputs.foldl pushInput builder

def addAvailableInputs (inputs : List UnspentInfo) : UtxoTxBuilder :=
  { builder with availableInputs := builder.availableInputs ++ inputs }

def addOutputs (outputs : List TransactionOutput) : UtxoTxBuilder :=
  { builder with tx := { builder.tx with outputs := builder.tx.outputs ++ outputs } }

def withFeePolicy (newPolicy : FeePolicy) : UtxoTxBuilder :=
  { builder with feePolicy := newPolicy }

def withFee (fee : ActualTxFee) : UtxoTxBuilder :=
  { builder with fee := some fee }

def withGasFee (gasFee : UInt64) : UtxoTxBuilder :=
  { builder with gasFee := some gasFee }

def dustThreshold : UInt64 :=
  builder.dust.getD builder.coin.dustAmount

def isChangeOutput (change dust : UInt64) : Bool := 0 < change && dust ≤ change

def relayFeeForSize (relayRate : Option UInt64) (size : ℕ) : Option UInt64 :=
  relayRate.map fun rate => (ActualTxFee.dynamic rate).feeForSize size

/-- The fee with the share of the change output, if there will be one, and at least
the forced relay fee. -/
def raisedFee (rule : ActualTxFee) (vSize : ℕ) (change : UInt64) : UInt64 :=
  let changes := isChangeOutput change builder.dustThreshold
  let finalSize := if changes then vSize + P2PKH_OUTPUT_LEN else vSize
  let txFee := if changes then builder.txFee + rule.changeOutputIncrease vSize
    else builder.txFee
  match relayFeeForSize builder.minRelayFee finalSize with
  | some minRelay => if txFee < minRelay then minRelay else txFee
  | none => txFee

def updateFeeAndCheckCompleteness (fromAddrFormat : UtxoAddressFormat) (rule : ActualTxFee) :
    UtxoTxBuilder × Bool :=
  let vSize := txSizeInVBytes fromAddrFormat builder.tx.toTransaction
  let builder := { builder with txFee := rule.feeForSize vSize }
  match builder.feePolicy with
  | .sendExact =>
    let outputsPlusFee := builder.sumOutputsValue + builder.txFee
    if outputsPlusFee ≤ builder.sumInputs then
      let change := builder.sumInputs - outputsPlusFee
      let txFee := builder.raisedFee rule vSize change
      -- The outputs and the fee go up by what the fee goes up.
      ({ builder with change := change, txFee := txFee },
        outputsPlusFee - builder.txFee + txFee ≤ builder.sumInputs)
    else (builder, false)
  | .deductFromOutput _ =>
    if builder.sumOutputsValue ≤ builder.sumInputs then
      let change := builder.sumInputs - builder.sumOutputsValue
      ({ builder with change := change, txFee := builder.raisedFee rule vSize change },
        true)
    else (builder, false)

def addInputs (fromAddrFormat : UtxoAddressFormat) (rule : ActualTxFee) :
    UtxoTxBuilder → List UnspentInfo → UtxoTxBuilder
  | builder, [] => builder
  | builder, unspent :: rest =>
    let (builder, complete) :=
      (builder.pushInput unspent).updateFeeAndCheckCompleteness fromAddrFormat rule
    if complete then builder else addInputs fromAddrFormat rule builder rest

def selectInputs (fromAddrFormat : UtxoAddressFormat) (rule : ActualTxFee) : UtxoTxBuilder :=
  if builder.tx.inputs.isEmpty then
    addInputs fromAddrFormat rule builder builder.availableInputs
  else
    let (builder, complete) := builder.updateFeeAndCheckCompleteness fromAddrFormat rule
    if complete then builder
    else addInputs fromAddrFormat rule builder builder.availableInputs

/-- Every output but those that carry data is at least dust.  The result is the sum of
the outputs and of those to the change address. -/
def checkOutputs (dust : UInt64) (changeScript : Script) :
    UInt64 × UInt64 → List TransactionOutput → Fallible GenerateTxError (UInt64 × UInt64)
  | sums, [] => .ok sums
  | (sumOutputs, receivedByMe), output :: rest => do
      refuseIf (opcodeAt output.scriptPubkey 0 ≠ some OP_RETURN ∧ output.value < dust)
        (.outputValueLessThanDust output.value dust)
      checkOutputs dust changeScript (sumOutputs + output.value,
        if output.scriptPubkey = changeScript then receivedByMe + output.value
        else receivedByMe) rest

def readMinRelayFee (coin : UtxoTxCoin) (answers : BuilderAnswers) :
    Fallible GenerateTxError (Option UInt64) :=
  if coin.forceMinRelayFee then do
    let fee ← answers.minRelayFee.mapError fun err => .error (.transport err)
    let minRelayFee ← (satFromBigDecimal fee coin.decimals).mapError
      fun err => .error (.internal err)
    return some minRelayFee
  else return none

/-- The fee is added to the outputs, or taken from one of them.  An index that is no
output panics. -/
def applyFee (receivedByMe : UInt64) (changeScript : Script) :
    Fallible GenerateTxError (UtxoTxBuilder × UInt64) :=
  match builder.feePolicy with
  | .sendExact => .ok ({ builder with
      sumOutputsValue := builder.sumOutputsValue + builder.txFee }, receivedByMe)
  | .deductFromOutput i => do
      let minOutput := builder.txFee + builder.dustThreshold
      let output ← unwrap builder.tx.outputs[i]?
      refuseIf (output.value < minOutput) (.deductFeeFromOutputFailed i output.value minOutput)
      let deducted := { output with value := output.value - builder.txFee }
      return ({ builder with
        tx := { builder.tx with outputs := builder.tx.outputs.set i deducted } },
        if output.scriptPubkey = changeScript then receivedByMe - builder.txFee
        else receivedByMe)

def finish (receivedByMe : UInt64) (changeScript : Script) :
    TransactionInputSigner × AdditionalTxData :=
  let change := builder.sumInputs - builder.sumOutputsValue
  let changes := isChangeOutput change builder.dustThreshold
  ({ builder.tx with
      outputs := builder.tx.outputs ++ if changes then [⟨change, changeScript⟩] else [] },
    { feeAmount := builder.txFee
      receivedByMe := if changes then receivedByMe + change else receivedByMe
      spentByMe := builder.sumInputs
      unusedChange := if !changes && 0 < change then some change else none
      kmdRewards := none })

def conclude (answers : BuilderAnswers) (receivedByMe : UInt64) (changeScript : Script) :
    Fallible GenerateTxError (TransactionInputSigner × AdditionalTxData) := do
  let (paid, receivedByMe) ← builder.applyFee receivedByMe changeScript
  refuseIf (paid.sumInputs < paid.sumOutputsValue)
    (.notEnoughUtxos paid.sumInputs paid.sumOutputsValue)
  let (tx, data) := paid.finish receivedByMe changeScript
  (calcInterestIfRequired builder.coin.ticker builder.coin.decimals
    answers.toInterestAnswers tx data changeScript).mapError .fromUtxoRpcError

def build (answers : BuilderAnswers) :
    Fallible GenerateTxError (TransactionInputSigner × AdditionalTxData) := do
  let fromAddress ← requireSome builder.fromAddress (.internal "'from' address is not specified")
  let changeScript := outputScript fromAddress .p2pkh
  let rule ← builder.fee.elim (answers.txFee.mapError fun err => .error (.fromUtxoRpcError err)) .ok
  refuseIf (builder.tx.outputs = []) .emptyOutputs
  let (sumOutputs, receivedByMe) ← checkOutputs builder.dustThreshold changeScript
    (builder.sumOutputsValue, 0) builder.tx.outputs
  let sumOutputsValue := sumOutputs + builder.gasFee.getD 0
  refuseIf (builder.availableInputs = [] ∧ builder.tx.inputs = []) (.emptyUtxoSet sumOutputsValue)
  let minRelayFee ← readMinRelayFee builder.coin answers
  let selected := { builder with
    sumOutputsValue := sumOutputsValue
    minRelayFee := minRelayFee }.selectInputs fromAddress.addrFormat rule
  selected.conclude answers receivedByMe changeScript

end UtxoTxBuilder

structure TxRequest where
  fromAddress : Option Address
  required : List UnspentInfo
  available : List UnspentInfo
  outputs : List TransactionOutput
  feePolicy : FeePolicy
  fee : Option ActualTxFee
  gasFee : Option UInt64
  dust : Option UInt64

namespace TxRequest

variable (coin : UtxoTxCoin) (nowMs : UInt64) (request : TxRequest)

def builder : UtxoTxBuilder :=
  let builder := ((UtxoTxBuilder.new coin nowMs).addRequiredInputs request.required
    |>.addAvailableInputs request.available
    |>.addOutputs request.outputs
    |>.withFeePolicy request.feePolicy)
  let builder := request.fromAddress.elim builder builder.withFromAddress
  let builder := request.fee.elim builder builder.withFee
  let builder := request.gasFee.elim builder builder.withGasFee
  request.dust.elim builder builder.withDust

def sender : Option Address := request.fromAddress <|> coin.myAddress

def dustThreshold : UInt64 := request.dust.getD coin.dustAmount

def rule (answers : BuilderAnswers) : Except UtxoRpcError ActualTxFee :=
  request.fee.elim answers.txFee .ok

end TxRequest

/-! ## Words -/

theorem toNat_saturate (n : ℕ) : (saturate n).toNat = min n (2 ^ 64 - 1) := by
  rw [saturate, UInt64.toNat_ofNat']
  omega

theorem toNat_sum_of_lt {values : List UInt64} (hsum : (values.map UInt64.toNat).sum < 2 ^ 64) :
    values.sum.toNat = (values.map UInt64.toNat).sum := by
  induction values with
  | nil => rfl
  | cons value rest ih =>
    rw [List.map_cons, List.sum_cons] at hsum
    rw [List.sum_cons, UInt64.toNat_add, ih (by omega), List.map_cons, List.sum_cons]
    omega

/-! ## The fee rule -/

namespace ActualTxFee

variable (rule : ActualTxFee)

theorem feeForSize_mono {size other : ℕ} (hsize : size ≤ other) :
    (rule.feeForSize size).toNat ≤ (rule.feeForSize other).toNat := by
  have hprop : ∀ rate : UInt64, rate.toNat * size / KILO_BYTE ≤ rate.toNat * other / KILO_BYTE := by
    intro rate
    exact Nat.div_le_div_right (Nat.mul_le_mul_left _ hsize)
  cases rule with
  | dynamic rate | fixedPerKb rate =>
    simp only [feeForSize, toNat_saturate]
    exact min_le_min_right _ (hprop rate)
  | fixedPerStartedKb rate =>
    simp only [feeForSize, toNat_saturate]
    refine min_le_min_right _ (Nat.mul_le_mul_left _ ?_)
    exact Nat.div_le_div_right (by omega)

theorem feeForSize_add_increase (size : ℕ) : rule.feeForSize size + rule.changeOutputIncrease size =
      rule.feeForSize (size + P2PKH_OUTPUT_LEN) := by
  have hmono := rule.feeForSize_mono (Nat.le_add_right size P2PKH_OUTPUT_LEN)
  have hlt := (rule.feeForSize (size + P2PKH_OUTPUT_LEN)).toNat_lt
  apply UInt64.toNat_inj.mp
  rw [UInt64.toNat_add, changeOutputIncrease, toNat_saturate]
  omega

end ActualTxFee

def demandedFee (rule : ActualTxFee) (minRelayFee : Option UInt64) (size : ℕ) : ℕ :=
  max (rule.feeForSize size).toNat
    ((UtxoTxBuilder.relayFeeForSize minRelayFee size).elim 0 UInt64.toNat)

theorem demandedFee_mono (rule : ActualTxFee) (minRelayFee : Option UInt64)
    {size other : ℕ} (hsize : size ≤ other) :
    demandedFee rule minRelayFee size ≤ demandedFee rule minRelayFee other := by
  refine max_le_max (rule.feeForSize_mono hsize) ?_
  cases minRelayFee with
  | none => exact le_rfl
  | some rate => exact (ActualTxFee.dynamic rate).feeForSize_mono hsize

theorem feeForSize_le_demandedFee (rule : ActualTxFee) (minRelayFee : Option UInt64)
    (size : ℕ) : (rule.feeForSize size).toNat ≤ demandedFee rule minRelayFee size :=
  le_max_left _ _

/-! ## The size of the transaction -/

@[simp] theorem length_serialize_output (output : TransactionOutput) : output.serialize.length =
      8 + serializedLength output.scriptPubkey.length + output.scriptPubkey.length := by
  simp [serialize, writeU64]
  omega

theorem length_serialize_of_outputs (signer : TransactionInputSigner)
    (outputs : List TransactionOutput) :
    { signer with outputs }.toTransaction.serialize.length +
        (writeList serialize signer.outputs).length =
      signer.toTransaction.serialize.length + (writeList serialize outputs).length := by
  have hlen : ∀ others, { signer with outputs := others }.toTransaction.serialize.length =
      signer.toTransaction.serializeHeader.length +
        (writeList TransactionInput.serialize signer.toTransaction.inputs).length +
        (writeList serialize others).length +
        (writeU32 signer.lockTime).length + signer.toTransaction.serializeTrailer.length := by
    intro others
    simp only [Transaction.serialize, List.length_append]
    rfl
  have hpre : signer.toTransaction.serialize.length = _ := hlen signer.outputs
  have hafter := hlen outputs
  omega

theorem txSizeInVBytes_le_of_outputs {signer : TransactionInputSigner}
    {outputs : List TransactionOutput} {more : ℕ} (format : UtxoAddressFormat)
    (hmore : (writeList serialize outputs).length ≤
      (writeList serialize signer.outputs).length + more) :
    txSizeInVBytes format { signer with outputs }.toTransaction ≤
      txSizeInVBytes format signer.toTransaction + more := by
  have hlen := length_serialize_of_outputs signer outputs
  have hins : { signer with outputs }.toTransaction.inputs.length =
      signer.toTransaction.inputs.length := rfl
  cases format with
  | segwit =>
    simp only [txSizeInVBytes, segwitVirtualSize, divCeil, hins]
    omega
  | standard | cashAddress =>
    simp only [txSizeInVBytes, hins]
    omega

theorem length_outputScript_le {address : Address} {hash : FixedBytes 20}
    (hhash : address.hash = .addressHash hash) (scriptType : ScriptType) :
    (outputScript address scriptType).length ≤ 25 := by
  have hlen := hash.property
  have hpush : (pushedHash (.addressHash hash)).length = 21 := by
    simp [pushedHash, AddressHashEnum.toVec, hlen]
  unfold outputScript
  rw [hhash]
  split
  · simp [buildWitnessScript, hpush]
  · cases scriptType with
    | p2pkh => simp [buildP2pkh, hpush]
    | p2sh => simp [buildP2sh, hpush]
    | p2wpkh | p2wsh => simp [buildWitnessScript, hpush]

/-! ## The fee of a builder -/

namespace UtxoTxBuilder

variable (format : UtxoAddressFormat) (rule : ActualTxFee)

def vSize (builder : UtxoTxBuilder) : ℕ :=
  txSizeInVBytes format builder.tx.toTransaction

def FeeUpdated (builder : UtxoTxBuilder) : Prop :=
  (builder.updateFeeAndCheckCompleteness format rule).1.txFee = builder.txFee

section

variable (builder : UtxoTxBuilder)

/-- The fee depends neither on the one that was there nor on the change. -/
def dueFee : UInt64 :=
  let txFee := rule.feeForSize (builder.vSize format)
  let paid owed := if owed ≤ builder.sumInputs then
      { builder with txFee }.raisedFee rule (builder.vSize format) (builder.sumInputs - owed)
    else txFee
  match builder.feePolicy with
  | .sendExact => paid (builder.sumOutputsValue + txFee)
  | .deductFromOutput _ => paid builder.sumOutputsValue

theorem updateFee_fst :
    (builder.updateFeeAndCheckCompleteness format rule).1 = { builder with
      txFee := builder.dueFee format rule
      change := (builder.updateFeeAndCheckCompleteness format rule).1.change } := by
  obtain ⟨coin, address, available, policy, fee, gasFee, tx, _, sumInputs, sumOutputs, _,
    minRelay, dust⟩ := builder
  cases policy with
  | sendExact | deductFromOutput i =>
    simp only [updateFeeAndCheckCompleteness, dueFee, vSize]
    split_ifs with hcov
    · simp [hcov]
    · simp [hcov]

theorem feeUpdated_iff :
    builder.FeeUpdated format rule ↔ builder.dueFee format rule = builder.txFee := by
  rw [FeeUpdated, updateFee_fst]

theorem updateFee_spec :
    ∃ txFee change complete, builder.updateFeeAndCheckCompleteness format rule =
        ({ builder with txFee, change }, complete) ∧
      { builder with txFee, change }.FeeUpdated format rule :=
  ⟨_, _, _, Prod.ext (updateFee_fst format rule builder) rfl, (feeUpdated_iff _ _ _).mpr rfl⟩

/-! ## The selection of inputs -/

def withInputs (builder : UtxoTxBuilder) (taken : List UnspentInfo)
    (txFee change : UInt64) : UtxoTxBuilder :=
  { builder with
    tx := { builder.tx with
      inputs := builder.tx.inputs ++ taken.map UnspentInfo.toInput }
    sumInputs := builder.sumInputs + (taken.map UnspentInfo.value).sum
    txFee := txFee
    change := change }

theorem withInputs_pushInput (unspent : UnspentInfo)
    (taken : List UnspentInfo) (txFee change txFee' change' : UInt64) :
    ({ builder.pushInput unspent with txFee, change }).withInputs taken txFee' change' =
      builder.withInputs (unspent :: taken) txFee' change' := by
  simp [withInputs, pushInput, UInt64.add_assoc]

theorem addRequiredInputs_eq (inputs : List UnspentInfo) :
    builder.addRequiredInputs inputs = builder.withInputs inputs builder.txFee builder.change := by
  induction inputs generalizing builder with
  | nil => simp [addRequiredInputs, withInputs]
  | cons unspent rest ih =>
    have hpush := builder.withInputs_pushInput unspent rest builder.txFee builder.change
      builder.txFee builder.change
    rw [← hpush]
    exact ih (builder.pushInput unspent)

theorem addInputs_eq (available : List UnspentInfo) : ∃ taken txFee change, taken <+: available ∧
      addInputs format rule builder available = builder.withInputs taken txFee change ∧
      (available ≠ [] ∨ builder.FeeUpdated format rule →
        (addInputs format rule builder available).FeeUpdated format rule) := by
  induction available generalizing builder with
  | nil =>
    refine ⟨[], builder.txFee, builder.change, List.prefix_rfl, ?_, ?_⟩
    · simp [addInputs, withInputs]
    · intro hupd
      exact hupd.resolve_left (absurd rfl)
  | cons unspent rest ih =>
    obtain ⟨txFee, change, complete, hupdate, hupd⟩ :=
      updateFee_spec format rule (builder.pushInput unspent)
    rw [addInputs, hupdate]
    dsimp only
    cases complete with
    | true =>
      refine ⟨[unspent], txFee, change, ?_, ?_, fun _ => hupd⟩
      · exact List.cons_prefix_cons.mpr ⟨rfl, List.nil_prefix⟩
      · rw [if_pos rfl]
        simp [withInputs, pushInput]
    | false =>
      obtain ⟨taken, txFee', change', htaken, heq, hlast⟩ := ih { builder.pushInput unspent with txFee, change }
      rw [if_neg Bool.false_ne_true]
      refine ⟨unspent :: taken, txFee', change', ?_, ?_, fun _ => hlast (Or.inr hupd)⟩
      · exact List.cons_prefix_cons.mpr ⟨rfl, htaken⟩
      · rw [heq, withInputs_pushInput]

end

theorem selectInputs_eq {builder : UtxoTxBuilder}
    (hins : ¬(builder.availableInputs = [] ∧ builder.tx.inputs = [])) :
    ∃ taken txFee change, taken <+: builder.availableInputs ∧
      builder.selectInputs format rule = builder.withInputs taken txFee change ∧
      (builder.selectInputs format rule).FeeUpdated format rule := by
  unfold selectInputs
  cases hempty : builder.tx.inputs.isEmpty with
  | true =>
    have hnone := List.isEmpty_iff.mp hempty
    have havail : builder.availableInputs ≠ [] := fun hnil => hins ⟨hnil, hnone⟩
    rw [if_pos rfl]
    obtain ⟨taken, txFee, change, htaken, heq, hupd⟩ :=
      addInputs_eq format rule builder builder.availableInputs
    exact ⟨taken, txFee, change, htaken, heq, hupd (Or.inl havail)⟩
  | false =>
    rw [if_neg Bool.false_ne_true]
    obtain ⟨txFee, change, complete, hupdate, hupd⟩ := updateFee_spec format rule builder
    rw [hupdate]
    dsimp only
    cases complete with
    | true =>
      refine ⟨[], txFee, change, List.nil_prefix, ?_, hupd⟩
      rw [if_pos rfl]
      simp [withInputs]
    | false =>
      rw [if_neg Bool.false_ne_true]
      obtain ⟨taken, txFee', change', htaken, heq, hlast⟩ :=
        addInputs_eq format rule { builder with txFee, change } builder.availableInputs
      exact ⟨taken, txFee', change', htaken, heq, hlast (Or.inr hupd)⟩

/-! ## The fee in numbers -/

def IsChange (change dust : ℕ) : Prop := 0 < change ∧ dust ≤ change

instance (change dust : ℕ) : Decidable (IsChange change dust) :=
  inferInstanceAs (Decidable (_ ∧ _))

theorem isChangeOutput_iff {change dust : UInt64} :
    isChangeOutput change dust = true ↔ IsChange change.toNat dust.toNat := by
  simp [isChangeOutput, IsChange, UInt64.lt_iff_toNat_lt, UInt64.le_iff_toNat_le]

theorem IsChange.mono {change more dust : ℕ} (hmore : change ≤ more)
    (hchange : IsChange change dust) : IsChange more dust :=
  ⟨hchange.1.trans_le hmore, hchange.2.trans hmore⟩

def sizeWithChange (size change dust : ℕ) : ℕ :=
  if IsChange change dust then size + P2PKH_OUTPUT_LEN else size

theorem le_sizeWithChange (size change dust : ℕ) : size ≤ sizeWithChange size change dust := by
  unfold sizeWithChange
  split
  · exact Nat.le_add_right _ _
  · exact le_rfl

theorem sizeWithChange_mono {size change more dust : ℕ} (hmore : change ≤ more) :
    sizeWithChange size change dust ≤ sizeWithChange size more dust := by
  unfold sizeWithChange
  by_cases hchange : IsChange change dust
  · rw [if_pos hchange, if_pos (hchange.mono hmore)]
  · rw [if_neg hchange]
    exact le_sizeWithChange size more dust

variable {format rule} {builder : UtxoTxBuilder}

theorem toNat_raisedFee {size : ℕ} (hfee : builder.txFee = rule.feeForSize size) (change : UInt64) :
    (builder.raisedFee rule size change).toNat =
      demandedFee rule builder.minRelayFee
        (sizeWithChange size change.toNat builder.dustThreshold.toNat) := by
  have hraised : ∀ (finalSize : ℕ) (txFee : UInt64), txFee = rule.feeForSize finalSize →
      (match relayFeeForSize builder.minRelayFee finalSize with
        | some minRelay => if txFee < minRelay then minRelay else txFee
        | none => txFee).toNat = demandedFee rule builder.minRelayFee finalSize := by
    rintro finalSize txFee rfl
    unfold demandedFee
    cases relayFeeForSize builder.minRelayFee finalSize with
    | none => simp
    | some minRelay =>
      simp only [Option.elim_some, UInt64.lt_iff_toNat_lt]
      split
      next hless => exact (max_eq_right hless.le).symm
      next hless => exact (max_eq_left (not_lt.mp hless)).symm
  unfold raisedFee sizeWithChange
  by_cases hchange : IsChange change.toNat builder.dustThreshold.toNat
  · have hchanges := isChangeOutput_iff.mpr hchange
    rw [if_pos hchange]
    simp only [hchanges, if_true]
    exact hraised _ _ (by rw [hfee, rule.feeForSize_add_increase])
  · have hchanges : isChangeOutput change builder.dustThreshold = false := by
      rw [← Bool.not_eq_true, isChangeOutput_iff]
      exact hchange
    rw [if_neg hchange]
    simp only [hchanges, Bool.false_eq_true, if_false]
    exact hraised _ _ hfee

theorem FeeUpdated.sendExact (hupd : builder.FeeUpdated format rule)
    (hpol : builder.feePolicy = .sendExact)
    (hpaid : builder.sumOutputsValue.toNat + builder.txFee.toNat ≤ builder.sumInputs.toNat) :
    builder.txFee.toNat = demandedFee rule builder.minRelayFee
      (sizeWithChange (builder.vSize format)
        (builder.sumInputs.toNat - builder.sumOutputsValue.toNat -
          (rule.feeForSize (builder.vSize format)).toNat) builder.dustThreshold.toNat) := by
  have hfee := ((feeUpdated_iff _ _ _).mp hupd).symm
  simp only [dueFee, hpol] at hfee
  have hins := builder.sumInputs.toNat_lt
  have hsum := UInt64.toNat_add builder.sumOutputsValue (rule.feeForSize (builder.vSize format))
  split at hfee
  next hcov =>
    have hraised := congrArg UInt64.toNat hfee
    rw [toNat_raisedFee rfl] at hraised
    have hdem := feeForSize_le_demandedFee rule builder.minRelayFee (builder.vSize format)
    have hmono := demandedFee_mono rule builder.minRelayFee
      (le_sizeWithChange (builder.vSize format) (builder.sumInputs -
        (builder.sumOutputsValue + rule.feeForSize (builder.vSize format))).toNat
        builder.dustThreshold.toNat)
    have hless : (rule.feeForSize (builder.vSize format)).toNat ≤ builder.txFee.toNat :=
      hraised ▸ hdem.trans hmono
    rw [hraised, UInt64.toNat_sub_of_le _ _ hcov, hsum, Nat.mod_eq_of_lt (by omega), Nat.sub_add_eq]
    rfl
  next hcov =>
    rw [hfee] at hpaid
    refine absurd ?_ hcov
    rw [UInt64.le_iff_toNat_le, hsum, Nat.mod_eq_of_lt (by omega)]
    exact hpaid

theorem FeeUpdated.deductFromOutput (hupd : builder.FeeUpdated format rule) {i : ℕ}
    (hpol : builder.feePolicy = .deductFromOutput i)
    (hpaid : builder.sumOutputsValue ≤ builder.sumInputs) :
    builder.txFee.toNat = demandedFee rule builder.minRelayFee
      (sizeWithChange (builder.vSize format)
        (builder.sumInputs.toNat - builder.sumOutputsValue.toNat) builder.dustThreshold.toNat) := by
  have hfee := ((feeUpdated_iff _ _ _).mp hupd).symm
  simp only [dueFee, hpol, if_pos hpaid] at hfee
  have hraised := congrArg UInt64.toNat hfee
  rw [toNat_raisedFee rfl, UInt64.toNat_sub_of_le _ _ hpaid] at hraised
  exact hraised

/-! ## How the fee is paid -/

def paying (builder : UtxoTxBuilder) (outputs : List TransactionOutput) (spent : UInt64) :
    UtxoTxBuilder :=
  { builder with
    tx := { builder.tx with outputs := outputs }
    sumOutputsValue := spent }

theorem applyFee_sendExact (hpol : builder.feePolicy = .sendExact) (received : UInt64)
    (changeScript : Script) :
    builder.applyFee received changeScript =
      .ok (builder.paying builder.tx.outputs (builder.sumOutputsValue + builder.txFee),
        received) := by
  obtain ⟨coin, address, available, policy, fee, gasFee, tx, change, sumInputs, sumOutputs,
    txFee, minRelay, dust⟩ := builder
  cases hpol
  rfl

variable {changeScript : Script}

theorem applyFee_deductFromOutput {i : ℕ} (hpol : builder.feePolicy = .deductFromOutput i)
    {received : UInt64} {result : UtxoTxBuilder × UInt64} :
    builder.applyFee received changeScript = .ok result ↔
      ∃ output, builder.tx.outputs[i]? = some output ∧
        builder.txFee + builder.dustThreshold ≤ output.value ∧
        (builder.paying (builder.tx.outputs.set i
            { output with value := output.value - builder.txFee }) builder.sumOutputsValue,
          if output.scriptPubkey = changeScript then received - builder.txFee
          else received) = result := by
  obtain ⟨coin, address, available, policy, fee, gasFee, tx, change, sumInputs, sumOutputs,
    txFee, minRelay, dust⟩ := builder
  cases hpol
  simp only [applyFee, except_bind_eq_ok, unwrap_eq_ok, refuseIf_eq_ok, UInt64.not_lt]
  constructor
  · rintro ⟨output, houtput, _, hmin, hres⟩
    exact ⟨output, houtput, hmin, Except.ok.inj hres⟩
  · rintro ⟨output, houtput, hmin, rfl⟩
    exact ⟨output, houtput, (), hmin, rfl⟩

theorem applyFee_eq_paying {received receivedByMe : UInt64} {paid : UtxoTxBuilder}
    (happly : builder.applyFee received changeScript = .ok (paid, receivedByMe)) :
    ∃ outputs spent, paid = builder.paying outputs spent := by
  cases hpol : builder.feePolicy with
  | sendExact =>
    rw [applyFee_sendExact hpol] at happly
    cases happly
    exact ⟨_, _, rfl⟩
  | deductFromOutput i =>
    obtain ⟨output, -, -, hres⟩ := (applyFee_deductFromOutput hpol).mp happly
    cases hres
    exact ⟨_, _, rfl⟩

/-! ## What a build has gone through -/

def Passes (dust : UInt64) (output : TransactionOutput) : Prop :=
  opcodeAt output.scriptPubkey 0 = some OP_RETURN ∨ dust ≤ output.value

def paidTo (script : Script) (outputs : List TransactionOutput) : UInt64 :=
  ((outputs.filter fun output => output.scriptPubkey = script).map TransactionOutput.value).sum

theorem checkOutputs_eq_ok {dust : UInt64} {outputs : List TransactionOutput}
    {sums result : UInt64 × UInt64} :
    checkOutputs dust changeScript sums outputs = .ok result ↔
      (∀ output ∈ outputs, Passes dust output) ∧
        result = (sums.1 + (outputs.map TransactionOutput.value).sum,
          sums.2 + paidTo changeScript outputs) := by
  induction outputs generalizing sums with
  | nil => simp [checkOutputs, paidTo, eq_comm]
  | cons output rest ih =>
    obtain ⟨sumOutputs, receivedByMe⟩ := sums
    have hpasses : ¬(opcodeAt output.scriptPubkey 0 ≠ some OP_RETURN ∧
        output.value < dust) ↔ Passes dust output := by
      rw [Passes, not_and_or, not_not, UInt64.not_lt]
    have hpaid : (if output.scriptPubkey = changeScript then receivedByMe + output.value
        else receivedByMe) + paidTo changeScript rest =
          receivedByMe + paidTo changeScript (output :: rest) := by
      by_cases hmine : output.scriptPubkey = changeScript
      · simp [paidTo, hmine, UInt64.add_assoc]
      · simp [paidTo, hmine]
    simp only [checkOutputs, except_bind_eq_ok, refuseIf_eq_ok, hpasses, ih, hpaid,
      List.forall_mem_cons, List.map_cons, List.sum_cons, UInt64.add_assoc]
    constructor
    · rintro ⟨_, hfirst, hrest, hres⟩
      exact ⟨⟨hfirst, hrest⟩, hres⟩
    · rintro ⟨⟨hfirst, hrest⟩, hres⟩
      exact ⟨(), hfirst, hrest, hres⟩

end UtxoTxBuilder

namespace TxRequest

variable (coin : UtxoTxCoin) (nowMs : UInt64) (request : TxRequest)

theorem builder_eq : request.builder coin nowMs =
    { coin := coin
      fromAddress := request.sender coin
      availableInputs := request.available
      feePolicy := request.feePolicy
      fee := request.fee
      gasFee := request.gasFee
      tx := { coin.transactionPreimage nowMs with
        inputs := request.required.map toInput
        outputs := request.outputs }
      change := 0
      sumInputs := (request.required.map UnspentInfo.value).sum
      sumOutputsValue := 0
      txFee := 0
      minRelayFee := none
      dust := request.dust } := by
  obtain ⟨fromAddress, required, available, outputs, policy, fee, gasFee, dust⟩ := request
  cases fromAddress <;> cases fee <;> cases gasFee <;> cases dust <;>
    simp [builder, sender, addRequiredInputs_eq, withInputs, new, addAvailableInputs, addOutputs,
      withFeePolicy, withFromAddress, withFee,
      withGasFee, withDust, UtxoTxCoin.transactionPreimage]

def prepared (minRelayFee : Option UInt64) : UtxoTxBuilder :=
  { request.builder coin nowMs with
    sumOutputsValue := (request.outputs.map TransactionOutput.value).sum + request.gasFee.getD 0
    minRelayFee := minRelayFee }

/-- What a build reads and checks before it selects the inputs. -/
structure Accepted (answers : BuilderAnswers) (sender : Address) (rule : ActualTxFee)
    (minRelayFee : Option UInt64) : Prop where
  sender_eq : request.sender coin = some sender
  rule_eq : request.rule answers = .ok rule
  outputs_ne_nil : request.outputs ≠ []
  outputs_pass : ∀ output ∈ request.outputs,
    UtxoTxBuilder.Passes (request.dustThreshold coin) output
  inputs_ne_nil : ¬(request.available = [] ∧ request.required = [])
  minRelayFee_eq : UtxoTxBuilder.readMinRelayFee coin answers = .ok minRelayFee

theorem build_eq_ok_iff {answers : BuilderAnswers}
    {result : TransactionInputSigner × AdditionalTxData} :
    (request.builder coin nowMs).build answers = .ok result ↔
      ∃ sender rule minRelayFee, request.Accepted coin answers sender rule minRelayFee ∧
        ((request.prepared coin nowMs minRelayFee).selectInputs sender.addrFormat
          rule).conclude answers (paidTo (outputScript sender .p2pkh) request.outputs)
            (outputScript sender .p2pkh) = .ok result := by
  have hrule : ∀ rule, request.fee.elim (answers.txFee.mapError fun err =>
        (Failure.error (GenerateTxError.fromUtxoRpcError err))) .ok = .ok rule ↔
      request.rule answers = .ok rule := by
    intro rule
    cases hfee : request.fee with
    | none => simp [TxRequest.rule, hfee, mapError_eq_ok]
    | some fee => simp [TxRequest.rule, hfee]
  simp only [build, prepared, builder_eq, except_bind_eq_ok,
    requireSome_eq_ok, refuseIf_eq_ok, checkOutputs_eq_ok, hrule]
  constructor
  · rintro ⟨sender, hsender, rule, hread, _, houts, sums, ⟨hpass, rfl⟩, _, hins,
      minRelayFee, hrelay, hconclude⟩
    refine ⟨sender, rule, minRelayFee, ⟨hsender, hread, houts, hpass, ?_, hrelay⟩, ?_⟩
    · simpa using hins
    · simpa using hconclude
  · rintro ⟨sender, rule, minRelayFee, hacc, hconclude⟩
    refine ⟨sender, hacc.sender_eq, rule, hacc.rule_eq, (),
      hacc.outputs_ne_nil, _, ⟨hacc.outputs_pass, rfl⟩, (), ?_, minRelayFee,
      hacc.minRelayFee_eq, ?_⟩
    · simpa using hacc.inputs_ne_nil
    · simpa using hconclude

/-! ## Sound transactions -/

end TxRequest

def totalAmount (inputs : List UnsignedTransactionInput) : ℕ :=
  (inputs.map fun input => input.amount.toNat).sum

def totalValue (outputs : List TransactionOutput) : ℕ :=
  (outputs.map fun output => output.value.toNat).sum

/-- What is left goes to the change address, unless it is dust. -/
def changeOutputs (sender : Address) (dust left : ℕ) : List TransactionOutput :=
  if UtxoTxBuilder.IsChange left dust then
    [⟨UInt64.ofNat left, outputScript sender .p2pkh⟩]
  else []

/-- An output of the caller and what has become of it: the fee is taken from the one
that the policy names, which stays at or above dust. -/
def KeptOutput (policy : FeePolicy) (fee dust i : ℕ) (output kept : TransactionOutput) : Prop :=
  kept.scriptPubkey = output.scriptPubkey ∧
    if policy = .deductFromOutput i then
      kept.value.toNat + fee = output.value.toNat ∧ dust ≤ kept.value.toNat
    else kept.value = output.value

namespace TxRequest

variable (coin : UtxoTxCoin) (nowMs : UInt64) (request : TxRequest)

/-- The transaction of a request: the inputs are the required ones and the first of
the available ones, nothing is lost, the fee is at least what the final size demands,
the outputs are those of the caller, and the rest is paid back. -/
structure SoundTx (sender : Address) (rule : ActualTxFee) (minRelayFee : Option UInt64)
    (tx : TransactionInputSigner) (data : AdditionalTxData) : Prop where
  inputs : ∃ taken, taken <+: request.available ∧
    tx.inputs = (request.required ++ taken).map UnspentInfo.toInput
  conserved : totalAmount tx.inputs = totalValue tx.outputs + data.feeAmount.toNat +
    (data.unusedChange.getD 0).toNat + (request.gasFee.getD 0).toNat
  fee : demandedFee rule minRelayFee
    (txSizeInVBytes sender.addrFormat tx.toTransaction) ≤ data.feeAmount.toNat
  outputs : ∃ kept left, kept.length = request.outputs.length ∧
    (∀ i output later, request.outputs[i]? = some output → kept[i]? = some later →
      KeptOutput request.feePolicy data.feeAmount.toNat
        (request.dustThreshold coin).toNat i output later) ∧
    totalAmount tx.inputs = totalValue kept + data.feeAmount.toNat +
      (request.gasFee.getD 0).toNat + left ∧
    tx.outputs = kept ++ changeOutputs sender (request.dustThreshold coin).toNat left

structure Selected (rule : ActualTxFee) (minRelayFee : Option UInt64)
    (format : UtxoAddressFormat) (taken : List UnspentInfo) (selected : UtxoTxBuilder) : Prop where
  taken_available : taken <+: request.available
  coin_eq : selected.coin = coin
  inputs_eq : selected.tx.inputs = (request.required ++ taken).map UnspentInfo.toInput
  outputs_eq : selected.tx.outputs = request.outputs
  sumInputs_eq : selected.sumInputs = ((request.required ++ taken).map UnspentInfo.value).sum
  sumOutputsValue_eq : selected.sumOutputsValue =
    (request.outputs.map TransactionOutput.value).sum + request.gasFee.getD 0
  feePolicy_eq : selected.feePolicy = request.feePolicy
  minRelayFee_eq : selected.minRelayFee = minRelayFee
  dustThreshold_eq : selected.dustThreshold = request.dustThreshold coin
  feeUpdated : selected.FeeUpdated format rule

theorem selectInputs_selected (rule : ActualTxFee) (minRelayFee : Option UInt64)
    (format : UtxoAddressFormat) (hins : ¬(request.available = [] ∧ request.required = [])) :
    ∃ taken, request.Selected coin rule minRelayFee format taken
      ((request.prepared coin nowMs minRelayFee).selectInputs format rule) := by
  have hprep : ¬((request.prepared coin nowMs minRelayFee).availableInputs = [] ∧
      (request.prepared coin nowMs minRelayFee).tx.inputs = []) := by
    simpa [prepared, builder_eq] using hins
  obtain ⟨taken, txFee, change, htaken, heq, hupd⟩ :=
    selectInputs_eq format rule hprep
  refine ⟨taken, ?_⟩
  rw [heq] at hupd ⊢
  simp only [prepared, builder_eq] at htaken
  refine ⟨htaken, ?_, ?_, ?_, ?_, ?_, ?_, ?_, ?_, hupd⟩
  all_goals simp [prepared, builder_eq, withInputs]
  rfl

variable {coin nowMs request}

/-! ## The end of a build -/

variable {selected : UtxoTxBuilder} {received receivedByMe : UInt64} {changeScript : Script}
  {sender : Address} {hash : FixedBytes 20} {rule : ActualTxFee} {minRelayFee : Option UInt64}
  {taken : List UnspentInfo} {i : ℕ} {output : TransactionOutput}

theorem conclude_eq_ok_iff {answers : BuilderAnswers}
    {result : TransactionInputSigner × AdditionalTxData}
    (hinterest : selected.coin.ticker ≠ "KMD") :
    selected.conclude answers received changeScript = .ok result ↔
      ∃ paid receivedByMe, selected.applyFee received changeScript = .ok (paid, receivedByMe) ∧
        paid.sumOutputsValue ≤ paid.sumInputs ∧ result = paid.finish receivedByMe changeScript := by
  simp only [conclude, except_bind_eq_ok, refuseIf_eq_ok,
    Fallible.mapError_eq_ok, calcInterestIfRequired, if_pos hinterest, UInt64.not_lt,
    Except.ok.injEq]
  constructor
  · rintro ⟨⟨paid, receivedByMe⟩, happly, _, hpaid, rfl⟩
    exact ⟨paid, receivedByMe, happly, hpaid, rfl⟩
  · rintro ⟨paid, receivedByMe, happly, hpaid, rfl⟩
    exact ⟨(paid, receivedByMe), happly, (), hpaid, rfl⟩

variable {outputs : List TransactionOutput} {kept : List TransactionOutput} {paid : UtxoTxBuilder}
  {left : ℕ}

theorem finish_eq (paid : UtxoTxBuilder) (sender : Address) (receivedByMe : UInt64)
    (hleft : paid.sumInputs.toNat = paid.sumOutputsValue.toNat + left) :
    ∃ received unused, paid.finish receivedByMe (outputScript sender .p2pkh) = ({ paid.tx with
          outputs := paid.tx.outputs ++ changeOutputs sender paid.dustThreshold.toNat left },
        { feeAmount := paid.txFee
          receivedByMe := received
          spentByMe := paid.sumInputs
          unusedChange := unused
          kmdRewards := none }) ∧
      totalValue (changeOutputs sender paid.dustThreshold.toNat left) +
        (unused.getD 0).toNat = left := by
  have hle : paid.sumOutputsValue ≤ paid.sumInputs := by
    rw [UInt64.le_iff_toNat_le]
    omega
  have hchange : (paid.sumInputs - paid.sumOutputsValue).toNat = left := by
    rw [UInt64.toNat_sub_of_le _ _ hle]
    omega
  have hword : UInt64.ofNat left = paid.sumInputs - paid.sumOutputsValue := by
    rw [← hchange, UInt64.ofNat_toNat]
  have hpays : isChangeOutput (paid.sumInputs - paid.sumOutputsValue)
      paid.dustThreshold = true ↔ UtxoTxBuilder.IsChange left paid.dustThreshold.toNat := by
    rw [isChangeOutput_iff, hchange]
  have houts : (if isChangeOutput (paid.sumInputs - paid.sumOutputsValue)
      paid.dustThreshold = true then
        [⟨paid.sumInputs - paid.sumOutputsValue, outputScript sender .p2pkh⟩] else []) =
      changeOutputs sender paid.dustThreshold.toNat left := by
    simp only [changeOutputs, hpays, hword]
  refine ⟨_, _, congrArg₂ Prod.mk (congrArg (fun outputs => { paid.tx with
    outputs := paid.tx.outputs ++ outputs }) houts) rfl, ?_⟩
  rw [← houts]
  cases hchanges : isChangeOutput (paid.sumInputs - paid.sumOutputsValue) paid.dustThreshold with
  | true => simp [hchange, totalValue]
  | false =>
    by_cases hpos : 0 < paid.sumInputs - paid.sumOutputsValue
    · simp [hpos, hchange, totalValue]
    · have hzero : left = 0 := by
        rw [UInt64.lt_iff_toNat_lt, hchange] at hpos
        simpa using hpos
      simp [hpos, hzero, totalValue]

/-! ## Soundness -/

theorem totalAmount_toInput (unspents : List UnspentInfo) : totalAmount (unspents.map toInput) =
      ((unspents.map UnspentInfo.value).map UInt64.toNat).sum := by
  simp [totalAmount, toInput, Function.comp_def]

theorem totalValue_eq (outputs : List TransactionOutput) :
    totalValue outputs = ((outputs.map TransactionOutput.value).map UInt64.toNat).sum := by
  simp [totalValue, Function.comp_def]

theorem length_writeList_changeOutputs_le
    (dust left : ℕ) (hhash : sender.hash = .addressHash hash) (hcount : kept.length < 252) :
    (writeList serialize (kept ++ changeOutputs sender dust left)).length ≤
      (writeList serialize kept).length +
        if UtxoTxBuilder.IsChange left dust then P2PKH_OUTPUT_LEN else 0 := by
  unfold changeOutputs
  split
  next hchange =>
    have hscript := length_outputScript_le hhash .p2pkh
    have hpre : serializedLength kept.length = 1 := if_pos (by omega)
    have hafter : serializedLength (kept.length + 1) = 1 := if_pos (by omega)
    have hpush : serializedLength (outputScript sender .p2pkh).length = 1 :=
      if_pos (by omega)
    simp only [length_writeList, List.length_append, List.length_singleton, List.map_append,
      List.map_singleton, List.sum_append, List.sum_singleton, length_serialize_output,
      hpre, hafter, hpush, P2PKH_OUTPUT_LEN]
    omega
  · simp

theorem totalValue_set (other : TransactionOutput) (houtput : outputs[i]? = some output) :
    totalValue (outputs.set i other) + output.value.toNat =
      totalValue outputs + other.value.toNat := by
  induction outputs generalizing i with
  | nil => cases houtput
  | cons first rest ih =>
    cases i with
    | zero =>
      cases houtput
      simp only [totalValue, List.set_cons_zero, List.map_cons, List.sum_cons]
      omega
    | succ i =>
      have hrest := ih houtput
      simp only [totalValue, List.set_cons_succ, List.map_cons, List.sum_cons] at hrest ⊢
      omega

theorem length_writeList_set {other : TransactionOutput}
    (houtput : outputs[i]? = some output) (hscript : other.scriptPubkey = output.scriptPubkey) :
    (writeList serialize (outputs.set i other)).length = (writeList serialize outputs).length := by
  obtain ⟨hi, hget⟩ := List.getElem?_eq_some_iff.mp houtput
  have hbound : i < (outputs.map fun o => o.serialize.length).length := by
    rwa [List.length_map]
  have hsame : other.serialize.length = (outputs.map fun o => o.serialize.length)[i] := by
    rw [List.getElem_map, hget, length_serialize_output, length_serialize_output, hscript]
  rw [length_writeList, length_writeList, List.map_set, hsame, List.set_getElem_self,
    List.length_set]

section

variable (hsel : request.Selected coin rule minRelayFee sender.addrFormat taken selected)
  (hhash : sender.hash = .addressHash hash) (hcount : request.outputs.length < 252)
  (hins : totalAmount selected.tx.inputs = selected.sumInputs.toNat)

include hsel hhash hcount hins

theorem Selected.soundTx {spent : UInt64} (hlen : kept.length = request.outputs.length)
    (hbytes : (writeList serialize kept).length = (writeList serialize request.outputs).length)
    (hkept : ∀ i output later, request.outputs[i]? = some output → kept[i]? = some later →
      KeptOutput request.feePolicy selected.txFee.toNat
        (request.dustThreshold coin).toNat i output later)
    (hleft : selected.sumInputs.toNat = spent.toNat + left)
    (hspent : spent.toNat = totalValue kept + selected.txFee.toNat + (request.gasFee.getD 0).toNat)
    (hfee : demandedFee rule minRelayFee (sizeWithChange
      (selected.vSize sender.addrFormat) left (request.dustThreshold coin).toNat) ≤
        selected.txFee.toNat) :
    request.SoundTx coin sender rule minRelayFee
      ((selected.paying kept spent).finish receivedByMe (outputScript sender .p2pkh)).1
      ((selected.paying kept spent).finish receivedByMe (outputScript sender .p2pkh)).2 := by
  have hdust : (selected.paying kept spent).dustThreshold = request.dustThreshold coin :=
    hsel.dustThreshold_eq
  obtain ⟨received, unused, hfinish, hrest⟩ :=
    finish_eq (selected.paying kept spent) sender receivedByMe hleft
  rw [hdust] at hfinish hrest
  rw [hfinish]
  have houts : totalValue (kept ++ changeOutputs sender
      (request.dustThreshold coin).toNat left) = totalValue kept + totalValue
        (changeOutputs sender (request.dustThreshold coin).toNat left) := by
    simp [totalValue]
  refine ⟨⟨taken, hsel.taken_available, hsel.inputs_eq⟩, ?_, ?_, ⟨kept, left, hlen, hkept, ?_, rfl⟩⟩
  · dsimp only [paying]
    omega
  · have hmore := length_writeList_changeOutputs_le (request.dustThreshold coin).toNat
      left hhash (hlen.symm ▸ hcount)
    rw [hbytes, ← hsel.outputs_eq] at hmore
    have hsize := txSizeInVBytes_le_of_outputs sender.addrFormat hmore
    refine (demandedFee_mono rule minRelayFee (hsize.trans ?_)).trans hfee
    unfold sizeWithChange
    split
    · exact le_rfl
    · exact le_rfl
  · dsimp only [paying]
    omega

variable (houts : selected.sumOutputsValue.toNat =
    totalValue request.outputs + (request.gasFee.getD 0).toNat)
  (happly : selected.applyFee received changeScript = .ok (paid, receivedByMe))
  (hpaid : paid.sumOutputsValue ≤ paid.sumInputs)

include houts happly hpaid

theorem Selected.sendExact_sound (hpol : request.feePolicy = .sendExact)
    (hfees : totalValue request.outputs + (request.gasFee.getD 0).toNat +
      selected.txFee.toNat < 2 ^ 64) :
    request.SoundTx coin sender rule minRelayFee
      (paid.finish receivedByMe (outputScript sender .p2pkh)).1
      (paid.finish receivedByMe (outputScript sender .p2pkh)).2 := by
  have hexact := hsel.feePolicy_eq.trans hpol
  rw [applyFee_sendExact hexact] at happly
  cases happly
  have hspent : (selected.sumOutputsValue + selected.txFee).toNat =
      totalValue request.outputs + selected.txFee.toNat + (request.gasFee.getD 0).toNat := by
    rw [UInt64.toNat_add]
    omega
  have hcov : (selected.sumOutputsValue + selected.txFee).toNat ≤
      selected.sumInputs.toNat := UInt64.le_iff_toNat_le.mp hpaid
  have hfee := hsel.feeUpdated.sendExact hexact (by omega)
  rw [hsel.minRelayFee_eq, hsel.dustThreshold_eq] at hfee
  -- The fee is at least that of the transaction without change.
  have hbase : (rule.feeForSize (selected.vSize sender.addrFormat)).toNat ≤
      selected.txFee.toNat := by
    rw [hfee]
    exact (feeForSize_le_demandedFee rule minRelayFee _).trans
      (demandedFee_mono rule minRelayFee (le_sizeWithChange _ _ _))
  rw [hsel.outputs_eq]
  obtain ⟨left, hleft⟩ := Nat.exists_eq_add_of_le hcov
  refine hsel.soundTx hhash hcount hins rfl rfl ?_ hleft hspent ?_
  · intro i output later houtput hlater
    rw [houtput] at hlater
    cases hlater
    refine ⟨rfl, ?_⟩
    rw [hpol, if_neg (by simp)]
  · rw [hfee]
    refine demandedFee_mono rule minRelayFee (sizeWithChange_mono ?_)
    omega

theorem Selected.deductFromOutput_sound (hpol : request.feePolicy = .deductFromOutput i)
    (hdust : selected.txFee.toNat + (request.dustThreshold coin).toNat < 2 ^ 64) :
    request.SoundTx coin sender rule minRelayFee
      (paid.finish receivedByMe (outputScript sender .p2pkh)).1
      (paid.finish receivedByMe (outputScript sender .p2pkh)).2 := by
  have hdeduct := hsel.feePolicy_eq.trans hpol
  obtain ⟨output, houtput, hmin, happly⟩ :=
    (applyFee_deductFromOutput hdeduct).mp happly
  cases happly
  rw [hsel.dustThreshold_eq, UInt64.le_iff_toNat_le, UInt64.toNat_add,
    Nat.mod_eq_of_lt hdust] at hmin
  rw [hsel.outputs_eq] at houtput ⊢
  have hvalue : (output.value - selected.txFee).toNat = output.value.toNat - selected.txFee.toNat :=
    UInt64.toNat_sub_of_le _ _ (UInt64.le_iff_toNat_le.mpr (by omega))
  have htotal := totalValue_set ⟨output.value - selected.txFee, output.scriptPubkey⟩ houtput
  have hfee := hsel.feeUpdated.deductFromOutput hdeduct hpaid
  rw [hsel.minRelayFee_eq, hsel.dustThreshold_eq] at hfee
  have hcov : selected.sumOutputsValue.toNat ≤ selected.sumInputs.toNat :=
    UInt64.le_iff_toNat_le.mp hpaid
  refine hsel.soundTx hhash hcount hins List.length_set (length_writeList_set houtput rfl) ?_
    (Nat.add_sub_of_le hcov).symm ?_ hfee.ge
  · intro k before later hpre hlater
    rw [List.getElem?_set] at hlater
    by_cases hk : i = k
    · subst hk
      rw [houtput] at hpre
      cases hpre
      rw [if_pos rfl, if_pos (List.getElem?_eq_some_iff.mp houtput).1] at hlater
      cases hlater
      refine ⟨rfl, ?_⟩
      rw [if_pos hpol]
      dsimp only
      omega
    · rw [if_neg hk, hpre] at hlater
      cases hlater
      refine ⟨rfl, ?_⟩
      rw [hpol, if_neg (by simpa using hk)]
  · dsimp only at htotal
    omega

end

theorem fee_add_dust_lt {fee : ℕ} {dust : UInt64}
    (houtput : request.outputs[i]? = some output) (hdust : dust ≤ output.value)
    (hfees : totalValue request.outputs + (request.gasFee.getD 0).toNat + fee < 2 ^ 64) :
    fee + dust.toNat < 2 ^ 64 := by
  have hmem := List.mem_of_getElem? houtput
  have hvalue : output.value.toNat ≤ totalValue request.outputs :=
    List.single_le_sum (by simp) _ (List.mem_map_of_mem hmem)
  have hless := UInt64.le_iff_toNat_le.mp hdust
  omega

/-- A transaction that is built on a coin without interest is sound, if its change goes
to the hash of a key, its amounts and fees are below `2 ^ 64`, and so are the fee and the
dust where the fee is taken from an output that carries data. -/
theorem built_tx_sound (coin : UtxoTxCoin) (nowMs : UInt64) (request : TxRequest)
    (answers : BuilderAnswers) (tx : TransactionInputSigner) (data : AdditionalTxData)
    (hinterest : coin.ticker ≠ "KMD")
    (hbuild : (request.builder coin nowMs).build answers = .ok (tx, data))
    (hcount : request.outputs.length < 252) (hinputs : totalAmount tx.inputs < 2 ^ 64)
    (hfees : totalValue request.outputs + (request.gasFee.getD 0).toNat +
      data.feeAmount.toNat < 2 ^ 64)
    (hsender : ∀ sender, request.sender coin = some sender →
      ∃ hash, sender.hash = .addressHash hash)
    (hdata : ∀ i output, request.feePolicy = .deductFromOutput i →
      request.outputs[i]? = some output →
      opcodeAt output.scriptPubkey 0 = some OP_RETURN →
        data.feeAmount.toNat + (request.dustThreshold coin).toNat < 2 ^ 64) :
    ∃ sender rule minRelayFee, request.sender coin = some sender ∧
      request.rule answers = .ok rule ∧
      UtxoTxBuilder.readMinRelayFee coin answers = .ok minRelayFee ∧
      request.SoundTx coin sender rule minRelayFee tx data := by
  obtain ⟨sender, rule, minRelayFee, haccepted, hconclude⟩ :=
    (request.build_eq_ok_iff coin nowMs).mp hbuild
  obtain ⟨hash, hhash⟩ := hsender sender haccepted.sender_eq
  obtain ⟨taken, hselected⟩ := request.selectInputs_selected coin nowMs rule minRelayFee
    sender.addrFormat haccepted.inputs_ne_nil
  generalize (request.prepared coin nowMs minRelayFee).selectInputs sender.addrFormat rule =
    selected at hselected hconclude
  obtain ⟨paid, receivedByMe, happly, hpaid, hresult⟩ :=
    (conclude_eq_ok_iff (hselected.coin_eq.symm ▸ hinterest)).mp hconclude
  refine ⟨sender, rule, minRelayFee, haccepted.sender_eq, haccepted.rule_eq,
    haccepted.minRelayFee_eq, ?_⟩
  obtain ⟨outputs, spent, hpaying⟩ := applyFee_eq_paying happly
  obtain ⟨rfl, rfl⟩ := Prod.mk.inj hresult
  -- The fee and the inputs are those of the builder with its inputs selected.
  have htotal : totalAmount selected.tx.inputs < 2 ^ 64 := by rwa [hpaying] at hinputs
  have hspent : totalValue request.outputs + (request.gasFee.getD 0).toNat +
      selected.txFee.toNat < 2 ^ 64 := by rwa [hpaying] at hfees
  have hsumInputs : totalAmount selected.tx.inputs = selected.sumInputs.toNat := by
    rw [hselected.inputs_eq, totalAmount_toInput] at htotal ⊢
    rw [hselected.sumInputs_eq, toNat_sum_of_lt htotal]
  have hsumOutputs : selected.sumOutputsValue.toNat =
      totalValue request.outputs + (request.gasFee.getD 0).toNat := by
    rw [totalValue_eq] at hspent ⊢
    rw [hselected.sumOutputsValue_eq, UInt64.toNat_add, toNat_sum_of_lt (by omega)]
    omega
  cases hpolicy : request.feePolicy with
  | sendExact =>
    exact hselected.sendExact_sound hhash hcount hsumInputs hsumOutputs happly hpaid hpolicy hspent
  | deductFromOutput i =>
    have hdeduct := hselected.feePolicy_eq.trans hpolicy
    obtain ⟨output, houtput, -, -⟩ := (applyFee_deductFromOutput hdeduct).mp happly
    rw [hselected.outputs_eq] at houtput
    refine hselected.deductFromOutput_sound hhash hcount hsumInputs hsumOutputs happly hpaid
      hpolicy ?_
    rcases haccepted.outputs_pass output (List.mem_of_getElem? houtput) with hcarries | hdust
    · have hlow := hdata i output hpolicy houtput hcarries
      rwa [hpaying] at hlow
    · exact fee_add_dust_lt houtput hdust hspent

end TxRequest

/-! ## Three transactions -/

def sampleTxCoin : UtxoTxCoin :=
  { sampleCoinFields with
    ticker := "RICK"
    forceMinRelayFee := false
    myAddress := some ⟨.standard, .addressHash (.zero 20)⟩ }

def sampleBuilderAnswers : BuilderAnswers where
  currentMtp := .ok 1700000000
  verboseTransaction _ := .error (.transport "offline")
  nowMs := 1700000000000
  txFee := .error (.transport "offline")
  minRelayFee := .error "offline"

def sampleUnspent (index : UInt32) (value : UInt64) : UnspentInfo :=
  ⟨⟨.zero 32, index⟩, value, none⟩

def sampleTxRequest (unspent value : UInt64) (script : Script) (rate : UInt64) : TxRequest where
  fromAddress := none
  required := []
  available := [sampleUnspent 0 unspent]
  outputs := [⟨value, script⟩]
  feePolicy := .sendExact
  fee := some (.dynamic rate)
  gasFee := none
  dust := none

def sampleTxSigner (unspent : UInt64) (outputs : List TransactionOutput) : TransactionInputSigner :=
  { sampleTxCoin.transactionPreimage 1700000000000 with
    inputs := [(sampleUnspent 0 unspent).toInput]
    outputs := outputs }

def paymentScriptPubkey : Script := 0xa9 :: 0x14 :: List.replicate 20 1 ++ [0x87]

def changeScriptPubkey : Script := outputScript ⟨.standard, .addressHash (.zero 20)⟩ .p2pkh

theorem sample_tx_sound :
    ∃ sender rule minRelayFee,
      (sampleTxRequest 100000 60000 paymentScriptPubkey 1000).sender sampleTxCoin = some sender ∧
      (sampleTxRequest 100000 60000 paymentScriptPubkey 1000).rule sampleBuilderAnswers = .ok rule ∧
      UtxoTxBuilder.readMinRelayFee sampleTxCoin sampleBuilderAnswers = .ok minRelayFee ∧
      (sampleTxRequest 100000 60000 paymentScriptPubkey 1000).SoundTx sampleTxCoin sender rule
        minRelayFee
    (sampleTxSigner 100000 [⟨60000, paymentScriptPubkey⟩, ⟨39776, changeScriptPubkey⟩])
        ⟨39776, 100000, 224, none, none⟩ := by
  refine TxRequest.built_tx_sound sampleTxCoin 1700000000000
    (sampleTxRequest 100000 60000 paymentScriptPubkey 1000) sampleBuilderAnswers _ _
    ?_ ?_ ?_ ?_ ?_ ?_ ?_
  · decide
  · decide +kernel
  · decide
  · decide
  · decide
  · intro sender hsender
    cases hsender
    exact ⟨_, rfl⟩
  · intro i output hpolicy
    cases hpolicy

/-- The fee is taken from an output that carries data, and the fee and the dust wrap: the
output falls below dust. -/
def wrappingRequest : TxRequest :=
  { sampleTxRequest 1000 600 [OP_RETURN] 3274 with
    feePolicy := .deductFromOutput 0
    dust := some (UInt64.ofNat (2 ^ 64 - 500)) }

def scriptHashAddress : Address := ⟨.segwit, .witnessScriptHash (.zero 32)⟩

def scriptHashRequest : TxRequest :=
  { sampleTxRequest 100000 60000 paymentScriptPubkey 1000 with
    fromAddress := some scriptHashAddress }

theorem builds_below_dust_or_fee :
    ((wrappingRequest.builder sampleTxCoin 1700000000000).build sampleBuilderAnswers =
        .ok (sampleTxSigner 1000 [⟨50, [OP_RETURN]⟩], ⟨0, 1000, 550, some 400, none⟩) ∧
      ¬wrappingRequest.SoundTx sampleTxCoin ⟨.standard, .addressHash (.zero 20)⟩
        (.dynamic 3274) none (sampleTxSigner 1000 [⟨50, [OP_RETURN]⟩])
        ⟨0, 1000, 550, some 400, none⟩) ∧
    (scriptHashRequest.builder sampleTxCoin 1700000000000).build sampleBuilderAnswers =
        .ok (sampleTxSigner 100000 [⟨60000, paymentScriptPubkey⟩,
            ⟨39855, outputScript scriptHashAddress .p2pkh⟩],
          ⟨39855, 100000, 145, none, none⟩) ∧
      ¬scriptHashRequest.SoundTx sampleTxCoin scriptHashAddress (.dynamic 1000) none
        (sampleTxSigner 100000 [⟨60000, paymentScriptPubkey⟩,
          ⟨39855, outputScript scriptHashAddress .p2pkh⟩])
        ⟨39855, 100000, 145, none, none⟩ := by
  refine ⟨⟨?_, ?_⟩, ?_, ?_⟩
  · decide +kernel
  · intro hsound
    obtain ⟨kept, left, hlength, hkept, -, houtputs⟩ := hsound.outputs
    obtain ⟨later, rfl⟩ := List.length_eq_one_iff.mp hlength
    obtain ⟨-, hdeducted⟩ := hkept 0 ⟨600, [OP_RETURN]⟩ later rfl rfl
    have hpolicy : wrappingRequest.feePolicy = .deductFromOutput 0 := rfl
    rw [if_pos hpolicy] at hdeducted
    have hlater : later = ⟨50, [OP_RETURN]⟩ := (List.cons.inj houtputs).1.symm
    subst hlater
    exact absurd hdeducted.2 (by decide)
  · decide +kernel
  · intro hsound
    exact absurd hsound.fee (by decide +kernel)

end KdfProtocol
