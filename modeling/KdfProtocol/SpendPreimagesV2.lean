import KdfProtocol.MakerOrderUpdate
import KdfProtocol.UtxoTransactions

/-!
# The spend of the taker funding that both sides sign

The maker builds the transaction that turns the funding into the taker payment and
signs it.  The taker compares what it received with what it would have built, with
some room for the fee, signs as well and broadcasts.
-/

namespace KdfProtocol

open BitcoinScript V2

/-! ## Transactions to be signed -/

structure UnsignedTransactionInput where
  previousOutput : OutPoint
  sequence : UInt32
  amount : UInt64
  witness : List Bytes
  deriving DecidableEq

structure TransactionInputSigner where
  version : Int32
  nTime : Option UInt32
  overwintered : Bool
  versionGroupId : UInt32
  consensusBranchId : UInt32
  expiryHeight : UInt32
  valueBalance : Int64
  inputs : List UnsignedTransactionInput
  outputs : List TransactionOutput
  lockTime : UInt32
  joinSplits : List JoinSplit
  shieldedSpends : List ShieldedSpend
  shieldedOutputs : List ShieldedOutput
  zcash : Bool
  strDZeel : Option String
  hashAlgo : TxHashAlgo
  sighashSuffix : UInt32
  deriving DecidableEq

/-- The amount of an input is not part of a transaction. -/
def TransactionInput.toUnsigned (input : TransactionInput) : UnsignedTransactionInput where
  previousOutput := input.previousOutput
  sequence := input.sequence
  amount := 0
  witness := input.scriptWitness

namespace TransactionInputSigner

def fromTransaction (tx : Transaction) (sighashSuffix : UInt32) : TransactionInputSigner where
  version := tx.version
  nTime := tx.nTime
  overwintered := tx.overwintered
  versionGroupId := tx.versionGroupId
  consensusBranchId := 0
  expiryHeight := tx.expiryHeight
  valueBalance := tx.valueBalance
  inputs := tx.inputs.map TransactionInput.toUnsigned
  outputs := tx.outputs
  lockTime := tx.lockTime
  joinSplits := tx.joinSplits
  shieldedSpends := tx.shieldedSpends
  shieldedOutputs := tx.shieldedOutputs
  zcash := tx.zcash
  strDZeel := tx.strDZeel
  hashAlgo := tx.txHashAlgo
  sighashSuffix := sighashSuffix

def toTransaction (signer : TransactionInputSigner) : Transaction where
  version := signer.version
  nTime := signer.nTime
  overwintered := signer.overwintered
  versionGroupId := signer.versionGroupId
  inputs := signer.inputs.map fun input =>
    ⟨input.previousOutput, [], input.sequence, []⟩
  outputs := signer.outputs
  lockTime := signer.lockTime
  expiryHeight := signer.expiryHeight
  shieldedSpends := signer.shieldedSpends
  shieldedOutputs := signer.shieldedOutputs
  joinSplits := signer.joinSplits
  valueBalance := signer.valueBalance
  zcash := signer.zcash
  strDZeel := signer.strDZeel
  txHashAlgo := signer.hashAlgo

def signedWith (signer : TransactionInputSigner) (input : UnsignedTransactionInput)
    (scriptSig : Script) (txHashAlgo : TxHashAlgo) : Transaction :=
  { signer.toTransaction with
    inputs := [⟨input.previousOutput, scriptSig, input.sequence, []⟩]
    txHashAlgo }

end TransactionInputSigner

structure TxPreimageWithSig where
  preimage : TransactionInputSigner
  signature : Bytes
  deriving DecidableEq

/-! ## The coin -/

structure UtxoCoinFields extends UtxoCoin where
  dustAmount : UInt64
  decimals : UInt8
  txVersion : Int32
  overwintered : Bool
  versionGroupId : UInt32
  consensusBranchId : UInt32
  zcash : Bool
  nTime : Option UInt32
  sighashSuffix : UInt32
  txHashAlgo : TxHashAlgo

structure SignatureScheme where
  signatureHash : TransactionInputSigner → ℕ → UInt64 → Script → UInt32 → FixedBytes 32
  verify : Public → FixedBytes 32 → Bytes → Except String Bool

structure GenTakerFundingSpendArgs where
  fundingTx : UtxoTx
  makerPub : Public
  takerPub : Public
  fundingTimeLock : UInt64
  takerSecretHash : Bytes
  takerPaymentTimeLock : UInt64
  makerSecretHash : Bytes

inductive TxGenError where
  | prevTxIsNotValid (err : String)
  | prevOutputTooLow
  | rpc (err : String)
  | signing (err : String)
  | numConversion (err : String)
  | other (err : String)
  deriving DecidableEq

inductive ValidatePreimageError where
  | invalidPreimage (err : String)
  | internalError (err : String)
  deriving DecidableEq

namespace GenTakerFundingSpendArgs

variable (args : GenTakerFundingSpendArgs)

def fundingOutPoint : OutPoint := ⟨args.fundingTx.hash, 0⟩

def fundingRedeem (coin : UtxoCoin) : Option Script :=
  takerFundingScript coin.ripemd160 args.fundingTimeLock.toUInt32
    args.takerSecretHash args.takerPub args.makerPub

def takerPaymentRedeem (coin : UtxoCoin) : Option Script :=
  takerPaymentScript coin.ripemd160 args.takerPaymentTimeLock.toUInt32
    args.makerSecretHash args.takerPub args.makerPub

def takerPaymentScriptPubkey (coin : UtxoCoin) : Option Script := do
  let redeem ← args.takerPaymentRedeem coin
  Builder.buildP2sh (coin.dhash160 redeem)

end GenTakerFundingSpendArgs

theorem Builder.buildP2sh_isSome {hash : Bytes} (hhash : hash.length = 20) :
    ∃ script, Builder.buildP2sh hash = some script := by
  have hpushable : 1 ≤ hash.length ∧ hash.length ≤ 75 := by omega
  obtain ⟨script, hscript, -, -⟩ :=
    ((Builder.builds_empty.pushOpcode .opHash160).pushBytes hpushable).pushOpcode .opEqual
  exact ⟨script, hscript⟩

def single {α : Type} : List α → Option α
  | [item] => some item
  | _ => none

section Preimage

variable (coin : UtxoCoinFields) (scheme : SignatureScheme)

def buildFundingSpendPreimageTx (fundingTx : UtxoTx) (takerPaymentRedeem : Script)
    (fee : UInt64) : Fallible TxGenError TransactionInputSigner := do
  let fundingOutput ← requireSome fundingTx.outputs[DEFAULT_SWAP_VOUT]?
    (.prevTxIsNotValid "funding tx has no output 0")
  refuseIf (2 ^ 64 ≤ fee.toNat + coin.dustAmount.toNat) .prevOutputTooLow
  refuseIf (fundingOutput.value < fee + coin.dustAmount) .prevOutputTooLow
  let scriptPubkey ← unwrap (Builder.buildP2sh (coin.dhash160 takerPaymentRedeem))
  return {
    version := coin.txVersion
    nTime := coin.nTime
    overwintered := coin.overwintered
    versionGroupId := coin.versionGroupId
    consensusBranchId := coin.consensusBranchId
    expiryHeight := 0
    valueBalance := 0
    inputs := [⟨⟨fundingTx.hash, 0⟩, SEQUENCE_FINAL, fundingOutput.value, []⟩]
    outputs := [⟨fundingOutput.value - fee, scriptPubkey⟩]
    lockTime := 0
    joinSplits := []
    shieldedSpends := []
    shieldedOutputs := []
    zcash := coin.zcash
    strDZeel := none
    hashAlgo := coin.txHashAlgo
    sighashSuffix := coin.sighashSuffix }

def genTakerFundingSpendPreimage (args : GenTakerFundingSpendArgs) (fee : Except String UInt64)
    (sign : FixedBytes 32 → Except String Bytes) : Fallible TxGenError TxPreimageWithSig := do
  let takerPaymentRedeem ← unwrap (args.takerPaymentRedeem coin.toUtxoCoin)
  let fundingRedeem ← unwrap (args.fundingRedeem coin.toUtxoCoin)
  let fee ← fee.mapError fun err => .error (.rpc err)
  let signer ← buildFundingSpendPreimageTx coin args.fundingTx takerPaymentRedeem fee
  let amount := (signer.inputs.map UnsignedTransactionInput.amount).headD 0
  let digest := scheme.signatureHash signer DEFAULT_SWAP_VOUT amount fundingRedeem
    coin.makerSighashType
  let signature ← (sign digest).mapError fun err => .error (.signing err)
  return ⟨signer, signature⟩

def signAndSendTakerFundingSpend (args : GenTakerFundingSpendArgs)
    (preimage : TransactionInputSigner) (htlcPub : Public)
    (mySig preimageSig : Signature) : Option UtxoTx := do
  let input ← preimage.inputs[DEFAULT_SWAP_VOUT]?
  let spending ← coin.toUtxoCoin.signAndSendTakerFundingSpend args.fundingTimeLock
    args.takerSecretHash args.takerPub args.makerPub htlcPub mySig preimageSig
  return preimage.signedWith input spending.scriptSig coin.txHashAlgo

end Preimage

/-! ## A funding -/

def sampleCoinFields : UtxoCoinFields where
  toUtxoCoin := { ripemd160 := computedRipemd160, forkId := 0, chainTime := 1700000000 }
  dustAmount := 546
  decimals := 8
  txVersion := 2
  overwintered := false
  versionGroupId := 0
  consensusBranchId := 0
  zcash := false
  nTime := none
  sighashSuffix := 0
  txHashAlgo := .dsha256

def sampleScheme : SignatureScheme where
  signatureHash _ _ _ _ _ := .zero 32
  verify _ digest signature := .ok (signature = digest.val)

def sampleFundingArgs (value : UInt64) : GenTakerFundingSpendArgs where
  fundingTx := { inputs := [], outputs := [⟨value, []⟩], lockTime := 0 }
  makerPub := .sampleMaker
  takerPub := .sampleTaker
  fundingTimeLock := 1700000000
  takerSecretHash := List.replicate 32 4
  takerPaymentTimeLock := 1700000000
  makerSecretHash := List.replicate 32 5

def sampleFundingSpend (funded value : UInt64) : Transaction where
  inputs := [⟨(sampleFundingArgs funded).fundingOutPoint, [], SEQUENCE_FINAL, []⟩]
  outputs := [⟨value, ((sampleFundingArgs funded).takerPaymentScriptPubkey
    sampleCoinFields.toUtxoCoin).getD []⟩]
  lockTime := 0

/-! ## What is accepted -/

theorem mapError_eq_ok {ε ε' α : Type} {f : ε → ε'} {x : Except ε α} {a : α} :
    x.mapError f = .ok a ↔ x = .ok a := by
  cases x with
  | error err | ok b => simp [Except.mapError]

theorem single_eq_some_iff {α : Type} {items : List α} {item : α} :
    single items = some item ↔ items = [item] := by
  cases items with
  | nil => simp [single]
  | cons first rest =>
    cases rest with
    | nil | cons second rest => simp [single]

section Accepted

variable {coin : UtxoCoinFields} {scheme : SignatureScheme} {args : GenTakerFundingSpendArgs}
  {fee : UInt64} {htlcPub : Public} {preimage : TxPreimageWithSig}

end Accepted

end KdfProtocol
