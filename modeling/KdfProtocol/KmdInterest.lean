import KdfProtocol.SpendPreimagesV2

/-!
# The interest of KMD

The builder of transactions hands a transaction that is complete to this step.  It
leaves the transactions of every other coin as they are; a transaction of KMD claims
the interest that its inputs have accrued.
-/

namespace KdfProtocol

open BitcoinScript

inductive KmdRewardsNotAccruedReason where
  | locktimeNotSet
  | locktimeLessThanThreshold
  | utxoHeightGreaterThanEndOfEra
  | utxoAmountLessThanTen
  | oneHourNotPassedYet
  | transactionInMempool
  deriving DecidableEq

def kmdInterest (height : Option UInt64) (value lockTime currentTime : UInt64) :
    Except KmdRewardsNotAccruedReason UInt64 :=
  if value < 1000000000 then .error .utxoAmountLessThanTen
  else if lockTime = 0 then .error .locktimeNotSet
  else if lockTime < 500000000 then .error .locktimeLessThanThreshold
  else
    match height with
    | none => .error .transactionInMempool
    | some height =>
      if 7777777 ≤ height then .error .utxoHeightGreaterThanEndOfEra
      else if currentTime < lockTime then .error .oneHourNotPassedYet
      else
        let minutes := (currentTime - lockTime) / 60
        if minutes < 60 then .error .oneHourNotPassedYet
        else
          let minutes := if 365 * 24 * 60 < minutes then 365 * 24 * 60 else minutes
          let minutes :=
            if 1000000 ≤ height ∧ 31 * 24 * 60 < minutes then 31 * 24 * 60 else minutes
          let accrued := value / 10512000 * (minutes - 59)
          .ok (if 3484958 ≤ height then accrued / 500 else accrued)

inductive UtxoRpcError where
  | transport (err : String)
  | responseParseError (err : String)
  | invalidResponse (err : String)
  | internal (err : String)
  deriving DecidableEq

structure AdditionalTxData where
  receivedByMe : UInt64
  spentByMe : UInt64
  feeAmount : UInt64
  unusedChange : Option UInt64
  kmdRewards : Option ℚ
  deriving DecidableEq

/-- What the step reads of an earlier transaction. -/
structure VerboseTransaction where
  height : Option UInt64
  locktime : UInt32

structure InterestAnswers where
  currentMtp : Except UtxoRpcError UInt32
  verboseTransaction : FixedBytes 32 → Except UtxoRpcError VerboseTransaction
  nowMs : UInt64

/-- Whole units as a decimal; the power of ten wraps, and a power that wraps to
nothing panics. -/
def bigDecimalFromSat {E : Type} (satoshis : ℤ) (decimals : UInt8) : Fallible E ℚ :=
  divide satoshis (10 ^ decimals.toNat % 2 ^ 64 : ℕ)

def sumInterest (answers : InterestAnswers) (lockTime : UInt32) :
    List UnsignedTransactionInput → Except UtxoRpcError UInt64
  | [] => .ok 0
  | input :: rest => do
      let tx ← answers.verboseTransaction input.previousOutput.hash
      let later ← sumInterest answers lockTime rest
      return later + ((kmdInterest tx.height input.amount tx.locktime.toUInt64
        lockTime.toUInt64).toOption.getD 0)

/-- The interest goes to the first output to the address, or to an output of its
own. -/
def addInterest (interest : UInt64) (myScriptPub : Script) :
    List TransactionOutput → List TransactionOutput
  | [] => [⟨interest, myScriptPub⟩]
  | output :: rest =>
    if output.scriptPubkey = myScriptPub then
      { output with value := output.value + interest } :: rest
    else output :: addInterest interest myScriptPub rest

/-- A transaction that has no interest yet gets a low lock time, to claim it later. -/
def lowestLockTime (nowMs : UInt64) : UInt32 := (nowMs / 1000).toUInt32 - 3600 + 777 * 2

def calcInterestIfRequired (ticker : String) (decimals : UInt8) (answers : InterestAnswers)
    (signer : TransactionInputSigner) (data : AdditionalTxData) (myScriptPub : Script) :
    Fallible UtxoRpcError (TransactionInputSigner × AdditionalTxData) :=
  if ticker ≠ "KMD" then .ok (signer, data)
  else do
    let lockTime ← answers.currentMtp.mapError .error
    let interest ← (sumInterest answers lockTime signer.inputs).mapError .error
    let rewards ← bigDecimalFromSat interest.toNat decimals
    if 0 < interest then
      return (
        { signer with
          lockTime := lockTime
          outputs := addInterest interest myScriptPub signer.outputs },
        { data with
          receivedByMe := data.receivedByMe + interest
          kmdRewards := some rewards })
    else
      return ({ signer with lockTime := lowestLockTime answers.nowMs },
        { data with kmdRewards := some rewards })

end KdfProtocol
