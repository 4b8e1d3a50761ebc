import KdfProtocol.Sha256
import KdfProtocol.WireCodec

/-!
# Transactions and their wire format

One record covers the formats of all coins: the standard one with witnesses, the
shielded one, and the one with a time.  The decoder tries them in that order.
-/

namespace KdfProtocol

open BitcoinScript WireCodec

def WITNESS_MARKER : UInt8 := 0

def WITNESS_FLAG : UInt8 := 1

def MAX_LIST_SIZE : ℕ := 8192

structure OutPoint where
  hash : FixedBytes 32
  index : UInt32
  deriving DecidableEq

structure TransactionInput where
  previousOutput : OutPoint
  scriptSig : Script
  sequence : UInt32
  scriptWitness : List (List UInt8) := []
  deriving DecidableEq

structure TransactionOutput where
  value : UInt64
  scriptPubkey : Script
  deriving DecidableEq

structure ShieldedSpend where
  cv : FixedBytes 32
  anchor : FixedBytes 32
  nullifier : FixedBytes 32
  rk : FixedBytes 32
  zkproof : FixedBytes 192
  spendAuthSig : FixedBytes 64
  deriving DecidableEq

structure ShieldedOutput where
  cv : FixedBytes 32
  cmu : FixedBytes 32
  ephemeralKey : FixedBytes 32
  encCipherText : FixedBytes 580
  outCipherText : FixedBytes 80
  zkproof : FixedBytes 192
  deriving DecidableEq

inductive JoinSplitProof where
  | phgr (proof : FixedBytes 296)
  | groth (proof : FixedBytes 192)
  deriving DecidableEq

structure JoinSplit where
  vPubOld : FixedBytes 8
  vPubNew : FixedBytes 8
  anchor : FixedBytes 32
  nullifiers : FixedBytes 32 × FixedBytes 32
  commitments : FixedBytes 32 × FixedBytes 32
  ephemeralKey : FixedBytes 32
  randomSeed : FixedBytes 32
  macs : FixedBytes 32 × FixedBytes 32
  zkproof : JoinSplitProof
  ciphertexts : FixedBytes 601 × FixedBytes 601
  deriving DecidableEq

inductive TxHashAlgo where
  | dsha256
  | sha256
  deriving DecidableEq

structure Transaction where
  version : Int32 := 0
  nTime : Option UInt32 := none
  overwintered : Bool := false
  versionGroupId : UInt32 := 0
  inputs : List TransactionInput
  outputs : List TransactionOutput
  lockTime : UInt32
  expiryHeight : UInt32 := 0
  shieldedSpends : List ShieldedSpend := []
  shieldedOutputs : List ShieldedOutput := []
  joinSplits : List JoinSplit := []
  valueBalance : Int64 := 0
  joinSplitPubkey : FixedBytes 32 := .zero 32
  joinSplitSig : FixedBytes 64 := .zero 64
  bindingSig : FixedBytes 64 := .zero 64
  zcash : Bool := false
  strDZeel : Option String := none
  txHashAlgo : TxHashAlgo := .dsha256
  deriving DecidableEq

/-! ## Writing -/

def OutPoint.serialize (point : OutPoint) : List UInt8 :=
  point.hash.val ++ writeU32 point.index

def TransactionInput.serialize (input : TransactionInput) : List UInt8 :=
  input.previousOutput.serialize ++ writeBytes input.scriptSig ++ writeU32 input.sequence

def TransactionInput.hasWitness (input : TransactionInput) : Bool :=
  !input.scriptWitness.isEmpty

def TransactionOutput.serialize (output : TransactionOutput) : List UInt8 :=
  writeU64 output.value ++ writeBytes output.scriptPubkey

def ShieldedSpend.serialize (spend : ShieldedSpend) : List UInt8 :=
  spend.cv.val ++ spend.anchor.val ++ spend.nullifier.val ++ spend.rk.val ++
    spend.zkproof.val ++ spend.spendAuthSig.val

def ShieldedOutput.serialize (output : ShieldedOutput) : List UInt8 :=
  output.cv.val ++ output.cmu.val ++ output.ephemeralKey.val ++
    output.encCipherText.val ++ output.outCipherText.val ++ output.zkproof.val

def JoinSplitProof.serialize : JoinSplitProof → List UInt8
  | phgr proof | groth proof => proof.val

def JoinSplit.serialize (split : JoinSplit) : List UInt8 :=
  split.vPubOld.val ++ split.vPubNew.val ++ split.anchor.val ++
    split.nullifiers.1.val ++ split.nullifiers.2.val ++
    split.commitments.1.val ++ split.commitments.2.val ++
    split.ephemeralKey.val ++ split.randomSeed.val ++
    split.macs.1.val ++ split.macs.2.val ++ split.zkproof.serialize ++
    split.ciphertexts.1.val ++ split.ciphertexts.2.val

namespace Transaction

def hasWitness (tx : Transaction) : Bool :=
  tx.inputs.any TransactionInput.hasWitness

def serializeHeader (tx : Transaction) : List UInt8 :=
  writeI32 (if tx.overwintered then tx.version ||| ((1 : Int32) <<< 31) else tx.version) ++
    (if tx.overwintered then writeU32 tx.versionGroupId else []) ++
    (tx.nTime.elim [] writeU32)

/-- What stands after the lock time. -/
def serializeTrailer (tx : Transaction) : List UInt8 :=
  (if tx.overwintered && 3 ≤ tx.version then
      writeU32 tx.expiryHeight ++
        if 4 ≤ tx.version then
          writeI64 tx.valueBalance ++ writeList ShieldedSpend.serialize tx.shieldedSpends ++
            writeList ShieldedOutput.serialize tx.shieldedOutputs
        else []
    else []) ++
  (if tx.zcash then
      (if tx.version = 2 || tx.overwintered then
          writeList JoinSplit.serialize tx.joinSplits ++
            if tx.joinSplits.isEmpty then []
            else tx.joinSplitPubkey.val ++ tx.joinSplitSig.val
        else []) ++
      (if 4 ≤ tx.version && tx.overwintered &&
          !(tx.shieldedOutputs.isEmpty && tx.shieldedSpends.isEmpty) then
          tx.bindingSig.val
        else [])
    else []) ++
  tx.strDZeel.elim [] fun text => writeBytes text.toUTF8.toList

def serialize (tx : Transaction) : List UInt8 :=
  tx.serializeHeader ++ writeList TransactionInput.serialize tx.inputs ++
    writeList TransactionOutput.serialize tx.outputs ++ writeU32 tx.lockTime ++
    tx.serializeTrailer

def serializeWithWitness (tx : Transaction) : List UInt8 :=
  if tx.hasWitness then
    writeI32 tx.version ++ [WITNESS_MARKER, WITNESS_FLAG] ++
      writeList TransactionInput.serialize tx.inputs ++
      writeList TransactionOutput.serialize tx.outputs ++
      tx.inputs.flatMap (fun input => writeList writeBytes input.scriptWitness) ++
      writeU32 tx.lockTime
  else tx.serialize

/-- The hash that names the transaction does not cover the witnesses. -/
def hash (tx : Transaction) : FixedBytes 32 :=
  match tx.txHashAlgo with
  | .dsha256 => ⟨Sha256.digest (Sha256.digest tx.serialize), Sha256.length_digest _⟩
  | .sha256 => ⟨Sha256.digest tx.serialize, Sha256.length_digest _⟩

end Transaction

/-! ## Reading -/

inductive TxType where
  | standardWithWitness
  | zcash
  | posWithNTime
  deriving DecidableEq

def readOutPoint : Reader OutPoint := do return ⟨← readFixed 32, ← readU32⟩

def readInput : Reader TransactionInput := do
  return ⟨← readOutPoint, ← readBytes, ← readU32, []⟩

def readOutput : Reader TransactionOutput := do return ⟨← readU64, ← readBytes⟩

def readShieldedSpend : Reader ShieldedSpend := do
  return ⟨← readFixed 32, ← readFixed 32, ← readFixed 32, ← readFixed 32,
    ← readFixed 192, ← readFixed 64⟩

def readShieldedOutput : Reader ShieldedOutput := do
  return ⟨← readFixed 32, ← readFixed 32, ← readFixed 32, ← readFixed 580,
    ← readFixed 80, ← readFixed 192⟩

def deserializeJoinSplit (useGroth : Bool) : Reader JoinSplit := do
  return ⟨← readFixed 8, ← readFixed 8, ← readFixed 32,
    (← readFixed 32, ← readFixed 32), (← readFixed 32, ← readFixed 32),
    ← readFixed 32, ← readFixed 32, (← readFixed 32, ← readFixed 32),
    ← (if useGroth then .groth <$> readFixed 192 else .phgr <$> readFixed 296),
    (← readFixed 601, ← readFixed 601)⟩

/-- The inputs, and whether witnesses follow the outputs: no inputs and a flag
instead stand for the envelope with witnesses. -/
def readInputs (txType : TxType) (overwintered : Bool) : Reader (List TransactionInput × Bool) := do
  let inputs ← readListMax readInput MAX_LIST_SIZE
  if inputs.isEmpty && !overwintered && txType = .standardWithWitness then
    let witnessFlag ← readU8
    if witnessFlag ≠ WITNESS_FLAG then throw .malformedData
    return (← readListMax readInput MAX_LIST_SIZE, true)
  return (inputs, false)

def readWitnesses : List TransactionInput → Reader (List TransactionInput)
  | [] => return []
  | input :: rest => do
      let witness ← readListMax readBytes MAX_LIST_SIZE
      let rest ← readWitnesses rest
      return { input with scriptWitness := witness } :: rest

/-- What a shielded transaction has after the lock time. -/
structure Shielded where
  expiryHeight : UInt32 := 0
  valueBalance : Int64 := 0
  shieldedSpends : List ShieldedSpend := []
  shieldedOutputs : List ShieldedOutput := []

def readShielded (overwintered : Bool) (version : Int32) : Reader Shielded := do
  if overwintered && 3 ≤ version then
    let expiryHeight ← readU32
    if 4 ≤ version then
      return ⟨expiryHeight, ← readI64, ← readListMax readShieldedSpend MAX_LIST_SIZE,
        ← readListMax readShieldedOutput MAX_LIST_SIZE⟩
    return ⟨expiryHeight, 0, [], []⟩
  return ⟨0, 0, [], []⟩

structure JoinSplits where
  joinSplits : List JoinSplit := []
  joinSplitPubkey : FixedBytes 32 := .zero 32
  joinSplitSig : FixedBytes 64 := .zero 64

def readJoinSplits (version : Int32) : Reader JoinSplits := do
  let length ← readCompactInteger
  if 0 < length then
    if MAX_LIST_SIZE < length then throw .malformedData
    let joinSplits ← readItems (deserializeJoinSplit (2 < version)) length
    return ⟨joinSplits, ← readFixed 32, ← readFixed 64⟩
  return ⟨[], .zero 32, .zero 64⟩

def readStrDZeel : Reader (Option String) := do
  if ← isFinished then return none
  let length ← readCompactInteger
  if 2 ^ 63 ≤ length then throw .capacityOverflow
  let buffer ← readSlice length
  match String.fromUTF8? ⟨buffer.toArray⟩ with
  | some text => return some text
  | none => throw .malformedData

def deserializeTx (txType : TxType) : Reader Transaction := do
  let header ← readI32
  let overwintered := decide (header < 0)
  let version := if overwintered then header &&& 0x7fffffff else header
  let versionGroupId ← if overwintered then readU32 else pure 0
  let nTime ← if txType = .posWithNTime then some <$> readU32 else pure none
  let (inputs, readWitness) ← readInputs txType overwintered
  let outputs ← readListMax readOutput MAX_LIST_SIZE
  if outputs.isEmpty && txType = .standardWithWitness then
    throw (.custom "Transaction has no output")
  let inputs ← if readWitness then readWitnesses inputs else pure inputs
  let lockTime ← readU32
  let shielded ← readShielded overwintered version
  let zcash := overwintered || txType = .zcash
  let splits ←
    if zcash && (version = 2 || overwintered) then readJoinSplits version
    else pure ⟨[], .zero 32, .zero 64⟩
  let bindingSig ←
    if zcash && (overwintered && 4 ≤ version &&
        !(shielded.shieldedSpends.isEmpty && shielded.shieldedOutputs.isEmpty)) then
      readFixed 64
    else pure (.zero 64)
  let strDZeel ← if txType = .posWithNTime then readStrDZeel else pure none
  return {
    version, nTime, overwintered, versionGroupId, inputs, outputs, lockTime
    expiryHeight := shielded.expiryHeight
    shieldedSpends := shielded.shieldedSpends
    shieldedOutputs := shielded.shieldedOutputs
    joinSplits := splits.joinSplits
    valueBalance := shielded.valueBalance
    joinSplitPubkey := splits.joinSplitPubkey
    joinSplitSig := splits.joinSplitSig
    bindingSig, zcash, strDZeel
    txHashAlgo := .dsha256 }

/-- One format after the other; what is left of the bytes is not looked at. -/
def readTransaction : Reader Transaction := fun bytes =>
  match (deserializeTx .standardWithWitness).run' bytes with
  | .ok tx => .ok (tx, [])
  | .error .capacityOverflow => .error .capacityOverflow
  | .error _ =>
    match (deserializeTx .posWithNTime).run' bytes with
    | .ok tx => .ok (tx, [])
    | .error .capacityOverflow => .error .capacityOverflow
    | .error _ => ((deserializeTx .zcash).run' bytes).map (·, [])

def deserializeTransaction (bytes : List UInt8) : Except Error Transaction :=
  deserialize readTransaction bytes

end KdfProtocol
