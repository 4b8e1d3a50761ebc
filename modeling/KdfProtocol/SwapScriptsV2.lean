import KdfProtocol.BitcoinScript
import KdfProtocol.SwapMessagesV2

/-!
# The scripts of V2 swaps

The outputs of a V2 swap on a chain of the Bitcoin family are locked by the hash
of a redeem script: the funding and the payment of the taker, and the payment of
the maker.  Each way to spend one of them assembles an input script that selects
a branch of the redeem script and serves it with signatures and secrets.
-/

namespace KdfProtocol

namespace V2

open BitcoinScript

/-! ## The builder of scripts -/

/-- The bytes so far; none after a failed assertion. -/
structure Builder where
  data : Option Script

namespace Builder

def empty : Builder where
  data := some []

variable (builder : Builder)

def pushOpcode (opcode : Opcode) : Builder where
  data := builder.data.map fun data => data ++ [opcode.code]

def pushBytes (bytes : Bytes) : Builder where
  data := builder.data.bind fun data =>
    if 1 ≤ bytes.length ∧ bytes.length ≤ 75 then
      some (data ++ UInt8.ofNat bytes.length :: bytes)
    else none

def pushData (bytes : Bytes) : Builder where
  data := builder.data.bind fun data =>
    if bytes.length < 0x4c then
      some (data ++ UInt8.ofNat bytes.length :: bytes)
    else if bytes.length ≤ 0xff then
      some (data ++ 0x4c :: (writeLe 1 bytes.length ++ bytes))
    else if bytes.length ≤ 0xffff then
      some (data ++ 0x4d :: (writeLe 2 bytes.length ++ bytes))
    else if bytes.length ≤ 0xffffffff then
      some (data ++ 0x4e :: (writeLe 4 bytes.length ++ bytes))
    else none

def intoScript : Option Script :=
  builder.data

def Builds (instructions : List Instruction) (bound : ℕ) : Prop :=
  ∃ script, builder.data = some script ∧ Reads script instructions ∧ script.length ≤ bound

variable {builder : Builder} {instructions : List Instruction} {bound : ℕ}

theorem builds_empty : empty.Builds [] 0 :=
  ⟨[], rfl, Reads.nil, le_rfl⟩

theorem Builds.pushOpcode (hbuilds : builder.Builds instructions bound) (opcode : Opcode) :
    (builder.pushOpcode opcode).Builds (instructions ++ [opcode.instruction]) (bound + 1) := by
  obtain ⟨script, hdata, hreads, hlen⟩ := hbuilds
  refine ⟨script ++ [opcode.code], ?_, hreads.append (Reads.opcode opcode), ?_⟩
  · rw [Builder.pushOpcode, hdata]
    rfl
  · rw [List.length_append, List.length_singleton]
    omega

theorem Builds.pushBytes (hbuilds : builder.Builds instructions bound)
    {bytes : Bytes} (hbytes : 1 ≤ bytes.length ∧ bytes.length ≤ 75) :
    (builder.pushBytes bytes).Builds (instructions ++ [.push bytes])
      (bound + (bytes.length + 1)) := by
  obtain ⟨script, hdata, hreads, hlen⟩ := hbuilds
  refine ⟨script ++ UInt8.ofNat bytes.length :: bytes, ?_, hreads.append (Reads.push hbytes.2), ?_⟩
  · rw [Builder.pushBytes, hdata, Option.bind_some, if_pos hbytes]
  · rw [List.length_append, List.length_cons]
    omega

theorem Builds.pushData (hbuilds : builder.Builds instructions bound)
    {bytes : Bytes} (hbytes : bytes.length ≤ 520) :
    (builder.pushData bytes).Builds (instructions ++ [.push bytes])
      (bound + (bytes.length + 3)) := by
  obtain ⟨script, hdata, hreads, hlen⟩ := hbuilds
  rw [Builds, Builder.pushData, hdata, Option.bind_some]
  by_cases hshort : bytes.length < 0x4c
  · rw [if_pos hshort]
    refine ⟨_, rfl, hreads.append (Reads.push (by omega)), ?_⟩
    rw [List.length_append, List.length_cons]
    omega
  rw [if_neg hshort]
  by_cases hone : bytes.length ≤ 0xff
  · rw [if_pos hone]
    refine ⟨_, rfl, hreads.append (Reads.pushdata1 (by omega)), ?_⟩
    rw [List.length_append, List.length_cons, List.length_append, length_writeLe]
    omega
  rw [if_neg hone, if_pos (by omega)]
  refine ⟨_, rfl, hreads.append (Reads.pushdata2 (by omega)), ?_⟩
  rw [List.length_append, List.length_cons, List.length_append, length_writeLe]
  omega

end Builder

/-! ## Redeem scripts -/

structure Public where
  bytes : Bytes
  length_eq : bytes.length = 33 ∨ bytes.length = 65

def Public.sampleMaker : Public :=
  ⟨2 :: List.replicate 32 1, by decide⟩

def Public.sampleTaker : Public :=
  ⟨3 :: List.replicate 32 2, by decide⟩

theorem Public.pushable (pub : Public) : 1 ≤ pub.bytes.length ∧ pub.bytes.length ≤ 75 := by
  rcases pub.length_eq with hlen | hlen
  · omega
  · omega

section Scripts

variable (ripemd160 : Ripemd160)

def h160Of (secretHash32 : Bytes) : Bytes :=
  ripemd160.hash secretHash32

def takerFundingScript (locktime : UInt32) (takerSecretHash : Bytes)
    (takerPub makerPub : Public) : Option Script :=
  let secretH160 := h160Of ripemd160 takerSecretHash
  Builder.empty
    |>.pushOpcode .opIf
    |>.pushBytes (writeLe 4 locktime.toNat)
    |>.pushOpcode .opChecklocktimeverify
    |>.pushOpcode .opDrop
    |>.pushBytes takerPub.bytes
    |>.pushOpcode .opChecksig
    |>.pushOpcode .opElse
    |>.pushOpcode .opIf
    |>.pushBytes takerPub.bytes
    |>.pushOpcode .opChecksigverify
    |>.pushBytes makerPub.bytes
    |>.pushOpcode .opChecksig
    |>.pushOpcode .opElse
    |>.pushOpcode .opSize
    |>.pushBytes [32]
    |>.pushOpcode .opEqualverify
    |>.pushOpcode .opHash160
    |>.pushBytes secretH160
    |>.pushOpcode .opEqualverify
    |>.pushBytes takerPub.bytes
    |>.pushOpcode .opChecksig
    |>.pushOpcode .opEndif
    |>.pushOpcode .opEndif
    |>.intoScript

def takerPaymentScript (locktime : UInt32) (makerSecretHash : Bytes)
    (takerPub makerPub : Public) : Option Script :=
  let secretH160 := h160Of ripemd160 makerSecretHash
  Builder.empty
    |>.pushOpcode .opIf
    |>.pushBytes (writeLe 4 locktime.toNat)
    |>.pushOpcode .opChecklocktimeverify
    |>.pushOpcode .opDrop
    |>.pushBytes takerPub.bytes
    |>.pushOpcode .opChecksig
    |>.pushOpcode .opElse
    |>.pushOpcode .opSize
    |>.pushBytes [32]
    |>.pushOpcode .opEqualverify
    |>.pushOpcode .opHash160
    |>.pushBytes secretH160
    |>.pushOpcode .opEqualverify
    |>.pushBytes takerPub.bytes
    |>.pushOpcode .opChecksigverify
    |>.pushBytes makerPub.bytes
    |>.pushOpcode .opChecksig
    |>.pushOpcode .opEndif
    |>.intoScript

def makerPaymentScript (locktime : UInt32)
    (makerSecretHash takerSecretHash : Bytes) (makerPub takerPub : Public) : Option Script :=
  let makerH160 := h160Of ripemd160 makerSecretHash
  let takerH160 := h160Of ripemd160 takerSecretHash
  Builder.empty
    |>.pushOpcode .opIf
    |>.pushBytes (writeLe 4 locktime.toNat)
    |>.pushOpcode .opChecklocktimeverify
    |>.pushOpcode .opDrop
    |>.pushBytes makerPub.bytes
    |>.pushOpcode .opChecksig
    |>.pushOpcode .opElse
    |>.pushOpcode .opIf
    |>.pushOpcode .opSize
    |>.pushBytes [32]
    |>.pushOpcode .opEqualverify
    |>.pushOpcode .opHash160
    |>.pushBytes makerH160
    |>.pushOpcode .opEqualverify
    |>.pushBytes takerPub.bytes
    |>.pushOpcode .opChecksig
    |>.pushOpcode .opElse
    |>.pushOpcode .opSize
    |>.pushBytes [32]
    |>.pushOpcode .opEqualverify
    |>.pushOpcode .opHash160
    |>.pushBytes takerH160
    |>.pushOpcode .opEqualverify
    |>.pushBytes makerPub.bytes
    |>.pushOpcode .opChecksig
    |>.pushOpcode .opEndif
    |>.pushOpcode .opEndif
    |>.intoScript

/-- The hash that the script of a V1 payment compares: both widths are taken for
what they are. -/
def htlcHash160Comparator (secretHash : Bytes) : Option Bytes :=
  if secretHash.length = 20 then some secretHash
  else if secretHash.length = 32 then some (ripemd160.hash secretHash)
  else none

def paymentScript (timeLock : UInt32) (secretHash : Bytes) (pub0 pub1 : Public) : Option Script :=
  let secretHashHash160 :=
    (htlcHash160Comparator ripemd160 secretHash).getD (List.replicate 20 0)
  Builder.empty
    |>.pushOpcode .opIf
    |>.pushBytes (writeLe 4 timeLock.toNat)
    |>.pushOpcode .opChecklocktimeverify
    |>.pushOpcode .opDrop
    |>.pushBytes pub0.bytes
    |>.pushOpcode .opChecksig
    |>.pushOpcode .opElse
    |>.pushOpcode .opSize
    |>.pushBytes [32]
    |>.pushOpcode .opEqualverify
    |>.pushOpcode .opHash160
    |>.pushBytes secretHashHash160
    |>.pushOpcode .opEqualverify
    |>.pushBytes pub1.bytes
    |>.pushOpcode .opChecksig
    |>.pushOpcode .opEndif
    |>.intoScript

inductive SwapTxTypeWithSecretHash where
  | takerOrMakerPayment (makerSecretHash : Bytes)
  | takerFunding (takerSecretHash : Bytes)
  | makerPaymentV2 (makerSecretHash takerSecretHash : Bytes)
  | takerPaymentV2 (makerSecretHash takerSecretHash : Bytes)

def SwapTxTypeWithSecretHash.redeemScript (timeLock : UInt32)
    (firstPub secondPub : Public) : SwapTxTypeWithSecretHash → Option Script
  | .takerOrMakerPayment makerSecretHash =>
    paymentScript ripemd160 timeLock makerSecretHash firstPub secondPub
  | .takerFunding takerSecretHash =>
    takerFundingScript ripemd160 timeLock takerSecretHash firstPub secondPub
  | .takerPaymentV2 makerSecretHash _ =>
    takerPaymentScript ripemd160 timeLock makerSecretHash firstPub secondPub
  | .makerPaymentV2 makerSecretHash takerSecretHash =>
    makerPaymentScript ripemd160 timeLock makerSecretHash takerSecretHash firstPub secondPub

end Scripts

/-! ## Inputs -/

structure Signature where
  bytes : Bytes
  length_le : bytes.length ≤ 72

structure UtxoCoin where
  ripemd160 : Ripemd160
  forkId : UInt32
  /-- What the lock time of a transaction is at least: the median time of the
  chain or the clock, less some seconds. -/
  chainTime : UInt32

def SEQUENCE_FINAL : UInt32 := 0xffffffff

/-- The script of an input, and the fields of its transaction that lock it. -/
structure SpendingInput where
  scriptSig : Script
  sequence : UInt32
  lockTime : UInt32

namespace UtxoCoin

variable (coin : UtxoCoin)

def p2shTxLocktime (htlcLocktime : UInt32) : UInt32 :=
  max coin.chainTime htlcLocktime

def scriptSig (signature : Signature) : Bytes :=
  signature.bytes ++ [1 ||| coin.forkId.toUInt8]

def p2shSpendWithSignature (redeemScript scriptData : Script)
    (signature : Signature) : Option Script := do
  let signaturePart ← (Builder.empty.pushData (coin.scriptSig signature)).intoScript
  let redeemPart ← (Builder.empty.pushData redeemScript).intoScript
  pure (signaturePart ++ scriptData ++ redeemPart)

def buildAndBroadcastMakerV2Spend (redeem scriptData : Script)
    (sequence lockTime : UInt32) (signature : Signature) : Option SpendingInput := do
  let scriptSig ← coin.p2shSpendWithSignature redeem scriptData signature
  pure { scriptSig, sequence, lockTime := coin.p2shTxLocktime lockTime }

variable (timeLock : UInt64)

variable (txType : SwapTxTypeWithSecretHash)

def refundMakerPaymentV2Timelock (htlcPub takerPub : Public) (signature : Signature) :
    Option SpendingInput := do
  let redeem ← txType.redeemScript coin.ripemd160 timeLock.toUInt32 htlcPub takerPub
  let scriptData ← (Builder.empty.pushOpcode .op1).intoScript
  coin.buildAndBroadcastMakerV2Spend redeem scriptData (SEQUENCE_FINAL - 1)
    timeLock.toUInt32 signature

def refundMakerPaymentV2Secret (makerSecretHash takerSecretHash takerSecret : Bytes)
    (htlcPub takerPub : Public) (signature : Signature) : Option SpendingInput := do
  let txType := SwapTxTypeWithSecretHash.makerPaymentV2 makerSecretHash takerSecretHash
  let redeem ← txType.redeemScript coin.ripemd160 timeLock.toUInt32 htlcPub takerPub
  let scriptData ← ((Builder.empty.pushData takerSecret).pushOpcode .op0
    |>.pushOpcode .op0).intoScript
  coin.buildAndBroadcastMakerV2Spend redeem scriptData SEQUENCE_FINAL 0 signature

def spendMakerPaymentV2 (makerSecretHash takerSecretHash makerSecret : Bytes)
    (makerPub htlcPub : Public) (signature : Signature) : Option SpendingInput := do
  let redeem ← makerPaymentScript coin.ripemd160 timeLock.toUInt32
    makerSecretHash takerSecretHash makerPub htlcPub
  let scriptData ← ((Builder.empty.pushData makerSecret).pushOpcode .op1
    |>.pushOpcode .op0).intoScript
  coin.buildAndBroadcastMakerV2Spend redeem scriptData SEQUENCE_FINAL 0 signature

def refundTakerFundingTimelock (htlcPub makerPub : Public) (signature : Signature) :
    Option SpendingInput := do
  let redeem ← txType.redeemScript coin.ripemd160 timeLock.toUInt32 htlcPub makerPub
  let scriptData ← ((Builder.empty.pushOpcode .op1).pushOpcode .op0).intoScript
  coin.buildAndBroadcastMakerV2Spend redeem scriptData (SEQUENCE_FINAL - 1)
    timeLock.toUInt32 signature

def refundTakerFundingSecret (fundingTimeLock : UInt64) (takerSecretHash takerSecret : Bytes)
    (htlcPub makerPub : Public) (signature : Signature) : Option SpendingInput := do
  let redeem ← takerFundingScript coin.ripemd160 fundingTimeLock.toUInt32
    takerSecretHash htlcPub makerPub
  let scriptData ← ((Builder.empty.pushData takerSecret).pushOpcode .op0
    |>.pushOpcode .op0).intoScript
  coin.buildAndBroadcastMakerV2Spend redeem scriptData SEQUENCE_FINAL 0 signature

def buildFundingSpendCooperativeScriptSig (makerSigDer takerSigDer : Signature)
    (fundingRedeem : Script) : Option Script :=
  let sighashByte := (1 ||| coin.forkId).toUInt8
  Builder.empty
    |>.pushData (makerSigDer.bytes ++ [sighashByte])
    |>.pushData (takerSigDer.bytes ++ [sighashByte])
    |>.pushOpcode .op1
    |>.pushOpcode .op0
    |>.pushData fundingRedeem
    |>.intoScript

def signAndSendTakerFundingSpend (fundingTimeLock : UInt64)
    (takerSecretHash : Bytes) (takerPub makerPub htlcPub : Public)
    (mySig preimageSig : Signature) : Option SpendingInput := do
  let fundingRedeem ← takerFundingScript coin.ripemd160 fundingTimeLock.toUInt32
    takerSecretHash takerPub makerPub
  let (makerSigDer, takerSigDer) :=
    if htlcPub.bytes = makerPub.bytes then (mySig, preimageSig)
    else (preimageSig, mySig)
  let scriptSig ← coin.buildFundingSpendCooperativeScriptSig makerSigDer takerSigDer fundingRedeem
  pure { scriptSig, sequence := SEQUENCE_FINAL, lockTime := 0 }

def refundCombinedTakerPayment (htlcPub makerPub : Public) (signature : Signature) :
    Option SpendingInput := do
  let redeem ← txType.redeemScript coin.ripemd160 timeLock.toUInt32 htlcPub makerPub
  let scriptData ← (Builder.empty.pushOpcode .op1).intoScript
  coin.buildAndBroadcastMakerV2Spend redeem scriptData (SEQUENCE_FINAL - 1)
    timeLock.toUInt32 signature

inductive DexFee where
  | standard
  | withBurn
  | noFee

def makerSighashType : UInt32 :=
  1 ||| coin.forkId

/-- The taker signs one output only if the fee is the standard one. -/
def takerSighashType : DexFee → UInt32
  | .standard => 3 ||| coin.forkId
  | .withBurn | .noFee => 1 ||| coin.forkId

def buildTakerPaymentSpendCooperativeScriptSig
    (makerSigDer takerSigDer : Signature) (makerSecret : Bytes)
    (makerSighashByte takerSighashByte : UInt8) (takerPaymentRedeem : Script) : Option Script :=
  Builder.empty
    |>.pushData (makerSigDer.bytes ++ [makerSighashByte])
    |>.pushData (takerSigDer.bytes ++ [takerSighashByte])
    |>.pushData makerSecret
    |>.pushOpcode .op0
    |>.pushData takerPaymentRedeem
    |>.intoScript

def signAndBroadcastTakerPaymentSpend (makerSecretHash secret : Bytes) (takerPub makerPub : Public)
    (dexFee : DexFee) (preimageSig : Option Signature) (makerSig : Signature) :
    Option SpendingInput := do
  let takerSig ← preimageSig
  let takerPaymentRedeem ← takerPaymentScript coin.ripemd160 timeLock.toUInt32
    makerSecretHash takerPub makerPub
  let scriptSig ← buildTakerPaymentSpendCooperativeScriptSig makerSig takerSig
    secret coin.makerSighashType.toUInt8 (coin.takerSighashType dexFee).toUInt8
    takerPaymentRedeem
  pure { scriptSig, sequence := SEQUENCE_FINAL, lockTime := 0 }

/-! ## Whether an input opens its output -/

def dhash160 (bytes : Bytes) : Bytes :=
  coin.ripemd160.hash (Sha256.digest bytes)

def context (checkSig : Bytes → Bytes → Bool) (sequence lockTime : UInt32) : Context where
  hash160 := coin.dhash160
  checkSig := checkSig
  lockTime := lockTime.toNat
  sequence := sequence.toNat

/-- The branch of the redeem script through which an input opens the output; none
if it does not. -/
def opens (checkSig : Bytes → Bytes → Bool) (redeem : Option Script)
    (input : Option SpendingInput) : Option (List Bool) := do
  let redeem ← redeem
  let input ← input
  verifyP2sh (coin.context checkSig input.sequence input.lockTime)
    input.scriptSig (coin.dhash160 redeem)

end UtxoCoin

end V2

end KdfProtocol
