import KdfProtocol.SpendPreimagesV2

/-!
# The spend of the taker payment that reveals the secret

The taker signs what it wants of the outputs.  The maker compares that with what it
would have built, adds its own output, signs and reveals the secret.  The taker
looks for the secret in the transaction.
-/

namespace KdfProtocol

open BitcoinScript ScriptReader V2 UtxoCoin Instruction

/-! ## Fees -/

inductive DexFeeBurnDestination where
  | kmdOpReturn
  | preBurnAccount (burnPubkey : Bytes)
  deriving DecidableEq

inductive DexFeeAmounts where
  | standard (amount : ℚ)
  | withBurn (feeAmount burnAmount : ℚ) (burnDestination : DexFeeBurnDestination)
  | noFee
  deriving DecidableEq

def DexFeeAmounts.kind : DexFeeAmounts → UtxoCoin.DexFee
  | standard _ => .standard
  | withBurn _ _ _ => .withBurn
  | noFee => .noFee

/-- Whole units; the power of ten wraps. -/
def satFromBigDecimal (amount : ℚ) (decimals : UInt8) : Except String UInt64 :=
  let scaled := amount * (10 ^ decimals.toNat % 2 ^ 64 : ℕ)
  if 0 ≤ scaled ∧ scaled < 2 ^ 64 then .ok (UInt64.ofNat scaled.floor.toNat)
  else .error "Could not get sat from amount"

structure GenTakerPaymentSpendArgs where
  takerTx : UtxoTx
  timeLock : UInt64
  makerSecretHash : Bytes
  makerPub : Public
  makerScriptPubkey : Script
  takerPub : Public
  dexFee : DexFeeAmounts
  dexFeeAddrRawPubkey : Bytes

def GenTakerPaymentSpendArgs.takerPaymentRedeem (args : GenTakerPaymentSpendArgs)
    (coin : UtxoCoin) : Option Script :=
  takerPaymentScript coin.ripemd160 args.timeLock.toUInt32 args.makerSecretHash
    args.takerPub args.makerPub

section Outputs

-- The script that pays the address of a public key; an error if it is no key.
variable (coin : UtxoCoinFields) (payToPubkey : Bytes → Except String Script)

def dexFeeStandardOutput (feeSat : UInt64) (dexFeeAddrRawPubkey : Bytes) :
    Except TxGenError TransactionOutput := do
  let scriptPubkey ← (payToPubkey dexFeeAddrRawPubkey).mapError .other
  return ⟨feeSat, scriptPubkey⟩

def buildBurnOutput (burnAmountSat : UInt64) :
    DexFeeBurnDestination → Except TxGenError TransactionOutput
  | .kmdOpReturn => .ok ⟨burnAmountSat, [OP_RETURN]⟩
  | .preBurnAccount burnPubkey => do
      let scriptPubkey ← (payToPubkey burnPubkey).mapError .other
      return ⟨burnAmountSat, scriptPubkey⟩

/-- What is left of a value, if it is enough. -/
def checkedSub (value part : UInt64) : Except TxGenError UInt64 :=
  if part ≤ value then .ok (value - part) else .error .prevOutputTooLow

def takerPaymentSpendOutputs (dexFee : DexFeeAmounts) (takerOutputValue spendFee : UInt64)
    (makerScriptPubkey : Script) (dexFeeAddrRawPubkey : Bytes) :
    Except TxGenError (List TransactionOutput × UInt32) :=
  let sat (amount : ℚ) :=
    (satFromBigDecimal (toDecimal amount) coin.decimals).mapError TxGenError.numConversion
  match dexFee with
  | .standard amount => do
      let dexFeeSat ← sat amount
      let feeOut ← dexFeeStandardOutput payToPubkey dexFeeSat dexFeeAddrRawPubkey
      return ([feeOut], coin.takerSighashType .standard)
  | .withBurn feeAmount burnAmount burnDestination => do
      let dexFeeSat ← sat feeAmount
      let burnSat ← sat burnAmount
      let afterFee ← checkedSub takerOutputValue dexFeeSat
      let afterBurn ← checkedSub afterFee burnSat
      let makerValue ← checkedSub afterBurn spendFee
      let feeOut ← dexFeeStandardOutput payToPubkey dexFeeSat dexFeeAddrRawPubkey
      let burnOut ← buildBurnOutput payToPubkey burnSat burnDestination
      return ([feeOut, burnOut, ⟨makerValue, makerScriptPubkey⟩], coin.takerSighashType .withBurn)
  | .noFee => do
      let makerValue ← checkedSub takerOutputValue spendFee
      return ([⟨makerValue, makerScriptPubkey⟩], coin.takerSighashType .noFee)

end Outputs

/-! ## Validation and broadcast -/

section Spend

variable (coin : UtxoCoinFields) (payToPubkey : Bytes → Except String Script)

def validateTakerPaymentSpendPreimage (scheme : SignatureScheme)
    (args : GenTakerPaymentSpendArgs) (spendFee : Except String UInt64)
    (preimage : TxPreimageWithSig) : Fallible ValidatePreimageError Unit := do
  let takerOutput ← requireSome args.takerTx.outputs[DEFAULT_SWAP_VOUT]?
    (.invalidPreimage "taker-payment tx has no output 0")
  let spendFee ← spendFee.mapError fun err => .error (.internalError err)
  let (expectedOutputs, sighashType) ← (takerPaymentSpendOutputs coin payToPubkey
    args.dexFee takerOutput.value spendFee args.makerScriptPubkey
    args.dexFeeAddrRawPubkey).mapError fun _ =>
      .error (.internalError "taker payment spend outputs")
  let signer := preimage.preimage
  let input ← requireSome ((single signer.inputs).filter fun input =>
      input.previousOutput = ⟨args.takerTx.hash, 0⟩ ∧ input.sequence = SEQUENCE_FINAL)
    (.invalidPreimage "preimage input does not spend the taker-payment outpoint")
  refuseIf (signer.version ≠ coin.txVersion ∨ signer.overwintered ≠ coin.overwintered ∨
      signer.lockTime ≠ 0) (.invalidPreimage
    "preimage version/overwintered/lock_time does not match the expected transaction shape")
  refuseIf (signer.outputs ≠ expectedOutputs) (.invalidPreimage
    "preimage outputs do not exactly match the expected")
  let redeem ← unwrap (args.takerPaymentRedeem coin.toUtxoCoin)
  let digest := scheme.signatureHash signer DEFAULT_SWAP_VOUT input.amount redeem sighashType
  let verified ← (scheme.verify args.takerPub digest preimage.signature).mapError
    fun err => .error (.internalError err)
  refuseIf (verified = false) (.invalidPreimage
    "taker signature does not verify against cooperative branch")

/-- The outputs of the transaction that is broadcast: for the standard fee the maker
adds its own. -/
def finalSpendOutputs (args : GenTakerPaymentSpendArgs) (preimage : TransactionInputSigner)
    (spendFee : Except String UInt64) : Except String (List TransactionOutput) :=
  match args.dexFee with
  | .standard amount => do
      let takerOutput ← args.takerTx.outputs[DEFAULT_SWAP_VOUT]?.elim
        (.error "taker-payment tx has no output 0") .ok
      let dexFeeSat ← satFromBigDecimal (toDecimal amount) coin.decimals
      let spendFee ← spendFee
      if spendFee.toNat + coin.dustAmount.toNat + dexFeeSat.toNat ≤ takerOutput.value.toNat then
        return preimage.outputs ++
          [⟨takerOutput.value - spendFee - dexFeeSat, args.makerScriptPubkey⟩]
      else throw "taker-payment value below spend fee + dust + dex fee"
  | .withBurn .. | .noFee => .ok preimage.outputs

/-- The transaction that is broadcast; `makerSig` is what signing it gives. -/
def signAndBroadcastTakerPaymentSpend (args : GenTakerPaymentSpendArgs)
    (preimage : Option (TransactionInputSigner × Signature)) (secret : Bytes)
    (spendFee : Except String UInt64) (makerSig : Except String Signature) :
    Except String UtxoTx := do
  let (signer, takerSig) ← preimage.elim
    (.error "UTXO sign_and_broadcast_taker_payment_spend requires Some(preimage)") .ok
  let outputs ← finalSpendOutputs coin args signer spendFee
  let makerSig ← makerSig
  let input ← signer.inputs[DEFAULT_SWAP_VOUT]?.elim (.error "index out of bounds") .ok
  let redeem ← (args.takerPaymentRedeem coin.toUtxoCoin).elim (.error "failed assertion") .ok
  let scriptSig ← (UtxoCoin.buildTakerPaymentSpendCooperativeScriptSig makerSig
    takerSig secret coin.makerSighashType.toUInt8
    (coin.takerSighashType args.dexFee.kind).toUInt8 redeem).elim (.error "failed assertion") .ok
  return { signer with outputs }.signedWith input scriptSig coin.txHashAlgo

end Spend

/-! ## The secret -/

section Extract

variable (coin : UtxoCoin) (secretHash : Bytes)

def secretOfInstruction (instruction : ReadInstruction) : Option (FixedBytes 32) :=
  if instruction.opcode = OP_PUSHBYTES_32 then
    instruction.data.bind fun push =>
      if hlength : push.length = 32 then
        if coin.dhash160 push = secretHash then some ⟨push, hlength⟩ else none
      else none
  else none

def extractSecretV2 (spendTx : UtxoTx) : Except String (FixedBytes 32) :=
  match spendTx.inputs.head? with
  | none => .error "Spend tx has no inputs"
  | some input =>
    (((iter input.scriptSig).filterMap id).findSome?
      (secretOfInstruction coin secretHash)).elim
        (.error "Secret not found in spend transaction") .ok

end Extract

/-! ## What the maker broadcasts -/

section Broadcast

variable {coin : UtxoCoinFields} {args : GenTakerPaymentSpendArgs}
  {signer : TransactionInputSigner} {takerSig : Signature} {secret : Bytes}
  {spendFee : Except String UInt64} {makerSig : Signature} {tx : UtxoTx}

theorem elim_eq_ok {ε α : Type} {found : Option α} {err : ε} {a : α} :
    found.elim (.error err) .ok = (.ok a : Except ε α) ↔ found = some a := by
  cases found with
  | none | some b => simp

theorem inputs_of_signAndBroadcast
    (hsent : signAndBroadcastTakerPaymentSpend coin args (some (signer, takerSig))
      secret spendFee (.ok makerSig) = .ok tx) :
    ∃ (input : UnsignedTransactionInput) (redeem scriptSig : Script),
      args.takerPaymentRedeem coin.toUtxoCoin = some redeem ∧
      buildTakerPaymentSpendCooperativeScriptSig makerSig takerSig secret
        coin.makerSighashType.toUInt8
        (coin.takerSighashType args.dexFee.kind).toUInt8 redeem = some scriptSig ∧
      tx.inputs = [⟨input.previousOutput, scriptSig, input.sequence, []⟩] := by
  unfold signAndBroadcastTakerPaymentSpend at hsent
  simp only [except_bind_eq_ok, elim_eq_ok] at hsent
  obtain ⟨_, ⟨⟩, outputs, -, _, ⟨⟩, input, -, redeem, hredeem, scriptSig, hscript, hsent⟩ := hsent
  cases hsent
  exact ⟨input, redeem, scriptSig, hredeem, hscript, rfl⟩

end Broadcast

/-! ## What the taker finds -/

section Recovery

variable {coin : UtxoCoin} {secretHash push : Bytes}

theorem secretOfInstruction_push (hlen : push.length ≤ 75) :
    secretOfInstruction coin secretHash (directPush push) =
      if hopens : push.length = 32 ∧ coin.dhash160 push = secretHash then
        some ⟨push, hopens.1⟩
      else none := by
  unfold secretOfInstruction directPush
  by_cases hdirect : push.length = 32
  · have hcode : UInt8.ofNat push.length = OP_PUSHBYTES_32 := by
      rw [hdirect]
      rfl
    rw [if_pos hcode, Option.bind_some, dif_pos hdirect]
    by_cases hhash : coin.dhash160 push = secretHash
    · rw [if_pos hhash, dif_pos ⟨hdirect, hhash⟩]
    · rw [if_neg hhash, dif_neg fun hopens => hhash hopens.2]
  · have hcode : UInt8.ofNat push.length ≠ OP_PUSHBYTES_32 := by
      intro heq
      have hnat := congrArg UInt8.toNat heq
      rw [UInt8.toNat_ofNat_of_lt' (lt_of_le_of_lt hlen (by decide))] at hnat
      exact hdirect hnat
    rw [if_neg hcode, dif_neg fun hopens => hdirect hopens.1]

theorem secretOfInstruction_of_length (hlen : secretHash.length ≠ 20)
    (instruction : ReadInstruction) : secretOfInstruction coin secretHash instruction = none := by
  unfold secretOfInstruction
  split
  · cases instruction.data with
    | none => rfl
    | some push =>
      have hhash : coin.dhash160 push ≠ secretHash := by
        rintro rfl
        exact hlen (coin.ripemd160.length_hash _)
      simp [hhash]
  · rfl

theorem pushData_data {builder : Builder} {script bytes : Bytes}
    (hdata : builder.data = some script) (hlen : bytes.length ≤ 75) :
    (builder.pushData bytes).data = some (script ++ UInt8.ofNat bytes.length :: bytes) := by
  rw [Builder.pushData, hdata, Option.bind_some, if_pos (by omega)]

theorem exists_of_pushData {builder : Builder} {script bytes final : Bytes}
    (hdata : builder.data = some script) (hfinal : (builder.pushData bytes).data = some final) :
    ∃ part, final = script ++ part := by
  rw [Builder.pushData, hdata, Option.bind_some] at hfinal
  split_ifs at hfinal
  all_goals exact ⟨_, (Option.some.inj hfinal).symm⟩

theorem iter_of_paymentSpend {makerSig takerSig : Signature} {secret : Bytes}
    {makerFlags takerFlags : UInt8} {redeem scriptSig : Script} (hsec : secret.length = 32)
    (hscript : buildTakerPaymentSpendCooperativeScriptSig makerSig takerSig
      secret makerFlags takerFlags redeem = some scriptSig) :
    ∃ rest, iter scriptSig =
      ([makerSig.bytes ++ [makerFlags], takerSig.bytes ++ [takerFlags],
        secret].map directPush).map some ++ rest := by
  have hmaker := length_signature_le makerSig makerFlags
  have htaker := length_signature_le takerSig takerFlags
  have hempty : Builder.empty.data = some [] := rfl
  have hthree := pushData_data (pushData_data (pushData_data hempty
    (hmaker.trans (by norm_num))) (htaker.trans (by norm_num))) (hsec.le.trans (by norm_num))
  have hflag : ((Builder.empty.pushData (makerSig.bytes ++ [makerFlags])
      |>.pushData (takerSig.bytes ++ [takerFlags]) |>.pushData secret).pushOpcode
        .op0).data = _ := congrArg (Option.map (· ++ [Opcode.op0.code])) hthree
  obtain ⟨part, hpart⟩ := exists_of_pushData hflag hscript
  have hyields := ((Yields.push (hmaker.trans (by norm_num))).append
    (Yields.push (htaker.trans (by norm_num)))).append (Yields.push (hsec.le.trans (by norm_num)))
  refine ⟨iter ([Opcode.op0.code] ++ part), ?_⟩
  rw [hpart, List.nil_append, List.append_assoc _ [_] part, hyields]
  rfl

/-- The first signature that is a push of the length and with the hash of the
secret is the secret. -/
def NoSignatureMistaken (coin : UtxoCoin) (signatures : List Bytes) (secret : Bytes) : Prop :=
  ∀ push ∈ signatures.find? (fun push =>
      decide (push.length = 32 ∧ coin.dhash160 push = coin.dhash160 secret)),
    push = secret

end Recovery

theorem findSome?_pushes {coin : UtxoCoin} {secret : Bytes} (hsec : secret.length = 32)
    {signatures : List Bytes} (hsmall : ∀ push ∈ signatures, push.length ≤ 75)
    (rest : List ReadInstruction) :
    ((signatures ++ [secret]).map directPush ++ rest).findSome?
        (secretOfInstruction coin (coin.dhash160 secret)) = some ⟨secret, hsec⟩ ↔
      NoSignatureMistaken coin signatures secret := by
  induction signatures with
  | nil =>
    rw [List.nil_append, List.map_singleton, List.singleton_append,
      List.findSome?_cons, secretOfInstruction_push (by omega), dif_pos ⟨hsec, rfl⟩]
    simp [NoSignatureMistaken]
  | cons push signatures ih =>
    have hpush := hsmall push List.mem_cons_self
    have htail := ih fun other hother => hsmall other (List.mem_cons_of_mem push hother)
    rw [List.cons_append, List.map_cons, List.cons_append, List.findSome?_cons,
      secretOfInstruction_push hpush, NoSignatureMistaken, List.find?_cons]
    by_cases hopens : push.length = 32 ∧ coin.dhash160 push = coin.dhash160 secret
    · rw [dif_pos hopens]
      simp [hopens]
    · rw [dif_neg hopens, decide_eq_false hopens]
      exact htail

theorem filterMap_map_some_append {α : Type} (items : List α) (others : List (Option α)) :
    (items.map some ++ others).filterMap id = items ++ others.filterMap id := by
  rw [List.filterMap_append, List.filterMap_map]
  exact congrArg (· ++ others.filterMap id) List.filterMap_some

/-! ## A payment -/

def samplePaymentArgs (algo : SecretHashAlgo) : GenTakerPaymentSpendArgs where
  takerTx := sampleFundingSpend 10500 450
  timeLock := 1700000000
  makerSecretHash := algo.hashSecret computedRipemd160 (List.replicate 32 7)
  makerPub := .sampleMaker
  makerScriptPubkey := []
  takerPub := .sampleTaker
  dexFee := .noFee
  dexFeeAddrRawPubkey := []

def sampleSpendSigner : TransactionInputSigner where
  version := 2
  nTime := none
  overwintered := false
  versionGroupId := 0
  consensusBranchId := 0
  expiryHeight := 0
  valueBalance := 0
  inputs := [⟨⟨(sampleFundingSpend 10500 450).hash, 0⟩, SEQUENCE_FINAL, 0, []⟩]
  outputs := [⟨350, []⟩]
  lockTime := 0
  joinSplits := []
  shieldedSpends := []
  shieldedOutputs := []
  zcash := false
  strDZeel := none
  hashAlgo := .dsha256
  sighashSuffix := 0

def sampleMakerSignature : Signature :=
  ⟨List.replicate 71 5, by decide⟩

def sampleTakerSignature : Signature :=
  ⟨List.replicate 71 6, by decide⟩

def sampleSpend (algo : SecretHashAlgo) : UtxoTx :=
  match signAndBroadcastTakerPaymentSpend sampleCoinFields (samplePaymentArgs algo)
      (some (sampleSpendSigner, sampleTakerSignature))
      (List.replicate 32 7) (.ok 100) (.ok sampleMakerSignature) with
  | .ok tx => tx
  | .error _ => { inputs := [], outputs := [], lockTime := 0 }

def sampleSpendCheckSig (sig pub : Bytes) : Bool :=
  (sig == List.replicate 71 5 ++ [1] && pub == (samplePaymentArgs .sha256).makerPub.bytes) ||
  (sig == List.replicate 71 6 ++ [1] && pub == (samplePaymentArgs .sha256).takerPub.bytes)

/-- What the chain says to each input of the transaction, and the taker to the
transaction. -/
structure SpendOutcomes where
  inputs : List (Option (List Bool))
  extracted : Except String (FixedBytes 32)

def spendOutcomes (algo : SecretHashAlgo) : SpendOutcomes where
  inputs := (sampleSpend algo).inputs.map fun input =>
    verifyP2sh (sampleCoinFields.context sampleSpendCheckSig input.sequence
        (sampleSpend algo).lockTime) input.scriptSig
      (sampleCoinFields.dhash160 (((samplePaymentArgs algo).takerPaymentRedeem
        sampleCoinFields.toUtxoCoin).getD []))
  extracted := extractSecretV2 sampleCoinFields.toUtxoCoin
    (samplePaymentArgs algo).makerSecretHash (sampleSpend algo)

/-! ## Which secrets are recovered -/

/-- The transaction that takes the taker payment satisfies its script and gives the
secret to the taker exactly if the hash of 20 bytes is used, hashing it once more
gives it back, and no signature is mistaken for the secret. -/
theorem secret_recovered_iff (coin : UtxoCoinFields) (args : GenTakerPaymentSpendArgs)
    (algo : SecretHashAlgo) (secret : Bytes) (hsecret : secret.length = 32)
    (hhash : args.makerSecretHash = algo.hashSecret coin.ripemd160 secret)
    (signer : TransactionInputSigner) (makerSig takerSig : Signature)
    (spendFee : Except String UInt64) (tx : UtxoTx)
    (hsent : signAndBroadcastTakerPaymentSpend coin args (some (signer, takerSig))
      secret spendFee (.ok makerSig) = .ok tx) (checkSig : Bytes → Bytes → Bool)
    (hmaker : checkSig (makerSig.bytes ++ [coin.makerSighashType.toUInt8])
      args.makerPub.bytes = true)
    (htaker : checkSig
      (takerSig.bytes ++ [(coin.takerSighashType args.dexFee.kind).toUInt8])
      args.takerPub.bytes = true) :
    ((∃ redeem input, args.takerPaymentRedeem coin.toUtxoCoin = some redeem ∧
        tx.inputs = [input] ∧
        verifyP2sh (coin.context checkSig input.sequence tx.lockTime)
          input.scriptSig (coin.dhash160 redeem) = some [false]) ∧
      extractSecretV2 coin.toUtxoCoin args.makerSecretHash tx =
        .ok ⟨secret, hsecret⟩) ↔
      algo = .dhash160 ∧
        coin.ripemd160.hash (coin.dhash160 secret) = coin.dhash160 secret ∧
        NoSignatureMistaken coin.toUtxoCoin
          [makerSig.bytes ++ [coin.makerSighashType.toUInt8],
            takerSig.bytes ++ [(coin.takerSighashType args.dexFee.kind).toUInt8]]
          secret := by
  obtain ⟨input, redeem, scriptSig, hredeem, hscript, hinputs⟩ := inputs_of_signAndBroadcast hsent
  obtain ⟨written, hwrote⟩ := takerPaymentScript_written coin.ripemd160
    args.timeLock.toUInt32 args.makerSecretHash args.takerPub args.makerPub
  cases Option.some.inj (hwrote.written.symm.trans hredeem)
  obtain ⟨built, hbuilt, hverify⟩ := coin.verifyP2sh_paymentSpend _ _ hwrote hsecret hmaker htaker
  cases Option.some.inj (hbuilt.symm.trans hscript)
  obtain ⟨rest, hiter⟩ := iter_of_paymentSpend hsecret hscript
  have hvalid : (∃ redeem input, args.takerPaymentRedeem coin.toUtxoCoin = some redeem ∧
      tx.inputs = [input] ∧
      verifyP2sh (coin.context checkSig input.sequence tx.lockTime)
        input.scriptSig (coin.dhash160 redeem) = some [false]) ↔
      coin.dhash160 secret = h160Of coin.ripemd160 args.makerSecretHash := by
    rw [hredeem, hinputs]
    simp [hverify]
  rw [hvalid, extractSecretV2, hinputs, List.head?_cons, hhash]
  dsimp only
  rw [hiter, filterMap_map_some_append]
  cases algo with
  | sha256 =>
    have hnone : ∀ instructions : List ReadInstruction, instructions.findSome?
        (secretOfInstruction coin.toUtxoCoin (SecretHashAlgo.sha256.hashSecret
          coin.ripemd160 secret)) = none := by
      intro instructions
      refine List.findSome?_eq_none_iff.mpr fun instruction _ => ?_
      refine secretOfInstruction_of_length ?_ instruction
      rw [SecretHashAlgo.hashSecret, Sha256.length_digest]
      decide
    simp [hnone]
  | dhash160 =>
    have hsmall : ∀ push ∈ [makerSig.bytes ++ [coin.makerSighashType.toUInt8],
        takerSig.bytes ++ [(coin.takerSighashType args.dexFee.kind).toUInt8]],
        push.length ≤ 75 := by
      intro push hpush
      simp only [List.mem_cons, List.not_mem_nil, or_false] at hpush
      rcases hpush with rfl | rfl
      · exact (length_signature_le makerSig _).trans (by norm_num)
      · exact (length_signature_le takerSig _).trans (by norm_num)
    have hfound : _ ↔ NoSignatureMistaken coin.toUtxoCoin _ secret :=
      findSome?_pushes hsecret hsmall (rest.filterMap id)
    have hhashed : SecretHashAlgo.dhash160.hashSecret coin.ripemd160 secret =
        coin.dhash160 secret := rfl
    rw [← hfound, hhashed, h160Of, elim_eq_ok]
    constructor
    · rintro ⟨hfits, hextracted⟩
      exact ⟨rfl, hfits.symm, hextracted⟩
    · rintro ⟨-, hfits, hextracted⟩
      exact ⟨hfits.symm, hextracted⟩

/-- With the hash of 32 bytes the taker does not find the secret. -/
theorem sample_secret_not_recovered :
    ¬((∃ redeem input, (samplePaymentArgs .sha256).takerPaymentRedeem
          sampleCoinFields.toUtxoCoin = some redeem ∧
        (sampleSpend .sha256).inputs = [input] ∧
        verifyP2sh (sampleCoinFields.context sampleSpendCheckSig input.sequence
            (sampleSpend .sha256).lockTime)
          input.scriptSig (sampleCoinFields.dhash160 redeem) = some [false]) ∧
      extractSecretV2 sampleCoinFields.toUtxoCoin
        (samplePaymentArgs .sha256).makerSecretHash (sampleSpend .sha256) =
          .ok ⟨List.replicate 32 7, rfl⟩) := by
  intro hrecovered
  obtain ⟨hdhash, -⟩ := (secret_recovered_iff sampleCoinFields
    (samplePaymentArgs .sha256) .sha256 (List.replicate 32 7) rfl rfl
    sampleSpendSigner sampleMakerSignature sampleTakerSignature
    (.ok 100) (sampleSpend .sha256) (by decide +kernel) sampleSpendCheckSig
    (by decide +kernel) (by decide +kernel)).mp hrecovered
  cases hdhash

/-- With the hash of 32 bytes the spend is valid and the secret is not found; with
the hash of 20 bytes the spend is not valid. -/
theorem secret_lost_or_spend_invalid :
    ((spendOutcomes .sha256).inputs = [some [false]] ∧
      (spendOutcomes .sha256).extracted =
        .error "Secret not found in spend transaction") ∧
    (spendOutcomes .dhash160).inputs = [none] := by
  decide +kernel

end KdfProtocol
