import KdfProtocol.SpendPreimagesV2
import KdfProtocol.SwapOutputSpends

/-!
# The script of a payment on both sides

The sender of a payment, its receiver, the sender that takes it back and the side that
validates it build the redeem script each from what they know.  The receiver knows the
secret and not how it was hashed.
-/

namespace KdfProtocol

open BitcoinScript ScriptReader

namespace V2.UtxoCoin

/-! ## The builders -/

section Builders

variable (coin : UtxoCoin) (timeLock : UInt32)

/-- The second output records the secret hash, or for one coin the whole script. -/
def generateSwapPaymentOutputs (ticker : String) (myPub otherPub : Public)
    (secretHash : Bytes) (amount : UInt64) : Option (List TransactionOutput) := do
  let redeemScript ← paymentScript coin.ripemd160 timeLock secretHash myPub otherPub
  let htlcScript ← Builder.buildP2sh (coin.dhash160 redeemScript)
  let opReturn : Builder := ⟨some [0x6a]⟩
  let opReturnScript ← (if ticker = "ARRR" then opReturn.pushData redeemScript
    else opReturn.pushBytes secretHash).intoScript
  pure [⟨amount, htlcScript⟩, ⟨0, opReturnScript⟩]

def p2shSpendingTx (redeemScript scriptData : Script) (sequence lockTime : UInt32)
    (signature : Signature) : Option SpendingInput := do
  let scriptSig ← coin.p2shSpendWithSignature redeemScript scriptData signature
  pure { scriptSig, sequence, lockTime := coin.p2shTxLocktime lockTime }

def spendPayment (senderPub keyPub : Public) (secret : Bytes) (signature : Signature) :
    Option SpendingInput := do
  let scriptData ← ((Builder.empty.pushData secret).pushOpcode .op0).intoScript
  let redeemScript ← paymentScript coin.ripemd160 timeLock (coin.dhash160 secret) senderPub keyPub
  coin.p2shSpendingTx redeemScript scriptData SEQUENCE_FINAL timeLock signature

def sendMakerSpendsTakerPayment (takerPub keyPub : Public) :=
  coin.spendPayment timeLock takerPub keyPub

def sendTakerSpendsMakerPayment (makerPub keyPub : Public) :=
  coin.spendPayment timeLock makerPub keyPub

def refundPayment (otherPub keyPub : Public) (secretHash : Bytes) (signature : Signature) :
    Option SpendingInput := do
  let scriptData ← (Builder.empty.pushOpcode .op1).intoScript
  let redeemScript ← paymentScript coin.ripemd160 timeLock secretHash keyPub otherPub
  coin.p2shSpendingTx redeemScript scriptData (SEQUENCE_FINAL - 1) timeLock signature

def sendTakerRefundsPayment (makerPub keyPub : Public) :=
  coin.refundPayment timeLock makerPub keyPub

def sendMakerRefundsPayment (takerPub keyPub : Public) :=
  coin.refundPayment timeLock takerPub keyPub

end Builders

end V2.UtxoCoin

open V2

/-! ## One script -/

section Agreement

variable {coin : UtxoCoin} {timeLock : UInt32} {senderPub receiverPub : Public}

theorem comparator_hashSecret (algo : SecretHashAlgo) (secret : Bytes) :
    htlcHash160Comparator coin.ripemd160 (algo.hashSecret coin.ripemd160 secret) =
      some (coin.dhash160 secret) := by
  cases algo with
  | dhash160 => exact if_pos (coin.ripemd160.length_hash _)
  | sha256 => rfl

/-! ## What opens it -/

variable {ctx : Context} {hash secret sig : Bytes}

theorem payment_secret_isSome_iff (hsec : secret.length = 32) (hhash : ctx.hash160 secret = hash) :
    (runScript ctx (paymentBody timeLock hash senderPub receiverPub) [[], secret, sig]).isSome ↔
      ctx.checkSig sig receiverPub.bytes = true := by
  constructor
  · intro hopens
    obtain ⟨choices, hrun⟩ := Option.isSome_iff_exists.mp hopens
    cases paymentRun_of_runScript hrun with
    | timelock selector sig rest hsel => cases hsel
    | secret selector secret sig rest hsel hlen hhash hsig => exact hsig
  · intro hsig
    have hrun : runScript ctx (paymentBody timeLock hash senderPub receiverPub)
        [[], secret, sig] = if ctx.hash160 secret = hash then some [false] else none :=
      RunsIf.runScript_eq (.ifElse rfl rfl (by simp) skips_timelockBranch skips_secretBranch
        (runsIf_secretBranch rfl (by simp) hsec hsig) (by simp))
    rw [hrun, if_pos hhash]
    rfl

theorem payment_timelock_isSome_iff :
    (runScript ctx (paymentBody timeLock hash senderPub receiverPub) [[1], sig]).isSome ↔
      ctx.checkSig sig senderPub.bytes = true ∧
        (decodeNum (writeLe 4 timeLock.toNat)).any ctx.checkLockTime = true := by
  constructor
  · intro hopens
    obtain ⟨choices, hrun⟩ := Option.isSome_iff_exists.mp hopens
    cases paymentRun_of_runScript hrun with
    | timelock selector sig rest hsel hlock hsig => exact ⟨hsig, hlock⟩
  · rintro ⟨hsig, hlock⟩
    have hrun : runScript ctx (paymentBody timeLock hash senderPub receiverPub) [[1], sig] =
        some [true] :=
      RunsIf.runScript_eq (p := True) (.ifElse rfl rfl (by simp) skips_timelockBranch
        skips_secretBranch (runs_timelockBranch rfl (by simp) hlock hsig).runsIf (by simp))
    rw [hrun]
    rfl

/-- The input reveals the script, and satisfies it in a transaction with the lock time
exactly if the condition holds. -/
structure OpensExactly (coin : UtxoCoin) (redeem : Script) (input : SpendingInput)
    (condition : (Bytes → Bytes → Bool) → UInt32 → Prop) : Prop where
  revealed : revealedScript input.scriptSig = some redeem
  opens_iff : ∀ checkSig lockTime,
    (verifyP2sh (coin.context checkSig input.sequence lockTime) input.scriptSig
      (coin.dhash160 redeem)).isSome ↔ condition checkSig lockTime

theorem p2shSpendingTx_opens {script : Option Script} {redeem : Script}
    {body pushes : List Instruction} {builder : Builder} {bound : ℕ}
    (hwrote : Written script redeem body) (hbuilds : builder.Builds pushes bound)
    (hbound : bound ≤ 1000) (hpush : pushes.all Instruction.isPush = true)
    (hsmall : pushes.all Instruction.small = true) (hcount : pushes.length < 999)
    (sequence lockTime : UInt32) (signature : Signature)
    {condition : (Bytes → Bytes → Bool) → UInt32 → Prop}
    (hrun : ∀ checkSig lockTime, (runScript (coin.context checkSig sequence lockTime) body
      ((pushes.map Instruction.pushed).reverse ++ [coin.scriptSig signature])).isSome ↔
        condition checkSig lockTime) :
    ∃ scriptData input, builder.intoScript = some scriptData ∧
      coin.p2shSpendingTx redeem scriptData sequence lockTime signature = some input ∧
      OpensExactly coin redeem input condition := by
  obtain ⟨scriptData, scriptSig, hdata, hscriptSig, hreads, hverify⟩ :=
    coin.verify_p2shSpend hwrote hbuilds hbound hpush hsmall hcount signature
  refine ⟨scriptData, ⟨scriptSig, sequence, coin.p2shTxLocktime lockTime⟩, hdata, ?_, ?_, ?_⟩
  · rw [UtxoCoin.p2shSpendingTx, hscriptSig]
    rfl
  · rw [revealedScript, hreads.decode_eq, Option.bind_some, List.getLast?_concat]
    rfl
  · intro checkSig lockTime
    rw [hverify]
    exact hrun checkSig lockTime

end Agreement

theorem exists_opReturn (ticker : String) {redeem hash : Bytes} (hredeem : redeem.length ≤ 520)
    (hhash : hash.length = 20 ∨ hash.length = 32) :
    ∃ script, (if ticker = "ARRR" then (⟨some [0x6a]⟩ : Builder).pushData redeem
      else (⟨some [0x6a]⟩ : Builder).pushBytes hash).intoScript = some script := by
  split
  · simp only [Builder.pushData, Builder.intoScript, Option.bind_some]
    split_ifs
    all_goals first | exact ⟨_, rfl⟩ | omega
  · exact ⟨_, if_pos (by omega)⟩

/-- The four builders agree on one script.  The spend satisfies it at any time with a
signature of the receiver, the refund with a signature of the sender and from the lock
time on. -/
theorem payment_scripts_agree (coin : UtxoCoin) (algo : SecretHashAlgo) (ticker : String)
    (senderPub receiverPub : Public) (secret : Bytes) (amount : UInt64) (timeLock : UInt32)
    (spendSig refundSig : Signature) (hsecret : secret.length = 32)
    (hlower : 500000000 ≤ timeLock.toNat) (hupper : timeLock.toNat < 2 ^ 31) :
    ∃ redeem htlcScript opReturn spend refund,
      let secretHash := algo.hashSecret coin.ripemd160 secret
      paymentScript coin.ripemd160 timeLock secretHash senderPub receiverPub = some redeem ∧
      Builder.buildP2sh (coin.dhash160 redeem) = some htlcScript ∧
      coin.generateSwapPaymentOutputs timeLock ticker senderPub receiverPub secretHash amount =
        some [⟨amount, htlcScript⟩, opReturn] ∧
      expectedScriptPubkey coin timeLock senderPub receiverPub secretHash = some htlcScript ∧
      coin.sendMakerSpendsTakerPayment timeLock senderPub receiverPub secret spendSig = some spend ∧
      coin.sendTakerSpendsMakerPayment timeLock senderPub receiverPub secret spendSig = some spend ∧
      coin.sendTakerRefundsPayment timeLock receiverPub senderPub secretHash refundSig =
        some refund ∧
      coin.sendMakerRefundsPayment timeLock receiverPub senderPub secretHash refundSig =
        some refund ∧
      OpensExactly coin redeem spend (fun checkSig _ =>
        checkSig (coin.scriptSig spendSig) receiverPub.bytes = true) ∧
      OpensExactly coin redeem refund (fun checkSig lockTime =>
        checkSig (coin.scriptSig refundSig) senderPub.bytes = true ∧ timeLock ≤ lockTime) := by
  have hhash := @comparator_hashSecret coin algo secret
  obtain ⟨redeem, hwritten⟩ := paymentScript_written coin.ripemd160 timeLock
    (algo.hashSecret coin.ripemd160 secret) senderPub receiverPub
  rw [paymentHash, hhash, Option.getD_some] at hwritten
  obtain ⟨htlcScript, hhtlc⟩ : ∃ script, Builder.buildP2sh (coin.dhash160 redeem) = some script :=
    Builder.buildP2sh_isSome (coin.ripemd160.length_hash _)
  obtain ⟨opReturn, hopReturn⟩ := exists_opReturn ticker hwritten.length_le
    (algo.length_hashSecret coin.ripemd160 secret)
  obtain ⟨spendData, spend, hspendData, hspend, hspendOpens⟩ := p2shSpendingTx_opens hwritten
    ((Builder.builds_empty.pushData (hsecret.le.trans (by norm_num))).pushOpcode .op0)
    (by omega) rfl (by simp [Instruction.small, hsecret, Opcode.instruction]) (by simp)
    SEQUENCE_FINAL timeLock spendSig fun checkSig lockTime => payment_secret_isSome_iff hsecret rfl
  obtain ⟨refundData, refund, hrefundData, hrefund, hrefundOpens⟩ := p2shSpendingTx_opens hwritten
    (Builder.builds_empty.pushOpcode .op1) (by norm_num) rfl rfl (by simp)
    (SEQUENCE_FINAL - 1) timeLock refundSig
    fun checkSig lockTime => payment_timelock_isSome_iff.trans
      (and_congr_right' (UtxoCoin.checkLockTime_iff hlower hupper))
  have hspends : coin.spendPayment timeLock senderPub receiverPub secret spendSig = some spend := by
    have hsec : htlcHash160Comparator coin.ripemd160 (coin.dhash160 secret) =
        some (coin.dhash160 secret) := comparator_hashSecret .dhash160 secret
    have hscript := hwritten.written
    rw [paymentScript, hhash] at hscript
    rw [UtxoCoin.spendPayment, hspendData, paymentScript, hsec, hscript]
    exact hspend
  have hrefunds : coin.refundPayment timeLock receiverPub senderPub
      (algo.hashSecret coin.ripemd160 secret) refundSig = some refund := by
    rw [UtxoCoin.refundPayment, hrefundData, hwritten.written]
    exact hrefund
  refine ⟨redeem, htlcScript, ⟨0, opReturn⟩, spend, refund, hwritten.written, hhtlc, ?_, ?_,
    hspends, hspends, hrefunds, hrefunds, hspendOpens, hrefundOpens⟩
  · rw [UtxoCoin.generateSwapPaymentOutputs, hwritten.written]
    simp only [Option.bind_eq_bind, Option.bind_some, hhtlc, hopReturn, Option.pure_def]
  · rw [expectedScriptPubkey, hwritten.written]
    exact hhtlc

theorem sample_payment_scripts_agree :
    ∃ redeem refund, sampleUtxoCoin.sendMakerRefundsPayment 1700000000
        samplePaymentTerms.secondPub samplePaymentTerms.firstPub
        (SecretHashAlgo.sha256.hashSecret computedRipemd160 (List.replicate 32 7))
        ⟨[5], by decide⟩ = some refund ∧
      OpensExactly sampleUtxoCoin redeem refund (fun checkSig lockTime =>
        checkSig [5, 1] samplePaymentTerms.firstPub.bytes = true ∧ 1700000000 ≤ lockTime) := by
  obtain ⟨redeem, _, _, _, refund, -, -, -, -, -, -, -, hrefund, -, hopens⟩ :=
    payment_scripts_agree sampleUtxoCoin .sha256 "RICK" samplePaymentTerms.firstPub
      samplePaymentTerms.secondPub (List.replicate 32 7) 100000 1700000000 ⟨[5], by decide⟩
      ⟨[5], by decide⟩ rfl (by decide) (by decide)
  exact ⟨redeem, refund, hrefund, hopens⟩

end KdfProtocol
