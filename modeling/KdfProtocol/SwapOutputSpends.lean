import KdfProtocol.UtxoTransactions

/-!
# How a payment was spent

The payment of a legacy swap is locked by a script with two branches: its sender
can take it back after the lock time, its receiver can spend it with the secret.
The other side, and the sender after a restart, read from the spending transaction
which branch it was, and what the secret is.
-/

namespace KdfProtocol

open BitcoinScript ScriptReader V2

/-! ## The search for the spend -/

inductive SwapSpendKind where
  | spent
  | refunded
  deriving DecidableEq

inductive FoundSwapTxSpend where
  | spent (tx : UtxoTx)
  | refunded (tx : UtxoTx)
  deriving DecidableEq

inductive SearchSpendError where
  /-- The first output of the payment does not pay the script of the swap. -/
  | otherScript (txHash : FixedBytes 32) (found expected : Script)
  | rpc (err : String)
  /-- Couldn't find required instruction in script_sig of input 0. -/
  | noInstruction (tx : UtxoTx)
  /-- A transaction without inputs. -/
  | panicked
  deriving DecidableEq

/-- `OP_0` third means the secret path, `OP_1` second means the timelock path. -/
def classifySwapSpend (script : Script) : Option SwapSpendKind :=
  if opcodeAt script 2 = some OP_0 then some .spent
  else if opcodeAt script 1 = some OP_1 then some .refunded
  else none

structure PaymentOutputs where
  txHash : FixedBytes 32
  output0ScriptPubkey : Script
  spentScriptPubkey : Script

section Search

variable (coin : UtxoCoin) (timeLock : UInt32) (firstPub secondPub : Public) (secretHash : Bytes)

def expectedScriptPubkey : Option Script := do
  let script ← paymentScript coin.ripemd160 timeLock secretHash firstPub secondPub
  Builder.buildP2sh (coin.dhash160 script)

def ensurePaymentPaysHtlc (payment : PaymentOutputs) : Except SearchSpendError Unit :=
  match expectedScriptPubkey coin timeLock firstPub secondPub secretHash with
  | none => .error .panicked
  | some expected =>
    if payment.output0ScriptPubkey = expected then .ok ()
    else .error (.otherScript payment.txHash payment.output0ScriptPubkey expected)

/-- `txHashAlgo` is the coin's. -/
def searchForSwapOutputSpendOf (txHashAlgo : TxHashAlgo) (payment : PaymentOutputs)
    (outputIndex : ℕ) (searchFromBlock : UInt64) (findOutputSpend : FindOutputSpend) :
    Except SearchSpendError (Option FoundSwapTxSpend) := do
  ensurePaymentPaysHtlc coin timeLock firstPub secondPub secretHash payment
  match findOutputSpend payment.txHash payment.spentScriptPubkey outputIndex
      searchFromBlock.toInt64 with
  | .error err => .error (.rpc err)
  | .ok none => .ok none
  | .ok (some info) =>
    let tx := { info.spendingTx with txHashAlgo }
    match tx.inputs.head? with
    | none => .error .panicked
    | some input =>
      match classifySwapSpend input.scriptSig with
      | some .spent => .ok (some (.spent tx))
      | some .refunded => .ok (some (.refunded tx))
      | none => .error (.noInstruction tx)

end Search

/-! ## The secret -/

inductive ExtractSecretError where
  | notRead (err : WireCodec.Error)
  /-- Couldn't extract secret. -/
  | notFound
  deriving DecidableEq

section Secret

variable (coin : UtxoCoin) (secretHash : Bytes)

/-- The secret in one input: the second instruction, if it pushes 32 bytes that
open the hash lock. -/
def secretOfScriptSig (script : Script) : Option Bytes :=
  match getInstruction script 1 with
  | some (some instruction) =>
    if instruction.opcode = OP_PUSHBYTES_32 then
      instruction.data.bind fun secret =>
        if htlcHash160Comparator coin.ripemd160 secretHash =
          some (coin.dhash160 secret) then some secret
        else none
    else none
  | _ => none

def extractSecretFromScriptSigs : List Script → Except ExtractSecretError Bytes
  | [] => .error .notFound
  | script :: rest =>
    match secretOfScriptSig coin secretHash script with
    | some secret => .ok secret
    | none => extractSecretFromScriptSigs rest

def extractSecret (spendTx : Bytes) : Except ExtractSecretError Bytes :=
  match deserializeTransaction spendTx with
  | .error err => .error (.notRead err)
  | .ok tx => extractSecretFromScriptSigs coin secretHash
      (tx.inputs.map TransactionInput.scriptSig)

end Secret

/-! ## The script of a payment -/

def paymentBody (locktime : UInt32) (hash : Bytes) (pub0 pub1 : Public) : List Instruction :=
  ifElse (timelockBranch locktime pub0) (secretCheck hash ++ oneSignature pub1)

def paymentHash (ripemd160 : Ripemd160) (secretHash : Bytes) : Bytes :=
  (htlcHash160Comparator ripemd160 secretHash).getD (List.replicate 20 0)

theorem length_paymentHash (ripemd160 : Ripemd160) (secretHash : Bytes) :
    (paymentHash ripemd160 secretHash).length = 20 := by
  unfold paymentHash htlcHash160Comparator
  split
  · next hlen => exact hlen
  · split
    · exact ripemd160.length_hash secretHash
    · rfl

theorem paymentScript_written (ripemd160 : Ripemd160) (timeLock : UInt32)
    (secretHash : Bytes) (pub0 pub1 : Public) :
    ∃ redeem, Written (paymentScript ripemd160 timeLock secretHash pub0 pub1)
      redeem (paymentBody timeLock (paymentHash ripemd160 secretHash) pub0 pub1) := by
  have hpub0 := pub0.pushable
  have hpub1 := pub1.pushable
  have hhash := length_paymentHash ripemd160 secretHash
  refine written_of_body rfl ?_
  simp [paymentBody, ifElse, timelockBranch, secretCheck, oneSignature, writable, writtenLength,
    hhash, length_writeLe]
  omega

inductive PaymentRun (ctx : Context) (timeLock : UInt32) (hash : Bytes)
    (pub0 pub1 : Public) : List Bytes → List Bool → Prop where
  | timelock (selector sig : Bytes) (rest : List Bytes) (hselector : castToBool selector = true)
      (hlocktime : (decodeNum (writeLe 4 timeLock.toNat)).any ctx.checkLockTime = true)
      (hsig : ctx.checkSig sig pub0.bytes = true) :
      PaymentRun ctx timeLock hash pub0 pub1 (selector :: sig :: rest) [true]
  | secret (selector secret sig : Bytes) (rest : List Bytes)
      (hselector : castToBool selector = false) (hlength : secret.length = 32)
      (hhash : ctx.hash160 secret = hash) (hsig : ctx.checkSig sig pub1.bytes = true) :
      PaymentRun ctx timeLock hash pub0 pub1 (selector :: secret :: sig :: rest) [false]

theorem paymentRun_of_runScript {ctx : Context} {timeLock : UInt32} {hash : Bytes}
    {pub0 pub1 : Public} {stack : List Bytes} {choices : List Bool}
    (hrun : runScript ctx (paymentBody timeLock hash pub0 pub1) stack = some choices) :
    PaymentRun ctx timeLock hash pub0 pub1 stack choices := by
  obtain ⟨result, below, htrue, hruns⟩ := runs_of_runScript hrun
  obtain ⟨selector, rest, after, chosen, rfl, hfinal, hbranch⟩ :=
    hruns.of_ifElse rfl (keepsConditions_of_plain rfl) (keepsConditions_of_plain rfl)
      skips_timelockBranch skips_secretBranch
  cases hfinal
  rcases hbranch with ⟨hsel, hbranch⟩ | ⟨hsel, hbranch⟩
  · obtain ⟨sig, rest, rfl, hlock, hfinal⟩ := used_timelockBranch rfl hbranch
    cases hfinal
    exact .timelock selector sig _ hsel hlock (eq_true_of_castToBool htrue)
  · obtain ⟨secret, sig, rest, rfl, hlen, hhash, hfinal⟩ := used_secretBranch rfl hbranch
    cases hfinal
    exact .secret selector secret sig _ hsel hlen hhash (eq_true_of_castToBool htrue)

structure PaymentTerms where
  coin : UtxoCoin
  timeLock : UInt32
  secretHash : Bytes
  firstPub : Public
  secondPub : Public

namespace PaymentTerms

variable (terms : PaymentTerms)

def script : Option Script :=
  paymentScript terms.coin.ripemd160 terms.timeLock terms.secretHash terms.firstPub terms.secondPub

/-- The payment at an output is spent by an input of the transaction that is valid
by the rules of the consensus. -/
def SpentThrough (checkSig : Bytes → Bytes → Bool) (tx : UtxoTx)
    (output : OutPoint) (choices : List Bool) (input : TransactionInput) : Prop :=
  ∃ redeem ∈ terms.script, SpendsThrough terms.coin checkSig tx output redeem choices input

variable {terms} {checkSig : Bytes → Bytes → Bool} {tx : UtxoTx}
  {output : OutPoint} {choices : List Bool} {input : TransactionInput}

theorem SpentThrough.exists_run (hspent : terms.SpentThrough checkSig tx output choices input) :
    ∃ pushes last redeem, decode input.scriptSig = some (pushes ++ [last]) ∧
      (pushes ++ [last]).all Instruction.isPush = true ∧
      terms.script = some redeem ∧ last.pushed = redeem ∧
      PaymentRun (terms.coin.context checkSig input.sequence tx.lockTime)
        terms.timeLock (paymentHash terms.coin.ripemd160 terms.secretHash)
        terms.firstPub terms.secondPub (pushes.map Instruction.pushed).reverse
        choices := by
  obtain ⟨redeem, hredeem, hspends⟩ := hspent
  obtain ⟨written, hwrote⟩ := paymentScript_written terms.coin.ripemd160
    terms.timeLock terms.secretHash terms.firstPub terms.secondPub
  have hsame : written = redeem := Option.some.inj (hwrote.written.symm.trans hredeem)
  subst hsame
  obtain ⟨pushes, last, hdec, hpush, hlast, hrun⟩ := hspends.exists_pushes hwrote.reads.decode_eq
  exact ⟨pushes, last, written, hdec, hpush, hredeem, hlast, paymentRun_of_runScript hrun⟩

end PaymentTerms

/-! ## A swap and its spends -/

def sampleUtxoCoin : UtxoCoin where
  ripemd160 := computedRipemd160
  forkId := 0
  chainTime := 1700000000

def samplePaymentTerms : PaymentTerms where
  coin := sampleUtxoCoin
  timeLock := 1700000000
  secretHash := sampleUtxoCoin.dhash160 (List.replicate 32 7)
  firstPub := .sampleMaker
  secondPub := .sampleTaker

def samplePayment : PaymentOutputs where
  txHash := ⟨List.replicate 32 9, rfl⟩
  output0ScriptPubkey := (expectedScriptPubkey sampleUtxoCoin
    samplePaymentTerms.timeLock samplePaymentTerms.firstPub
    samplePaymentTerms.secondPub samplePaymentTerms.secretHash).getD []
  spentScriptPubkey := []

def sampleCheckSig (sig pub : Bytes) : Bool :=
  sig == List.replicate 71 5 && pub == samplePaymentTerms.secondPub.bytes

/-- The spend of the counterparty, with pushes in front that no opcode uses. -/
def spendWithSecret (unused : Builder) : UtxoTx where
  inputs := [⟨⟨samplePayment.txHash, 0⟩,
    (unused
      |>.pushData (List.replicate 71 5)
      |>.pushData (List.replicate 32 7)
      |>.pushOpcode .op0
      |>.pushData (samplePaymentTerms.script.getD [])
      |>.intoScript).getD [], 0xffffffff, []⟩]
  outputs := [⟨100000, []⟩]
  lockTime := 0

def plainSpend : UtxoTx := spendWithSecret Builder.empty

def shiftedSpend : UtxoTx :=
  spendWithSecret ((Builder.empty.pushOpcode .op1).pushOpcode .op1)

theorem samplePayment_pays : expectedScriptPubkey samplePaymentTerms.coin
    samplePaymentTerms.timeLock samplePaymentTerms.firstPub
    samplePaymentTerms.secondPub samplePaymentTerms.secretHash =
      some samplePayment.output0ScriptPubkey := by
  decide +kernel

theorem plainSpend_spentThrough :
    ∃ input, samplePaymentTerms.SpentThrough sampleCheckSig plainSpend
      ⟨samplePayment.txHash, UInt32.ofNat 0⟩ [false] input :=
  ⟨_, _, Option.mem_def.mpr (Option.some_get rfl).symm, List.mem_cons_self, rfl,
    by decide +kernel, by decide +kernel⟩

theorem shiftedSpend_spentThrough :
    ∃ input, samplePaymentTerms.SpentThrough sampleCheckSig shiftedSpend
      ⟨samplePayment.txHash, UInt32.ofNat 0⟩ [false] input :=
  ⟨_, _, Option.mem_def.mpr (Option.some_get rfl).symm, List.mem_cons_self, rfl,
    by decide +kernel, by decide +kernel⟩

/-! ## Which spends are classified right -/

namespace SwapSpendKind

def branch : SwapSpendKind → List Bool
  | spent => [false]
  | refunded => [true]

def found (tx : UtxoTx) : SwapSpendKind → FoundSwapTxSpend
  | spent => .spent tx
  | refunded => .refunded tx

/-- The opcodes in the places where they are looked for. -/
def Shows (script : Script) : SwapSpendKind → Prop
  | spent => opcodeAt script 2 = some OP_0
  | refunded => opcodeAt script 2 ≠ some OP_0 ∧ opcodeAt script 1 = some OP_1

theorem classify_eq_some_iff {script : Script} {kind : SwapSpendKind} :
    classifySwapSpend script = some kind ↔ kind.Shows script := by
  unfold classifySwapSpend
  by_cases hthird : opcodeAt script 2 = some OP_0
  · rw [if_pos hthird]
    cases kind with
    | spent | refunded => simp [Shows, hthird]
  · rw [if_neg hthird]
    by_cases hsnd : opcodeAt script 1 = some OP_1
    · rw [if_pos hsnd]
      cases kind with
      | spent => simp [Shows, hthird]
      | refunded => simp [Shows, hthird, hsnd]
    · rw [if_neg hsnd]
      cases kind with
      | spent => simp [Shows, hthird]
      | refunded => simp [Shows, hsnd]

end SwapSpendKind

theorem search_eq_ok_iff {coin : UtxoCoin} {timeLock : UInt32}
    {firstPub secondPub : Public} {secretHash : Bytes} {payment : PaymentOutputs}
    {outputIndex : ℕ} {searchFromBlock : UInt64} {findOutputSpend : FindOutputSpend}
    {info : SpentOutputInfo} {kind : SwapSpendKind} {txHashAlgo : TxHashAlgo}
    (hpays : expectedScriptPubkey coin timeLock firstPub secondPub secretHash =
      some payment.output0ScriptPubkey)
    (hfound : findOutputSpend payment.txHash payment.spentScriptPubkey outputIndex
      searchFromBlock.toInt64 = .ok (some info)) :
    searchForSwapOutputSpendOf coin timeLock firstPub secondPub secretHash txHashAlgo
        payment outputIndex searchFromBlock findOutputSpend =
      .ok (some (kind.found { info.spendingTx with txHashAlgo })) ↔
        ∃ first ∈ info.spendingTx.inputs.head?, kind.Shows first.scriptSig := by
  have hensure : ensurePaymentPaysHtlc coin timeLock firstPub secondPub secretHash
      payment = .ok () := by
    unfold ensurePaymentPaysHtlc
    simp only [hpays, if_true]
  simp only [searchForSwapOutputSpendOf, hensure, hfound, except_bind_eq_ok, exists_const]
  cases info.spendingTx.inputs.head? with
  | none => simp
  | some first =>
    simp only [Option.mem_some_iff, exists_eq_left']
    rw [← SwapSpendKind.classify_eq_some_iff]
    cases hclass : classifySwapSpend first.scriptSig with
    | none => simp
    | some kind' =>
      cases kind' with
      | spent | refunded =>
        cases kind <;> simp [SwapSpendKind.found]

/-- A valid spend runs one of the two branches, and it is reported as that one
exactly if the first input of the transaction has the opcodes of that branch in the
places where they are looked for. -/
theorem spend_classified_iff (terms : PaymentTerms) (txHashAlgo : TxHashAlgo)
    (payment : PaymentOutputs) (outputIndex : ℕ) (searchFromBlock : UInt64)
    (findOutputSpend : FindOutputSpend) (info : SpentOutputInfo)
    (checkSig : Bytes → Bytes → Bool) (choices : List Bool) (input : TransactionInput)
    (hpays : expectedScriptPubkey terms.coin terms.timeLock terms.firstPub
      terms.secondPub terms.secretHash = some payment.output0ScriptPubkey)
    (hfound : findOutputSpend payment.txHash payment.spentScriptPubkey outputIndex
      searchFromBlock.toInt64 = .ok (some info))
    (hspent : terms.SpentThrough checkSig info.spendingTx
      ⟨payment.txHash, UInt32.ofNat outputIndex⟩ choices input) :
    ∃ kind : SwapSpendKind, choices = kind.branch ∧
      (searchForSwapOutputSpendOf terms.coin terms.timeLock terms.firstPub
          terms.secondPub terms.secretHash txHashAlgo payment outputIndex searchFromBlock
          findOutputSpend = .ok (some (kind.found { info.spendingTx with txHashAlgo })) ↔
        ∃ first ∈ info.spendingTx.inputs.head?, kind.Shows first.scriptSig) := by
  obtain ⟨pushes, last, redeem, -, -, -, -, hrun⟩ := hspent.exists_run
  generalize (pushes.map Instruction.pushed).reverse = stack at hrun
  cases hrun with
  | timelock => exact ⟨.refunded, rfl, search_eq_ok_iff hpays hfound⟩
  | secret => exact ⟨.spent, rfl, search_eq_ok_iff hpays hfound⟩

theorem plain_spend_classified :
    searchForSwapOutputSpendOf sampleUtxoCoin samplePaymentTerms.timeLock
        samplePaymentTerms.firstPub samplePaymentTerms.secondPub
        samplePaymentTerms.secretHash .dsha256 samplePayment 0 0 (findsSpend plainSpend) =
      .ok (some (.spent plainSpend)) := by
  obtain ⟨input, hspent⟩ := plainSpend_spentThrough
  obtain ⟨kind, hbranch, hiff⟩ := spend_classified_iff samplePaymentTerms
    .dsha256 samplePayment 0 0 (findsSpend plainSpend) ⟨plainSpend, 0⟩ sampleCheckSig [false]
    input samplePayment_pays rfl hspent
  cases kind with
  | spent => exact hiff.mpr ⟨_, rfl, by unfold SwapSpendKind.Shows; decide +kernel⟩
  | refunded => cases hbranch

/-- The counterparty takes the payment with the secret, and the search reports a
refund: the two pushes in front move `OP_0` away from the third place. -/
theorem spend_reported_as_refund :
    (∃ input, samplePaymentTerms.SpentThrough sampleCheckSig shiftedSpend
      ⟨samplePayment.txHash, UInt32.ofNat 0⟩ [false] input) ∧
    searchForSwapOutputSpendOf sampleUtxoCoin samplePaymentTerms.timeLock
        samplePaymentTerms.firstPub samplePaymentTerms.secondPub
        samplePaymentTerms.secretHash .dsha256 samplePayment 0 0 (findsSpend shiftedSpend) =
      .ok (some (.refunded shiftedSpend)) := by
  refine ⟨shiftedSpend_spentThrough, ?_⟩
  have hfound : findsSpend shiftedSpend samplePayment.txHash
      samplePayment.spentScriptPubkey 0 (0 : UInt64).toInt64 = .ok (some ⟨shiftedSpend, 0⟩) := rfl
  have hshown : SwapSpendKind.refunded.Shows
      (shiftedSpend.inputs.map TransactionInput.scriptSig).head! := by
    unfold SwapSpendKind.Shows
    decide +kernel
  exact (search_eq_ok_iff samplePayment_pays hfound).mpr ⟨_, rfl, hshown⟩

/-! ## Which secrets are extracted -/

def OpensLock (coin : UtxoCoin) (secretHash value : Bytes) : Prop :=
  value.length = 32 ∧ htlcHash160Comparator coin.ripemd160 secretHash = some (coin.dhash160 value)

/-- The second instruction of a script is the direct push of a value that opens the
lock. -/
def RevealsSecond (coin : UtxoCoin) (secretHash : Bytes) (script : Script) : Prop :=
  ∃ value, getInstruction script 1 = some (some ⟨OP_PUSHBYTES_32, some value⟩) ∧
    OpensLock coin secretHash value

section Extraction

variable {coin : UtxoCoin} {secretHash value : Bytes} {script : Script}

theorem secretOfScriptSig_eq_some (hsec : secretOfScriptSig coin secretHash script = some value) :
    getInstruction script 1 = some (some ⟨OP_PUSHBYTES_32, some value⟩) ∧
      OpensLock coin secretHash value := by
  unfold secretOfScriptSig at hsec
  split at hsec
  · next instruction hget =>
    obtain ⟨hopcode, hsec⟩ := Option.ite_none_right_eq_some.mp hsec
    obtain ⟨data, hdata, hsec⟩ := Option.bind_eq_some_iff.mp hsec
    obtain ⟨hlock, hsec⟩ := Option.ite_none_right_eq_some.mp hsec
    cases hsec
    obtain ⟨opcode, pushed⟩ := instruction
    cases hopcode
    cases hdata
    obtain ⟨bytes, hbytes, hlen⟩ := wellFormed_of_getInstruction hget pushBytes32_le
    cases hbytes
    exact ⟨hget, hlen, hlock⟩
  · cases hsec

theorem extract_eq_ok_iff {scripts : List Script} :
    extractSecretFromScriptSigs coin secretHash scripts = .ok value ↔
      scripts.findSome? (secretOfScriptSig coin secretHash) = some value := by
  induction scripts with
  | nil => simp [extractSecretFromScriptSigs]
  | cons script rest ih =>
    rw [extractSecretFromScriptSigs, List.findSome?_cons]
    cases secretOfScriptSig coin secretHash script with
    | some found => simp
    | none => exact ih

end Extraction

theorem extractSecret_eq_ok {coin : UtxoCoin} {secretHash spendTx value : Bytes}
    (hok : extractSecret coin secretHash spendTx = .ok value) :
    ∃ tx, deserializeTransaction spendTx = .ok tx ∧ ∃ spender ∈ tx.inputs,
      getInstruction spender.scriptSig 1 = some (some ⟨OP_PUSHBYTES_32, some value⟩) ∧
      OpensLock coin secretHash value := by
  unfold extractSecret at hok
  cases hread : deserializeTransaction spendTx with
  | error err =>
    rw [hread] at hok
    cases hok
  | ok tx =>
    rw [hread] at hok
    obtain ⟨script, hmem, hsec⟩ := List.exists_of_findSome?_eq_some (extract_eq_ok_iff.mp hok)
    obtain ⟨spender, hspender, rfl⟩ := List.mem_map.mp hmem
    exact ⟨tx, rfl, spender, hspender, secretOfScriptSig_eq_some hsec⟩

theorem extractSecret_isOk {coin : UtxoCoin} {secretHash spendTx : Bytes} {tx : Transaction}
    {spender : TransactionInput} (hread : deserializeTransaction spendTx = .ok tx)
    (hspender : spender ∈ tx.inputs) (hreveals : RevealsSecond coin secretHash spender.scriptSig) :
    ∃ value, extractSecret coin secretHash spendTx = .ok value := by
  obtain ⟨value, hget, hopens⟩ := hreveals
  have hsec : (secretOfScriptSig coin secretHash spender.scriptSig).isSome := by
    simp [secretOfScriptSig, hget, hopens.2]
  have hfinds := List.findSome?_isSome_iff.mpr ⟨_, List.mem_map_of_mem hspender, hsec⟩
  obtain ⟨found, hfound⟩ := Option.isSome_iff_exists.mp hfinds
  refine ⟨found, ?_⟩
  rw [extractSecret, hread]
  exact extract_eq_ok_iff.mpr hfound

/-- What is extracted opens the lock.  From the bytes of a transaction that spends
the payment with the secret something is extracted exactly if the transaction read
from them has an input whose second instruction is the direct push of a value that
opens the lock.  That holds of all bytes; the spend is there as the case that matters. -/
theorem secret_extracted_iff (coin : UtxoCoin) :
    (∀ secretHash spendTx value, extractSecret coin secretHash spendTx = .ok value →
      OpensLock coin secretHash value) ∧
    (∀ (algo : SecretHashAlgo) (secret : Bytes) (timeLock : UInt32)
      (firstPub secondPub : Public) (checkSig : Bytes → Bytes → Bool)
      (spendTx : Bytes) (tx : UtxoTx) (output : OutPoint) (input : TransactionInput),
      secret.length = 32 →
      (spendTx = tx.serialize ∨ spendTx = tx.serializeWithWitness) →
      PaymentTerms.SpentThrough
        ⟨coin, timeLock, algo.hashSecret coin.ripemd160 secret, firstPub, secondPub⟩
        checkSig tx output [false] input →
      ((∃ value, extractSecret coin (algo.hashSecret coin.ripemd160 secret) spendTx =
            .ok value ∧
          OpensLock coin (algo.hashSecret coin.ripemd160 secret) value) ↔
        ∃ read, deserializeTransaction spendTx = .ok read ∧
          ∃ spender ∈ read.inputs,
            RevealsSecond coin (algo.hashSecret coin.ripemd160 secret)
              spender.scriptSig)) := by
  constructor
  · intro secretHash spendTx value hok
    obtain ⟨tx, -, spender, -, -, hopens⟩ := extractSecret_eq_ok hok
    exact hopens
  · intro algo secret timeLock firstPub secondPub checkSig spendTx tx output input
      hsecret hbytes hspent
    constructor
    · rintro ⟨value, hok, hopens⟩
      obtain ⟨read, hread, spender, hspender, hreveals⟩ := extractSecret_eq_ok hok
      exact ⟨read, hread, spender, hspender, value, hreveals⟩
    · rintro ⟨read, hread, spender, hspender, hreveals⟩
      obtain ⟨value, hok⟩ := extractSecret_isOk hread hspender hreveals
      obtain ⟨-, -, -, -, -, hopens⟩ := extractSecret_eq_ok hok
      exact ⟨value, hok, hopens⟩

theorem secret_of_plain_spend :
    ∃ value, extractSecret sampleUtxoCoin samplePaymentTerms.secretHash
        plainSpend.serialize = .ok value ∧
      OpensLock sampleUtxoCoin samplePaymentTerms.secretHash value := by
  obtain ⟨input, hspent⟩ := plainSpend_spentThrough
  refine ((secret_extracted_iff sampleUtxoCoin).2 .dhash160 (List.replicate 32 7)
    samplePaymentTerms.timeLock samplePaymentTerms.firstPub
    samplePaymentTerms.secondPub sampleCheckSig plainSpend.serialize plainSpend
    ⟨samplePayment.txHash, UInt32.ofNat 0⟩ input rfl (.inl rfl) hspent).mpr ?_
  exact ⟨plainSpend, by decide +kernel, _, List.mem_cons_self, List.replicate 32 7,
    by decide +kernel, rfl, by decide +kernel⟩

/-- The counterparty takes the payment with the secret, and the secret is not found
in the transaction. -/
theorem secret_of_shifted_spend_missed :
    (∃ input, samplePaymentTerms.SpentThrough sampleCheckSig shiftedSpend
      ⟨samplePayment.txHash, UInt32.ofNat 0⟩ [false] input) ∧
    extractSecret sampleUtxoCoin samplePaymentTerms.secretHash
      shiftedSpend.serialize = .error .notFound :=
  ⟨shiftedSpend_spentThrough, by decide +kernel⟩

end KdfProtocol
