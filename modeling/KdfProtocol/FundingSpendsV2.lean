import KdfProtocol.MakerSwapV2
import KdfProtocol.PaymentSpendsV2

/-!
# How the taker funding was spent

The maker searches the chain for the spend of the taker funding and reads from its
first input which branch of the funding script it was.  A spend that it takes for
the cooperative one is the taker payment, against which it reveals its secret.
-/

namespace KdfProtocol

open BitcoinScript ScriptReader V2 MakerSwapStateMachine WireCodec MachineRun

/-! ## The search for the spend -/

inductive FundingSpendBranchTag where
  | timelock
  | secret (secret : FixedBytes 32)
  | cooperative
  deriving DecidableEq

def classifyFundingSpendScriptSig (scriptSig : Script) : FundingSpendBranchTag :=
  match getInstruction scriptSig 1 with
  | some (some instruction) =>
    if instruction.opcode = OP_1 then .timelock
    else if instruction.opcode = OP_PUSHBYTES_32 then
      match instruction.data with
      | some data =>
        if hlength : data.length = 32 then .secret ⟨data, hlength⟩ else .cooperative
      | none => .cooperative
    else .cooperative
  | _ => .cooperative

inductive SearchForFundingSpendErr where
  | invalidInputTx (err : String)
  | failedToProcessSpendTx (err : String)
  | rpc (err : String)
  deriving DecidableEq

inductive FoundFundingSpend where
  | refundedTimelock (tx : UtxoTx)
  | refundedSecret (tx : UtxoTx) (secret : FixedBytes 32)
  | transferredToTakerPayment (tx : UtxoTx)
  deriving DecidableEq

def FundingSpendBranchTag.report (spendTx : UtxoTx) : FundingSpendBranchTag → FoundFundingSpend
  | .timelock => .refundedTimelock spendTx
  | .secret revealed => .refundedSecret spendTx revealed
  | .cooperative => .transferredToTakerPayment spendTx

variable (coins : V2.SwapCoins) (coin : UtxoCoinFields)

def searchForTakerFundingSpend (tx : UtxoTx) (fromBlock : UInt64)
    (findOutputSpend : FindOutputSpend) :
    Except SearchForFundingSpendErr (Option FoundFundingSpend) := do
  let output ← tx.outputs[DEFAULT_SWAP_VOUT]?.elim
    (.error (.invalidInputTx "missing funding output 0")) .ok
  let spent ← (findOutputSpend tx.hash output.scriptPubkey DEFAULT_SWAP_VOUT
    fromBlock.toInt64).mapError SearchForFundingSpendErr.rpc
  match spent with
  | none => return none
  | some info =>
    let spendTx := { info.spendingTx with txHashAlgo := coin.txHashAlgo }
    let input ← spendTx.inputs[DEFAULT_SWAP_VOUT]?.elim
      (.error (.failedToProcessSpendTx "spend tx has no inputs")) .ok
    return some ((classifyFundingSpendScriptSig input.scriptSig).report spendTx)

/-! ## The branches of the funding script -/

inductive FundingBranch where
  | timelock
  | cooperative
  | secret
  deriving DecidableEq

def FundingBranch.choices : FundingBranch → List Bool
  | timelock => [true]
  | cooperative => [false, true]
  | secret => [false, false]

def FundingBranch.Shows (script : Script) : FundingBranch → Prop
  | timelock => opcodeAt script 1 = some OP_1
  | cooperative => opcodeAt script 1 ≠ some OP_1 ∧ opcodeAt script 1 ≠ some OP_PUSHBYTES_32
  | secret => opcodeAt script 1 = some OP_PUSHBYTES_32

def FundingSpendBranchTag.branch : FundingSpendBranchTag → FundingBranch
  | timelock => .timelock
  | secret _ => .secret
  | cooperative => .cooperative

def FoundFundingSpend.branch : FoundFundingSpend → FundingBranch
  | refundedTimelock _ => .timelock
  | refundedSecret _ _ => .secret
  | transferredToTakerPayment _ => .cooperative

def FoundFundingSpend.tx : FoundFundingSpend → UtxoTx
  | refundedTimelock tx | refundedSecret tx _ | transferredToTakerPayment tx => tx

@[simp] theorem FundingSpendBranchTag.branch_report (tag : FundingSpendBranchTag)
    (tx : UtxoTx) : (tag.report tx).branch = tag.branch := by
  cases tag <;> rfl

@[simp] theorem FundingSpendBranchTag.tx_report (tag : FundingSpendBranchTag)
    (tx : UtxoTx) : (tag.report tx).tx = tx := by
  cases tag <;> rfl

inductive FundingRun (ctx : Context) (locktime : UInt32) (hash : Bytes)
    (takerPub makerPub : Public) : List Bytes → FundingBranch → Prop where
  | timelock (selector sig : Bytes) (rest : List Bytes) (hselector : castToBool selector = true)
      (hlocktime : (decodeNum (writeLe 4 locktime.toNat)).any ctx.checkLockTime = true)
      (hsig : ctx.checkSig sig takerPub.bytes = true) :
      FundingRun ctx locktime hash takerPub makerPub (selector :: sig :: rest) .timelock
  | cooperative (outer inner takerSig makerSig : Bytes) (rest : List Bytes)
      (houter : castToBool outer = false) (hinner : castToBool inner = true)
      (htaker : ctx.checkSig takerSig takerPub.bytes = true)
      (hmaker : ctx.checkSig makerSig makerPub.bytes = true) :
      FundingRun ctx locktime hash takerPub makerPub
        (outer :: inner :: takerSig :: makerSig :: rest) .cooperative
  | secret (outer inner secret sig : Bytes) (rest : List Bytes) (houter : castToBool outer = false)
      (hinner : castToBool inner = false) (hlength : secret.length = 32)
      (hhash : ctx.hash160 secret = hash) (hsig : ctx.checkSig sig takerPub.bytes = true) :
      FundingRun ctx locktime hash takerPub makerPub
        (outer :: inner :: secret :: sig :: rest) .secret

theorem fundingRun_of_runScript {ctx : Context} {locktime : UInt32} {hash : Bytes}
    {takerPub makerPub : Public} {stack : List Bytes} {choices : List Bool}
    (hrun : runScript ctx (takerFundingBody locktime hash takerPub makerPub) stack = some choices) :
    ∃ branch : FundingBranch, choices = branch.choices ∧
      FundingRun ctx locktime hash takerPub makerPub stack branch := by
  obtain ⟨result, below, htrue, hruns⟩ := runs_of_runScript hrun
  have hinnerSkips : Skips (ifElse (bothSignatures takerPub makerPub)
      (secretCheck hash ++ oneSignature takerPub)) :=
    skips_bothSignatures.ifElse skips_secretBranch
  have hinnerKeeps : KeepsConditions (ifElse (bothSignatures takerPub makerPub)
      (secretCheck hash ++ oneSignature takerPub)) :=
    (keepsConditions_of_plain rfl).ifElse (keepsConditions_of_plain rfl)
      skips_bothSignatures skips_secretBranch
  obtain ⟨outer, rest, after, chosen, rfl, hfinal, hbranch⟩ :=
    hruns.of_ifElse rfl (keepsConditions_of_plain rfl) hinnerKeeps skips_timelockBranch hinnerSkips
  cases hfinal
  rcases hbranch with ⟨houter, hbranch⟩ | ⟨houter, hbranch⟩
  · obtain ⟨sig, rest, rfl, hlock, hfinal⟩ := used_timelockBranch rfl hbranch
    cases hfinal
    exact ⟨.timelock, rfl, .timelock outer sig _ houter hlock (eq_true_of_castToBool htrue)⟩
  obtain ⟨inner, rest, after, chosen, rfl, hfinal, hbranch⟩ :=
    hbranch.of_ifElse rfl (keepsConditions_of_plain rfl)
      (keepsConditions_of_plain rfl) skips_bothSignatures skips_secretBranch
  cases hfinal
  rcases hbranch with ⟨hinner, hbranch⟩ | ⟨hinner, hbranch⟩
  · obtain ⟨takerSig, makerSig, rest, rfl, htaker, hfinal⟩ := used_bothSignatures rfl hbranch
    cases hfinal
    exact ⟨.cooperative, rfl, .cooperative outer inner takerSig makerSig _ houter
      hinner htaker (eq_true_of_castToBool htrue)⟩
  · obtain ⟨secret, sig, rest, rfl, hlen, hhash, hfinal⟩ := used_secretBranch rfl hbranch
    cases hfinal
    exact ⟨.secret, rfl, .secret outer inner secret sig _ houter hinner hlen hhash
      (eq_true_of_castToBool htrue)⟩

namespace GenTakerFundingSpendArgs

/-- The funding is spent by an input of the transaction that is valid by the rules
of the consensus. -/
def SpentThrough (args : GenTakerFundingSpendArgs) (coin : UtxoCoin)
    (checkSig : Bytes → Bytes → Bool) (tx : UtxoTx) (choices : List Bool)
    (input : TransactionInput) : Prop :=
  ∃ redeem ∈ args.fundingRedeem coin,
    SpendsThrough coin checkSig tx args.fundingOutPoint redeem choices input

theorem SpentThrough.exists_run {args : GenTakerFundingSpendArgs} {coin : UtxoCoin}
    {checkSig : Bytes → Bytes → Bool} {tx : UtxoTx} {choices : List Bool} {input : TransactionInput}
    (hspent : args.SpentThrough coin checkSig tx choices input) :
    ∃ (stack : List Bytes) (branch : FundingBranch), choices = branch.choices ∧
      FundingRun (coin.context checkSig input.sequence tx.lockTime)
        args.fundingTimeLock.toUInt32 (h160Of coin.ripemd160 args.takerSecretHash)
        args.takerPub args.makerPub stack branch := by
  obtain ⟨redeem, hredeem, hspends⟩ := hspent
  obtain ⟨written, hwrote⟩ := takerFundingScript_written coin.ripemd160
    args.fundingTimeLock.toUInt32 args.takerSecretHash args.takerPub args.makerPub
  have hsame : written = redeem := Option.some.inj (hwrote.written.symm.trans hredeem)
  subst hsame
  obtain ⟨pushes, last, -, -, -, hrun⟩ := hspends.exists_pushes hwrote.reads.decode_eq
  exact ⟨_, fundingRun_of_runScript hrun⟩

end GenTakerFundingSpendArgs

/-! ## Which spends are classified right -/

theorem branch_classify_iff {script : Script} {branch : FundingBranch} :
    (classifyFundingSpendScriptSig script).branch = branch ↔ branch.Shows script := by
  have hpush : OP_PUSHBYTES_32 ≠ OP_1 := by decide
  unfold classifyFundingSpendScriptSig
  cases hget : getInstruction script 1 with
  | none =>
    cases branch <;> simp [FundingSpendBranchTag.branch, FundingBranch.Shows, opcodeAt, hget]
  | some result =>
    cases result with
    | none =>
      cases branch <;> simp [FundingSpendBranchTag.branch, FundingBranch.Shows, opcodeAt, hget]
    | some instruction =>
      have hopcode : opcodeAt script 1 = some instruction.opcode := by
        rw [opcodeAt, hget]
        rfl
      dsimp only
      by_cases hone : instruction.opcode = OP_1
      · rw [if_pos hone]
        cases branch <;>
          simp [FundingSpendBranchTag.branch, FundingBranch.Shows, hopcode, hone, hpush.symm]
      rw [if_neg hone]
      by_cases hdirect : instruction.opcode = OP_PUSHBYTES_32
      · -- The reader gives a direct push as many bytes as its opcode says.
        obtain ⟨data, hdata, hlen⟩ := wellFormed_of_getInstruction hget
          (by rw [hdirect]; exact pushBytes32_le)
        have hthirtyTwo : data.length = 32 := by
          rw [hlen, hdirect]
          rfl
        rw [if_pos hdirect, hdata]
        dsimp only
        rw [dif_pos hthirtyTwo]
        cases branch <;>
          simp [FundingSpendBranchTag.branch, FundingBranch.Shows, hopcode, hdirect, hpush]
      · rw [if_neg hdirect]
        cases branch <;>
          simp [FundingSpendBranchTag.branch, FundingBranch.Shows, hopcode, hone, hdirect]

section Search

variable {coin : UtxoCoinFields} {tx : UtxoTx} {output : TransactionOutput}
  {fromBlock : UInt64} {findOutputSpend : FindOutputSpend} {info : SpentOutputInfo}

theorem search_eq_ok_some_iff (houtput : tx.outputs[DEFAULT_SWAP_VOUT]? = some output)
    (hfound : findOutputSpend tx.hash output.scriptPubkey DEFAULT_SWAP_VOUT
      fromBlock.toInt64 = .ok (some info)) {found : FoundFundingSpend} :
    searchForTakerFundingSpend coin tx fromBlock findOutputSpend = .ok (some found) ↔
      ∃ first ∈ info.spendingTx.inputs.head?,
        found = (classifyFundingSpendScriptSig first.scriptSig).report
          { info.spendingTx with txHashAlgo := coin.txHashAlgo } := by
  have hfirst : info.spendingTx.inputs[DEFAULT_SWAP_VOUT]? =
      info.spendingTx.inputs.head? := List.head?_eq_getElem?.symm
  unfold searchForTakerFundingSpend
  simp only [except_bind_eq_ok, elim_eq_ok, mapError_eq_ok]
  constructor
  · rintro ⟨paid, hpaid, spent, hspent, hrest⟩
    cases Option.some.inj (houtput.symm.trans hpaid)
    cases Except.ok.inj (hfound.symm.trans hspent)
    obtain ⟨first, hinput, hreport⟩ := except_bind_eq_ok.mp hrest
    rw [elim_eq_ok, hfirst] at hinput
    exact ⟨first, hinput, (Option.some.inj (Except.ok.inj hreport)).symm⟩
  · rintro ⟨first, hinput, rfl⟩
    refine ⟨output, houtput, some info, hfound, except_bind_eq_ok.mpr ⟨first, ?_, rfl⟩⟩
    rw [elim_eq_ok, hfirst]
    exact hinput

def ReportsBranch (coin : UtxoCoinFields) (tx : UtxoTx) (fromBlock : UInt64)
    (findOutputSpend : FindOutputSpend) (branch : FundingBranch) : Prop :=
  ∃ found, searchForTakerFundingSpend coin tx fromBlock findOutputSpend =
    .ok (some found) ∧ found.branch = branch

theorem reportsBranch_iff (houtput : tx.outputs[DEFAULT_SWAP_VOUT]? = some output)
    (hfound : findOutputSpend tx.hash output.scriptPubkey DEFAULT_SWAP_VOUT
      fromBlock.toInt64 = .ok (some info)) {branch : FundingBranch} :
    ReportsBranch coin tx fromBlock findOutputSpend branch ↔
      ∃ first ∈ info.spendingTx.inputs.head?, branch.Shows first.scriptSig := by
  constructor
  · rintro ⟨found, hsearch, rfl⟩
    obtain ⟨first, hfirst, rfl⟩ := (search_eq_ok_some_iff houtput hfound).mp hsearch
    refine ⟨first, hfirst, branch_classify_iff.mp ?_⟩
    rw [FundingSpendBranchTag.branch_report]
  · rintro ⟨first, hfirst, hshows⟩
    refine ⟨_, (search_eq_ok_some_iff houtput hfound).mpr ⟨first, hfirst, rfl⟩, ?_⟩
    rw [FundingSpendBranchTag.branch_report]
    exact branch_classify_iff.mpr hshows

end Search

/-! ## The answers of the coin to the maker -/

def V2.Public.fromSlice (bytes : Bytes) : Option Public :=
  if hlength : bytes.length = 33 ∨ bytes.length = 65 then some ⟨bytes, hlength⟩
  else none

def TxPreimageWithSig.stored (preimage : TxPreimageWithSig) : StoredTxPreimage where
  preimage := preimage.preimage.toTransaction.serialize
  signature := preimage.signature

def V2.MakerSwapStateMachine.genTakerFundingSpendArgs (machine : MakerSwapStateMachine)
    (negotiation : StoredMakerNegotiationData) (takerFunding : Bytes) :
    Option GenTakerFundingSpendArgs := do
  let fundingTx ← (deserializeTransaction takerFunding).toOption
  let takerPub ← Public.fromSlice negotiation.takerCoinHtlcPub
  let makerTakerCoinPub ← (coins.deriveTakerHtlcPubkey (machine.uniqueData coins)).toOption
  let makerPub ← Public.fromSlice makerTakerCoinPub
  return {
    fundingTx
    makerPub
    takerPub
    fundingTimeLock := negotiation.takerFundingLocktime
    takerSecretHash := negotiation.takerSecretHash
    takerPaymentTimeLock := negotiation.takerPaymentLocktime
    makerSecretHash := machine.secretHash coins }

/-- What the chain knows of the spend of a funding: the input that spends it, and
what the client of the coin reports. -/
structure FundingSpend where
  findOutputSpend : FindOutputSpend
  info : SpentOutputInfo
  checkSig : Bytes → Bytes → Bool
  branch : FundingBranch
  input : TransactionInput

def GeneratedWith (scheme : SignatureScheme) (args : GenTakerFundingSpendArgs)
    (stored : StoredTxPreimage) (fee : UInt64) (preimage : TxPreimageWithSig) : Prop :=
  preimage.stored = stored ∧ ∃ sign,
    genTakerFundingSpendPreimage coin scheme args (.ok fee) sign = .ok preimage

namespace FundingSpend

def FirstInputShows (spend : FundingSpend) : Prop :=
  ∃ first ∈ spend.info.spendingTx.inputs.head?, spend.branch.Shows first.scriptSig

/-- The search has reported this spend as the taker payment.  The key of the maker
has signed no spend of the funding but the preimage. -/
structure ReportedAs (spend : FundingSpend) (coin : UtxoCoinFields)
    (scheme : SignatureScheme) (args : GenTakerFundingSpendArgs)
    (fromBlock : UInt64) (stored : StoredTxPreimage) (takerPayment : Bytes) : Prop where
  found : ∀ output ∈ args.fundingTx.outputs[DEFAULT_SWAP_VOUT]?,
    spend.findOutputSpend args.fundingTx.hash output.scriptPubkey DEFAULT_SWAP_VOUT
      fromBlock.toInt64 = .ok (some spend.info)
  reported : ∃ tx, searchForTakerFundingSpend coin args.fundingTx fromBlock
      spend.findOutputSpend = .ok (some (.transferredToTakerPayment tx)) ∧
    takerPayment = tx.serializeWithWitness
  valid : args.SpentThrough coin.toUtxoCoin spend.checkSig spend.info.spendingTx
    spend.branch.choices spend.input
  signed : ∀ signature, spend.checkSig signature args.makerPub.bytes = true →
    ∀ fee preimage, GeneratedWith coin scheme args stored fee preimage →
      spend.info.spendingTx.outputs = preimage.preimage.outputs

end FundingSpend

/-- The states of the maker that ask for the preimage and for the spend of the
funding get what the coin computes, and the spend meets the condition. -/
def FundingAnswers (scheme : SignatureScheme) (condition : FundingSpend → Prop)
    (machine : MakerSwapStateMachine) (position : Option MakerSwapState)
    (answers : V2.MakerAnswers) : Prop :=
  match position with
  | some (.takerFundingReceived _ negotiation takerFunding _) =>
    ∀ stored, answers.fundingSpendPreimage = .ok stored → ∃ args fee preimage,
        machine.genTakerFundingSpendArgs coins negotiation takerFunding = some args ∧
        GeneratedWith coin scheme args stored fee preimage
  | some (.makerPaymentSentFundingSpendGenerated blocks negotiation _ takerFunding
        stored) =>
      ∀ now takerPayment, answers.takerFundingSpend.answered =
          some (now, .ok (.transferredToTakerPayment takerPayment)) →
        ∃ (args : GenTakerFundingSpendArgs) (spend : FundingSpend),
          machine.genTakerFundingSpendArgs coins negotiation takerFunding = some args ∧
          spend.ReportedAs coin scheme args blocks.takerCoinStartBlock stored takerPayment ∧
          condition spend
  | _ => True

/-! ## The payment against which the secret is revealed -/

/-- The first output pays the script of the taker payment, and the value of the
funding less at most 110% of the fee. -/
structure PaidInFull (coin : UtxoCoinFields) (args : GenTakerFundingSpendArgs)
    (fee : UInt64) (tx : UtxoTx) (funding paid : TransactionOutput) : Prop where
  spends : ∃ input ∈ tx.inputs, input.previousOutput = args.fundingOutPoint
  funding_eq : args.fundingTx.outputs[DEFAULT_SWAP_VOUT]? = some funding
  paid_eq : tx.outputs[DEFAULT_SWAP_VOUT]? = some paid
  scriptPubkey_eq : args.takerPaymentScriptPubkey coin.toUtxoCoin = some paid.scriptPubkey
  value_le : 10 * funding.value.toNat ≤ 10 * paid.value.toNat + 11 * fee.toNat

/-- The state that reveals the secret holds a taker payment that spends the funding
in the record in full. -/
def RevealsAgainstPayment (scheme : SignatureScheme)
    (run : MachineRun MakerSwapStateMachine MakerSwapState MakerSwapDbRepr V2.MakerSent)
    (input : MachineInput V2.MakerAnswers) : Prop :=
  ∀ machine position answers stored spendTx timeLock spendAt,
    run.process = .running machine position → input = .change answers stored →
    .takerPaymentSpend spendTx timeLock spendAt ∈
      ((makerProgram coins).activate machine position answers).sent →
    ∃ repr blocks negotiation makerPayment takerFunding preimage takerPayment,
      run.record = some repr ∧
      .makerPaymentSentFundingSpendGenerated blocks negotiation makerPayment
        takerFunding preimage ∈ repr.events ∧
      (position = some (.takerPaymentReceived blocks negotiation makerPayment takerPayment) ∨
        position = some (.takerPaymentReceivedPreimageSkipped blocks negotiation
          makerPayment takerPayment)) ∧
      ∃ args fee generated tx funding paid,
        machine.genTakerFundingSpendArgs coins negotiation takerFunding = some args ∧
        GeneratedWith coin scheme args preimage fee generated ∧
        takerPayment = Transaction.serializeWithWitness tx ∧
        PaidInFull coin args fee tx funding paid

/-! ## What the states were reached with -/

section Reached

variable {coins : V2.SwapCoins} {machine : MakerSwapStateMachine}
  {position : Option MakerSwapState} {answers : V2.MakerAnswers}

theorem spending_of_revealed {spendTx : Bytes} {timeLock spendAt : UInt64}
    (hsent : .takerPaymentSpend spendTx timeLock spendAt ∈
      ((makerProgram coins).activate machine position answers).sent) :
    ∃ state, position = some state ∧ state.spending = true := by
  have hmove := makerProgram_move coins machine position answers
  generalize (makerProgram coins).activate machine position answers = activation at hmove hsent
  cases hmove with
  | sendsPayment | refunds =>
    obtain ⟨tx, -, htx⟩ := List.mem_map.mp hsent
    cases htx
  | spendsTakerPayment state hspend => exact ⟨state, rfl, hspend⟩
  | _ => cases hsent

theorem searchFundingSpend_eq_ok {takerPayment : Bytes}
    (hfound : machine.searchFundingSpend answers = .ok takerPayment) :
    ∃ now, answers.takerFundingSpend.answered =
      some (now, .ok (.transferredToTakerPayment takerPayment)) := by
  unfold searchFundingSpend at hfound
  dsimp only at hfound
  split at hfound
  · cases hfound
  · cases hfound
  · cases hfound
  next tx hanswered =>
    cases hfound
    obtain ⟨now, hround, -⟩ := Rounds.checkThenAsk_eq_answered hanswered
    exact ⟨now, hround⟩
  · cases hfound
  · cases hfound

theorem previous_of_spending {state : MakerSwapState} (hspend : state.spending = true)
    (hnext : ((makerProgram coins).activate machine position answers).next = some state) :
    ∃ blocks negotiation makerPayment takerFunding preimage takerPayment now,
      position = some (.makerPaymentSentFundingSpendGenerated blocks negotiation
        makerPayment takerFunding preimage) ∧
      (state = .takerPaymentReceived blocks negotiation makerPayment takerPayment ∨
        state = .takerPaymentReceivedPreimageSkipped blocks negotiation makerPayment takerPayment) ∧
      answers.takerFundingSpend.answered =
        some (now, .ok (.transferredToTakerPayment takerPayment)) := by
  have hmove := makerProgram_move coins machine position answers
  generalize hactivation : (makerProgram coins).activate machine position answers =
    activation at hmove hnext
  cases hmove with
  | findsTakerPayment blocks negotiation makerPayment takerFunding preimage later hlater =>
    rw [← hactivation] at hnext
    obtain ⟨reason, rfl⟩ | ⟨takerPayment, hfound, hchanged⟩ := settle_next hnext
    · cases hspend
    obtain ⟨_, -, hsearch⟩ := except_bind_eq_ok.mp hfound
    obtain ⟨now, hround⟩ := searchFundingSpend_eq_ok hsearch
    refine ⟨blocks, negotiation, makerPayment, takerFunding, preimage, takerPayment,
      now, rfl, ?_, hround⟩
    have hstate := Option.some.inj hchanged
    split at hstate
    · exact Or.inr hstate.symm
    · exact Or.inl hstate.symm
  | waits => cases hnext
  | starts | aborts | negotiates | receivesFunding | completes | requiresRefund =>
    cases hnext; cases hspend
  | sendsPayment | spendsTakerPayment | refunds =>
    cases hnext
    split at hspend <;> cases hspend

theorem fundingSpendPreimage_of_generate {negotiation : StoredMakerNegotiationData}
    {takerFunding : Bytes} {preimage : StoredTxPreimage}
    (hgen : machine.generateFundingSpend coins negotiation takerFunding answers =
      .ok preimage) : answers.fundingSpendPreimage = .ok preimage := by
  unfold generateFundingSpend at hgen
  simp only [except_bind_eq_ok] at hgen
  obtain ⟨_, -, _, -, _, -, _, -, hrest⟩ := hgen
  split at hrest
  · obtain ⟨_, -, hrest⟩ := except_bind_eq_ok.mp hrest
    simp only [except_bind_eq_ok, abortOn_eq_ok] at hrest
    obtain ⟨_, -, found, hfound, _, -, hsame⟩ := hrest
    cases hsame
    exact hfound
  · simp only [except_bind_eq_ok, abortOn_eq_ok] at hrest
    obtain ⟨_, -, found, hfound, _, -, hsame⟩ := hrest
    cases hsame
    exact hfound

theorem previous_of_generated {blocks : StartBlocks}
    {negotiation : StoredMakerNegotiationData} {makerPayment takerFunding : Bytes}
    {preimage : StoredTxPreimage}
    (hnext : ((makerProgram coins).activate machine position answers).next =
      some (.makerPaymentSentFundingSpendGenerated blocks negotiation makerPayment
        takerFunding preimage)) :
    ∃ fee, position = some (.takerFundingReceived blocks negotiation takerFunding fee) ∧
      answers.fundingSpendPreimage = .ok preimage := by
  have hmove := makerProgram_move coins machine position answers
  generalize hactivation : (makerProgram coins).activate machine position answers =
    activation at hmove hnext
  cases hmove with
  | sendsPayment blocks negotiation takerFunding fee preimage =>
    rw [← hactivation] at hnext
    obtain ⟨reason, habort⟩ | ⟨generated, hgen, hchanged⟩ := settle_next hnext
    · cases habort
    have hstate := Option.some.inj hchanged
    cases hres : answers.makerPayment.result with
    | ok payment =>
      rw [hres] at hstate
      cases hstate
      exact ⟨fee, rfl, fundingSpendPreimage_of_generate hgen⟩
    | error err =>
      rw [hres] at hstate
      cases hstate
  | waits | starts | aborts | negotiates | receivesFunding | completes | requiresRefund =>
    cases hnext
  | findsTakerPayment _ _ _ _ _ later hlater =>
    cases hnext
    cases hlater
  | spendsTakerPayment | refunds =>
    have hstate := Option.some.inj hnext
    split at hstate <;> cases hstate

end Reached

theorem makerProgram_keepsSecret (secret : Bytes) (algo : SecretHashAlgo) :
    (makerProgram coins).Maintains (fun _ _ _ => True)
      (fun machine _ => machine.secret = secret ∧ machine.secretHashAlgo = algo)
      (fun repr => repr.makerSecret = secret ∧ repr.secretHashAlgo = algo) (fun _ => True) where
  toDbRepr := by
    intro machine _ hsec
    exact hsec
  sent := by
    intro _ _ _ _ _ _ _
    trivial
  next := by
    intro machine _ _ next hsec _
    cases next <;> exact hsec
  addEvent := by
    intro _ _ repr _ hsec
    exact hsec
  recreate := by
    intro repr machine state hsec hrec
    obtain ⟨rfl, -⟩ := recreateMachine_eq_ok (swapKickstartHandlerForMaker_eq_some hrec)
    exact hsec

/-! ## What the preimage pays -/

section Generated

variable {coin : UtxoCoinFields} {scheme : SignatureScheme} {args : GenTakerFundingSpendArgs}
  {stored : StoredTxPreimage} {fee : UInt64} {preimage : TxPreimageWithSig}

theorem writeU64_inj {a b : UInt64} (hsame : writeU64 a = writeU64 b) : a = b := by
  have hread : ∀ n : UInt64, readLe (writeU64 n) = n.toNat := by
    intro n
    exact readLe_writeLe n.toNat_lt
  rw [← UInt64.toNat_inj, ← hread a, ← hread b, hsame]

section

variable (hgen : GeneratedWith coin scheme args stored fee preimage)

include hgen

theorem GeneratedWith.exists_built :
    ∃ redeem, args.takerPaymentRedeem coin.toUtxoCoin = some redeem ∧
      buildFundingSpendPreimageTx coin args.fundingTx redeem fee = .ok preimage.preimage := by
  obtain ⟨-, sign, hgen⟩ := hgen
  unfold genTakerFundingSpendPreimage at hgen
  simp only [except_bind_eq_ok, unwrap_eq_ok, mapError_eq_ok] at hgen
  obtain ⟨redeem, hredeem, _, -, _, ⟨⟩, signer, hsigner, signature, -, hsame⟩ := hgen
  cases hsame
  exact ⟨redeem, hredeem, hsigner⟩

theorem GeneratedWith.exists_outputs :
    ∃ funding script, args.fundingTx.outputs[DEFAULT_SWAP_VOUT]? = some funding ∧
      args.takerPaymentScriptPubkey coin.toUtxoCoin = some script ∧ fee ≤ funding.value ∧
      preimage.preimage.outputs = [⟨funding.value - fee, script⟩] := by
  obtain ⟨redeem, hredeem, hbuilt⟩ := hgen.exists_built
  unfold buildFundingSpendPreimageTx at hbuilt
  simp only [except_bind_eq_ok, requireSome_eq_ok, refuseIf_eq_ok, unwrap_eq_ok] at hbuilt
  obtain ⟨funding, hfund, _, hfits, _, hcovers, script, hscript, hsame⟩ := hbuilt
  refine ⟨funding, script, hfund, ?_, ?_, ?_⟩
  · rw [GenTakerFundingSpendArgs.takerPaymentScriptPubkey, hredeem]
    exact hscript
  · have hsum : (fee + coin.dustAmount).toNat = fee.toNat + coin.dustAmount.toNat := by
      rw [UInt64.toNat_add]
      omega
    rw [UInt64.lt_iff_toNat_lt, hsum] at hcovers
    rw [UInt64.le_iff_toNat_le]
    omega
  · rw [← Except.ok.inj hsame]

theorem GeneratedWith.eq_withOutputs {stored' : StoredTxPreimage} {fee' : UInt64}
    {preimage' : TxPreimageWithSig}
    (hgenerated' : GeneratedWith coin scheme args stored' fee' preimage') :
    preimage'.preimage = { preimage.preimage with outputs := preimage'.preimage.outputs } := by
  obtain ⟨redeem, hredeem, hbuilt⟩ := hgen.exists_built
  obtain ⟨redeem', -, hbuilt'⟩ := hgenerated'.exists_built
  unfold buildFundingSpendPreimageTx at hbuilt hbuilt'
  simp only [except_bind_eq_ok, requireSome_eq_ok, refuseIf_eq_ok, unwrap_eq_ok] at hbuilt hbuilt'
  obtain ⟨funding, hfund, _, -, _, -, _, -, hsame⟩ := hbuilt
  obtain ⟨funding', hfunding', _, -, _, -, _, -, hsame'⟩ := hbuilt'
  cases Option.some.inj (hfund.symm.trans hfunding')
  rw [← Except.ok.inj hsame, ← Except.ok.inj hsame']

theorem GeneratedWith.outputs_unique {fee' : UInt64} {preimage' : TxPreimageWithSig}
    (hgenerated' : GeneratedWith coin scheme args stored fee' preimage') :
    preimage.preimage.outputs = preimage'.preimage.outputs := by
  obtain ⟨funding, script, hfund, hscript, -, houts⟩ := hgen.exists_outputs
  obtain ⟨funding', script', hfunding', hscript', -, houtputs'⟩ := hgenerated'.exists_outputs
  cases Option.some.inj (hfund.symm.trans hfunding')
  cases Option.some.inj (hscript.symm.trans hscript')
  have hbytes : preimage.preimage.toTransaction.serialize =
      preimage'.preimage.toTransaction.serialize :=
    congrArg StoredTxPreimage.preimage (hgen.1.trans hgenerated'.1.symm)
  rw [hgen.eq_withOutputs hgenerated', houtputs'] at hbytes
  have hlists : writeList TransactionOutput.serialize preimage.preimage.outputs =
      writeList TransactionOutput.serialize [⟨funding.value - fee', script⟩] :=
    List.append_cancel_left (List.append_cancel_right (List.append_cancel_right hbytes))
  rw [houts] at hlists
  have hvals : writeU64 (funding.value - fee) = writeU64 (funding.value - fee') := by
    have hitems := List.append_cancel_left hlists
    simp only [List.flatMap_cons, List.flatMap_nil, List.append_nil] at hitems
    exact List.append_cancel_right hitems
  rw [houts, houtputs', writeU64_inj hvals]

end

theorem FundingSpend.ReportedAs.paidInFull {spend : FundingSpend} {fromBlock : UInt64}
    {takerPayment : Bytes}
    (hreported : spend.ReportedAs coin scheme args fromBlock stored takerPayment)
    (hgen : GeneratedWith coin scheme args stored fee preimage) (hshows : spend.FirstInputShows) :
    ∃ tx funding paid, takerPayment = Transaction.serializeWithWitness tx ∧
      PaidInFull coin args fee tx funding paid := by
  obtain ⟨funding, script, hfund, hscript, hfee, houts⟩ := hgen.exists_outputs
  have hfound := hreported.found funding hfund
  obtain ⟨tx, hsearch, hbytes⟩ := hreported.reported
  have hcooperative : spend.branch = .cooperative := by
    have hbranch : ReportsBranch coin args.fundingTx fromBlock spend.findOutputSpend
        spend.branch := (reportsBranch_iff hfund hfound).mpr hshows
    obtain ⟨found, hsame, hbranch⟩ := hbranch
    cases Option.some.inj (Except.ok.inj (hsearch.symm.trans hsame))
    exact hbranch.symm
  have hpaid : spend.info.spendingTx.outputs = preimage.preimage.outputs := by
    obtain ⟨stack, branch, hchoices, hrun⟩ := hreported.valid.exists_run
    rw [hcooperative] at hchoices
    cases hrun with
    | timelock => cases hchoices
    | cooperative outer inner takerSig makerSig rest houter hinner htaker hmaker =>
      exact hreported.signed makerSig hmaker fee preimage hgen
    | secret => cases hchoices
  obtain ⟨first, -, htx⟩ := (search_eq_ok_some_iff hfund hfound).mp hsearch
  have htx : tx = { spend.info.spendingTx with txHashAlgo := coin.txHashAlgo } := by
    have hsame := congrArg FoundFundingSpend.tx htx
    rwa [FundingSpendBranchTag.tx_report] at hsame
  obtain ⟨redeem, -, hspends⟩ := hreported.valid
  refine ⟨tx, funding, ⟨funding.value - fee, script⟩, hbytes, ?_⟩
  exact {
    spends := by
      rw [htx]
      exact ⟨spend.input, hspends.mem_inputs, hspends.previousOutput⟩
    funding_eq := hfund
    paid_eq := by
      rw [htx]
      dsimp only
      rw [hpaid, houts]
      rfl
    scriptPubkey_eq := hscript
    value_le := by
      rw [UInt64.toNat_sub_of_le _ _ hfee]
      rw [UInt64.le_iff_toNat_le] at hfee
      omega }

end Generated

/-! ## Runs -/

theorem genTakerFundingSpendArgs_congr {machine other : MakerSwapStateMachine}
    (hsec : machine.secret = other.secret) (halgo : machine.secretHashAlgo = other.secretHashAlgo) :
    machine.genTakerFundingSpendArgs coins = other.genTakerFundingSpendArgs coins := by
  have hhash : machine.secretHash coins = other.secretHash coins := by
    rw [secretHash, hsec, halgo]
    rfl
  unfold genTakerFundingSpendArgs
  rw [uniqueData, hhash]
  rfl

theorem revealsAgainstPayment_of_logged {coins : V2.SwapCoins} {coin : UtxoCoinFields}
    {scheme : SignatureScheme} {maker : MakerSwapStateMachine}
    {run : MachineRun MakerSwapStateMachine MakerSwapState MakerSwapDbRepr V2.MakerSent}
    {input : MachineInput V2.MakerAnswers} {recorded : Option MakerSwapState}
    (hsec : run.Guarded (fun machine _ (_ : V2.MakerAnswers) =>
      machine.secret = maker.secret ∧ machine.secretHashAlgo = maker.secretHashAlgo)
      input)
    (hrun : run.Recorded (makerProgram coins)
      ((makerProgram coins).GuardedLogged (fun machine position answers =>
        (machine.secret = maker.secret ∧ machine.secretHashAlgo = maker.secretHashAlgo) ∧
        FundingAnswers coins coin scheme FundingSpend.FirstInputShows machine position
          answers) MakerSwapDbRepr.events)
      (fun _ _ => True) recorded) : RevealsAgainstPayment coins coin scheme run input := by
  intro machine position answers stored spendTx timeLock spendAt hproc hinput hsent
  obtain ⟨state, rfl, hspend⟩ := spending_of_revealed hsent
  cases hrun.process machine _ (Or.inr hproc)
  obtain ⟨repr, hrec⟩ := Option.ne_none_iff_exists'.mp (hrun.running machine _ hproc)
  obtain ⟨states, hevents, hlog⟩ := hrun.record repr hrec
  -- The last two changes of state: to the preimage, and to the taker payment.
  obtain ⟨before, found, finder, foundWith, rfl, hpre, ⟨hfinder, hsearched⟩, hnext⟩ := hlog.previous
  obtain ⟨blocks, negotiation, makerPayment, takerFunding, preimage, takerPayment, now,
    rfl, hstate, hround⟩ := previous_of_spending hspend hnext
  obtain ⟨earlier, paid, payer, paidWith, rfl, -, ⟨hpayer, himage⟩, hnext⟩ := hpre.previous
  obtain ⟨fee, rfl, hgen⟩ := previous_of_generated hnext
  have hhas := hsec machine _ answers stored hproc hinput
  have hargs := genTakerFundingSpendArgs_congr coins (hhas.1.trans hfinder.1.symm)
    (hhas.2.trans hfinder.2.symm)
  have hpayerArgs := genTakerFundingSpendArgs_congr coins
    (hpayer.1.trans hfinder.1.symm) (hpayer.2.trans hfinder.2.symm)
  obtain ⟨args, spend, hasked, hreported, hshows⟩ := hsearched now takerPayment hround
  obtain ⟨args', fee, generated, hasked', hwith⟩ := himage preimage hgen
  rw [hpayerArgs, hasked] at hasked'
  cases hasked'
  obtain ⟨tx, funding, paid, hbytes, hpaid⟩ := hreported.paidInFull hwith hshows
  refine ⟨repr, blocks, negotiation, makerPayment, takerFunding, preimage, takerPayment,
    hrec, ?_, ?_, args, fee, generated, tx, funding, paid, ?_, hwith, hbytes, hpaid⟩
  · rw [hevents]
    simp [makerProgram, MakerSwapState.getEvent]
  · rcases hstate with rfl | rfl
    · exact Or.inl rfl
    · exact Or.inr rfl
  · rw [hargs]
    exact hasked

/-- A valid spend of the funding is reported as the branch that it runs exactly if
the first input of the transaction shows this branch, and in every run of the maker
in which the spends that are found show their branch, the secret is revealed only
against a taker payment that pays in full. -/
theorem secret_revealed_against_payment (coins : V2.SwapCoins) (coin : UtxoCoinFields)
    (scheme : SignatureScheme) (maker : MakerSwapStateMachine)
    (inputs : List (MachineInput V2.MakerAnswers))
    (hanswers : EveryStep (MachineRun.step (makerProgram coins))
      (MachineRun.Guarded
        (FundingAnswers coins coin scheme FundingSpend.FirstInputShows))
      (MachineRun.fresh maker) inputs) :
    (∀ (args : GenTakerFundingSpendArgs) (fromBlock : UInt64)
        (findOutputSpend : FindOutputSpend) (info : SpentOutputInfo)
        (output : TransactionOutput) (checkSig : Bytes → Bytes → Bool)
        (choices : List Bool) (input : TransactionInput),
      args.fundingTx.outputs[DEFAULT_SWAP_VOUT]? = some output →
      findOutputSpend args.fundingTx.hash output.scriptPubkey DEFAULT_SWAP_VOUT
        fromBlock.toInt64 = .ok (some info) →
      args.SpentThrough coin.toUtxoCoin checkSig info.spendingTx choices input →
      ∃ branch : FundingBranch, choices = branch.choices ∧
        (ReportsBranch coin args.fundingTx fromBlock findOutputSpend branch ↔
          ∃ first ∈ info.spendingTx.inputs.head?, branch.Shows first.scriptSig)) ∧
    EveryStep (MachineRun.step (makerProgram coins))
      (RevealsAgainstPayment coins coin scheme) (MachineRun.fresh maker) inputs := by
  constructor
  · intro args fromBlock findOutputSpend info output checkSig choices input houtput hfound hspent
    obtain ⟨stack, branch, hchoices, -⟩ := hspent.exists_run
    exact ⟨branch, hchoices, reportsBranch_iff houtput hfound⟩
  · have hguards := everyStep_guarded_and
      (makerProgram_keepsSecret coins maker.secret maker.secretHashAlgo) ⟨rfl, rfl⟩ hanswers
    have hlogged := everyStep_logged (makerProgram_keepsEvents coins) maker hguards
    refine (hguards.and hlogged).imp ?_
    rintro run input ⟨hguard, recorded, hrun⟩
    refine revealsAgainstPayment_of_logged ?_ hrun
    intro machine position answers stored hprocess hinput
    exact (hguard machine position answers stored hprocess hinput).1

/-! ## A swap -/

deriving instance DecidableEq for V2.Public
deriving instance DecidableEq for GenTakerFundingSpendArgs

def fundedCoins : V2.SwapCoins :=
  { V2.sampleCoins with
    ripemd160 := computedRipemd160
    deriveTakerHtlcPubkey := fun _ => .ok (2 :: List.replicate 32 1) }

def fundedMaker : MakerSwapStateMachine :=
  { sampleMaker 1700000000 with secretHashAlgo := .sha256 }

def fundedTakerData : V2.TakerNegotiationData :=
  { V2.sampleTakerData 1700000000 with
    takerSecretHash := Sha256.digest (List.replicate 32 4)
    takerCoinHtlcPub := 3 :: List.replicate 32 2 }

def fundedNegotiation : StoredMakerNegotiationData :=
  MakerSwapStateMachine.storedNegotiation fundedTakerData

def fundedTerms : GenTakerFundingSpendArgs where
  fundingTx := { inputs := [], outputs := [], lockTime := 0 }
  makerPub := .sampleMaker
  takerPub := .sampleTaker
  fundingTimeLock := 1700023400
  takerSecretHash := Sha256.digest (List.replicate 32 4)
  takerPaymentTimeLock := 1700007800
  makerSecretHash := Sha256.digest (List.replicate 32 7)

def fundedRedeem : Script :=
  (fundedTerms.fundingRedeem sampleCoinFields.toUtxoCoin).getD []

def fundedPaymentScript : Script :=
  (fundedTerms.takerPaymentScriptPubkey sampleCoinFields.toUtxoCoin).getD []

def fundedScriptHash : Bytes :=
  [31, 82, 19, 199, 156, 248, 45, 41, 7, 69, 8, 236, 10, 136, 178, 206, 242, 8, 198, 215]

def fundedTx : UtxoTx where
  inputs := [⟨⟨⟨List.replicate 32 8, rfl⟩, 0⟩, [], SEQUENCE_FINAL, []⟩]
  outputs := [⟨100000000, (Builder.buildP2sh fundedScriptHash).getD []⟩]
  lockTime := 0
  version := 2

def fundedArgs : GenTakerFundingSpendArgs :=
  { fundedTerms with fundingTx := fundedTx }

def fundingSpendInput (scriptSig : Builder) : TransactionInput where
  previousOutput := fundedArgs.fundingOutPoint
  scriptSig := ((scriptSig.pushData fundedRedeem).intoScript).getD []
  sequence := SEQUENCE_FINAL

def fundingSpendTx (scriptSig : Builder) (outputs : List TransactionOutput) : UtxoTx where
  inputs := [fundingSpendInput scriptSig]
  outputs
  lockTime := 0
  version := 2

def fundedMakerSig : Bytes := List.replicate 71 5 ++ [1]
def fundedTakerSig : Bytes := List.replicate 71 6 ++ [1]

def fundedCheckSig (sig pub : Bytes) : Bool :=
  (sig == fundedMakerSig && pub == fundedArgs.makerPub.bytes) ||
    (sig == fundedTakerSig && pub == fundedArgs.takerPub.bytes)

def fundedPaymentSig : Builder :=
  Builder.empty
    |>.pushData fundedMakerSig
    |>.pushData fundedTakerSig
    |>.pushOpcode .op1
    |>.pushOpcode .op0

def fundedPayment : UtxoTx :=
  fundingSpendTx fundedPaymentSig [⟨99999000, fundedPaymentScript⟩]

/-- The taker takes the funding back with its secret.  The first push is used by no
opcode. -/
def disguisedSig : Builder :=
  Builder.empty
    |>.pushOpcode .op0
    |>.pushData fundedTakerSig
    |>.pushData (List.replicate 32 4)
    |>.pushOpcode .op0
    |>.pushOpcode .op0

def disguisedRefund : UtxoTx :=
  fundingSpendTx disguisedSig [⟨103000, fundedPaymentScript⟩, ⟨99896000, []⟩]

def fundedPreimage : Fallible TxGenError TxPreimageWithSig :=
  genTakerFundingSpendPreimage sampleCoinFields sampleScheme fundedArgs (.ok 1000)
    fun _ => .ok fundedMakerSig

def answerOf {E α : Type} : Fallible E α → Except String α
  | .ok a => .ok a
  | .error _ => .error "refused"

def fundedAnswers (spend : UtxoTx) (preimageValid : Except String Unit)
    (takerPaymentSpend : SendAnswer Bytes) : V2.MakerAnswers :=
  { sampleMakerAnswers 1700000000 1700000001 1700000001 1700000002 1700000003 with
    takerNegotiation := atOnce 1700000002 ⟨some (.continue fundedTakerData)⟩
    takerFundingInfo := atOnce 1700000002 fundedTx.serialize
    fundingSpendPreimage := (answerOf fundedPreimage).map TxPreimageWithSig.stored
    takerFundingSpend := atOnce 1700000002
      (.ok (.transferredToTakerPayment spend.serializeWithWitness))
    spendPreimageValid := preimageValid
    takerPaymentSpend := takerPaymentSpend }

def sixActs (answers : V2.MakerAnswers) : List (MachineInput V2.MakerAnswers) :=
  .onStart true :: List.replicate 6 (.change answers true)

def payToPubkeyHash (pub : Bytes) : Except String Script :=
  .ok ([0x76, 0xa9, 0x14] ++ sampleCoinFields.dhash160 pub ++ [0x88, 0xac])

def disguisedArgs : GenTakerPaymentSpendArgs where
  takerTx := disguisedRefund
  timeLock := fundedArgs.takerPaymentTimeLock
  makerSecretHash := fundedArgs.makerSecretHash
  makerPub := fundedArgs.makerPub
  makerScriptPubkey := []
  takerPub := fundedArgs.takerPub
  dexFee := .standard (1 / 1000)
  dexFeeAddrRawPubkey := List.replicate 33 9

def disguisedPreimage : TransactionInputSigner :=
  .fromTransaction
    { inputs := [⟨⟨disguisedRefund.hash, 0⟩, [], SEQUENCE_FINAL, []⟩]
      outputs := [⟨100000, [0x76, 0xa9, 0x14] ++
        sampleCoinFields.dhash160 (List.replicate 33 9) ++ [0x88, 0xac]⟩]
      lockTime := 0
      version := 2 } 0

def disguisedSpend : Except String UtxoTx :=
  signAndBroadcastTakerPaymentSpend sampleCoinFields disguisedArgs
    (some (disguisedPreimage, sampleTakerSignature))
    fundedMaker.secret (.ok 1000) (.ok sampleMakerSignature)

def disguisedBroadcast : SendAnswer Bytes :=
  match disguisedSpend with
  | .ok tx => .sent tx.serializeWithWitness
  | .error err => .failed err

def disguisedAnswers : V2.MakerAnswers :=
  fundedAnswers disguisedRefund
    (answerOf (validateTakerPaymentSpendPreimage sampleCoinFields payToPubkeyHash
      sampleScheme disguisedArgs (.ok 1000) ⟨disguisedPreimage, List.replicate 32 0⟩))
    disguisedBroadcast

/-- The machine has the secret of the maker, and the states that ask the coin hold
what was negotiated. -/
def atFunded (run : MachineRun MakerSwapStateMachine MakerSwapState MakerSwapDbRepr
    V2.MakerSent) : Bool :=
  match run.process with
  | .running machine position =>
    machine.secret = fundedMaker.secret && machine.secretHashAlgo = .sha256 &&
      match position with
      | some (.takerFundingReceived _ negotiation takerFunding _) =>
        negotiation = fundedNegotiation && takerFunding = fundedTx.serialize
      | some (.makerPaymentSentFundingSpendGenerated blocks negotiation _ takerFunding
            stored) =>
          blocks.takerCoinStartBlock = 200 && negotiation = fundedNegotiation &&
            takerFunding = fundedTx.serialize &&
            (answerOf fundedPreimage).map TxPreimageWithSig.stored = .ok stored
      | _ => true
  | _ => true

def fundedRun : List (MachineInput V2.MakerAnswers) :=
  sixActs (fundedAnswers fundedPayment (.ok ()) (.sent [6]))

def fundingSpendRuns (scriptSig : Builder) (choices : List Bool) : Prop :=
  sampleCoinFields.dhash160 fundedRedeem = fundedScriptHash ∧
    revealedScript (fundingSpendInput scriptSig).scriptSig = some fundedRedeem ∧
    verifyP2sh (sampleCoinFields.context fundedCheckSig SEQUENCE_FINAL 0)
      (fundingSpendInput scriptSig).scriptSig fundedScriptHash = some choices

instance (scriptSig : Builder) (choices : List Bool) :
    Decidable (fundingSpendRuns scriptSig choices) :=
  inferInstanceAs (Decidable (_ ∧ _ ∧ _))

theorem spentThrough_of_runs {scriptSig : Builder} {choices : List Bool}
    (hruns : fundingSpendRuns scriptSig choices) (outputs : List TransactionOutput) :
    fundedArgs.SpentThrough sampleCoinFields.toUtxoCoin fundedCheckSig
      (fundingSpendTx scriptSig outputs) choices (fundingSpendInput scriptSig) := by
  obtain ⟨redeem, hredeem⟩ := takerFundingScript_written
    sampleCoinFields.ripemd160 fundedArgs.fundingTimeLock.toUInt32
    fundedArgs.takerSecretHash fundedArgs.takerPub fundedArgs.makerPub
  have hsame : fundedRedeem = redeem := congrArg (fun script => script.getD []) hredeem.written
  obtain ⟨hhash, hrevealed, hvalid⟩ := hruns
  rw [← hhash] at hvalid
  rw [hsame] at hrevealed hvalid
  exact ⟨redeem, hredeem.written, List.mem_cons_self, rfl, hrevealed, hvalid⟩

theorem fundedRun_facts :
    fundedMaker.genTakerFundingSpendArgs fundedCoins fundedNegotiation
      fundedTx.serialize = some fundedArgs ∧
    EveryStep (step (makerProgram fundedCoins))
      (fun run _ => atFunded run = true) (fresh fundedMaker) fundedRun ∧
    (answerOf fundedPreimage).map (fun preimage => preimage.preimage.outputs) =
      .ok fundedPayment.outputs ∧
    fundingSpendRuns fundedPaymentSig FundingBranch.cooperative.choices ∧
    classifyFundingSpendScriptSig (fundingSpendInput fundedPaymentSig).scriptSig = .cooperative ∧
    (run (step (makerProgram fundedCoins)) (fresh fundedMaker) fundedRun).sent =
      [.makerPayment [3], .takerPaymentSpend [6] 1700007800 1700000003] := by
  decide +kernel

theorem search_of_classify {scriptSig : Builder} {outputs : List TransactionOutput}
    {tag : FundingSpendBranchTag}
    (hclass : classifyFundingSpendScriptSig (fundingSpendInput scriptSig).scriptSig = tag)
    (fromBlock : UInt64) :
    searchForTakerFundingSpend sampleCoinFields fundedTx fromBlock
        (findsSpend (fundingSpendTx scriptSig outputs)) =
      .ok (some (tag.report (fundingSpendTx scriptSig outputs))) := by
  have houtput : fundedTx.outputs[DEFAULT_SWAP_VOUT]? = some _ := rfl
  refine (search_eq_ok_some_iff houtput rfl).mpr ⟨_, rfl, ?_⟩
  rw [hclass]
  rfl

theorem exists_fundedPreimage :
    ∃ preimage, fundedPreimage = .ok preimage ∧ fundedPayment.outputs = preimage.preimage.outputs ∧
      (answerOf fundedPreimage).map TxPreimageWithSig.stored = .ok preimage.stored := by
  have houts := fundedRun_facts.2.2.1
  cases himage : fundedPreimage with
  | error err =>
    rw [himage] at houts
    cases houts
  | ok preimage =>
    rw [himage] at houts
    exact ⟨preimage, rfl, (Except.ok.inj houts).symm, rfl⟩

theorem fundedAnswers_guarded {machine : MakerSwapStateMachine} {position : Option MakerSwapState}
    {run : MachineRun MakerSwapStateMachine MakerSwapState MakerSwapDbRepr V2.MakerSent}
    (hproc : run.process = .running machine position) (hat : atFunded run = true) :
    FundingAnswers fundedCoins sampleCoinFields sampleScheme
      FundingSpend.FirstInputShows machine position
      (fundedAnswers fundedPayment (.ok ()) (.sent [6])) := by
  obtain ⟨preimage, himage, hpaid, hstore⟩ := exists_fundedPreimage
  have hgen : GeneratedWith sampleCoinFields sampleScheme fundedArgs
      preimage.stored 1000 preimage := ⟨rfl, _, himage⟩
  simp only [atFunded, hproc, Bool.and_eq_true, decide_eq_true_eq] at hat
  obtain ⟨⟨hsec, halgo⟩, hat⟩ := hat
  have hargs : machine.genTakerFundingSpendArgs fundedCoins fundedNegotiation
      fundedTx.serialize = some fundedArgs := by
    rw [genTakerFundingSpendArgs_congr fundedCoins hsec halgo]
    exact fundedRun_facts.1
  cases position with
  | none => trivial
  | some state =>
    cases state with
    | takerFundingReceived blocks negotiation takerFunding fee =>
      simp only [Bool.and_eq_true, decide_eq_true_eq] at hat
      obtain ⟨rfl, rfl⟩ := hat
      intro stored hans
      cases Except.ok.inj (hstore.symm.trans hans)
      exact ⟨fundedArgs, 1000, preimage, hargs, hgen⟩
    | makerPaymentSentFundingSpendGenerated blocks negotiation makerPayment takerFunding stored =>
        simp only [Bool.and_eq_true, decide_eq_true_eq] at hat
        obtain ⟨⟨⟨hblock, rfl⟩, rfl⟩, hsame⟩ := hat
        cases Except.ok.inj (hstore.symm.trans hsame)
        intro now takerPayment hround
        cases hround
        obtain ⟨-, -, -, hruns, hclass, -⟩ := fundedRun_facts
        refine ⟨fundedArgs, ⟨findsSpend fundedPayment, ⟨fundedPayment, 0⟩,
          fundedCheckSig, .cooperative, fundingSpendInput fundedPaymentSig⟩, hargs, ?_, ?_⟩
        · rw [hblock]
          exact {
            found := fun _ _ => rfl
            reported := ⟨fundedPayment, search_of_classify hclass 200, rfl⟩
            valid := spentThrough_of_runs hruns _
            signed := by
              intro _ _ fee other hother
              exact hpaid.trans (hgen.outputs_unique hother) }
        · exact ⟨_, rfl, branch_classify_iff.mp (congrArg FundingSpendBranchTag.branch hclass)⟩
    | _ => trivial

/-- The maker reveals its secret against the taker payment that it signed. -/
theorem funded_secret_revealed_against_payment :
    (run (MachineRun.step (makerProgram fundedCoins)) (MachineRun.fresh fundedMaker)
        fundedRun).sent =
      [.makerPayment [3], .takerPaymentSpend [6] 1700007800 1700000003] ∧
    EveryStep (MachineRun.step (makerProgram fundedCoins))
      (RevealsAgainstPayment fundedCoins sampleCoinFields sampleScheme)
      (MachineRun.fresh fundedMaker) fundedRun := by
  obtain ⟨-, hat, -, -, -, hsent⟩ := fundedRun_facts
  refine ⟨hsent, (secret_revealed_against_payment fundedCoins sampleCoinFields
    sampleScheme fundedMaker fundedRun ?_).2⟩
  have hinputs : EveryStep (step (makerProgram fundedCoins))
      (fun _ input => input ∈ fundedRun) (fresh fundedMaker) fundedRun :=
    everyStep_of_forall fun _ _ hinput => hinput
  refine (hat.and hinputs).imp ?_
  rintro run input ⟨hat, hinput⟩ machine position answers stored hprocess rfl
  have hsame : answers = fundedAnswers fundedPayment (.ok ()) (.sent [6]) := by
    simp [fundedRun, sixActs] at hinput
    exact hinput.1
  rw [hsame]
  exact fundedAnswers_guarded hprocess hat

theorem disguised_preimage_valid :
    validateTakerPaymentSpendPreimage sampleCoinFields payToPubkeyHash sampleScheme
      disguisedArgs (.ok 1000) ⟨disguisedPreimage, List.replicate 32 0⟩ = .ok () := by
  have hfee : satFromBigDecimal (toDecimal (1 / 1000)) 8 = .ok 100000 := by
    decide +kernel
  obtain ⟨redeem, hredeem⟩ := takerPaymentScript_written sampleCoinFields.ripemd160
    disguisedArgs.timeLock.toUInt32 disguisedArgs.makerSecretHash disguisedArgs.takerPub
    disguisedArgs.makerPub
  have houts : takerPaymentSpendOutputs sampleCoinFields payToPubkeyHash
      disguisedArgs.dexFee 103000 1000 disguisedArgs.makerScriptPubkey
      disguisedArgs.dexFeeAddrRawPubkey =
        .ok (disguisedPreimage.outputs, sampleCoinFields.takerSighashType .standard) := by
    unfold takerPaymentSpendOutputs
    rw [show disguisedArgs.dexFee = .standard (1 / 1000) from rfl]
    dsimp only
    rw [show sampleCoinFields.decimals = 8 from rfl, hfee]
    rfl
  unfold validateTakerPaymentSpendPreimage
  simp only [except_bind_eq_ok, requireSome_eq_ok, refuseIf_eq_ok, unwrap_eq_ok,
    mapError_eq_ok, Option.filter_eq_some_iff, single_eq_some_iff, decide_eq_true_eq]
  refine ⟨_, rfl, 1000, rfl, _, houts, _, ⟨rfl, rfl, rfl⟩, (), ?_, (), ?_, redeem,
    hredeem.written, true, ?_, ?_⟩
  · decide
  · exact not_not.mpr rfl
  · rfl
  · decide

theorem disguisedAnswers_eq : disguisedAnswers =
    fundedAnswers disguisedRefund (.ok ()) disguisedBroadcast := by
  rw [disguisedAnswers, disguised_preimage_valid]
  rfl

def V2.MakerSent.revealing? : V2.MakerSent → Option Bytes
  | .takerPaymentSpend tx _ _ => some tx
  | .makerPayment _ | .makerPaymentRefund _ => none

/-- The taker takes the funding back, the search reports a taker payment, and the
maker reveals its secret against a thousandth of the funding. -/
theorem secret_revealed_against_refund :
    (∃ input, fundedArgs.SpentThrough sampleCoinFields.toUtxoCoin fundedCheckSig
      disguisedRefund FundingBranch.secret.choices input) ∧
    searchForTakerFundingSpend sampleCoinFields fundedTx 200
      (findsSpend disguisedRefund) =
        .ok (some (.transferredToTakerPayment disguisedRefund)) ∧
    ((run (MachineRun.step (makerProgram fundedCoins)) (MachineRun.fresh fundedMaker)
      (sixActs disguisedAnswers)).sent.filterMap V2.MakerSent.revealing?).length = 1 ∧
    fundedTx.outputs.map TransactionOutput.value = [100000000] ∧
    disguisedRefund.outputs.map TransactionOutput.value = [103000, 99896000] := by
  rw [disguisedAnswers_eq]
  exact ⟨⟨_, @spentThrough_of_runs disguisedSig _ (by decide +kernel) _⟩,
    @search_of_classify disguisedSig _ .cooperative (by decide +kernel) 200, by decide +kernel,
    rfl, rfl⟩

end KdfProtocol
