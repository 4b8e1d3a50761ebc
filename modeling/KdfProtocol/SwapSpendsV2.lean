import KdfProtocol.SwapScriptsV2

/-!
# Running the redeem scripts of a V2 swap

The redeem scripts are read back as lists of instructions and run on what the
inputs push.
-/

namespace KdfProtocol

namespace V2

open BitcoinScript

/-! ## The redeem scripts as instructions -/

section Bodies

variable (locktime : UInt32)

def timelockBranch (pub : Public) : List Instruction :=
  [.push (writeLe 4 locktime.toNat), .op .opChecklocktimeverify, .op .opDrop,
    .push pub.bytes, .op .opChecksig]

def secretCheck (hash : Bytes) : List Instruction :=
  [.op .opSize, .push [32], .op .opEqualverify, .op .opHash160, .push hash, .op .opEqualverify]

def bothSignatures (takerPub makerPub : Public) : List Instruction :=
  [.push takerPub.bytes, .op .opChecksigverify, .push makerPub.bytes, .op .opChecksig]

def oneSignature (pub : Public) : List Instruction :=
  [.push pub.bytes, .op .opChecksig]

def takerFundingBody (hash : Bytes) (takerPub makerPub : Public) : List Instruction :=
  ifElse (timelockBranch locktime takerPub)
    (ifElse (bothSignatures takerPub makerPub) (secretCheck hash ++ oneSignature takerPub))

def takerPaymentBody (hash : Bytes) (takerPub makerPub : Public) : List Instruction :=
  ifElse (timelockBranch locktime takerPub) (secretCheck hash ++ bothSignatures takerPub makerPub)

def makerPaymentBody (makerHash takerHash : Bytes)
    (makerPub takerPub : Public) : List Instruction :=
  ifElse (timelockBranch locktime makerPub)
    (ifElse (secretCheck makerHash ++ oneSignature takerPub)
      (secretCheck takerHash ++ oneSignature makerPub))

end Bodies

structure Written (script : Option Script) (redeem : Script) (body : List Instruction) : Prop where
  written : script = some redeem
  reads : Reads redeem body
  length_le : redeem.length ≤ 520
  limits : withinLimits redeem body = true

/-! ### Writing instructions one after the other -/

def Builder.pushInstruction (builder : Builder) : Instruction → Builder
  | .push bytes => builder.pushBytes bytes
  | .op opcode => builder.pushOpcode opcode
  | .other _ => builder

open Builder

def writable : Instruction → Prop
  | .push bytes => 1 ≤ bytes.length ∧ bytes.length ≤ 75
  | .op opcode => opcode ≠ .op0
  | .other _ => False

def writtenLength : Instruction → ℕ
  | .push bytes => bytes.length + 1
  | _ => 1

theorem Builder.Builds.pushInstructions {builder : Builder} {instructions : List Instruction}
    {bound : ℕ} (hbuilds : builder.Builds instructions bound) {body : List Instruction}
    (hwritable : ∀ instruction ∈ body, writable instruction) :
    (body.foldl pushInstruction builder).Builds (instructions ++ body)
      (bound + (body.map writtenLength).sum) := by
  induction body generalizing builder instructions bound with
  | nil => simpa using hbuilds
  | cons instruction rest ih =>
    rw [List.forall_mem_cons] at hwritable
    have hstep : (builder.pushInstruction instruction).Builds (instructions ++ [instruction])
        (bound + writtenLength instruction) := by
      cases instruction with
      | push bytes => exact hbuilds.pushBytes hwritable.1
      | op opcode =>
        have hop : opcode.instruction = .op opcode := by
          cases opcode <;> first | rfl | exact absurd rfl hwritable.1
        have hpush := hbuilds.pushOpcode opcode
        rw [hop] at hpush
        exact hpush
      | other code => exact hwritable.1.elim
    simpa [Nat.add_assoc] using ih hstep hwritable.2

theorem written_of_body {script : Option Script} {body : List Instruction}
    (hscript : script = (body.foldl pushInstruction .empty).intoScript)
    (hbody : (∀ instruction ∈ body, writable instruction) ∧
      (body.map writtenLength).sum ≤ 520 ∧ body.length ≤ 201) :
    ∃ redeem, Written script redeem body := by
  obtain ⟨hwritable, hbound, hcount⟩ := hbody
  obtain ⟨redeem, hdata, hreads, hlen⟩ := builds_empty.pushInstructions hwritable
  rw [Nat.zero_add] at hlen
  have hops : (body.countP fun instruction => !instruction.isPush) ≤ 201 :=
    List.countP_le_length.trans hcount
  have hsmall : body.all Instruction.small = true := by
    rw [List.all_eq_true]
    intro instruction hmem
    have hnow := hwritable instruction hmem
    cases instruction with
    | push bytes => exact decide_eq_true (hnow.2.trans (by norm_num))
    | op | other => rfl
  have hscriptLen : redeem.length ≤ 10000 := by omega
  refine ⟨redeem, hscript.trans hdata, hreads, hlen.trans hbound, ?_⟩
  simp only [withinLimits, decide_eq_true_eq]
  exact ⟨hscriptLen, hsmall, hops⟩

section Redeem

variable (ripemd160 : Ripemd160) (locktime : UInt32)

theorem takerFundingScript_written (hash : Bytes) (takerPub makerPub : Public) :
    ∃ redeem, Written (takerFundingScript ripemd160 locktime hash takerPub makerPub) redeem
      (takerFundingBody locktime (h160Of ripemd160 hash) takerPub makerPub) := by
  have htaker := takerPub.pushable
  have hmaker := makerPub.pushable
  have hhash : (h160Of ripemd160 hash).length = 20 := ripemd160.length_hash hash
  refine written_of_body rfl ?_
  simp [takerFundingBody, ifElse, timelockBranch, bothSignatures, secretCheck, oneSignature,
    writable, writtenLength, hhash, length_writeLe]
  omega

theorem takerPaymentScript_written (hash : Bytes) (takerPub makerPub : Public) :
    ∃ redeem, Written (takerPaymentScript ripemd160 locktime hash takerPub makerPub) redeem
      (takerPaymentBody locktime (h160Of ripemd160 hash) takerPub makerPub) := by
  have htaker := takerPub.pushable
  have hmaker := makerPub.pushable
  have hhash : (h160Of ripemd160 hash).length = 20 := ripemd160.length_hash hash
  refine written_of_body rfl ?_
  simp [takerPaymentBody, ifElse, timelockBranch, bothSignatures, secretCheck, writable,
    writtenLength, hhash, length_writeLe]
  omega

theorem makerPaymentScript_written (makerHash takerHash : Bytes) (makerPub takerPub : Public) :
    ∃ redeem, Written
      (makerPaymentScript ripemd160 locktime makerHash takerHash makerPub takerPub) redeem
      (makerPaymentBody locktime (h160Of ripemd160 makerHash)
        (h160Of ripemd160 takerHash) makerPub takerPub) := by
  have htaker := takerPub.pushable
  have hmaker := makerPub.pushable
  have hhash : ∀ hash, (h160Of ripemd160 hash).length = 20 := ripemd160.length_hash
  refine written_of_body rfl ?_
  simp [makerPaymentBody, ifElse, timelockBranch, secretCheck, oneSignature, writable,
    writtenLength, hhash, length_writeLe]
  omega

end Redeem

/-! ## Running the branches -/

section Branches

variable {ctx : Context} {stack : List Bytes} {conditions choices : List Bool}

variable {pub takerPub makerPub : Public} {sig hash : Bytes}

theorem skips_timelockBranch {locktime : UInt32} : Skips (timelockBranch locktime pub) :=
  skips_of_plain rfl

theorem skips_bothSignatures : Skips (bothSignatures takerPub makerPub) :=
  skips_of_plain rfl

theorem skips_secretBranch : Skips (secretCheck hash ++ oneSignature pub) :=
  skips_of_plain rfl

variable (hexec : conditions.all id = true)

include hexec

theorem runs_timelockBranch {locktime : UInt32} (hlen : stack.length ≤ 900)
    (hlock : (decodeNum (writeLe 4 locktime.toNat)).any ctx.checkLockTime = true)
    (hsig : ctx.checkSig sig pub.bytes = true) :
    Runs ctx ⟨sig :: stack, conditions, choices⟩ (timelockBranch locktime pub)
      ⟨[1] :: stack, conditions, choices⟩ := by
  refine .push hexec (by simp; omega) ?_
  refine .op hexec rfl (if_pos hlock) (by simp; omega) ?_
  refine .op hexec rfl rfl (by simp; omega) ?_
  refine .push hexec (by simp; omega) ?_
  refine .op hexec rfl rfl (by simp; omega) ?_
  rw [hsig]
  exact .nil

theorem runs_oneSignature (hlen : stack.length ≤ 900) (hsig : ctx.checkSig sig pub.bytes = true) :
    Runs ctx ⟨sig :: stack, conditions, choices⟩ (oneSignature pub)
      ⟨[1] :: stack, conditions, choices⟩ := by
  refine .push hexec (by simp; omega) ?_
  refine .op hexec rfl rfl (by simp; omega) ?_
  rw [hsig]
  exact .nil

theorem runs_bothSignatures {takerSig makerSig : Bytes}
    (hlen : stack.length ≤ 900) (htaker : ctx.checkSig takerSig takerPub.bytes = true)
    (hmaker : ctx.checkSig makerSig makerPub.bytes = true) :
    Runs ctx ⟨takerSig :: makerSig :: stack, conditions, choices⟩ (bothSignatures takerPub makerPub)
      ⟨[1] :: stack, conditions, choices⟩ := by
  refine .push hexec (by simp; omega) ?_
  refine .op hexec rfl (if_pos htaker) (by simp; omega) ?_
  exact runs_oneSignature hexec hlen hmaker

end Branches

/-! ## What the branches have used -/

theorem eq_of_encodeNat {n : ℕ} (hsize : encodeNat n = [32]) : n = 32 := by
  have hdigits : (Nat.digits 256 n).map UInt8.ofNat = [32] := by
    unfold encodeNat at hsize
    dsimp only at hsize
    split at hsize
    · -- A byte was added, so the string ends with zero.
      have hlast := congrArg List.getLast? hsize
      rw [List.getLast?_concat] at hlast
      cases hlast
    · exact hsize
  obtain ⟨digit, rest, hcons, hdigit, hrest⟩ := List.map_eq_cons_iff.mp hdigits
  have hnil : rest = [] := List.map_eq_nil_iff.mp hrest
  have hlt : digit < 256 := by
    refine Nat.digits_lt_base (by norm_num) (m := n) ?_
    rw [hcons]
    exact List.mem_cons_self
  have hvalue : digit = 32 := by
    have htoNat := congrArg UInt8.toNat hdigit
    rw [UInt8.toNat_ofNat', Nat.mod_eq_of_lt (by omega)] at htoNat
    exact htoNat
  rw [← Nat.ofDigits_digits 256 n, hcons, hnil, hvalue]
  rfl

section Used

variable {ctx : Context} {stack : List Bytes} {conditions choices : List Bool} {final : EvalState}

variable {pub : Public}

theorem eq_true_of_castToBool {valid : Bool}
    (htrue : castToBool (ofBool valid) = true) : valid = true := by
  cases valid with
  | false => cases htrue
  | true => rfl

variable (hexec : conditions.all id = true)

include hexec

theorem used_oneSignature (hruns : Runs ctx ⟨stack, conditions, choices⟩ (oneSignature pub) final) :
    ∃ sig rest, stack = sig :: rest ∧
      final = ⟨ofBool (ctx.checkSig sig pub.bytes) :: rest, conditions, choices⟩ := by
  obtain ⟨checked, hcheck, hnil⟩ := (hruns.of_push hexec).of_op hexec rfl
  cases hnil
  cases stack with
  | nil => cases hcheck
  | cons sig rest =>
    cases hcheck
    exact ⟨sig, rest, rfl, rfl⟩

theorem used_bothSignatures {takerPub makerPub : Public}
    (hruns : Runs ctx ⟨stack, conditions, choices⟩ (bothSignatures takerPub makerPub) final) :
    ∃ takerSig makerSig rest, stack = takerSig :: makerSig :: rest ∧
      ctx.checkSig takerSig takerPub.bytes = true ∧
      final = ⟨ofBool (ctx.checkSig makerSig makerPub.bytes) :: rest, conditions, choices⟩ := by
  obtain ⟨verified, hverify, hrest⟩ := (hruns.of_push hexec).of_op hexec rfl
  obtain ⟨makerSig, rest, hverified, hfinal⟩ := used_oneSignature hexec hrest
  cases stack with
  | nil => cases hverify
  | cons takerSig below =>
    obtain ⟨htaker, hbelow⟩ := Option.ite_none_right_eq_some.mp hverify
    cases hbelow
    rw [hverified]
    exact ⟨takerSig, makerSig, rest, rfl, htaker, hfinal⟩

theorem fails_bothSignatures {takerPub makerPub : Public} {sig : Bytes} :
    Fails ctx ⟨[sig], conditions, choices⟩ (bothSignatures takerPub makerPub) := by
  refine fails_of_not_runs fun final hruns => ?_
  obtain ⟨_, _, _, hstack, -⟩ := used_bothSignatures hexec hruns
  cases hstack

theorem used_timelockBranch {locktime : UInt32}
    (hruns : Runs ctx ⟨stack, conditions, choices⟩ (timelockBranch locktime pub) final) :
    ∃ sig rest, stack = sig :: rest ∧
      (decodeNum (writeLe 4 locktime.toNat)).any ctx.checkLockTime = true ∧
      final = ⟨ofBool (ctx.checkSig sig pub.bytes) :: rest, conditions, choices⟩ := by
  obtain ⟨locked, hlocked, hrest⟩ := (hruns.of_push hexec).of_op hexec rfl
  obtain ⟨hreach, hsame⟩ := Option.ite_none_right_eq_some.mp hlocked
  cases hsame
  obtain ⟨dropped, hdrop, hrest⟩ := hrest.of_op hexec rfl
  cases hdrop
  obtain ⟨sig, below, hstack, hfinal⟩ := used_oneSignature hexec hrest
  exact ⟨sig, below, hstack, hreach, hfinal⟩

theorem used_secretCheck {hash : Bytes}
    (hruns : Runs ctx ⟨stack, conditions, choices⟩ (secretCheck hash) final) :
    ∃ secret rest, stack = secret :: rest ∧ secret.length = 32 ∧
      ctx.hash160 secret = hash ∧ final = ⟨rest, conditions, choices⟩ := by
  obtain ⟨sized, hsize, hrest⟩ := hruns.of_op hexec rfl
  obtain ⟨checked, hcheck, hrest⟩ := (hrest.of_push hexec).of_op hexec rfl
  obtain ⟨hashed, hhash, hrest⟩ := hrest.of_op hexec rfl
  obtain ⟨verified, hverify, hnil⟩ := (hrest.of_push hexec).of_op hexec rfl
  cases hnil
  cases stack with
  | nil => cases hsize
  | cons secret rest =>
    cases hsize
    obtain ⟨hlen, hrest⟩ := Option.ite_none_right_eq_some.mp hcheck
    cases hrest
    cases hhash
    obtain ⟨hlock, hrest⟩ := Option.ite_none_right_eq_some.mp hverify
    cases hrest
    exact ⟨secret, _, rfl, eq_of_encodeNat hlen.symm, hlock.symm, rfl⟩

theorem runsIf_secretCheck {hash secret : Bytes} (hlen : stack.length ≤ 901)
    (hsec : secret.length = 32) :
    RunsIf ctx (ctx.hash160 secret = hash) ⟨secret :: stack, conditions, choices⟩
      (secretCheck hash) ⟨stack, conditions, choices⟩ := by
  rw [RunsIf]
  split
  next hhash =>
    have hsize : encodeNat secret.length = [32] := by
      rw [hsec]
      decide +kernel
    refine Runs.op hexec rfl rfl (by simp; omega) ?_
    refine .push hexec (by simp; omega) ?_
    refine .op hexec rfl (if_pos hsize.symm) (by simp; omega) ?_
    refine .op hexec rfl rfl (by simp; omega) ?_
    refine .push hexec (by simp; omega) ?_
    refine .op hexec rfl (if_pos hhash.symm) (by omega) ?_
    exact .nil
  next hhash =>
    refine fails_of_not_runs fun final hruns => ?_
    obtain ⟨_, _, hstack, -, hused, -⟩ := used_secretCheck hexec hruns
    cases hstack
    exact hhash hused

theorem runsIf_secretBranch {hash secret sig : Bytes} (hlen : stack.length ≤ 900)
    (hsec : secret.length = 32) (hsig : ctx.checkSig sig pub.bytes = true) :
    RunsIf ctx (ctx.hash160 secret = hash) ⟨secret :: sig :: stack, conditions, choices⟩
      (secretCheck hash ++ oneSignature pub) ⟨[1] :: stack, conditions, choices⟩ :=
  .append (runsIf_secretCheck hexec (Nat.succ_le_succ hlen) hsec)
    (runs_oneSignature hexec hlen hsig)

theorem used_secretBranch {hash : Bytes}
    (hruns : Runs ctx ⟨stack, conditions, choices⟩ (secretCheck hash ++ oneSignature pub) final) :
    ∃ secret sig rest, stack = secret :: sig :: rest ∧ secret.length = 32 ∧
      ctx.hash160 secret = hash ∧
      final = ⟨ofBool (ctx.checkSig sig pub.bytes) :: rest, conditions, choices⟩ := by
  obtain ⟨between, hcheck, hrest⟩ := hruns.of_append
  obtain ⟨secret, below, rfl, hlen, hhash, rfl⟩ := used_secretCheck hexec hcheck
  obtain ⟨sig, rest, rfl, hfinal⟩ := used_oneSignature hexec hrest
  exact ⟨secret, sig, rest, rfl, hlen, hhash, hfinal⟩

end Used

theorem takerFunding_cooperative {ctx : Context} {locktime : UInt32} {takerPub makerPub : Public}
    {hash makerSig takerSig : Bytes} (htaker : ctx.checkSig takerSig takerPub.bytes = true)
    (hmaker : ctx.checkSig makerSig makerPub.bytes = true) :
    runScript ctx (takerFundingBody locktime hash takerPub makerPub)
      [[], [1], takerSig, makerSig] = some [false, true] :=
  RunsIf.runScript_eq (p := True) (.ifElse rfl rfl (by simp) skips_timelockBranch
    (skips_bothSignatures.ifElse skips_secretBranch)
    (.ifElse rfl rfl (by simp) skips_bothSignatures skips_secretBranch
      (runs_bothSignatures rfl (by simp) htaker hmaker).runsIf (by simp)) (by simp))

/-! ## The input scripts -/

namespace UtxoCoin

variable {coin : UtxoCoin} {checkSig : Bytes → Bytes → Bool} {script : Option Script}
  {redeem : Script} {body pushes : List Instruction} {builder : Builder} {bound : ℕ}

theorem length_signature_le (signature : Signature) (flags : UInt8) :
    (signature.bytes ++ [flags]).length ≤ 73 := by
  have hsig := signature.length_le
  rw [List.length_append, List.length_singleton]
  omega

theorem small_signature (signature : Signature) (flags : UInt8) :
    Instruction.small (.push (signature.bytes ++ [flags])) = true :=
  decide_eq_true ((length_signature_le signature flags).trans (by norm_num))

theorem checkLockTime_iff {timeLock lockTime : UInt32}
    (hlower : lockTimeThreshold ≤ timeLock.toNat) (hupper : timeLock.toNat < 2 ^ 31) :
    (decodeNum (writeLe 4 timeLock.toNat)).any
        (coin.context checkSig (SEQUENCE_FINAL - 1) lockTime).checkLockTime = true ↔
      timeLock ≤ lockTime := by
  have hthr : lockTimeThreshold = 500000000 := rfl
  rw [decodeNum_writeLe (by norm_num) (by omega), Option.any_some, Context.checkLockTime,
    decide_eq_true_iff, UInt32.le_iff_toNat_le]
  simp only [context]
  constructor
  · rintro ⟨-, -, hlocked, -⟩
    omega
  · intro hlocked
    refine ⟨by omega, Or.inr ⟨by omega, by omega⟩, by omega, ?_⟩
    decide

theorem checkLockTime_refund {timeLock : UInt32} (hlower : lockTimeThreshold ≤ timeLock.toNat)
    (hupper : timeLock.toNat < 2 ^ 31) :
    (decodeNum (writeLe 4 timeLock.toNat)).any
      (coin.context checkSig (SEQUENCE_FINAL - 1)
        (coin.p2shTxLocktime timeLock)).checkLockTime = true := by
  rw [checkLockTime_iff hlower hupper]
  change _ ≤ (if coin.chainTime ≤ timeLock then timeLock else coin.chainTime)
  split
  · exact UInt32.le_refl _
  · next hlater => exact UInt32.le_of_lt (UInt32.not_le.mp hlater)

variable (hwrote : Written script redeem body)

include hwrote

theorem verifyP2sh_of_builds {scriptSig : Script}
    (hreads : Reads scriptSig (pushes ++ [.push redeem])) (hlen : scriptSig.length ≤ 10000)
    (hpush : pushes.all Instruction.isPush = true) (hsmall : pushes.all Instruction.small = true)
    (hcount : pushes.length < 1000) (sequence lockTime : UInt32) :
    verifyP2sh (coin.context checkSig sequence lockTime) scriptSig (coin.dhash160 redeem) =
      runScript (coin.context checkSig sequence lockTime) body
        (pushes.map Instruction.pushed).reverse :=
  verifyP2sh_eq hreads hpush hsmall hcount hlen hwrote.reads hwrote.length_le hwrote.limits

theorem verify_p2shSpend (coin : UtxoCoin) (hbuilds : builder.Builds pushes bound)
    (hbound : bound ≤ 1000) (hpush : pushes.all Instruction.isPush = true)
    (hsmall : pushes.all Instruction.small = true) (hcount : pushes.length < 999)
    (signature : Signature) :
    ∃ scriptData scriptSig, builder.intoScript = some scriptData ∧
      coin.p2shSpendWithSignature redeem scriptData signature = some scriptSig ∧
      Reads scriptSig (.push (coin.scriptSig signature) :: pushes ++ [.push redeem]) ∧
      ∀ checkSig sequence lockTime,
        verifyP2sh (coin.context checkSig sequence lockTime) scriptSig (coin.dhash160 redeem) =
          runScript (coin.context checkSig sequence lockTime) body
            ((pushes.map Instruction.pushed).reverse ++ [coin.scriptSig signature]) := by
  have hsig : (coin.scriptSig signature).length ≤ 73 := length_signature_le signature _
  obtain ⟨scriptData, hdata, hreads, hlen⟩ := hbuilds
  obtain ⟨first, hfirst, hfirstReads, hfirstLength⟩ :=
    builds_empty.pushData (hsig.trans (by omega))
  obtain ⟨last, hlast, hlastReads, hlastLength⟩ := builds_empty.pushData hwrote.length_le
  have hredeem := hwrote.length_le
  have hall : Reads (first ++ scriptData ++ last)
      (.push (coin.scriptSig signature) :: pushes ++ [.push redeem]) := by
    simpa using (hfirstReads.append hreads).append hlastReads
  refine ⟨scriptData, first ++ scriptData ++ last, hdata, ?_, hall, ?_⟩
  · simp [p2shSpendWithSignature, intoScript, hfirst, hlast]
  · intro checkSig sequence lockTime
    rw [verifyP2sh_of_builds hwrote hall]
    · simp [Instruction.pushed]
    · simp only [List.length_append]
      omega
    · simpa [Instruction.isPush] using hpush
    · simp only [List.all_cons, Instruction.small, hsmall, Bool.and_true, decide_eq_true_eq]
      omega
    · rw [List.length_cons]
      omega

theorem opens_p2shSpend (hbuilds : builder.Builds pushes bound) (hbound : bound ≤ 1000)
    (hpush : pushes.all Instruction.isPush = true)
    (hsmall : pushes.all Instruction.small = true) (hcount : pushes.length < 999)
    (sequence lockTime : UInt32) (signature : Signature) : coin.opens checkSig script (do
        let redeem ← script
        let scriptData ← builder.intoScript
        coin.buildAndBroadcastMakerV2Spend redeem scriptData sequence lockTime signature) =
      runScript (coin.context checkSig sequence (coin.p2shTxLocktime lockTime))
        body ((pushes.map Instruction.pushed).reverse ++ [coin.scriptSig signature]) := by
  obtain ⟨scriptData, scriptSig, hdata, hscriptSig, -, hverify⟩ :=
    coin.verify_p2shSpend hwrote hbuilds hbound hpush hsmall hcount signature
  rw [opens, hwrote.written]
  simp only [buildAndBroadcastMakerV2Spend, Option.bind_eq_bind, Option.bind_some, hdata,
    hscriptSig, Option.pure_def]
  exact hverify checkSig sequence _

theorem opens_fundingSpend (makerSig takerSig : Signature) : coin.opens checkSig script (do
        let redeem ← script
        let scriptSig ← coin.buildFundingSpendCooperativeScriptSig makerSig takerSig redeem
        pure { scriptSig, sequence := SEQUENCE_FINAL, lockTime := 0 }) =
      runScript (coin.context checkSig SEQUENCE_FINAL 0) body
        [[], [1], takerSig.bytes ++ [coin.makerSighashType.toUInt8],
          makerSig.bytes ++ [coin.makerSighashType.toUInt8]] := by
  have hredeem := hwrote.length_le
  have hmaker := length_signature_le makerSig coin.makerSighashType.toUInt8
  have htaker := length_signature_le takerSig coin.makerSighashType.toUInt8
  obtain ⟨scriptSig, hdata, hreads, hlen⟩ := builds_empty
    |>.pushData (hmaker.trans (by norm_num))
    |>.pushData (htaker.trans (by norm_num))
    |>.pushOpcode .op1
    |>.pushOpcode .op0
    |>.pushData hredeem
  have hscript : coin.buildFundingSpendCooperativeScriptSig makerSig takerSig redeem =
      some scriptSig := hdata
  rw [opens, hwrote.written]
  simp only [Option.bind_eq_bind, Option.bind_some, hscript, Option.pure_def]
  refine verifyP2sh_of_builds hwrote hreads (by omega) rfl ?_ (by simp) SEQUENCE_FINAL 0
  simp only [List.all_append, List.all_cons, List.all_nil, small_signature]
  rfl

omit hwrote in
theorem verifyP2sh_paymentSpend (coin : UtxoCoin) (makerFlags takerFlags : UInt8)
    {timeLock : UInt32} {secret hash : Bytes} {takerPub makerPub : Public}
    {makerSig takerSig : Signature}
    (hwrote : Written script redeem (takerPaymentBody timeLock hash takerPub makerPub))
    (hsec : secret.length = 32)
    (hmaker : checkSig (makerSig.bytes ++ [makerFlags]) makerPub.bytes = true)
    (htaker : checkSig (takerSig.bytes ++ [takerFlags]) takerPub.bytes = true) :
    ∃ scriptSig, buildTakerPaymentSpendCooperativeScriptSig makerSig takerSig secret
        makerFlags takerFlags redeem = some scriptSig ∧
      ∀ sequence lockTime, verifyP2sh (coin.context checkSig sequence lockTime) scriptSig
        (coin.dhash160 redeem) = if coin.dhash160 secret = hash then some [false] else none := by
  have hredeem := hwrote.length_le
  have hmakerLength := length_signature_le makerSig makerFlags
  have htakerLength := length_signature_le takerSig takerFlags
  obtain ⟨scriptSig, hscript, hreads, hlen⟩ := builds_empty
    |>.pushData (hmakerLength.trans (by norm_num))
    |>.pushData (htakerLength.trans (by norm_num))
    |>.pushData (hsec.le.trans (by norm_num))
    |>.pushOpcode .op0
    |>.pushData hredeem
  refine ⟨scriptSig, hscript, fun sequence lockTime => ?_⟩
  rw [verifyP2sh_of_builds hwrote hreads (by omega) rfl ?_ (by simp)]
  · exact RunsIf.runScript_eq (.ifElse rfl rfl (by simp) skips_timelockBranch (skips_of_plain rfl)
      ((runsIf_secretCheck rfl (by simp) hsec).append
        (runs_bothSignatures rfl (by simp) htaker hmaker)) (by simp))
  · simp only [List.all_append, List.all_cons, List.all_nil, small_signature]
    rw [Instruction.small, hsec]
    rfl

theorem opens_timelockSpend (timeLock : UInt32) (signature : Signature) :
    coin.opens checkSig script (do
        let redeem ← script
        let scriptData ← (empty.pushOpcode .op1).intoScript
        coin.buildAndBroadcastMakerV2Spend redeem scriptData (SEQUENCE_FINAL - 1)
          timeLock signature) =
      runScript (coin.context checkSig (SEQUENCE_FINAL - 1) (coin.p2shTxLocktime timeLock))
        body [[1], coin.scriptSig signature] :=
  opens_p2shSpend hwrote (builds_empty.pushOpcode .op1) (by norm_num)
    rfl rfl (by simp) _ _ _

theorem opens_secretSpend
    {secret : Bytes} (hsec : secret.length = 32) (inner : Bool) (signature : Signature) :
    coin.opens checkSig script (do
        let redeem ← script
        let scriptData ← ((empty.pushData secret).pushOpcode
          (if inner then .op1 else .op0) |>.pushOpcode .op0).intoScript
        coin.buildAndBroadcastMakerV2Spend redeem scriptData SEQUENCE_FINAL 0 signature) =
      runScript (coin.context checkSig SEQUENCE_FINAL (coin.p2shTxLocktime 0))
        body [[], if inner then [1] else [], secret, coin.scriptSig signature] := by
  have hbuilds := builds_empty.pushData (hsec.le.trans (by norm_num : 32 ≤ 520))
  cases inner with
  | false =>
    refine opens_p2shSpend hwrote ((hbuilds.pushOpcode .op0).pushOpcode .op0)
      (by omega) rfl ?_ (by simp) _ _ _
    simp [Instruction.small, hsec, Opcode.instruction]
  | true =>
    refine opens_p2shSpend hwrote ((hbuilds.pushOpcode .op1).pushOpcode .op0)
      (by omega) rfl ?_ (by simp) _ _ _
    simp [Instruction.small, hsec, Opcode.instruction]

end UtxoCoin

end V2

end KdfProtocol
