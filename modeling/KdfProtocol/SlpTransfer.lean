import KdfProtocol.FundingSpendsV2
import KdfProtocol.UtxoTxBuilder

/-!
# Transfers of SLP tokens

The amounts of a transfer are added up in words of 64 bits, which wrap.
-/

namespace KdfProtocol

open BitcoinScript ScriptReader WireCodec

structure SlpUnspent where
  bchUnspent : UnspentInfo
  slpAmount : UInt64

structure SlpOutput where
  amount : UInt64
  scriptPubkey : Script

structure SlpTxPreimage where
  slpInputs : List SlpUnspent
  availableBchInputs : List UnspentInfo
  outputs : List TransactionOutput

inductive GenSlpSpendErr where
  | rpcError (err : UtxoRpcError)
  | tooManyOutputs
  | insufficientSlpBalance (coin : String) (available required : ℚ)
  | invalidSlpUtxos (err : String)
  | internal (err : String)

structure SlpToken where
  ticker : String
  decimals : UInt8
  tokenId : FixedBytes 32
  platformDust : UInt64

structure SlpAnswers where
  unspents : Except UtxoRpcError (List SlpUnspent × List UnspentInfo)
  myAddressHash : Except String (FixedBytes 20)
  validated : List SlpUnspent → Except String Unit

/-- No push of a transfer is longer than 75 bytes. -/
def pushedData (data : Bytes) : Script := UInt8.ofNat data.length :: data

def slpSendOutput (tokenId : FixedBytes 32) (amounts : List UInt64) : TransactionOutput where
  value := 0
  scriptPubkey := OP_RETURN :: pushedData [0x53, 0x4c, 0x50, 0] ++ pushedData [1] ++
    pushedData [0x53, 0x45, 0x4e, 0x44] ++ pushedData tokenId.val ++
    amounts.flatMap fun amount => pushedData (writeU64 amount).reverse

def totalSlpOutput (slpOutputs : List SlpOutput) : UInt64 :=
  (slpOutputs.map SlpOutput.amount).sum

def chooseInputs (totalOutput : UInt64) : UInt64 → List SlpUnspent → UInt64 × List SlpUnspent
  | total, [] => (total, [])
  | total, unspent :: rest =>
    if totalOutput ≤ total then (total, [])
    else
      let (sum, inputs) := chooseInputs totalOutput (total + unspent.slpAmount) rest
      (sum, unspent :: inputs)

namespace SlpToken

variable (token : SlpToken) (slpOutputs : List SlpOutput) (answers : SlpAnswers)

def outputTo (scriptPubkey : Script) : TransactionOutput := ⟨token.platformDust, scriptPubkey⟩

def opReturnOutput (change : UInt64) : TransactionOutput :=
  slpSendOutput token.tokenId
    (slpOutputs.map SlpOutput.amount ++ if 0 < change then [change] else [])

def finishPreimage (bchUnspents : List UnspentInfo) (total : UInt64)
    (inputs : List SlpUnspent) : Except GenSlpSpendErr SlpTxPreimage :=
  let required := totalSlpOutput slpOutputs
  if total < required then
    .error (.insufficientSlpBalance token.ticker (total.toNat / 10 ^ token.decimals.toNat)
      (required.toNat / 10 ^ token.decimals.toNat))
  else do
    let change := total - required
    let slpChangeOut ← if 0 < change then
        (answers.myAddressHash.mapError .internal).map fun hash =>
          [token.outputTo (buildP2pkh (.addressHash hash))]
      else .ok []
    (answers.validated inputs).mapError .invalidSlpUtxos
    return ⟨inputs, bchUnspents, token.opReturnOutput slpOutputs change ::
      slpOutputs.map (fun output => token.outputTo output.scriptPubkey) ++ slpChangeOut⟩

def generateSlpTxPreimage : Except GenSlpSpendErr SlpTxPreimage :=
  if 18 < slpOutputs.length then .error .tooManyOutputs
  else do
    let (slpUnspents, bchUnspents) ← answers.unspents.mapError .rpcError
    let (total, inputs) := chooseInputs (totalSlpOutput slpOutputs) 0 slpUnspents
    token.finishPreimage slpOutputs answers bchUnspents total inputs

end SlpToken

/-! ## Sums of amounts -/

def tokens (unspents : List SlpUnspent) : ℕ :=
  (unspents.map fun unspent => unspent.slpAmount.toNat).sum

def requested (slpOutputs : List SlpOutput) : ℕ :=
  (slpOutputs.map fun output => output.amount.toNat).sum

/-- The words of two sums compare and differ as the sums do. -/
def WordsAgree (sum target : ℕ) : Prop :=
  if target % 2 ^ 64 ≤ sum % 2 ^ 64 then sum / 2 ^ 64 = target / 2 ^ 64 else sum < target

/-- So they do for every sum up to the first that reaches the target. -/
def SumsAgree (target : ℕ) : ℕ → List SlpUnspent → Prop
  | sum, [] => WordsAgree sum target
  | sum, unspent :: rest => WordsAgree sum target ∧
      (sum < target → SumsAgree target (sum + unspent.slpAmount.toNat) rest)

theorem toNat_totalSlpOutput (slpOutputs : List SlpOutput) :
    (totalSlpOutput slpOutputs).toNat = requested slpOutputs % 2 ^ 64 := by
  unfold totalSlpOutput requested
  induction slpOutputs with
  | nil => rfl
  | cons output rest ih => simp [UInt64.toNat_add, ih]

theorem chooseInputs_spec {target : UInt64} {required : ℕ}
    (htarget : target.toNat = required % 2 ^ 64) (unspents : List SlpUnspent) {total : UInt64}
    {sum : ℕ} (htotal : total.toNat = sum % 2 ^ 64) :
    ((chooseInputs target total unspents).1.toNat =
      (sum + tokens (chooseInputs target total unspents).2) % 2 ^ 64) ∧
    (SumsAgree required sum unspents ↔
      if target ≤ (chooseInputs target total unspents).1 then
        (sum + tokens (chooseInputs target total unspents).2) / 2 ^ 64 = required / 2 ^ 64
      else sum + tokens unspents < required) := by
  have hword : target ≤ total ↔ required % 2 ^ 64 ≤ sum % 2 ^ 64 := by
    rw [UInt64.le_iff_toNat_le, htarget, htotal]
  induction unspents generalizing total sum with
  | nil => simp [chooseInputs, tokens, SumsAgree, WordsAgree, hword, htotal]
  | cons unspent rest ih =>
    rw [chooseInputs, SumsAgree, WordsAgree]
    by_cases hreached : target ≤ total
    · have hwords := hword.mp hreached
      simp only [if_pos hreached, if_pos hwords, tokens, List.map_nil, List.sum_nil, add_zero]
      refine ⟨htotal, ?_⟩
      omega
    · have hwords := hword.not.mp hreached
      have hnext : (total + unspent.slpAmount).toNat =
          (sum + unspent.slpAmount.toNat) % 2 ^ 64 := by
        rw [UInt64.toNat_add, htotal, Nat.mod_add_mod]
      obtain ⟨hsum, hagree⟩ := ih hnext (by rw [UInt64.le_iff_toNat_le, htarget, hnext])
      simp only [if_neg hreached, if_neg hwords, hagree]
      generalize chooseInputs target (total + unspent.slpAmount) rest = chosen at hsum ⊢
      have hcons : ∀ list, tokens (unspent :: list) = unspent.slpAmount.toNat + tokens list :=
        fun list => rfl
      rw [hcons, hcons, ← add_assoc, ← add_assoc]
      refine ⟨hsum, ?_⟩
      split
      · omega
      · omega

/-! ## Conservation -/

namespace SlpToken

section

variable (token : SlpToken) (slpOutputs : List SlpOutput) (answers : SlpAnswers)

/-- The inputs hold what was asked for and what is left, which goes to this wallet. -/
def Conserves (preimage : SlpTxPreimage) : Prop :=
  ∃ (change : UInt64) (hash : FixedBytes 20), (0 < change → answers.myAddressHash = .ok hash) ∧
    preimage.outputs = token.opReturnOutput slpOutputs change ::
      slpOutputs.map (fun output => token.outputTo output.scriptPubkey) ++
        (if 0 < change then [token.outputTo (buildP2pkh (.addressHash hash))] else []) ∧
    tokens preimage.slpInputs = requested slpOutputs + change.toNat

/-- Tokens are conserved, or missing where they are said to be. -/
def Accounts (unspents : List SlpUnspent) : Except GenSlpSpendErr SlpTxPreimage → Prop
  | .ok preimage => token.Conserves slpOutputs answers preimage
  | .error (.insufficientSlpBalance _ _ _) => tokens unspents < requested slpOutputs
  | .error _ => True

def Counted (unspents inputs : List SlpUnspent) (total : UInt64) : Prop :=
  if total < totalSlpOutput slpOutputs then tokens unspents < requested slpOutputs
  else tokens inputs = requested slpOutputs + (total - totalSlpOutput slpOutputs).toNat

end

def settledAnswers (unspents : List SlpUnspent) : SlpAnswers :=
  ⟨.ok (unspents, []), .ok (.zero 20), fun _ => .ok ()⟩

variable {token : SlpToken} {slpOutputs : List SlpOutput} {answers : SlpAnswers}
  {unspents inputs : List SlpUnspent} {bchUnspents : List UnspentInfo} {total : UInt64}

theorem opReturnOutput_inj {change other : UInt64}
    (hsame : token.opReturnOutput slpOutputs change = token.opReturnOutput slpOutputs other) :
    change = other := by
  have hscripts := congrArg TransactionOutput.scriptPubkey hsame
  simp only [opReturnOutput, slpSendOutput, List.flatMap_append, ← List.append_assoc,
    List.append_cancel_left_eq] at hscripts
  have hzero : ∀ n : UInt64, ¬0 < n → n = 0 := fun n hn =>
    UInt64.le_zero_iff.mp (UInt64.not_lt.mp hn)
  split at hscripts
  · split at hscripts
    · simp only [List.flatMap_singleton, pushedData, List.cons.injEq, List.reverse_inj] at hscripts
      exact writeU64_inj hscripts.2
    · cases hscripts
  next hchange =>
    split at hscripts
    · cases hscripts
    next hother => rw [hzero _ hchange, hzero _ hother]

theorem accounts_finishPreimage (hcounted : Counted slpOutputs unspents inputs total) :
    token.Accounts slpOutputs answers unspents
      (token.finishPreimage slpOutputs answers bchUnspents total inputs) := by
  unfold Counted at hcounted
  unfold finishPreimage
  dsimp only
  split
  next hless => rwa [if_pos hless] at hcounted
  next hless =>
    rw [if_neg hless] at hcounted
    by_cases hchange : 0 < total - totalSlpOutput slpOutputs
    · rw [if_pos hchange]
      cases hhash : answers.myAddressHash with
      | error err => trivial
      | ok hash =>
        cases answers.validated inputs with
        | error err => trivial
        | ok => exact ⟨_, hash, fun _ => hhash, by rw [if_pos hchange], hcounted⟩
    · rw [if_neg hchange]
      cases answers.validated inputs with
      | error err => trivial
      | ok =>
        refine ⟨_, .zero 20, fun hpos => absurd hpos hchange, ?_, hcounted⟩
        rw [if_neg hchange]

theorem counted_of_accounts (haccounts : token.Accounts slpOutputs (settledAnswers unspents)
      unspents (token.finishPreimage slpOutputs (settledAnswers unspents) [] total inputs)) :
    Counted slpOutputs unspents inputs total := by
  unfold Counted
  split
  next hless => rwa [finishPreimage, if_pos hless] at haccounts
  next hless =>
    obtain ⟨outputs, hok⟩ : ∃ outputs, token.finishPreimage slpOutputs (settledAnswers unspents) []
        total inputs = .ok ⟨inputs, [], token.opReturnOutput slpOutputs
          (total - totalSlpOutput slpOutputs) :: outputs⟩ := by
      rw [finishPreimage, if_neg hless]
      dsimp only
      split
      · exact ⟨_, rfl⟩
      · exact ⟨_, rfl⟩
    rw [hok] at haccounts
    obtain ⟨change, hash, -, houtputs, htokens⟩ := haccounts
    rwa [← opReturnOutput_inj (List.cons.inj houtputs).1] at htokens

end SlpToken

/-- If every sum fits, a transfer is accounted for, whatever else the wallet is answered.  The
words of the sums decide otherwise. -/
theorem slp_conserved_iff (token : SlpToken) (slpOutputs : List SlpOutput)
    (unspents : List SlpUnspent) (hcount : slpOutputs.length ≤ 18) :
    (∀ answers bchUnspents, answers.unspents = .ok (unspents, bchUnspents) →
      token.Accounts slpOutputs answers unspents
        (token.generateSlpTxPreimage slpOutputs answers)) ↔
      SumsAgree (requested slpOutputs) 0 unspents := by
  have hrequired := toNat_totalSlpOutput slpOutputs
  obtain ⟨hsum, hagree⟩ := @chooseInputs_spec _ _ hrequired unspents 0 0 rfl
  cases hchosen : chooseInputs (totalSlpOutput slpOutputs) 0 unspents with
  | mk total inputs =>
    rw [hchosen] at hsum hagree
    have hgen : ∀ answers bch, answers.unspents = .ok (unspents, bch) →
        token.generateSlpTxPreimage slpOutputs answers =
          token.finishPreimage slpOutputs answers bch total inputs := by
      intro answers bch hunspents
      rw [SlpToken.generateSlpTxPreimage, if_neg hcount.not_gt, hunspents]
      simp only [Except.mapError, bind, Except.bind, hchosen]
    have hcounted : SumsAgree (requested slpOutputs) 0 unspents ↔
        SlpToken.Counted slpOutputs unspents inputs total := by
      rw [hagree, SlpToken.Counted]
      simp only [zero_add] at hsum ⊢
      by_cases hpaid : totalSlpOutput slpOutputs ≤ total
      · have hchange := UInt64.toNat_sub_of_le _ _ hpaid
        rw [if_pos hpaid, if_neg (UInt64.not_lt.mpr hpaid), hchange]
        rw [UInt64.le_iff_toNat_le] at hpaid
        omega
      · rw [if_neg hpaid, if_pos (UInt64.not_le.mp hpaid)]
    rw [hcounted]
    constructor
    · intro hall
      have hresult := hall (SlpToken.settledAnswers unspents) [] rfl
      rw [hgen _ [] rfl] at hresult
      exact SlpToken.counted_of_accounts hresult
    · intro hpaid answers bch hunspents
      rw [hgen answers bch hunspents]
      exact SlpToken.accounts_finishPreimage hpaid

def sampleSlpToken : SlpToken := ⟨"FUSD", 4, .zero 32, 1000⟩

def sampleSlpUnspents (amount : UInt64) : List SlpUnspent :=
  [⟨sampleUnspent 0 1000, amount⟩, ⟨sampleUnspent 1 1000, amount⟩]

theorem sample_slp_conserved :
    sampleSlpToken.Accounts [⟨150, []⟩] (SlpToken.settledAnswers (sampleSlpUnspents 100))
      (sampleSlpUnspents 100) (sampleSlpToken.generateSlpTxPreimage [⟨150, []⟩]
        (SlpToken.settledAnswers (sampleSlpUnspents 100))) :=
  (slp_conserved_iff sampleSlpToken [⟨150, []⟩] (sampleSlpUnspents 100) (by decide)).mpr
    (by simp [SumsAgree, WordsAgree, sampleSlpUnspents, requested]) _ _ rfl

/-- The sum of what the wallet holds wraps to nothing. -/
theorem slp_balance_wraps :
    (∃ available required, sampleSlpToken.generateSlpTxPreimage [⟨18446744073709551615, []⟩]
        (SlpToken.settledAnswers (sampleSlpUnspents 9223372036854775808)) =
      .error (.insufficientSlpBalance "FUSD" available required)) ∧
      ¬tokens (sampleSlpUnspents 9223372036854775808) < requested [⟨18446744073709551615, []⟩] :=
  ⟨⟨_, _, rfl⟩, by decide⟩

end KdfProtocol
