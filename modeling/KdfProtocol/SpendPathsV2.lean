import KdfProtocol.SwapSpendsV2

/-!
# Which spends of a V2 swap open their scripts

Every function that spends an output, on the terms of one swap: the input it makes
is run against the redeem script that the output was made with.
-/

namespace KdfProtocol

namespace V2

open BitcoinScript

/-! ## Outputs and spends -/

structure SwapOutputs where
  coin : UtxoCoin
  secretHashAlgo : SecretHashAlgo
  makerPub : Public
  takerPub : Public
  makerSecret : Bytes
  takerSecret : Bytes
  timeLock : UInt64
  length_makerSecret : makerSecret.length = 32
  length_takerSecret : takerSecret.length = 32
  timeLock_lower : 500000000 ≤ timeLock.toNat
  timeLock_upper : timeLock.toNat < 2 ^ 31

/-- The functions that spend an output. The own key of the spender of the funding is
the maker's or the taker's. -/
inductive SpendPath where
  | refundTakerFundingTimelock
  | refundTakerFundingSecret
  | signAndSendTakerFundingSpend (byMaker : Bool)
  | refundCombinedTakerPayment
  | signAndBroadcastTakerPaymentSpend (dexFee : UtxoCoin.DexFee)
  | refundMakerPaymentV2Timelock
  | refundMakerPaymentV2Secret
  | spendMakerPaymentV2

open SpendPath

namespace SwapOutputs

variable (swap : SwapOutputs)

def makerSecretHash : Bytes :=
  swap.secretHashAlgo.hashSecret swap.coin.ripemd160 swap.makerSecret

def takerSecretHash : Bytes :=
  swap.secretHashAlgo.hashSecret swap.coin.ripemd160 swap.takerSecret

def takerFunding : Option Script :=
  takerFundingScript swap.coin.ripemd160 swap.timeLock.toUInt32
    swap.takerSecretHash swap.takerPub swap.makerPub

def takerPayment : Option Script :=
  takerPaymentScript swap.coin.ripemd160 swap.timeLock.toUInt32
    swap.makerSecretHash swap.takerPub swap.makerPub

def makerPayment : Option Script :=
  makerPaymentScript swap.coin.ripemd160 swap.timeLock.toUInt32
    swap.makerSecretHash swap.takerSecretHash swap.makerPub swap.takerPub

def redeem : SpendPath → Option Script
  | .refundTakerFundingTimelock | .refundTakerFundingSecret | .signAndSendTakerFundingSpend _ =>
    swap.takerFunding
  | .refundCombinedTakerPayment | .signAndBroadcastTakerPaymentSpend _ => swap.takerPayment
  | .refundMakerPaymentV2Timelock | .refundMakerPaymentV2Secret | .spendMakerPaymentV2 =>
    swap.makerPayment

/-- The input that the owner of the path makes, given the signatures of the
spending transaction. -/
def input (makerSig takerSig : Signature) : SpendPath → Option SpendingInput
  | .refundTakerFundingTimelock =>
    swap.coin.refundTakerFundingTimelock swap.timeLock
      (.takerFunding swap.takerSecretHash) swap.takerPub swap.makerPub takerSig
  | .refundTakerFundingSecret =>
    swap.coin.refundTakerFundingSecret swap.timeLock swap.takerSecretHash
      swap.takerSecret swap.takerPub swap.makerPub takerSig
  | .signAndSendTakerFundingSpend true =>
    swap.coin.signAndSendTakerFundingSpend swap.timeLock swap.takerSecretHash
      swap.takerPub swap.makerPub swap.makerPub makerSig takerSig
  | .signAndSendTakerFundingSpend false =>
    swap.coin.signAndSendTakerFundingSpend swap.timeLock swap.takerSecretHash
      swap.takerPub swap.makerPub swap.takerPub takerSig makerSig
  | .refundCombinedTakerPayment =>
    swap.coin.refundCombinedTakerPayment swap.timeLock
      (.takerPaymentV2 swap.makerSecretHash swap.takerSecretHash) swap.takerPub
      swap.makerPub takerSig
  | .signAndBroadcastTakerPaymentSpend dexFee =>
    swap.coin.signAndBroadcastTakerPaymentSpend swap.timeLock
      swap.makerSecretHash swap.makerSecret swap.takerPub swap.makerPub dexFee
      (some takerSig) makerSig
  | .refundMakerPaymentV2Timelock =>
    swap.coin.refundMakerPaymentV2Timelock swap.timeLock
      (.makerPaymentV2 swap.makerSecretHash swap.takerSecretHash) swap.makerPub
      swap.takerPub makerSig
  | .refundMakerPaymentV2Secret =>
    swap.coin.refundMakerPaymentV2Secret swap.timeLock swap.makerSecretHash
      swap.takerSecretHash swap.takerSecret swap.makerPub swap.takerPub makerSig
  | .spendMakerPaymentV2 =>
    swap.coin.spendMakerPaymentV2 swap.timeLock swap.makerSecretHash
      swap.takerSecretHash swap.makerSecret swap.makerPub swap.takerPub takerSig

end SwapOutputs

namespace SpendPath

def branch : SpendPath → List Bool
  | refundTakerFundingTimelock => [true]
  | refundTakerFundingSecret => [false, false]
  | signAndSendTakerFundingSpend _ => [false, true]
  | refundCombinedTakerPayment => [true]
  | signAndBroadcastTakerPaymentSpend _ => [false]
  | refundMakerPaymentV2Timelock => [true]
  | refundMakerPaymentV2Secret => [false, false]
  | spendMakerPaymentV2 => [false, true]

def secret (swap : SwapOutputs) : SpendPath → Option Bytes
  | refundTakerFundingSecret => some swap.takerSecret
  | signAndBroadcastTakerPaymentSpend _ => some swap.makerSecret
  | refundMakerPaymentV2Secret => some swap.takerSecret
  | spendMakerPaymentV2 => some swap.makerSecret
  | refundTakerFundingTimelock | signAndSendTakerFundingSpend _ | refundCombinedTakerPayment
  | refundMakerPaymentV2Timelock => none

def takerSighashByte (coin : UtxoCoin) : SpendPath → UInt8
  | signAndBroadcastTakerPaymentSpend dexFee => (coin.takerSighashType dexFee).toUInt8
  | _ => coin.makerSighashType.toUInt8

end SpendPath

namespace SwapOutputs

variable (swap : SwapOutputs)

/-! ## Which spends open their scripts -/

structure Signed (checkSig : Bytes → Bytes → Bool)
    (makerSig takerSig : Signature) (path : SpendPath) : Prop where
  maker : checkSig (makerSig.bytes ++ [swap.coin.makerSighashType.toUInt8])
    swap.makerPub.bytes = true
  taker : checkSig (takerSig.bytes ++ [path.takerSighashByte swap.coin]) swap.takerPub.bytes = true

/-- The hash in the scripts is the hash of the secret: its SHA-256 hash was given,
or hashing the hash again gives the hash. -/
def HashFits (secret : Bytes) : Prop :=
  swap.secretHashAlgo = .sha256 ∨
    swap.coin.ripemd160.hash (swap.coin.dhash160 secret) = swap.coin.dhash160 secret

theorem dhash160_eq_iff (secret : Bytes) :
    swap.coin.dhash160 secret = h160Of swap.coin.ripemd160
        (swap.secretHashAlgo.hashSecret swap.coin.ripemd160 secret) ↔
      swap.HashFits secret := by
  unfold HashFits
  cases swap.secretHashAlgo with
  | dhash160 =>
    constructor
    · intro heq
      exact Or.inr heq.symm
    · rintro (hsha | heq)
      · cases hsha
      · exact heq.symm
  | sha256 => exact iff_of_true rfl (Or.inl rfl)

def ifHashFits (secret : Bytes) (branch : List Bool) : Option (List Bool) :=
  if swap.coin.dhash160 secret = h160Of swap.coin.ripemd160
      (swap.secretHashAlgo.hashSecret swap.coin.ripemd160 secret) then
    some branch
  else none

theorem ifHashFits_eq_some_iff (secret : Bytes) (branch : List Bool) :
    swap.ifHashFits secret branch = some branch ↔ swap.HashFits secret := by
  rw [ifHashFits, Option.ite_none_right_eq_some, and_iff_left rfl, swap.dhash160_eq_iff]

theorem toNat_timeLock : swap.timeLock.toUInt32.toNat = swap.timeLock.toNat := by
  have hupper := swap.timeLock_upper
  rw [UInt64.toNat_toUInt32, Nat.mod_eq_of_lt (by omega)]

theorem checkLockTime_refund (checkSig : Bytes → Bytes → Bool) :
    (decodeNum (writeLe 4 swap.timeLock.toUInt32.toNat)).any
      (swap.coin.context checkSig (SEQUENCE_FINAL - 1)
        (swap.coin.p2shTxLocktime swap.timeLock.toUInt32)).checkLockTime =
      true := by
  refine UtxoCoin.checkLockTime_refund ?_ ?_
  · rw [swap.toNat_timeLock]
    exact swap.timeLock_lower
  · rw [swap.toNat_timeLock]
    exact swap.timeLock_upper

theorem scriptSig_eq (signature : Signature) :
    swap.coin.scriptSig signature = signature.bytes ++ [swap.coin.makerSighashType.toUInt8] := by
  rw [UtxoCoin.scriptSig, UtxoCoin.makerSighashType, UInt32.toUInt8_or]
  rfl

section Paths

variable {swap} {checkSig : Bytes → Bytes → Bool} {makerSig takerSig : Signature}

theorem Signed.makerAll {path : SpendPath} (hsigned : swap.Signed checkSig makerSig takerSig path) :
    checkSig (swap.coin.scriptSig makerSig) swap.makerPub.bytes = true := by
  rw [swap.scriptSig_eq]
  exact hsigned.maker

theorem Signed.takerAll {path : SpendPath} (hsigned : swap.Signed checkSig makerSig takerSig path)
    (hflags : path.takerSighashByte swap.coin = swap.coin.makerSighashType.toUInt8) :
    checkSig (swap.coin.scriptSig takerSig) swap.takerPub.bytes = true := by
  rw [swap.scriptSig_eq, ← hflags]
  exact hsigned.taker

theorem opens_refundTakerFundingTimelock :
    swap.coin.opens checkSig swap.takerFunding
      (swap.input makerSig takerSig .refundTakerFundingTimelock) = none := by
  obtain ⟨redeem, hwrote⟩ := takerFundingScript_written swap.coin.ripemd160
    swap.timeLock.toUInt32 swap.takerSecretHash swap.takerPub swap.makerPub
  refine (UtxoCoin.opens_p2shSpend hwrote
    ((Builder.builds_empty.pushOpcode .op1).pushOpcode .op0) (by norm_num) rfl rfl
    (by simp) _ _ _).trans ?_
  have hfails : RunsIf (swap.coin.context checkSig (SEQUENCE_FINAL - 1)
        (swap.coin.p2shTxLocktime swap.timeLock.toUInt32))
      False ⟨[swap.coin.scriptSig takerSig], [true, true], [false, true]⟩
      (bothSignatures swap.takerPub swap.makerPub) ⟨[[1]], [true, true], [false, true]⟩ :=
    fails_bothSignatures rfl
  exact RunsIf.runScript_eq (p := False) (.ifElse rfl rfl (by simp) skips_timelockBranch
    (skips_bothSignatures.ifElse skips_secretBranch)
    (.ifElse rfl rfl (by simp) skips_bothSignatures skips_secretBranch hfails (by simp)) (by simp))

theorem opens_refundTakerFundingSecret
    (htaker : checkSig (swap.coin.scriptSig takerSig) swap.takerPub.bytes = true) :
    swap.coin.opens checkSig swap.takerFunding
        (swap.input makerSig takerSig .refundTakerFundingSecret) =
      swap.ifHashFits swap.takerSecret [false, false] := by
  obtain ⟨redeem, hwrote⟩ := takerFundingScript_written swap.coin.ripemd160
    swap.timeLock.toUInt32 swap.takerSecretHash swap.takerPub swap.makerPub
  refine (UtxoCoin.opens_secretSpend hwrote swap.length_takerSecret false takerSig).trans ?_
  exact RunsIf.runScript_eq (.ifElse rfl rfl (by simp) skips_timelockBranch
    (skips_bothSignatures.ifElse skips_secretBranch)
    (.ifElse rfl rfl (by simp) skips_bothSignatures skips_secretBranch
      (runsIf_secretBranch rfl (by simp) swap.length_takerSecret htaker) (by simp)) (by simp))

theorem opens_refundCombinedTakerPayment
    (htaker : checkSig (swap.coin.scriptSig takerSig) swap.takerPub.bytes = true) :
    swap.coin.opens checkSig swap.takerPayment
      (swap.input makerSig takerSig .refundCombinedTakerPayment) = some [true] := by
  obtain ⟨redeem, hwrote⟩ := takerPaymentScript_written swap.coin.ripemd160
    swap.timeLock.toUInt32 swap.makerSecretHash swap.takerPub swap.makerPub
  refine (UtxoCoin.opens_timelockSpend hwrote swap.timeLock.toUInt32 takerSig).trans ?_
  exact RunsIf.runScript_eq (p := True) (.ifElse rfl rfl (by simp) skips_timelockBranch
    (skips_of_plain rfl)
    (runs_timelockBranch rfl (by simp) (swap.checkLockTime_refund checkSig) htaker).runsIf (by simp))

theorem opens_refundMakerPaymentV2Timelock
    (hmaker : checkSig (swap.coin.scriptSig makerSig) swap.makerPub.bytes = true) :
    swap.coin.opens checkSig swap.makerPayment
      (swap.input makerSig takerSig .refundMakerPaymentV2Timelock) = some [true] := by
  obtain ⟨redeem, hwrote⟩ := makerPaymentScript_written swap.coin.ripemd160
    swap.timeLock.toUInt32 swap.makerSecretHash swap.takerSecretHash swap.makerPub swap.takerPub
  refine (UtxoCoin.opens_timelockSpend hwrote swap.timeLock.toUInt32 makerSig).trans ?_
  exact RunsIf.runScript_eq (p := True) (.ifElse rfl rfl (by simp) skips_timelockBranch
    (skips_secretBranch.ifElse skips_secretBranch)
    (runs_timelockBranch rfl (by simp) (swap.checkLockTime_refund checkSig) hmaker).runsIf (by simp))

theorem opens_refundMakerPaymentV2Secret
    (hmaker : checkSig (swap.coin.scriptSig makerSig) swap.makerPub.bytes = true) :
    swap.coin.opens checkSig swap.makerPayment
        (swap.input makerSig takerSig .refundMakerPaymentV2Secret) =
      swap.ifHashFits swap.takerSecret [false, false] := by
  obtain ⟨redeem, hwrote⟩ := makerPaymentScript_written swap.coin.ripemd160
    swap.timeLock.toUInt32 swap.makerSecretHash swap.takerSecretHash swap.makerPub swap.takerPub
  refine (UtxoCoin.opens_secretSpend hwrote swap.length_takerSecret false makerSig).trans ?_
  exact RunsIf.runScript_eq (.ifElse rfl rfl (by simp) skips_timelockBranch
    (skips_secretBranch.ifElse skips_secretBranch)
    (.ifElse rfl rfl (by simp) skips_secretBranch skips_secretBranch
      (runsIf_secretBranch rfl (by simp) swap.length_takerSecret hmaker) (by simp)) (by simp))

theorem opens_spendMakerPaymentV2
    (htaker : checkSig (swap.coin.scriptSig takerSig) swap.takerPub.bytes = true) :
    swap.coin.opens checkSig swap.makerPayment (swap.input makerSig takerSig .spendMakerPaymentV2) =
      swap.ifHashFits swap.makerSecret [false, true] := by
  obtain ⟨redeem, hwrote⟩ := makerPaymentScript_written swap.coin.ripemd160
    swap.timeLock.toUInt32 swap.makerSecretHash swap.takerSecretHash swap.makerPub swap.takerPub
  refine (UtxoCoin.opens_secretSpend hwrote swap.length_makerSecret true takerSig).trans ?_
  exact RunsIf.runScript_eq (.ifElse rfl rfl (by simp) skips_timelockBranch
    (skips_secretBranch.ifElse skips_secretBranch)
    (.ifElse rfl rfl (by simp) skips_secretBranch skips_secretBranch
      (runsIf_secretBranch rfl (by simp) swap.length_makerSecret htaker) (by simp)) (by simp))

theorem opens_signAndSendTakerFundingSpend (byMaker : Bool)
    (hsigned : swap.Signed checkSig makerSig takerSig (.signAndSendTakerFundingSpend byMaker)) :
    swap.coin.opens checkSig swap.takerFunding
        (swap.input makerSig takerSig (.signAndSendTakerFundingSpend byMaker)) =
      some [false, true] := by
  obtain ⟨redeem, hwrote⟩ := takerFundingScript_written swap.coin.ripemd160
    swap.timeLock.toUInt32 swap.takerSecretHash swap.takerPub swap.makerPub
  have hmaker := hsigned.maker
  have htaker := hsigned.taker
  cases byMaker with
  | true =>
    rw [input, UtxoCoin.signAndSendTakerFundingSpend, if_pos rfl]
    exact (UtxoCoin.opens_fundingSpend hwrote makerSig takerSig).trans
      (takerFunding_cooperative htaker hmaker)
  | false =>
    rw [input, UtxoCoin.signAndSendTakerFundingSpend]
    by_cases hsame : swap.takerPub.bytes = swap.makerPub.bytes
    -- Both signatures are by one key then, and either order of them will do.
    · rw [if_pos hsame]
      rw [hsame] at htaker
      rw [← hsame] at hmaker
      exact (UtxoCoin.opens_fundingSpend hwrote takerSig makerSig).trans
        (takerFunding_cooperative hmaker htaker)
    · rw [if_neg hsame]
      exact (UtxoCoin.opens_fundingSpend hwrote makerSig takerSig).trans
        (takerFunding_cooperative htaker hmaker)

theorem opens_signAndBroadcastTakerPaymentSpend (dexFee : UtxoCoin.DexFee)
    (hsigned : swap.Signed checkSig makerSig takerSig (.signAndBroadcastTakerPaymentSpend dexFee)) :
    swap.coin.opens checkSig swap.takerPayment
        (swap.input makerSig takerSig (.signAndBroadcastTakerPaymentSpend dexFee)) =
      swap.ifHashFits swap.makerSecret [false] := by
  obtain ⟨redeem, hwrote⟩ := takerPaymentScript_written swap.coin.ripemd160
    swap.timeLock.toUInt32 swap.makerSecretHash swap.takerPub swap.makerPub
  obtain ⟨scriptSig, hscript, hverify⟩ := swap.coin.verifyP2sh_paymentSpend
    swap.coin.makerSighashType.toUInt8 (swap.coin.takerSighashType dexFee).toUInt8 hwrote
    swap.length_makerSecret hsigned.maker hsigned.taker
  rw [input, UtxoCoin.signAndBroadcastTakerPaymentSpend, UtxoCoin.opens, takerPayment,
    hwrote.written]
  simp only [Option.bind_eq_bind, Option.bind_some, hscript, Option.pure_def]
  exact hverify SEQUENCE_FINAL 0

/-- A spend opens its own script through its branch unless it is the timelock
refund of the funding, which opens nothing, or it reveals a secret whose hash of 20
bytes was hashed once more into the script. -/
theorem spend_opens_iff (swap : SwapOutputs) (checkSig : Bytes → Bytes → Bool)
    (makerSig takerSig : Signature) (path : SpendPath)
    (hsigned : swap.Signed checkSig makerSig takerSig path) :
    swap.coin.opens checkSig (swap.redeem path)
        (swap.input makerSig takerSig path) = some path.branch ↔
      path ≠ .refundTakerFundingTimelock ∧
        ∀ secret ∈ path.secret swap, swap.HashFits secret := by
  cases path with
  | refundTakerFundingTimelock =>
    rw [redeem, opens_refundTakerFundingTimelock]
    simp
  | refundTakerFundingSecret =>
    rw [redeem, opens_refundTakerFundingSecret (hsigned.takerAll rfl), branch,
      ifHashFits_eq_some_iff]
    simp [secret]
  | signAndSendTakerFundingSpend byMaker =>
    rw [redeem, opens_signAndSendTakerFundingSpend byMaker hsigned]
    simp [branch, secret]
  | refundCombinedTakerPayment =>
    rw [redeem, opens_refundCombinedTakerPayment (hsigned.takerAll rfl)]
    simp [branch, secret]
  | signAndBroadcastTakerPaymentSpend dexFee =>
    rw [redeem, opens_signAndBroadcastTakerPaymentSpend dexFee hsigned,
      branch, ifHashFits_eq_some_iff]
    simp [secret]
  | refundMakerPaymentV2Timelock =>
    rw [redeem, opens_refundMakerPaymentV2Timelock hsigned.makerAll]
    simp [branch, secret]
  | refundMakerPaymentV2Secret =>
    rw [redeem, opens_refundMakerPaymentV2Secret hsigned.makerAll, branch,
      ifHashFits_eq_some_iff]
    simp [secret]
  | spendMakerPaymentV2 =>
    rw [redeem, opens_spendMakerPaymentV2 (hsigned.takerAll rfl), branch,
      ifHashFits_eq_some_iff]
    simp [secret]

end Paths

/-! ## A swap -/

def sampleOutputs : SwapOutputs where
  coin := { ripemd160 := sampleRipemd160, forkId := 0, chainTime := 1700000000 }
  secretHashAlgo := .sha256
  makerPub := .sampleMaker
  takerPub := .sampleTaker
  makerSecret := List.replicate 32 3
  takerSecret := List.replicate 32 4
  timeLock := 1700000000
  length_makerSecret := rfl
  length_takerSecret := rfl
  timeLock_lower := by decide
  timeLock_upper := by decide

def sampleSignature : Signature :=
  ⟨List.replicate 70 5, by decide⟩

theorem sample_spend_opens :
    sampleOutputs.Signed (fun _ _ => true) sampleSignature sampleSignature
        .spendMakerPaymentV2 ∧
      sampleOutputs.coin.opens (fun _ _ => true)
          (sampleOutputs.redeem .spendMakerPaymentV2)
          (sampleOutputs.input sampleSignature sampleSignature
            .spendMakerPaymentV2) = some [false, true] :=
  ⟨⟨rfl, rfl⟩, (spend_opens_iff sampleOutputs (fun _ _ => true) sampleSignature
    sampleSignature .spendMakerPaymentV2 ⟨rfl, rfl⟩).mpr ⟨by simp, fun _ _ => Or.inl rfl⟩⟩

/-- The taker waits for the lock time, signs, and its refund opens nothing. -/
theorem funding_refund_opens_nothing :
    sampleOutputs.Signed (fun _ _ => true) sampleSignature sampleSignature
        .refundTakerFundingTimelock ∧
      (sampleOutputs.input sampleSignature sampleSignature
        .refundTakerFundingTimelock).isSome = true ∧
      sampleOutputs.coin.opens (fun _ _ => true)
          (sampleOutputs.redeem .refundTakerFundingTimelock)
          (sampleOutputs.input sampleSignature sampleSignature
            .refundTakerFundingTimelock) = none :=
  ⟨⟨rfl, rfl⟩, by decide +kernel, by decide +kernel⟩

end SwapOutputs

end V2

end KdfProtocol
