import KdfProtocol.SwapMessages
import KdfProtocol.Decimal
import KdfProtocol.PollingWait
import KdfProtocol.StorableJournal
import KdfProtocol.Sha256

/-!
# What the two sides of a V2 swap share

The messages of the negotiation, the waits for a message and for confirmations,
and the ways in which a state of the swap machine stops short: it still waits,
or it gives up with a reason.
-/

namespace KdfProtocol

namespace V2

/-! ## Reasons -/

inductive AbortReason where
  | negotiationTimeout
  | negotiationFailed (err : String)
  | failedToSendTx (err : String)
  | failedToValidateTx (err : String)
  | confirmationTimeout (err : String)
  | fundingSpendError (err : String)
  | takerAborted (err : String)
  | makerAborted (err : String)
  | internalError (err : String)
  | failedToSendPayment (err : String)
  | didNotReceiveMakerPayment (err : String)
  | failedToParseMakerPayment (err : String)
  | failedToParseFundingSpendPreimg (err : String)
  | failedToParseFundingSpendSig (err : String)
  | makerPaymentValidationFailed (err : String)
  | fundingSpendPreimageValidationFailed (err : String)
  | makerPaymentNotConfirmedInTime (err : String)
  | failedToGenerateSpendPreimage (err : String)
  | makerDidNotSpendInTime (err : String)
  | couldNotExtractSecret (err : String)
  | failedToSpendMakerPayment (err : String)
  | makerPaymentSpendNotConfirmedInTime (err : String)
  | takerFundingRefundFailed (err : String)
  | takerPaymentRefundFailed (err : String)
  deriving DecidableEq

/-- Why the steps of a state do not come to their end. -/
inductive Halt where
  | waiting
  | abort (reason : AbortReason)
  deriving DecidableEq

def abortOn {α : Type} (reason : String → AbortReason) (label : String)
    (answer : Except String α) : Except Halt α :=
  answer.mapError fun err => .abort (reason (label ++ err))

@[simp] theorem abortOn_eq_ok {α : Type} {reason : String → AbortReason} {label : String}
    {answer : Except String α} {a : α} : abortOn reason label answer = .ok a ↔ answer = .ok a := by
  cases answer with
  | error e | ok b => simp [abortOn, Except.mapError]

def abortIf (condition : Prop) [Decidable condition] (reason : AbortReason) : Except Halt Unit :=
  if condition then .error (.abort reason) else .ok ()

@[simp] theorem abortIf_eq_ok {condition : Prop} [Decidable condition]
    {reason : AbortReason} {u : Unit} : abortIf condition reason = .ok u ↔ ¬condition := by
  unfold abortIf
  by_cases h : condition
  · simp [h]
  · simp [h]

def settle {σ τ : Type} (aborted : AbortReason → σ)
    (steps : Except Halt (Activation σ τ)) : Activation σ τ :=
  match steps with
  | .ok activation => activation
  | .error .waiting => { sent := [], next := none }
  | .error (.abort reason) => { sent := [], next := some (aborted reason) }

def changeTo {σ τ : Type} (next : σ) : Activation σ τ where
  sent := []
  next := some next

variable {σ τ α : Type} {aborted : AbortReason → σ} {steps : Except Halt α}
  {finish : α → Activation σ τ}

theorem settle_induction {motive : Activation σ τ → Prop}
    (waits : motive { sent := [], next := none })
    (givesUp : ∀ reason, steps = .error (.abort reason) → motive (changeTo (aborted reason)))
    (ends : ∀ a, steps = .ok a → motive (finish a)) :
    motive (settle aborted (steps.map finish)) := by
  cases steps with
  | error halt =>
    cases halt with
    | waiting => exact waits
    | abort reason => exact givesUp reason rfl
  | ok a => exact ends a rfl

theorem settle_next {next : σ} (hnext : (settle aborted (steps.map finish)).next = some next) :
    (∃ reason, next = aborted reason) ∨ ∃ a, steps = .ok a ∧ (finish a).next = some next := by
  cases steps with
  | error halt =>
    cases halt with
    | waiting => cases hnext
    | abort reason =>
      cases hnext
      exact Or.inl ⟨reason, rfl⟩
  | ok a => exact Or.inr ⟨a, rfl, hnext⟩

theorem settle_sent {tx : τ} (htx : tx ∈ (settle aborted (steps.map finish)).sent) :
    ∃ a, steps = .ok a ∧ tx ∈ (finish a).sent := by
  cases steps with
  | error halt =>
    cases halt with
    | waiting | abort reason => cases htx
  | ok a => exact ⟨a, rfl, htx⟩

/-! ## Secret hashes -/

structure Ripemd160 where
  hash : Bytes → Bytes
  length_hash : ∀ message, (hash message).length = 20

inductive SecretHashAlgo where
  | dhash160
  | sha256
  deriving DecidableEq

def SecretHashAlgo.hashSecret (ripemd160 : Ripemd160) : SecretHashAlgo → Bytes → Bytes
  | .dhash160, secret => ripemd160.hash (Sha256.digest secret)
  | .sha256, secret => Sha256.digest secret

theorem SecretHashAlgo.length_hashSecret (ripemd160 : Ripemd160)
    (algo : SecretHashAlgo) (secret : Bytes) :
    (algo.hashSecret ripemd160 secret).length = 20 ∨
      (algo.hashSecret ripemd160 secret).length = 32 := by
  cases algo with
  | dhash160 => exact Or.inl (ripemd160.length_hash _)
  | sha256 => exact Or.inr (Sha256.length_digest secret)

/-! ## Messages -/

structure MakerNegotiation where
  startedAt : UInt64
  paymentLocktime : UInt64
  secretHash : Bytes
  makerCoinHtlcPub : Bytes
  takerCoinHtlcPub : Bytes
  makerCoinSwapContract : Option Bytes
  takerCoinSwapContract : Option Bytes
  takerCoinAddress : String
  deriving DecidableEq

structure TakerNegotiationData where
  startedAt : UInt64
  fundingLocktime : UInt64
  paymentLocktime : UInt64
  takerSecretHash : Bytes
  makerCoinHtlcPub : Bytes
  takerCoinHtlcPub : Bytes
  makerCoinSwapContract : Option Bytes
  takerCoinSwapContract : Option Bytes
  deriving DecidableEq

inductive TakerNegotiationAction where
  | continue (data : TakerNegotiationData)
  | abort (reason : String)
  deriving DecidableEq

structure TakerNegotiation where
  action : Option TakerNegotiationAction
  deriving DecidableEq

structure MakerNegotiated where
  negotiated : Bool
  reason : Option String
  deriving DecidableEq

structure MakerPaymentInfo where
  txBytes : Bytes
  fundingPreimageSig : Bytes
  fundingPreimageTx : Bytes
  deriving DecidableEq

structure TakerPaymentSpendPreimage where
  signature : Bytes
  txPreimage : Bytes
  deriving DecidableEq

/-! ## Stored data -/

structure StoredMakerNegotiationData where
  takerSecretHash : Bytes
  takerCoinHtlcPub : Bytes
  makerCoinHtlcPub : Bytes
  takerCoinSwapContract : Option Bytes
  makerCoinSwapContract : Option Bytes
  takerPaymentLocktime : UInt64
  takerFundingLocktime : UInt64
  deriving DecidableEq

structure StoredTakerNegotiationData where
  makerSecretHash : Bytes
  makerCoinHtlcPub : Bytes
  takerCoinHtlcPub : Bytes
  makerCoinSwapContract : Option Bytes
  takerCoinSwapContract : Option Bytes
  makerPaymentLocktime : UInt64
  takerCoinAddress : String
  deriving DecidableEq

structure StoredTxPreimage where
  preimage : Bytes
  signature : Bytes
  deriving DecidableEq

structure StartBlocks where
  makerCoinStartBlock : UInt64
  takerCoinStartBlock : UInt64
  deriving DecidableEq

structure SwapConfirmationsSettings where
  makerCoinConfs : UInt64
  makerCoinNota : Bool
  takerCoinConfs : UInt64
  takerCoinNota : Bool
  deriving DecidableEq

inductive SwapRecreateError where
  | noEvents
  | internal (err : String)
  deriving DecidableEq

theorem eq_ok_of_toOption {ε α : Type} {result : Except ε α} {a : α}
    (hres : result.toOption = some a) : result = .ok a := by
  cases result with
  | error err => cases hres
  | ok b =>
    cases hres
    rfl

def copyTo32 (bytes : Bytes) : Bytes :=
  bytes.take 32 ++ List.replicate (32 - bytes.length) 0

theorem copyTo32_eq_self {bytes : Bytes} (hlen : bytes.length = 32) : copyTo32 bytes = bytes := by
  unfold copyTo32
  rw [hlen, List.take_of_length_le hlen.le, Nat.sub_self, List.replicate_zero, List.append_nil]

/-! ## Numbers -/

def rationalToDec (q : ℚ) : Decimal.Signed :=
  ⟨q < 0, Decimal.ofRatio 100 q.num.natAbs q.den⟩

def toDecimal (q : ℚ) : ℚ :=
  (rationalToDec q).toRat

def ExactDecimal (q : ℚ) : Prop :=
  q.den = 1 ∨ ∃ m k : ℕ, m < 10 ^ 100 ∧ q = m / 10 ^ k

theorem toDecimal_eq_iff {q : ℚ} (hq : 0 ≤ q) : toDecimal q = q ↔ ExactDecimal q := by
  have hnum : (q.num.natAbs : ℚ) = q.num := by
    rw [Nat.cast_natAbs, abs_of_nonneg (Rat.num_nonneg.mpr hq)]
  have hden : (q.den : ℚ) ≠ 0 := by exact_mod_cast q.den_nz
  have hratio : (q.num.natAbs : ℚ) / q.den = q := by
    rw [hnum]
    exact Rat.num_div_den q
  have hprecision : 0 < 100 := by decide
  have hexact := Decimal.toRat_ofRatio_eq_iff hprecision q.den_pos q.reduced
  rw [hratio] at hexact
  unfold toDecimal rationalToDec Decimal.Signed.toRat ExactDecimal
  rw [decide_eq_false (not_lt.mpr hq), if_neg Bool.false_ne_true, hexact]
  refine or_congr_right (exists_congr fun m => exists_congr fun k => and_congr_right fun _ => ?_)
  have heq : (q.num.natAbs : ℚ) / q.den = m / 10 ^ k ↔ q.num.natAbs * 10 ^ k = m * q.den := by
    rw [div_eq_div_iff hden (by positivity)]
    norm_cast
  rw [hratio] at heq
  exact heq.symm

/-! ## Coins -/

structure TradeFee where
  coin : String
  amount : ℚ
  paidFromTradingVol : Bool
  deriving DecidableEq

def feeReservableAmount (fee : TradeFee) : ℚ :=
  if fee.paidFromTradingVol then 0 else fee.amount

structure SwapCoins where
  makerTicker : String
  takerTicker : String
  /-- The ticker of the coin that pays the fees: the coin itself, or the platform
  of a token. -/
  makerPlatformTicker : String
  takerPlatformTicker : String
  ripemd160 : Ripemd160
  deriveMakerHtlcPubkey : Bytes → Except String Bytes
  deriveTakerHtlcPubkey : Bytes → Except String Bytes
  parseMakerPubkey : Bytes → Except String Unit
  parseTakerPubkey : Bytes → Except String Unit
  parseMakerTx : Bytes → Except String Unit
  parseTakerTx : Bytes → Except String Unit
  parseTakerPreimage : Bytes → Except String Unit
  parseTakerSignature : Bytes → Except String Unit
  makerSwapContractAddress : Option Bytes
  takerSwapContractAddress : Option Bytes
  skipTakerPaymentSpendPreimage : Bool
  /-- The network configuration of the node's netid, or the error that there is
  none. -/
  netConfig : Except String Unit
  /-- The error of a wait for confirmations that is past its end. -/
  waitedTooLong : UInt64 → String
  showAmount : ℚ → String
  p2pPubkeyValid : Bytes → Bool
  privateKeyValid : Bytes → Bool

/-- The key pair of a record, if its bytes are a private key. -/
def restoreKeypair (coins : SwapCoins) (keypair : Option Bytes) : Option Bytes :=
  keypair.bind fun key =>
    let secret := copyTo32 key
    if coins.privateKeyValid secret then some secret else none

def nftSwapV2Version : UInt8 := 3

/-- A swap of this version is parked before the generic restoration. -/
def interceptNftV2MakerRestart (swapVersion : UInt8) : Bool :=
  swapVersion = nftSwapV2Version

/-! ## Times -/

def basicCommTimeout : UInt64 := 90

def negotiationTimeoutSec : UInt64 := 90

def maxStartedAtDiff : UInt64 := 60

def absDiff (a b : UInt64) : UInt64 :=
  if a < b then b - a else a - b

theorem not_lt_absDiff_iff {a b tolerance : UInt64} : ¬tolerance < absDiff a b ↔
      |(a.toNat : ℤ) - b.toNat| ≤ tolerance.toNat := by
  rw [UInt64.not_lt, UInt64.le_iff_toNat_le, absDiff, abs_le]
  by_cases hlt : a < b
  · have hle : a.toNat ≤ b.toNat := (UInt64.lt_iff_toNat_lt.mp hlt).le
    rw [if_pos hlt, UInt64.toNat_sub_of_le _ _ (UInt64.le_of_lt hlt)]
    omega
  · have hle : b ≤ a := UInt64.not_lt.mp hlt
    have hnat : b.toNat ≤ a.toNat := UInt64.le_iff_toNat_le.mp hle
    rw [if_neg hlt, UInt64.toNat_sub_of_le _ _ hle]
    omega

theorem not_maxStartedAtDiff_lt_absDiff {a b : UInt64} :
    ¬maxStartedAtDiff < absDiff a b ↔ a.toNat ≤ b.toNat + 60 ∧ b.toNat ≤ a.toNat + 60 := by
  have hsixty : maxStartedAtDiff.toNat = 60 := rfl
  rw [not_lt_absDiff_iff, hsixty, abs_le]
  omega

/-- The last second of a wait for a message that began at `started`. -/
def recvDeadline (started timeout : UInt64) : UInt64 :=
  started + (basicCommTimeout + timeout)

/-- The store of messages is looked into first, the clock is read after. -/
def recvSwapV2Msg {α : Type} (started timeout : UInt64)
    (rounds : Rounds UInt64 α) (failed : String → AbortReason) : Except Halt α :=
  match rounds.askThenCheck (recvDeadline started timeout < ·) with
  | .waiting => .error .waiting
  | .timedOut now =>
    let waited := now - started
    let total := basicCommTimeout + timeout
    .error (.abort (failed s!"V2 swap msg timeout ({waited} > {total})"))
  | .answered msg => .ok msg

theorem recvSwapV2Msg_eq_ok {α : Type} {started timeout : UInt64}
    {rounds : Rounds UInt64 α} {failed : String → AbortReason} {msg : α} :
    recvSwapV2Msg started timeout rounds failed = .ok msg ↔
      rounds.askThenCheck (recvDeadline started timeout < ·) = .answered msg := by
  unfold recvSwapV2Msg
  split
  next hres => simp [hres]
  next hres => simp [hres]
  next hres => simp [hres]

/-- The clock is read before the chain is asked. -/
def awaitConfirmations (coins : SwapCoins) (waitUntil : UInt64)
    (rounds : Rounds UInt64 (Except String Unit))
    (reason : String → AbortReason) (label : String) : Except Halt Unit :=
  match rounds.checkThenAsk (waitUntil < ·) with
  | .waiting => .error .waiting
  | .timedOut _ => .error (.abort (reason (label ++ coins.waitedTooLong waitUntil)))
  | .answered answer => abortOn reason label answer

def waitForConfirmations (coins : SwapCoins) (waitUntil : UInt64)
    (rounds : Rounds UInt64 (Except String Unit)) (label : String) : Except Halt Unit :=
  awaitConfirmations coins waitUntil rounds .confirmationTimeout label

theorem waitForConfirmations_eq_ok {coins : SwapCoins} {waitUntil : UInt64}
    {rounds : Rounds UInt64 (Except String Unit)} {label : String} {u : Unit}
    (hconf : waitForConfirmations coins waitUntil rounds label = .ok u) :
    ∃ now, rounds.answered = some (now, .ok ()) ∧ now ≤ waitUntil := by
  unfold waitForConfirmations awaitConfirmations at hconf
  split at hconf
  · cases hconf
  · cases hconf
  next answer hanswered =>
    rw [abortOn_eq_ok] at hconf
    subst hconf
    obtain ⟨now, hround, hintime⟩ := Rounds.checkThenAsk_eq_answered hanswered
    exact ⟨now, hround, UInt64.not_lt.mp hintime⟩

def awaitRefund (rounds : Rounds UInt64 Unit) : Except Halt Unit :=
  match rounds.checkThenAsk fun _ => False with
  | .answered _ => .ok ()
  | _ => .error .waiting

theorem awaitRefund_ne_abort (rounds : Rounds UInt64 Unit)
    (reason : AbortReason) : awaitRefund rounds ≠ .error (.abort reason) := by
  unfold awaitRefund
  split
  · intro habort
    cases habort
  · intro habort
    cases habort

def uuidBytes (uuid : Uuid) : Bytes :=
  (List.range 16).map fun i => UInt8.ofNat (uuid.val / 256 ^ (15 - i))

/-! ## Sample coins -/

def sampleRipemd160 : Ripemd160 where
  hash := fun _ => List.replicate 20 1
  length_hash := fun _ => rfl

def sampleCoins : SwapCoins where
  makerTicker := "RICK"
  takerTicker := "MORTY"
  makerPlatformTicker := "RICK"
  takerPlatformTicker := "MORTY"
  ripemd160 := sampleRipemd160
  deriveMakerHtlcPubkey := fun _ => .ok (List.replicate 33 2)
  deriveTakerHtlcPubkey := fun _ => .ok (List.replicate 33 2)
  parseMakerPubkey := fun _ => .ok ()
  parseTakerPubkey := fun _ => .ok ()
  parseMakerTx := fun _ => .ok ()
  parseTakerTx := fun _ => .ok ()
  parseTakerPreimage := fun _ => .ok ()
  parseTakerSignature := fun _ => .ok ()
  makerSwapContractAddress := none
  takerSwapContractAddress := none
  skipTakerPaymentSpendPreimage := false
  netConfig := .ok ()
  waitedTooLong := fun _ => "Waited too long"
  showAmount := fun _ => "1"
  p2pPubkeyValid := fun _ => true
  privateKeyValid := fun _ => true

def sampleConfs : SwapConfirmationsSettings where
  makerCoinConfs := 1
  makerCoinNota := false
  takerCoinConfs := 1
  takerCoinNota := false

def atOnce {α : Type} (now : UInt64) (a : α) : Rounds UInt64 α where
  unanswered := []
  answered := some (now, a)

end V2

end KdfProtocol
