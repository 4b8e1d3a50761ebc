import KdfProtocol.OrderTypes
import KdfProtocol.CommandJournal

/-!
# What the two sides of a legacy swap share

The negotiation messages and the checks of their fields, the answers of the
coins, and the key that a restored swap runs with.  Times are 64-bit seconds;
their sums and differences wrap around, as they do in the release build.
-/

namespace KdfProtocol

/-! ## Answers -/

/-- An error that a coin or a peer answered, with the words put before it. -/
def answered {α : Type} (label : String) (answer : Except String α) : Except String α :=
  answer.mapError (label ++ ·)

@[simp] theorem answered_eq_ok {α : Type} {label : String} {answer : Except String α} {a : α} :
    answered label answer = .ok a ↔ answer = .ok a := by
  cases answer with
  | error e | ok b => simp [answered, Except.mapError]

theorem not_isOk_of_error {α : Type} {result : Except String α} {err : String}
    (herror : result = .error err) : ¬∃ a, result = .ok a := by
  rintro ⟨a, hok⟩
  rw [herror] at hok
  cases hok

def rejectIf (condition : Prop) [Decidable condition] (err : String) : Except String Unit :=
  if condition then .error err else .ok ()

@[simp] theorem rejectIf_eq_ok {condition : Prop} [Decidable condition] {err : String} {u : Unit} :
    rejectIf condition err = .ok u ↔ ¬condition := by
  unfold rejectIf
  by_cases h : condition
  · simp [h]
  · simp [h]

/-- How a coin answers when it is asked to send a transaction.  A transaction
can be on the chain although the coin reports an error. -/
inductive SendAnswer (τ : Type) where
  | sent (tx : τ)
  | failed (err : String)
  | failedAfterBroadcast (tx : τ) (err : String)
  deriving DecidableEq

def SendAnswer.result {τ : Type} : SendAnswer τ → Except String τ
  | .sent tx => .ok tx
  | .failed err | .failedAfterBroadcast _ err => .error err

def SendAnswer.broadcast {τ : Type} : SendAnswer τ → Option τ
  | .sent tx => some tx
  | .failed _ => none
  | .failedAfterBroadcast tx _ => some tx

structure TransactionIdentifier where
  txHex : Bytes
  txHash : Bytes
  deriving DecidableEq

def SentAtMost {τ : Type} (kind : TransactionIdentifier → τ) (sent : List τ) : Prop :=
  sent = [] ∨ ∃ tx, sent = [kind tx]

theorem sentAtMost_broadcast {τ : Type} (kind : TransactionIdentifier → τ)
    (answer : SendAnswer TransactionIdentifier) :
    SentAtMost kind (answer.broadcast.toList.map kind) := by
  cases answer with
  | sent tx | failedAfterBroadcast tx err => exact Or.inr ⟨tx, rfl⟩
  | failed err => exact Or.inl rfl

/-! ## Negotiation messages -/

structure NegotiationDataV1 where
  startedAt : UInt64
  paymentLocktime : UInt64
  secretHash : Bytes
  persistentPubkey : Bytes
  deriving DecidableEq

structure NegotiationDataV2 where
  startedAt : UInt64
  paymentLocktime : UInt64
  secretHash : Bytes
  persistentPubkey : Bytes
  makerCoinSwapContract : Bytes
  takerCoinSwapContract : Bytes
  deriving DecidableEq

structure NegotiationDataV3 where
  startedAt : UInt64
  paymentLocktime : UInt64
  secretHash : Bytes
  makerCoinSwapContract : Bytes
  takerCoinSwapContract : Bytes
  makerCoinHtlcPub : Bytes
  takerCoinHtlcPub : Bytes
  deriving DecidableEq

inductive NegotiationDataMsg where
  | v1 (data : NegotiationDataV1)
  | v2 (data : NegotiationDataV2)
  | v3 (data : NegotiationDataV3)
  deriving DecidableEq

namespace NegotiationDataMsg

def startedAt : NegotiationDataMsg → UInt64
  | .v1 data | .v2 data | .v3 data => data.startedAt

def paymentLocktime : NegotiationDataMsg → UInt64
  | .v1 data | .v2 data | .v3 data => data.paymentLocktime

def secretHash : NegotiationDataMsg → Bytes
  | .v1 data | .v2 data | .v3 data => data.secretHash

def makerCoinHtlcPub : NegotiationDataMsg → Bytes
  | .v1 data | .v2 data => data.persistentPubkey
  | .v3 data => data.makerCoinHtlcPub

def takerCoinHtlcPub : NegotiationDataMsg → Bytes
  | .v1 data | .v2 data => data.persistentPubkey
  | .v3 data => data.takerCoinHtlcPub

def makerCoinSwapContract : NegotiationDataMsg → Option Bytes
  | .v1 _ => none
  | .v2 data | .v3 data => some data.makerCoinSwapContract

def takerCoinSwapContract : NegotiationDataMsg → Option Bytes
  | .v1 _ => none
  | .v2 data | .v3 data => some data.takerCoinSwapContract

end NegotiationDataMsg

def swapWirePubkeyLen : ℕ := 33

def swapWireSecretHashMinLen : ℕ := 20

def validateWireFieldLen (field : Bytes) (expected : ℕ) (what : String) : Except String Unit :=
  rejectIf (field.length < expected)
    s!"{what} is {field.length} bytes, expected at least {expected}"

def validateWirePubkey (field : Bytes) (what : String) : Except String Unit :=
  rejectIf (field.length ≠ swapWirePubkeyLen)
    s!"{what} must be exactly {swapWirePubkeyLen} bytes, got {field.length}"

/-- The distance of the two start times as the source computes it: signed, with
an absolute value that wraps around. -/
def timeDif (own other : UInt64) : Int64 :=
  (own.toInt64 - other.toInt64).abs

/-! ## Coins and keys of a swap -/

structure MatchedTerms where
  uuid : Uuid
  makerAmount : ℚ
  takerAmount : ℚ
  makerPaymentConfirmations : UInt64
  makerPaymentRequiresNota : Option Bool
  takerPaymentConfirmations : UInt64
  takerPaymentRequiresNota : Option Bool
  deriving DecidableEq

def MatchedTerms.empty : MatchedTerms where
  uuid := 0
  makerAmount := 0
  takerAmount := 0
  makerPaymentConfirmations := 0
  makerPaymentRequiresNota := none
  takerPaymentConfirmations := 0
  takerPaymentRequiresNota := none

/-- What the swap reads from its two coins, from the network and from its order. -/
structure SwapCoins where
  makerTicker : String
  takerTicker : String
  terms : MatchedTerms
  /-- The public key of the other node without its first byte. -/
  otherPub : Bytes
  makerSwapContractAddress : Option Bytes
  takerSwapContractAddress : Option Bytes
  makerKeyIsRandomPerSwap : Bool
  takerKeyIsRandomPerSwap : Bool
  /-- Whether the dex fee of a taker with this public key is waived. -/
  noFee : Bytes → Bool
  /-- How each coin agrees on a swap contract with the one the peer names. -/
  negotiateMakerContract : Option Bytes → Except String (Option Bytes)
  negotiateTakerContract : Option Bytes → Except String (Option Bytes)
  validateMakerPubkey : Bytes → Except String Unit
  validateTakerPubkey : Bytes → Except String Unit

def skipsAlreadySentQuestion (keyIsRandomPerSwap startedInThisProcess
    hasPaymentEvent : Bool) : Bool :=
  startedInThisProcess && !hasPaymentEvent && keyIsRandomPerSwap

/-- The public keys of the node: its own and the one of the legacy passphrase. -/
structure NodeKeys where
  node : Bytes
  legacy : Bytes

def swapNodeKeyPair (keys : NodeKeys) (recordedPersistentPub : Bytes) : Except String Bytes :=
  if keys.node = recordedPersistentPub then .ok keys.node
  else if keys.legacy = recordedPersistentPub then .ok keys.legacy
  else .error
    ("the persistent key it recorded is neither the node key nor the legacy "
      ++ "passphrase key, the swap is not resumed")

@[simp] theorem swapNodeKeyPair_node (keys : NodeKeys) :
    swapNodeKeyPair keys keys.node = .ok keys.node := by
  simp [swapNodeKeyPair]

end KdfProtocol
