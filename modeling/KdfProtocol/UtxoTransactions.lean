import KdfProtocol.RipemdDigest
import KdfProtocol.ScriptReader
import KdfProtocol.SwapSpendsV2
import KdfProtocol.Transactions

/-!
# Transactions of coins of the Bitcoin family

Transactions spend outputs of earlier ones.  An input that spends an output which
is locked by the hash of a redeem script is valid if it reveals the script and the
script ends with a true value.
-/

namespace KdfProtocol

open BitcoinScript

abbrev UtxoTx := Transaction

def DEFAULT_SWAP_VOUT : ℕ := 0

def V2.Builder.buildP2sh (hash : Bytes) : Option Script :=
  V2.Builder.empty
    |>.pushOpcode .opHash160
    |>.pushBytes hash
    |>.pushOpcode .opEqual
    |>.intoScript

structure SpentOutputInfo where
  spendingTx : UtxoTx
  inputIndex : ℕ

/-- The call to the client: the transaction of the output, its script, its index
and the height from which blocks are searched. -/
abbrev FindOutputSpend :=
  FixedBytes 32 → Script → ℕ → Int64 → Except String (Option SpentOutputInfo)

def findsSpend (tx : UtxoTx) : FindOutputSpend := fun _ _ _ _ => .ok (some ⟨tx, 0⟩)

def computedRipemd160 : V2.Ripemd160 where
  hash := RipemdDigest.digest
  length_hash := RipemdDigest.length_digest

/-! ## Valid spends -/

def revealedScript (scriptSig : Script) : Option Script :=
  ((decode scriptSig).bind List.getLast?).map Instruction.pushed

/-- An input of the transaction spends the output, through the redeem script and
the branch that was chosen in it. -/
structure SpendsThrough (coin : V2.UtxoCoin) (checkSig : Bytes → Bytes → Bool)
    (tx : UtxoTx) (output : OutPoint) (redeem : Script) (choices : List Bool)
    (input : TransactionInput) : Prop where
  mem_inputs : input ∈ tx.inputs
  previousOutput : input.previousOutput = output
  revealed : revealedScript input.scriptSig = some redeem
  valid : verifyP2sh (coin.context checkSig input.sequence tx.lockTime)
    input.scriptSig (coin.dhash160 redeem) = some choices

theorem SpendsThrough.exists_pushes {coin : V2.UtxoCoin}
    {checkSig : Bytes → Bytes → Bool} {tx : UtxoTx} {output : OutPoint}
    {redeem : Script} {choices : List Bool} {input : TransactionInput} {body : List Instruction}
    (hspends : SpendsThrough coin checkSig tx output redeem choices input)
    (hbody : decode redeem = some body) :
    ∃ pushes last, decode input.scriptSig = some (pushes ++ [last]) ∧
      (pushes ++ [last]).all Instruction.isPush = true ∧ last.pushed = redeem ∧
      runScript (coin.context checkSig input.sequence tx.lockTime) body
        (pushes.map Instruction.pushed).reverse = some choices := by
  obtain ⟨pushes, last, body', hdec, hpush, -, hbody', hrun⟩ := exists_of_verifyP2sh hspends.valid
  have hlast : last.pushed = redeem := by
    have hrevealed := hspends.revealed
    rw [revealedScript, hdec, Option.bind_some, List.getLast?_concat] at hrevealed
    exact Option.some.inj hrevealed
  rw [hlast, hbody] at hbody'
  cases hbody'
  exact ⟨pushes, last, hdec, hpush, hlast, hrun⟩

end KdfProtocol
