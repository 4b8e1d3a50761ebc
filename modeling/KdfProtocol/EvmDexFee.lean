import KdfProtocol.PaymentSpendsV2

/-!
# The dex fee on EVM chains

The maker takes a transaction for the payment of the fee by what it calls, and what
it moves is decided by the chain.  A transaction of the native coin moves its value; a
call of a token contract moves what the called function moves.
-/

namespace KdfProtocol.Evm

open BitcoinScript V2

/-! ## The validation -/

abbrev Address := FixedBytes 20

structure RpcTransaction where
  signer : Address
  toAddr : Option Address
  value : ℕ
  input : List UInt8
  blockNumber : Option UInt64

inductive EthCoinType where
  | eth
  | erc20 (tokenAddr : Address)
  | tron

structure EthCoin where
  coinType : EthCoinType
  decimals : UInt8

structure ValidateFeeArgs where
  /-- The address of the raw key; an error if it is no key. -/
  expectedSender : Except String Address
  feeAddr : Except String Address
  dexFee : DexFeeAmounts
  minBlockNumber : UInt64

inductive ValidateFeeError where
  | other (err : String)
  /-- Didn't find provided tx on ETH node. -/
  | notFound
  | wrongSender (tx : RpcTransaction) (expected : Address)
  | confirmedBefore (tx : RpcTransaction) (minBlockNumber : UInt64)
  | wrongAddress (tx : RpcTransaction) (expected : Address)
  | valueLess (tx : RpcTransaction) (expected : ℕ)
  | wrongContract (tx : RpcTransaction) (expected : Address)
  | tokenWrongAddress (found expected : Address)
  | tokenValueLess (value expected : ℕ)

def feeAmount : DexFeeAmounts → ℚ
  | .noFee => 0
  | .standard amount => amount
  | .withBurn feeAmount _ _ => feeAmount

/-- The digits of the amount after the decimals of the coin are cut off. -/
def weiFromBigDecimal (amount : ℚ) (decimals : UInt8) : Except String ℕ :=
  let wei := (amount * 10 ^ decimals.toNat).floor.toNat
  if amount < 0 then .error "InvalidCharacter"
  else if 2 ^ 256 ≤ wei then .error "InvalidLength"
  else .ok wei

def readBe (bytes : List UInt8) : ℕ :=
  readLe bytes.reverse

/-- The arguments of `transfer(address,uint256)`, each in a word of 32 bytes. -/
def decodeTransferInput (data : List UInt8) : Option (Address × ℕ) :=
  if hlength : 64 ≤ data.length then
    some (⟨(data.drop 12).take 20, by simp; omega⟩, readBe ((data.drop 32).take 32))
  else none

def expectedValue (coin : EthCoin) (args : ValidateFeeArgs) : Except String ℕ :=
  weiFromBigDecimal (toDecimal (feeAmount args.dexFee)) coin.decimals

def validateFee (coin : EthCoin) (args : ValidateFeeArgs)
    (txFromRpc : Except String (Option RpcTransaction)) : Fallible ValidateFeeError Unit := do
  let senderAddr ← args.expectedSender.mapError (.error ∘ .other)
  let feeAddr ← args.feeAddr.mapError (.error ∘ .other)
  let expected ← (expectedValue coin args).mapError (.error ∘ .other)
  let found ← txFromRpc.mapError (.error ∘ .other)
  let tx ← requireSome found .notFound
  refuseIf (tx.signer ≠ senderAddr) (.wrongSender tx senderAddr)
  refuseIf (tx.blockNumber.any (· ≤ args.minBlockNumber)) (.confirmedBefore tx args.minBlockNumber)
  match coin.coinType with
  | .eth => do
    refuseIf (tx.toAddr ≠ some feeAddr) (.wrongAddress tx feeAddr)
    refuseIf (tx.value < expected) (.valueLess tx expected)
  | .erc20 tokenAddr => do
    refuseIf (tx.toAddr ≠ some tokenAddr) (.wrongContract tx tokenAddr)
    -- The selector is cut off, and a slice that is shorter panics.
    let data ← unwrap (if 4 ≤ tx.input.length then some (tx.input.drop 4) else none)
    let (toAddr, value) ← requireSome (decodeTransferInput data) (.other "Decode")
    refuseIf (toAddr ≠ feeAddr) (.tokenWrongAddress toAddr feeAddr)
    refuseIf (value < expected) (.tokenValueLess value expected)
  | .tron => refuse (.other "TRON dex-fee validation not yet wired (pending P10.2.5)")

/-- For a fee that a decimal can show, the value is the fee in the smallest unit of the
coin, rounded down. -/
theorem expectedValue_eq_floor {coin : EthCoin} {args : ValidateFeeArgs} {expected : ℕ}
    (hnonneg : 0 ≤ feeAmount args.dexFee) (hexact : ExactDecimal (feeAmount args.dexFee))
    (hvalue : expectedValue coin args = .ok expected) :
    (expected : ℤ) = ⌊feeAmount args.dexFee * 10 ^ coin.decimals.toNat⌋ := by
  unfold expectedValue weiFromBigDecimal at hvalue
  rw [(toDecimal_eq_iff hnonneg).mpr hexact, if_neg (not_lt.mpr hnonneg)] at hvalue
  split at hvalue
  · cases hvalue
  · cases hvalue
    have hfloor : 0 ≤ ⌊feeAmount args.dexFee * 10 ^ coin.decimals.toNat⌋ :=
      Int.floor_nonneg.mpr (by positivity)
    exact Int.toNat_of_nonneg hfloor

/-! ## What a transaction moves -/

structure Transfer where
  source : Address
  target : Address
  amount : ℕ

def moved (source target : Address) (transfers : List Transfer) : ℕ :=
  ((transfers.filter fun t => t.source = source ∧ t.target = target).map Transfer.amount).sum

def transferSelector : List UInt8 := [0xa9, 0x05, 0x9c, 0xbb]

/-- A token contract in some state: what a call moves if it does not fail. -/
structure Erc20Contract where
  call : Address → List UInt8 → Option (List Transfer)
  transfer_moves : ∀ caller input toAddr value transfers, input.take 4 = transferSelector →
    decodeTransferInput (input.drop 4) = some (toAddr, value) →
    call caller input = some transfers → value ≤ moved caller toAddr transfers

def execute (coinType : EthCoinType) (token : Erc20Contract) (tx : RpcTransaction) :
    Option (List Transfer) :=
  match coinType with
  | .eth => tx.toAddr.map fun toAddr => [⟨tx.signer, toAddr, tx.value⟩]
  | .erc20 tokenAddr =>
    if tx.toAddr = some tokenAddr then token.call tx.signer tx.input else none
  | .tron => none

theorem validateFee_eq_ok {coin : EthCoin} {args : ValidateFeeArgs} {tx : RpcTransaction}
    (hacc : validateFee coin args (.ok (some tx)) = .ok ()) :
    ∃ sender feeAddr expected, args.expectedSender = .ok sender ∧
      args.feeAddr = .ok feeAddr ∧ expectedValue coin args = .ok expected ∧ tx.signer = sender ∧
      match coin.coinType with
      | .eth => tx.toAddr = some feeAddr ∧ expected ≤ tx.value
      | .erc20 tokenAddr => tx.toAddr = some tokenAddr ∧ ∃ value,
          decodeTransferInput (tx.input.drop 4) = some (feeAddr, value) ∧ expected ≤ value
      | .tron => False := by
  unfold validateFee at hacc
  simp only [except_bind_eq_ok, mapError_eq_ok, refuseIf_eq_ok, requireSome_eq_ok] at hacc
  obtain ⟨sender, hsender, feeAddr, hfee, expected, hexp, found, hfound, tx', htx, _,
    hsigner, _, -, hrest⟩ := hacc
  cases hfound
  cases htx
  refine ⟨sender, feeAddr, expected, hsender, hfee, hexp, not_not.mp hsigner, ?_⟩
  cases hcoin : coin.coinType with
  | eth =>
    rw [hcoin] at hrest
    simp only [except_bind_eq_ok, refuseIf_eq_ok] at hrest
    obtain ⟨_, hto, hvalue⟩ := hrest
    exact ⟨not_not.mp hto, not_lt.mp hvalue⟩
  | erc20 tokenAddr =>
    rw [hcoin] at hrest
    simp only [except_bind_eq_ok, refuseIf_eq_ok, unwrap_eq_ok, requireSome_eq_ok] at hrest
    obtain ⟨_, hto, data, hdata, ⟨toAddr, value⟩, hdec, _, hfeeAddr, hvalue⟩ := hrest
    rw [Option.ite_none_right_eq_some, Option.some.injEq] at hdata
    obtain ⟨-, rfl⟩ := hdata
    rw [not_not] at hto hfeeAddr
    subst hfeeAddr
    exact ⟨hto, value, hdec, not_lt.mp hvalue⟩
  | tron =>
    rw [hcoin] at hrest
    cases hrest

/-! ## A token that only transfers -/

def plainToken : Erc20Contract where
  call caller input :=
    if input.take 4 = transferSelector then
      (decodeTransferInput (input.drop 4)).map fun (toAddr, value) => [⟨caller, toAddr, value⟩]
    else some []
  transfer_moves := by
    intro caller input toAddr value transfers hselector hdecode hcall
    rw [if_pos hselector, hdecode] at hcall
    cases hcall
    simp [moved]

def sampleAddress : Address := ⟨List.replicate 20 255, rfl⟩

def sampleFeeArgs : ValidateFeeArgs where
  expectedSender := .ok (.zero 20)
  feeAddr := .ok sampleAddress
  dexFee := .standard 1
  minBlockNumber := 0

/-- The call data are the selector and two words of ones. -/
def sampleCall (tokenAddr : Address) (selector : List UInt8) : RpcTransaction where
  signer := .zero 20
  toAddr := some tokenAddr
  value := 0
  input := selector ++ List.replicate 64 255
  blockNumber := none

theorem expectedValue_sample (coinType : EthCoinType) :
    expectedValue ⟨coinType, 18⟩ sampleFeeArgs = .ok (10 ^ 18) := by
  have hwei : weiFromBigDecimal (toDecimal 1) 18 = .ok (10 ^ 18) := by decide +kernel
  exact hwei

section SampleCall

variable {tokenAddr : Address} {selector : List UInt8}

theorem validateFee_sampleCall (hsel : selector.length = 4) :
    validateFee ⟨.erc20 tokenAddr, 18⟩ sampleFeeArgs
      (.ok (some (sampleCall tokenAddr selector))) = .ok () := by
  have hdata : (sampleCall tokenAddr selector).input.drop 4 = List.replicate 64 255 :=
    List.drop_left' hsel
  have hlen : 4 ≤ (sampleCall tokenAddr selector).input.length := by
    simp [sampleCall, hsel]
  have hdec : decodeTransferInput (List.replicate 64 255) = some (sampleAddress, 2 ^ 256 - 1) := by
    decide +kernel
  unfold validateFee
  rw [expectedValue_sample]
  simp only [except_bind_eq_ok, mapError_eq_ok, refuseIf_eq_ok, requireSome_eq_ok, unwrap_eq_ok]
  refine ⟨_, rfl, _, rfl, _, rfl, _, rfl, _, rfl, (), not_not.mpr rfl, (), Bool.false_ne_true, (),
    not_not.mpr rfl, _, if_pos hlen, (sampleAddress, 2 ^ 256 - 1), ?_, (), not_not.mpr rfl,
    by norm_num⟩
  rw [hdata, hdec]

theorem execute_sampleCall (hsel : selector.length = 4) (hother : selector ≠ transferSelector) :
    execute (.erc20 tokenAddr) plainToken (sampleCall tokenAddr selector) = some [] := by
  have htake : (sampleCall tokenAddr selector).input.take 4 ≠ transferSelector := by
    rwa [sampleCall, List.take_left' hsel]
  exact (if_pos rfl).trans (if_neg htake)

end SampleCall

/-- Every accepted transaction whose call data start with the selector pays the fee. -/
def PaysFee (coinType : EthCoinType) (selector : List UInt8) : Prop :=
  ∀ (decimals : UInt8) (args : ValidateFeeArgs) (tx : RpcTransaction) (feeAddr : Address)
    (token : Erc20Contract) (transfers : List Transfer),
    args.feeAddr = .ok feeAddr → tx.input.take 4 = selector →
    validateFee ⟨coinType, decimals⟩ args (.ok (some tx)) = .ok () →
    execute coinType token tx = some transfers →
    ∃ sender expected, args.expectedSender = .ok sender ∧
      expectedValue ⟨coinType, decimals⟩ args = .ok expected ∧
      expected ≤ moved sender feeAddr transfers

/-- What the accepted transactions execute moves the fee exactly on the native coin and
for calls of `transfer`. -/
theorem accepted_fee_paid_iff (coinType : EthCoinType) (selector : List UInt8) :
    PaysFee coinType selector ↔ ∀ tokenAddr, coinType = .erc20 tokenAddr →
      selector.length = 4 → selector = transferSelector := by
  constructor
  · rintro hpays tokenAddr rfl hlength
    by_contra hother
    obtain ⟨sender, expected, hsender, hexpected, hmoved⟩ := hpays 18 sampleFeeArgs _
      sampleAddress plainToken [] rfl (List.take_left' hlength)
      (validateFee_sampleCall hlength) (execute_sampleCall hlength hother)
    rw [expectedValue_sample] at hexpected
    cases hexpected
    change 10 ^ 18 ≤ 0 at hmoved
    omega
  · intro hselector decimals args tx feeAddr token transfers hfeeAddr htake haccepted hexecute
    obtain ⟨sender, fee, expected, hsender, hfee, hexpected, hsigner, hpaid⟩ :=
      validateFee_eq_ok haccepted
    rw [hfeeAddr] at hfee
    cases hfee
    refine ⟨sender, expected, hsender, hexpected, ?_⟩
    subst hsigner
    cases coinType with
    | eth =>
      rw [execute, hpaid.1] at hexecute
      cases hexecute
      simpa [moved] using hpaid.2
    | erc20 tokenAddr =>
      obtain ⟨hto, value, hdecode, hvalue⟩ := hpaid
      rw [execute, if_pos hto] at hexecute
      have hlength : selector.length = 4 := by
        unfold decodeTransferInput at hdecode
        split at hdecode
        · next hlong =>
          rw [List.length_drop] at hlong
          rw [← htake, List.length_take]
          omega
        · cases hdecode
      have htransfer := htake.trans (hselector tokenAddr rfl hlength)
      exact hvalue.trans (token.transfer_moves _ _ _ _ _ htransfer hdecode hexecute)
    | tron => exact hpaid.elim

/-- The maker accepts a call of `approve` as the payment of the fee. -/
theorem approve_accepted_as_fee :
    validateFee ⟨.erc20 (.zero 20), 18⟩ sampleFeeArgs
        (.ok (some (sampleCall (.zero 20) [0x09, 0x5e, 0xa7, 0xb3]))) = .ok () ∧
      execute (.erc20 (.zero 20)) plainToken
        (sampleCall (.zero 20) [0x09, 0x5e, 0xa7, 0xb3]) = some [] ∧
      expectedValue ⟨.erc20 (.zero 20), 18⟩ sampleFeeArgs = .ok (10 ^ 18) :=
  ⟨validateFee_sampleCall rfl, execute_sampleCall rfl (by decide), expectedValue_sample _⟩

end KdfProtocol.Evm
