import KdfProtocol.MakerSwapV2
import KdfProtocol.TakerSwapV2

/-!
# The stored record of a V2 swap

A machine is stored as a row of the table of swaps: integers in columns of signed
64-bit integers, keys and hashes as bytes, and amounts as the text of a decimal.
Everything but the amounts comes back as it was.  An amount comes back as the
decimal with a hundred digits that was printed, so the record survives the
storage exactly if its amounts are such decimals.
-/

namespace KdfProtocol

namespace V2

/-! ## Columns -/

/-- A row of the table; `ε` is the type of the stored events. -/
structure MySwapsRow (ε : Type) where
  myCoin : String
  otherCoin : String
  startedAt : Int64
  swapType : Int64
  isFinished : Bool
  events : List ε
  makerVolume : String
  takerVolume : String
  premium : String
  dexFee : String
  dexFeeBurn : String
  secret : Bytes
  secretHash : Bytes
  secretHashAlgo : Int64
  p2pPrivkey : Bytes
  lockDuration : Int64
  makerCoinConfs : Int64
  makerCoinNota : Int64
  takerCoinConfs : Int64
  takerCoinNota : Int64
  otherP2pPub : Bytes
  swapVersion : Int64

open MySwapsRow

def secretHashAlgoToI64 : SecretHashAlgo → Int64
  | .dhash160 => 0
  | .sha256 => 1

def secretHashAlgoOfI64 (algo : Int64) : SecretHashAlgo :=
  if algo.toUInt64.toUInt8 = 1 then .sha256 else .dhash160

def boolToI64 (b : Bool) : Int64 :=
  if b then 1 else 0

def u8ToI64 (n : UInt8) : Int64 :=
  n.toUInt64.toInt64

def amountToText (amount : ℚ) : String :=
  (rationalToDec amount).toText

def amountOfText (text : String) : Except String ℚ :=
  match Decimal.Signed.ofText? text with
  | some decimal => .ok decimal.toRat
  | none => .error
      ("Could not deserialize any variant of MmNumber from " ++ text)

def keypairToBlob (keypair : Option Bytes) : Bytes :=
  keypair.getD []

/-- A key of zeros stands for no key. -/
def keypairOfBlob (blob : Bytes) : Option Bytes :=
  if blob.any (· ≠ 0) then some blob else none

def makerSwapV2Type : UInt8 := 1

def takerSwapV2Type : UInt8 := 2

/-! ## Writing -/

structure SwapV2InsertFields where
  myCoin : String
  otherCoin : String
  startedAt : UInt64
  swapType : UInt8
  makerVolume : String
  takerVolume : String
  premium : String
  dexFee : String
  dexFeeBurn : String
  secret : Bytes
  secretHash : Bytes
  secretHashAlgo : Int64
  p2pPrivkey : Bytes
  lockDuration : UInt64
  makerCoinConfs : UInt64
  makerCoinNota : Bool
  takerCoinConfs : UInt64
  takerCoinNota : Bool
  otherP2pPub : Bytes
  swapVersion : UInt8

def insertSwapV2 (ε : Type) (fields : SwapV2InsertFields) : MySwapsRow ε where
  myCoin := fields.myCoin
  otherCoin := fields.otherCoin
  startedAt := fields.startedAt.toInt64
  swapType := u8ToI64 fields.swapType
  isFinished := false
  events := []
  makerVolume := fields.makerVolume
  takerVolume := fields.takerVolume
  premium := fields.premium
  dexFee := fields.dexFee
  dexFeeBurn := fields.dexFeeBurn
  secret := fields.secret
  secretHash := fields.secretHash
  secretHashAlgo := fields.secretHashAlgo
  p2pPrivkey := fields.p2pPrivkey
  lockDuration := fields.lockDuration.toInt64
  makerCoinConfs := fields.makerCoinConfs.toInt64
  makerCoinNota := boolToI64 fields.makerCoinNota
  takerCoinConfs := fields.takerCoinConfs.toInt64
  takerCoinNota := boolToI64 fields.takerCoinNota
  otherP2pPub := fields.otherP2pPub
  swapVersion := u8ToI64 fields.swapVersion

variable (repr : MakerSwapDbRepr) (coins : SwapCoins)

def insertSwapV2Maker : MySwapsRow MakerSwapEvent :=
  insertSwapV2 MakerSwapEvent
    { myCoin := repr.makerCoin
      otherCoin := repr.takerCoin
      startedAt := repr.startedAt
      swapType := makerSwapV2Type
      makerVolume := amountToText repr.makerVolume
      takerVolume := amountToText repr.takerVolume
      premium := amountToText repr.takerPremium
      dexFee := amountToText repr.dexFeeAmount
      dexFeeBurn := amountToText repr.dexFeeBurn
      secret := repr.makerSecret
      secretHash := repr.makerSecretHash
      secretHashAlgo := secretHashAlgoToI64 repr.secretHashAlgo
      p2pPrivkey := keypairToBlob repr.p2pKeypair
      lockDuration := repr.lockDuration
      makerCoinConfs := repr.confSettings.makerCoinConfs
      makerCoinNota := repr.confSettings.makerCoinNota
      takerCoinConfs := repr.confSettings.takerCoinConfs
      takerCoinNota := repr.confSettings.takerCoinNota
      otherP2pPub := repr.takerP2pPub
      swapVersion := repr.swapVersion }

def insertSwapV2Taker (repr : TakerSwapDbRepr) : MySwapsRow TakerSwapEvent :=
  insertSwapV2 TakerSwapEvent
    { myCoin := repr.takerCoin
      otherCoin := repr.makerCoin
      startedAt := repr.startedAt
      swapType := takerSwapV2Type
      makerVolume := amountToText repr.makerVolume
      takerVolume := amountToText repr.takerVolume
      premium := amountToText repr.takerPremium
      dexFee := amountToText repr.dexFeeAmount
      dexFeeBurn := amountToText repr.dexFeeBurn
      secret := repr.takerSecret
      secretHash := repr.takerSecretHash
      secretHashAlgo := secretHashAlgoToI64 repr.secretHashAlgo
      p2pPrivkey := keypairToBlob repr.p2pKeypair
      lockDuration := repr.lockDuration
      makerCoinConfs := repr.confSettings.makerCoinConfs
      makerCoinNota := repr.confSettings.makerCoinNota
      takerCoinConfs := repr.confSettings.takerCoinConfs
      takerCoinNota := repr.confSettings.takerCoinNota
      otherP2pPub := repr.makerP2pPub
      swapVersion := repr.swapVersion }

def MySwapsRow.appendEvent {ε : Type} (row : MySwapsRow ε) (event : ε) : MySwapsRow ε :=
  { row with events := row.events ++ [event] }

/-! ## Reading -/

def MySwapsRow.confSettings {ε : Type} (row : MySwapsRow ε) : SwapConfirmationsSettings where
  makerCoinConfs := row.makerCoinConfs.toUInt64
  makerCoinNota := row.makerCoinNota ≠ 0
  takerCoinConfs := row.takerCoinConfs.toUInt64
  takerCoinNota := row.takerCoinNota ≠ 0

structure StoredAmounts where
  makerVolume : ℚ
  takerVolume : ℚ
  premium : ℚ
  dexFee : ℚ
  dexFeeBurn : ℚ

def MySwapsRow.amounts {ε : Type} (row : MySwapsRow ε) : Except String StoredAmounts := do
  let makerVolume ← amountOfText row.makerVolume
  let takerVolume ← amountOfText row.takerVolume
  let premium ← amountOfText row.premium
  let dexFee ← amountOfText row.dexFee
  let dexFeeBurn ← amountOfText row.dexFeeBurn
  pure ⟨makerVolume, takerVolume, premium, dexFee, dexFeeBurn⟩

def getMakerSwapRepr (uuid : Uuid) (row : MySwapsRow MakerSwapEvent) :
    Except String MakerSwapDbRepr := do
  let amounts ← row.amounts
  pure
    { makerCoin := row.myCoin
      makerVolume := amounts.makerVolume
      makerSecret := copyTo32 row.secret
      makerSecretHash := row.secretHash
      secretHashAlgo := secretHashAlgoOfI64 row.secretHashAlgo
      startedAt := row.startedAt.toUInt64
      lockDuration := row.lockDuration.toUInt64
      takerCoin := row.otherCoin
      takerVolume := amounts.takerVolume
      takerPremium := amounts.premium
      dexFeeAmount := amounts.dexFee
      dexFeeBurn := amounts.dexFeeBurn
      confSettings := row.confSettings
      uuid := uuid
      p2pKeypair := keypairOfBlob row.p2pPrivkey
      events := row.events
      takerP2pPub := row.otherP2pPub
      swapVersion := row.swapVersion.toUInt64.toUInt8 }

def getTakerSwapRepr (uuid : Uuid) (row : MySwapsRow TakerSwapEvent) :
    Except String TakerSwapDbRepr := do
  let amounts ← row.amounts
  pure
    { makerCoin := row.otherCoin
      makerVolume := amounts.makerVolume
      takerSecret := copyTo32 row.secret
      takerSecretHash := row.secretHash
      secretHashAlgo := secretHashAlgoOfI64 row.secretHashAlgo
      startedAt := row.startedAt.toUInt64
      lockDuration := row.lockDuration.toUInt64
      takerCoin := row.myCoin
      takerVolume := amounts.takerVolume
      takerPremium := amounts.premium
      dexFeeAmount := amounts.dexFee
      dexFeeBurn := amounts.dexFeeBurn
      confSettings := row.confSettings
      uuid := uuid
      p2pKeypair := keypairOfBlob row.p2pPrivkey
      events := row.events
      makerP2pPub := row.otherP2pPub
      swapVersion := row.swapVersion.toUInt64.toUInt8 }

/-! ## One column -/

@[simp] theorem amountOfText_amountToText (amount : ℚ) :
    amountOfText (amountToText amount) = .ok (toDecimal amount) := by
  unfold amountOfText amountToText
  rw [Decimal.Signed.ofText?_toText]
  rfl

@[simp] theorem secretHashAlgoOfI64_toI64 (algo : SecretHashAlgo) :
    secretHashAlgoOfI64 (secretHashAlgoToI64 algo) = algo := by
  cases algo <;> decide

@[simp] theorem boolToI64_eq_zero (b : Bool) : boolToI64 b = 0 ↔ b = false := by
  cases b <;> decide

@[simp] theorem u8ToI64_toUInt8 (n : UInt8) : (u8ToI64 n).toUInt64.toUInt8 = n := by
  simp [u8ToI64]

/-- Every key that is stored has a byte that is not zero. -/
def NonzeroKey (keypair : Option Bytes) : Prop :=
  ∀ key, keypair = some key → key.any (· ≠ 0) = true

theorem keypairOfBlob_toBlob {keypair : Option Bytes} (hkey : NonzeroKey keypair) :
    keypairOfBlob (keypairToBlob keypair) = keypair := by
  cases keypair with
  | none => rfl
  | some key => exact if_pos (hkey key rfl)

/-! ## Whole records -/

section WholeRecords

variable {ε : Type}

theorem foldl_appendEvent (row : MySwapsRow ε) (events : List ε) :
    events.foldl appendEvent row = { row with events := row.events ++ events } := by
  induction events generalizing row with
  | nil => rw [List.foldl_nil, List.append_nil]
  | cons event rest ih =>
    rw [List.foldl_cons, ih]
    simp [appendEvent]

theorem MySwapsRow.amounts_eq_ok {row : MySwapsRow ε}
    {makerVolume takerVolume premium dexFee dexFeeBurn : ℚ}
    (hmaker : row.makerVolume = amountToText makerVolume)
    (htaker : row.takerVolume = amountToText takerVolume)
    (hpremium : row.premium = amountToText premium) (hfee : row.dexFee = amountToText dexFee)
    (hburn : row.dexFeeBurn = amountToText dexFeeBurn) :
    row.amounts = .ok ⟨toDecimal makerVolume, toDecimal takerVolume,
      toDecimal premium, toDecimal dexFee, toDecimal dexFeeBurn⟩ := by
  unfold amounts
  rw [hmaker, htaker, hpremium, hfee, hburn]
  simp only [amountOfText_amountToText]
  rfl

end WholeRecords

/-- The row of a record: the new row, and every event appended to it. -/
def MakerSwapDbRepr.row : MySwapsRow MakerSwapEvent :=
  repr.events.foldl MySwapsRow.appendEvent (insertSwapV2Maker repr)

def TakerSwapDbRepr.row (repr : TakerSwapDbRepr) : MySwapsRow TakerSwapEvent :=
  repr.events.foldl MySwapsRow.appendEvent (insertSwapV2Taker repr)

def MakerSwapDbRepr.printed : MakerSwapDbRepr :=
  { repr with
    makerVolume := toDecimal repr.makerVolume
    takerVolume := toDecimal repr.takerVolume
    takerPremium := toDecimal repr.takerPremium
    dexFeeAmount := toDecimal repr.dexFeeAmount
    dexFeeBurn := toDecimal repr.dexFeeBurn }

def TakerSwapDbRepr.printed (repr : TakerSwapDbRepr) : TakerSwapDbRepr :=
  { repr with
    makerVolume := toDecimal repr.makerVolume
    takerVolume := toDecimal repr.takerVolume
    takerPremium := toDecimal repr.takerPremium
    dexFeeAmount := toDecimal repr.dexFeeAmount
    dexFeeBurn := toDecimal repr.dexFeeBurn }

theorem getMakerSwapRepr_row {repr : MakerSwapDbRepr} (hsec : repr.makerSecret.length = 32)
    (hkey : NonzeroKey repr.p2pKeypair) :
    getMakerSwapRepr repr.uuid repr.row = .ok repr.printed := by
  unfold MakerSwapDbRepr.row getMakerSwapRepr
  rw [foldl_appendEvent, amounts_eq_ok rfl rfl rfl rfl rfl]
  simp [confSettings, insertSwapV2Maker, insertSwapV2,
    copyTo32_eq_self hsec, keypairOfBlob_toBlob hkey, MakerSwapDbRepr.printed]

theorem getTakerSwapRepr_row {repr : TakerSwapDbRepr} (hsec : repr.takerSecret.length = 32)
    (hkey : NonzeroKey repr.p2pKeypair) :
    getTakerSwapRepr repr.uuid repr.row = .ok repr.printed := by
  unfold TakerSwapDbRepr.row getTakerSwapRepr
  rw [foldl_appendEvent, amounts_eq_ok rfl rfl rfl rfl rfl]
  simp [confSettings, insertSwapV2Taker, insertSwapV2,
    copyTo32_eq_self hsec, keypairOfBlob_toBlob hkey, TakerSwapDbRepr.printed]

theorem toDecimal_zero : toDecimal 0 = 0 :=
  (toDecimal_eq_iff le_rfl).mpr (Or.inl rfl)

theorem MakerSwapStateMachine.row_toDbRepr (machine : MakerSwapStateMachine) :
    (machine.toDbRepr coins).row = insertSwapV2Maker (machine.toDbRepr coins) :=
  rfl

theorem MakerSwapStateMachine.printed_toDbRepr_iff {machine : MakerSwapStateMachine}
    (hmaker : 0 ≤ machine.makerVolume) (htaker : 0 ≤ machine.takerVolume)
    (hpremium : 0 ≤ machine.takerPremium) :
    (machine.toDbRepr coins).printed = machine.toDbRepr coins ↔
      ExactDecimal machine.makerVolume ∧ ExactDecimal machine.takerVolume ∧
        ExactDecimal machine.takerPremium := by
  rw [← toDecimal_eq_iff hmaker, ← toDecimal_eq_iff htaker, ← toDecimal_eq_iff hpremium]
  simp [MakerSwapDbRepr.printed, toDbRepr, toDecimal_zero]

theorem TakerSwapStateMachine.row_toDbRepr (machine : TakerSwapStateMachine) :
    (machine.toDbRepr coins).row = insertSwapV2Taker (machine.toDbRepr coins) :=
  rfl

theorem TakerSwapStateMachine.printed_toDbRepr_iff {machine : TakerSwapStateMachine}
    (hmaker : 0 ≤ machine.makerVolume) (htaker : 0 ≤ machine.takerVolume)
    (hpremium : 0 ≤ machine.takerPremium) :
    (machine.toDbRepr coins).printed = machine.toDbRepr coins ↔
      ExactDecimal machine.makerVolume ∧ ExactDecimal machine.takerVolume ∧
        ExactDecimal machine.takerPremium := by
  rw [← toDecimal_eq_iff hmaker, ← toDecimal_eq_iff htaker, ← toDecimal_eq_iff hpremium]
  simp [TakerSwapDbRepr.printed, toDbRepr, toDecimal_zero]

/-- The record of a new machine, whose amounts are not negative, is read back
as it was stored exactly if its amounts are whole numbers or decimals with at
most a hundred digits. -/
theorem stored_record_survives_iff (coins : SwapCoins) (maker : MakerSwapStateMachine)
    (taker : TakerSwapStateMachine) (hmakerSecret : maker.secret.length = 32)
    (htakerSecret : taker.takerSecret.length = 32) (hmakerKey : NonzeroKey maker.p2pKeypair)
    (htakerKey : NonzeroKey taker.p2pKeypair)
    (hmaker : 0 ≤ maker.makerVolume ∧ 0 ≤ maker.takerVolume ∧ 0 ≤ maker.takerPremium)
    (htaker : 0 ≤ taker.makerVolume ∧ 0 ≤ taker.takerVolume ∧ 0 ≤ taker.takerPremium) :
    (getMakerSwapRepr maker.uuid (insertSwapV2Maker (maker.toDbRepr coins)) =
        .ok (maker.toDbRepr coins) ↔
      ExactDecimal maker.makerVolume ∧ ExactDecimal maker.takerVolume ∧
        ExactDecimal maker.takerPremium) ∧
    (getTakerSwapRepr taker.uuid (insertSwapV2Taker (taker.toDbRepr coins)) =
        .ok (taker.toDbRepr coins) ↔
      ExactDecimal taker.makerVolume ∧ ExactDecimal taker.takerVolume ∧
        ExactDecimal taker.takerPremium) := by
  constructor
  · have hread : getMakerSwapRepr maker.uuid (maker.toDbRepr coins).row =
        .ok (maker.toDbRepr coins).printed :=
      getMakerSwapRepr_row hmakerSecret hmakerKey
    rw [maker.row_toDbRepr] at hread
    rw [hread, Except.ok.injEq]
    exact maker.printed_toDbRepr_iff coins hmaker.1 hmaker.2.1 hmaker.2.2
  · have hread : getTakerSwapRepr taker.uuid (taker.toDbRepr coins).row =
        .ok (taker.toDbRepr coins).printed :=
      getTakerSwapRepr_row htakerSecret htakerKey
    rw [taker.row_toDbRepr] at hread
    rw [hread, Except.ok.injEq]
    exact taker.printed_toDbRepr_iff coins htaker.1 htaker.2.1 htaker.2.2

theorem sample_record_survives :
    getMakerSwapRepr 0
        (insertSwapV2Maker ((sampleMaker 1700000000).toDbRepr sampleCoins)) =
      .ok ((sampleMaker 1700000000).toDbRepr sampleCoins) ∧
    getTakerSwapRepr 0
        (insertSwapV2Taker ((sampleTaker 1700000000).toDbRepr sampleCoins)) =
      .ok ((sampleTaker 1700000000).toDbRepr sampleCoins) := by
  have hnone : NonzeroKey none := by
    intro key hkey
    cases hkey
  have hboth := stored_record_survives_iff sampleCoins (sampleMaker 1700000000)
    (sampleTaker 1700000000) rfl rfl hnone hnone (by decide) (by decide)
  exact ⟨hboth.1.mpr ⟨Or.inl rfl, Or.inl rfl, Or.inl rfl⟩,
    hboth.2.mpr ⟨Or.inl rfl, Or.inl rfl, Or.inl rfl⟩⟩

/-- A third of a coin comes back as a decimal with a hundred digits. -/
theorem third_of_a_coin_changes :
    (getMakerSwapRepr 0 (insertSwapV2Maker
      ({ sampleMaker 1700000000 with makerVolume := 1 / 3 }.toDbRepr
        sampleCoins))).map MakerSwapDbRepr.makerVolume =
      .ok ((10 ^ 100 - 1) / 3 / 10 ^ 100) ∧
    (((10 ^ 100 - 1) / 3 / 10 ^ 100 : ℚ) ≠ 1 / 3) ∧
    (getTakerSwapRepr 0 (insertSwapV2Taker
      ({ sampleTaker 1700000000 with takerPremium := 1 / 3 }.toDbRepr
        sampleCoins))).map TakerSwapDbRepr.takerPremium =
      .ok ((10 ^ 100 - 1) / 3 / 10 ^ 100) := by
  refine ⟨by decide +kernel, by norm_num, by decide +kernel⟩

end V2

end KdfProtocol
