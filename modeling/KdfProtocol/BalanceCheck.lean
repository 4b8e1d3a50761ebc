import KdfProtocol.MakerReservation
import KdfProtocol.SwapMessagesV2

/-!
# The balance check of a swap

Before a swap starts, its side checks the coin it pays with and the coin that pays the
fees of the other one.  Each check compares with the whole balance that other swaps
leave, so what two checks demand of one coin is not added up.
-/

namespace KdfProtocol

open V2

/-! ## The checks -/

/-- `feeTicker` is the coin that pays the network fees: the coin or its platform. -/
structure SwapCoin where
  ticker : String
  feeTicker : String

/-- The balances, what other swaps lock, and the coins whose balance can be read. -/
structure SwapWallet where
  balance : String → ℚ
  locked : String → ℚ
  readable : String → Except CheckBalanceError Unit

open SwapWallet

namespace SwapWallet

def available (wallet : SwapWallet) (ticker : String) : ℚ :=
  wallet.balance ticker - wallet.locked ticker

def readBalance (wallet : SwapWallet) (ticker : String) : Except CheckBalanceError ℚ := do
  wallet.readable ticker
  return wallet.balance ticker

def checkBaseCoinBalanceForSwap (wallet : SwapWallet) (balance : ℚ)
    (tradeFee : TradeFee) : Except CheckBalanceError Unit :=
  let locked := wallet.locked tradeFee.coin
  let available := balance - locked
  if available < tradeFee.amount then
    throw (.notSufficientBaseCoinBalance tradeFee.coin available tradeFee.amount (some locked))
  else return ()

end SwapWallet

structure TakerFeeAdditionalInfo where
  dexFee : ℚ
  feeToSendDexFee : TradeFee

/-- The fee of the own payment with that of the dex fee, and the dex fee. -/
def totalFees (tradeFee : TradeFee) :
    Option TakerFeeAdditionalInfo → Except CheckBalanceError (TradeFee × ℚ)
  | some takerFee =>
    if takerFee.feeToSendDexFee.coin ≠ tradeFee.coin then
      throw (.internalError ("trade_fee " ++ tradeFee.coin.quote ++
        " and fee_to_send_dex_fee " ++ takerFee.feeToSendDexFee.coin.quote ++
        " coins are expected to be the same"))
    else
      return ({ tradeFee with
        amount := tradeFee.amount + takerFee.feeToSendDexFee.amount }, takerFee.dexFee)
  | none => return (tradeFee, 0)

namespace SwapWallet

/-- The fee that the coin itself pays; the fee of a token is checked on its platform. -/
def totalTradeFee (wallet : SwapWallet) (coin : SwapCoin) (tradeFee : TradeFee) :
    Except CheckBalanceError ℚ :=
  if coin.ticker = tradeFee.coin then return tradeFee.amount
  else do
    let baseCoinBalance ← wallet.readBalance coin.feeTicker
    wallet.checkBaseCoinBalanceForSwap baseCoinBalance tradeFee
    return 0

def checkMyCoinBalanceForSwap (wallet : SwapWallet) (coin : SwapCoin) (volume : ℚ)
    (tradeFee : TradeFee) (takerFee : Option TakerFeeAdditionalInfo) :
    Except CheckBalanceError ℚ := do
  let balance ← wallet.readBalance coin.ticker
  let locked := wallet.locked coin.ticker
  let (tradeFee, dexFee) ← totalFees tradeFee takerFee
  let totalTradeFee ← wallet.totalTradeFee coin tradeFee
  let required := volume + totalTradeFee + dexFee
  let available := balance - locked
  if available < required then
    throw (.notSufficientBalance coin.ticker available required (some locked))
  else return balance

def checkOtherCoinBalanceForSwap (wallet : SwapWallet) (coin : SwapCoin)
    (tradeFee : TradeFee) : Except CheckBalanceError Unit := do
  if tradeFee.paidFromTradingVol then return ()
  else
    let balance ← wallet.readBalance coin.ticker
    let locked := wallet.locked coin.ticker
    if coin.ticker = tradeFee.coin then
      let available := balance - locked
      if available < tradeFee.amount then
        throw (.notSufficientBalance coin.ticker available tradeFee.amount (some locked))
      else return ()
    else do
      let baseCoinBalance ← wallet.readBalance coin.feeTicker
      wallet.checkBaseCoinBalanceForSwap baseCoinBalance tradeFee

end SwapWallet

structure TakerSwapPreparedParams where
  dexFee : ℚ
  feeToSendDexFee : TradeFee
  takerPaymentTradeFee : TradeFee
  makerPaymentSpendTradeFee : TradeFee

structure MakerSwapPreparedParams where
  makerPaymentTradeFee : TradeFee
  takerPaymentSpendTradeFee : TradeFee

namespace SwapWallet

/-- `params` are given, or are the answers of the coins. -/
def checkBalanceForTakerSwap (wallet : SwapWallet) (myCoin otherCoin : SwapCoin)
    (volume : ℚ) (params : Except CheckBalanceError TakerSwapPreparedParams) :
    Except CheckBalanceError Unit := do
  let params ← params
  let _ ← wallet.checkMyCoinBalanceForSwap myCoin volume params.takerPaymentTradeFee
    (some ⟨params.dexFee, params.feeToSendDexFee⟩)
  if !params.makerPaymentSpendTradeFee.paidFromTradingVol then
    wallet.checkOtherCoinBalanceForSwap otherCoin params.makerPaymentSpendTradeFee
  else return ()

def checkBalanceForMakerSwap (wallet : SwapWallet) (myCoin otherCoin : SwapCoin)
    (volume : ℚ) (params : Except CheckBalanceError MakerSwapPreparedParams) :
    Except CheckBalanceError ℚ := do
  let params ← params
  let balance ← wallet.checkMyCoinBalanceForSwap myCoin volume params.makerPaymentTradeFee none
  wallet.checkOtherCoinBalanceForSwap otherCoin params.takerPaymentSpendTradeFee
  return balance

end SwapWallet

/-! ## What the swap takes -/

/-- Of each coin that is charged, the wallet has what all charges on it come to. -/
def SwapWallet.Covers (wallet : SwapWallet) (charges : List (String × ℚ)) : Prop :=
  ∀ ticker ∈ charges.map Prod.fst,
    ((charges.filter fun charge => charge.1 = ticker).map Prod.snd).sum ≤ wallet.available ticker

def TradeFee.charges (fee : TradeFee) : List (String × ℚ) :=
  if fee.paidFromTradingVol then [] else [(fee.coin, fee.amount)]

open TradeFee

def ownCharges (myCoin : SwapCoin) (volume : ℚ) (fee : TradeFee) :
    Option TakerFeeAdditionalInfo → List (String × ℚ)
  | none => [(myCoin.ticker, volume), (fee.coin, fee.amount)]
  | some info => [(myCoin.ticker, volume), (fee.coin, fee.amount),
      (myCoin.ticker, info.dexFee),
      (info.feeToSendDexFee.coin, info.feeToSendDexFee.amount)]

def takerCharges (myCoin : SwapCoin) (volume : ℚ) (params : TakerSwapPreparedParams) :
    List (String × ℚ) :=
  ownCharges myCoin volume params.takerPaymentTradeFee
      (some ⟨params.dexFee, params.feeToSendDexFee⟩) ++
    TradeFee.charges params.makerPaymentSpendTradeFee

def makerCharges (myCoin : SwapCoin) (volume : ℚ) (params : MakerSwapPreparedParams) :
    List (String × ℚ) :=
  ownCharges myCoin volume params.makerPaymentTradeFee none ++
    TradeFee.charges params.takerPaymentSpendTradeFee

section Checks

variable {wallet : SwapWallet} {coin : SwapCoin} {fee : TradeFee}

variable {takerFee : Option TakerFeeAdditionalInfo} {result : Unit} {balance : ℚ}

theorem SwapWallet.readBalance_eq_ok {ticker : String}
    (hread : wallet.readBalance ticker = .ok balance) : balance = wallet.balance ticker := by
  obtain ⟨_, _, hreturn⟩ := except_bind_eq_ok.mp hread
  cases hreturn
  rfl

theorem SwapWallet.checkBase_eq_ok
    (hcheck : wallet.checkBaseCoinBalanceForSwap balance fee = .ok result) :
    fee.amount ≤ balance - wallet.locked fee.coin := by
  simp only [checkBaseCoinBalanceForSwap] at hcheck
  split_ifs at hcheck with hshort
  exact not_lt.mp hshort

theorem totalFees_coin {total : TradeFee} {dexFee : ℚ}
    (htotal : totalFees fee takerFee = .ok (total, dexFee)) : total.coin = fee.coin := by
  cases takerFee with
  | none =>
    cases htotal
    rfl
  | some info =>
    simp only [totalFees] at htotal
    split_ifs at htotal
    cases htotal
    rfl

theorem SwapWallet.checkMyCoin_eq_ok {volume balance : ℚ} (hcoin : fee.coin = coin.feeTicker)
    (hcheck : wallet.checkMyCoinBalanceForSwap coin volume fee takerFee = .ok balance) :
    ∃ total dexFee, totalFees fee takerFee = .ok (total, dexFee) ∧
      (coin.ticker = coin.feeTicker ∧
          volume + total.amount + dexFee ≤ wallet.available coin.ticker ∨
        coin.ticker ≠ coin.feeTicker ∧ total.amount ≤ wallet.available coin.feeTicker ∧
          volume + dexFee ≤ wallet.available coin.ticker) := by
  obtain ⟨read, hread, hcheck⟩ := except_bind_eq_ok.mp hcheck
  obtain ⟨⟨total, dexFee⟩, htotal, hcheck⟩ := except_bind_eq_ok.mp hcheck
  have hread := readBalance_eq_ok hread
  have hcoinTotal : total.coin = coin.feeTicker := (totalFees_coin htotal).trans hcoin
  refine ⟨total, dexFee, htotal, ?_⟩
  obtain ⟨networkFee, hfee, hcheck⟩ := except_bind_eq_ok.mp hcheck
  have hrequired : volume + networkFee + dexFee ≤ wallet.available coin.ticker := by
    simp only at hcheck
    split_ifs at hcheck with hshort
    rw [hread] at hshort
    exact not_lt.mp hshort
  unfold totalTradeFee at hfee
  rw [hcoinTotal] at hfee
  split_ifs at hfee with hown
  · cases hfee
    exact Or.inl ⟨hown, hrequired⟩
  · obtain ⟨base, hbase, hfee⟩ := except_bind_eq_ok.mp hfee
    obtain ⟨_, hbaseCheck, hfee⟩ := except_bind_eq_ok.mp hfee
    cases hfee
    have hbaseCheck := checkBase_eq_ok hbaseCheck
    rw [readBalance_eq_ok hbase, hcoinTotal] at hbaseCheck
    rw [add_zero] at hrequired
    exact Or.inr ⟨hown, hbaseCheck, hrequired⟩

theorem SwapWallet.checkOtherCoin_eq_ok (hcoin : fee.coin = coin.feeTicker)
    (hcheck : wallet.checkOtherCoinBalanceForSwap coin fee = .ok result) :
    fee.paidFromTradingVol = true ∨ fee.amount ≤ wallet.available fee.coin := by
  unfold checkOtherCoinBalanceForSwap at hcheck
  by_cases hpaid : fee.paidFromTradingVol = true
  · exact Or.inl hpaid
  · rw [if_neg hpaid] at hcheck
    obtain ⟨read, hread, hcheck⟩ := except_bind_eq_ok.mp hcheck
    refine Or.inr ?_
    simp only at hcheck
    split_ifs at hcheck with hown hshort
    · rw [readBalance_eq_ok hread, hown] at hshort
      exact not_lt.mp hshort
    · obtain ⟨base, hbase, hcheck⟩ := except_bind_eq_ok.mp hcheck
      have hcheck := checkBase_eq_ok hcheck
      rw [readBalance_eq_ok hbase, ← hcoin] at hcheck
      exact hcheck

end Checks

/-! ## When the check suffices -/

/-- The fee for the other payment is paid from the volume, or in a coin that pays
nothing else. -/
def FeeStandsAlone (myCoin otherCoin : SwapCoin) (paidFromVolume : Bool) : Prop :=
  paidFromVolume = true ∨
    otherCoin.feeTicker ≠ myCoin.ticker ∧ otherCoin.feeTicker ≠ myCoin.feeTicker

/-- The fees are in the coins that pay the fees of the two coins. -/
def FeesFit (myCoin otherCoin : SwapCoin) (paidFromVolume : Bool)
    (ownFee otherFee : TradeFee) : Prop :=
  ownFee.coin = myCoin.feeTicker ∧ otherFee.coin = otherCoin.feeTicker ∧
    otherFee.paidFromTradingVol = paidFromVolume

section Suffices

variable {wallet : SwapWallet} {myCoin otherCoin : SwapCoin} {volume : ℚ} {paid : Bool}

variable {takerFee : Option TakerFeeAdditionalInfo} {balance : ℚ}

theorem covers_own {fee : TradeFee} (hcoin : fee.coin = myCoin.feeTicker)
    (hcheck : wallet.checkMyCoinBalanceForSwap myCoin volume fee takerFee = .ok balance) :
    wallet.Covers (ownCharges myCoin volume fee takerFee) ∧
      ∀ charge ∈ ownCharges myCoin volume fee takerFee,
        charge.1 = myCoin.ticker ∨ charge.1 = myCoin.feeTicker := by
  obtain ⟨total, dexFee, htotal, hcases⟩ := checkMyCoin_eq_ok hcoin hcheck
  cases takerFee with
  | none =>
    cases htotal
    refine ⟨?_, by simp [ownCharges, hcoin]⟩
    rcases hcases with ⟨heq, hle⟩ | ⟨hne, hfee, hle⟩
    · simp [SwapWallet.Covers, ownCharges, hcoin, heq] at hle ⊢
      linarith
    · simp [SwapWallet.Covers, ownCharges, hcoin, hne, Ne.symm hne] at hle ⊢
      exact ⟨hle, hfee⟩
  | some info =>
    simp only [totalFees] at htotal
    split_ifs at htotal with hsame
    cases htotal
    rw [not_not] at hsame
    refine ⟨?_, by simp [ownCharges, hsame, hcoin]⟩
    rcases hcases with ⟨heq, hle⟩ | ⟨hne, hfee, hle⟩
    · simp [SwapWallet.Covers, ownCharges, hsame, hcoin, heq] at hle ⊢
      linarith
    · simp [SwapWallet.Covers, ownCharges, hsame, hcoin, hne, Ne.symm hne] at hle hfee ⊢
      exact ⟨hle, hfee, hle, hfee⟩

theorem covers_both {fee otherFee : TradeFee}
    (hstands : FeeStandsAlone myCoin otherCoin otherFee.paidFromTradingVol)
    (hcoin : fee.coin = myCoin.feeTicker) (hotherCoin : otherFee.coin = otherCoin.feeTicker)
    (hmine : wallet.checkMyCoinBalanceForSwap myCoin volume fee takerFee = .ok balance)
    (hother : wallet.checkOtherCoinBalanceForSwap otherCoin otherFee = .ok ()) :
    wallet.Covers (ownCharges myCoin volume fee takerFee ++ charges otherFee) := by
  obtain ⟨hcovers, hown⟩ := covers_own hcoin hmine
  unfold charges
  split_ifs with hpaid
  · rw [List.append_nil]
    exact hcovers
  · have halone := hstands.resolve_left hpaid
    have hne : ∀ charge ∈ ownCharges myCoin volume fee takerFee, charge.1 ≠ otherFee.coin := by
      intro charge hmem heq
      rw [hotherCoin] at heq
      rcases hown charge hmem with hticker | hticker
      · exact halone.1 (heq.symm.trans hticker)
      · exact halone.2 (heq.symm.trans hticker)
    intro ticker hticker
    rw [List.filter_append, List.map_append, List.sum_append]
    by_cases heq : otherFee.coin = ticker
    · subst heq
      have hnone : (ownCharges myCoin volume fee takerFee).filter
          (fun charge => charge.1 = otherFee.coin) = [] := by
        simpa using fun charge amount hmem => hne (charge, amount) hmem
      simpa [hnone] using (checkOtherCoin_eq_ok hotherCoin hother).resolve_left hpaid
    · have hmem : ticker ∈ (ownCharges myCoin volume fee takerFee).map Prod.fst := by
        simpa [Ne.symm heq] using hticker
      simpa [heq] using hcovers ticker hmem

def unitWallet : SwapWallet :=
  ⟨fun _ => 1, fun _ => 0, fun _ => .ok ()⟩

theorem clash_cases (hclash : ¬FeeStandsAlone myCoin otherCoin paid) :
    paid = false ∧ ∃ volume fee : ℚ, volume + fee = 1 ∧ 0 ≤ volume ∧ 0 ≤ fee ∧
      (0 < volume ∧ otherCoin.feeTicker = myCoin.ticker ∨
        0 < fee ∧ otherCoin.feeTicker = myCoin.feeTicker) := by
  unfold FeeStandsAlone at hclash
  rw [not_or, not_and_or, not_not, not_not, Bool.not_eq_true] at hclash
  rcases hclash with ⟨hpaid, hticker | hticker⟩
  · exact ⟨hpaid, 1, 0, by norm_num, by norm_num, le_rfl, Or.inl ⟨one_pos, hticker⟩⟩
  · exact ⟨hpaid, 0, 1, by norm_num, le_rfl, by norm_num, Or.inr ⟨one_pos, hticker⟩⟩

theorem unitWallet_own (myCoin : SwapCoin) (takerFee : Option TakerFeeAdditionalInfo)
    {volume fee : ℚ} (hsum : volume + fee = 1) (hvol : 0 ≤ volume) (hfee : 0 ≤ fee)
    (htaker : totalFees ⟨myCoin.feeTicker, fee, false⟩ takerFee =
      .ok (⟨myCoin.feeTicker, fee, false⟩, 0)) :
    unitWallet.checkMyCoinBalanceForSwap myCoin volume ⟨myCoin.feeTicker, fee, false⟩
      takerFee = .ok 1 := by
  have hboth : ¬1 < volume + fee := hsum.not_gt
  have hone : ¬1 < fee := by linarith
  have hother : ¬1 < volume := by linarith
  unfold checkMyCoinBalanceForSwap totalTradeFee
  rw [htaker]
  by_cases heq : myCoin.ticker = myCoin.feeTicker
  · simp [readBalance, unitWallet, bind, Except.bind, pure, Except.pure, heq, hboth]
  · simp [readBalance, checkBaseCoinBalanceForSwap, unitWallet, bind,
      Except.bind, pure, Except.pure, heq, hone, hother]

theorem unitWallet_other :
    unitWallet.checkOtherCoinBalanceForSwap otherCoin ⟨otherCoin.feeTicker, 1, false⟩ = .ok () := by
  by_cases heq : otherCoin.ticker = otherCoin.feeTicker
  · simp [checkOtherCoinBalanceForSwap, readBalance, unitWallet, bind,
      Except.bind, pure, Except.pure, heq]
  · simp [checkOtherCoinBalanceForSwap, checkBaseCoinBalanceForSwap,
      readBalance, unitWallet, bind, Except.bind, pure, Except.pure, heq]

theorem not_covers_unitWallet {fee : ℚ}
    (htaker : takerFee = none ∨ takerFee = some ⟨0, ⟨myCoin.feeTicker, 0, false⟩⟩)
    (hvol : 0 ≤ volume) (hfee : 0 ≤ fee)
    (hticker : 0 < volume ∧ otherCoin.feeTicker = myCoin.ticker ∨
      0 < fee ∧ otherCoin.feeTicker = myCoin.feeTicker) :
    ¬unitWallet.Covers (ownCharges myCoin volume ⟨myCoin.feeTicker, fee, false⟩ takerFee ++
      charges ⟨otherCoin.feeTicker, 1, false⟩) := by
  intro hcovers
  have hexceeds := hcovers otherCoin.feeTicker (by simp [charges])
  by_cases heq : myCoin.ticker = myCoin.feeTicker
  · rcases htaker with rfl | rfl <;> rcases hticker with ⟨hpos, hcoin⟩ | ⟨hpos, hcoin⟩ <;>
      simp [ownCharges, charges, unitWallet, available, hcoin, heq] at hexceeds <;> linarith
  · rcases htaker with rfl | rfl <;> rcases hticker with ⟨hpos, hcoin⟩ | ⟨hpos, hcoin⟩ <;>
      simp [ownCharges, charges, unitWallet, available, hcoin, heq,
        Ne.symm heq] at hexceeds <;> linarith

end Suffices

/-- For the coins of a swap, the check of the taker and that of the maker suffice for
all balances and amounts exactly if the fee for the other payment stands alone. -/
theorem balance_check_suffices_iff (myCoin otherCoin : SwapCoin) (paid : Bool) :
    ((∀ (wallet : SwapWallet) (volume : ℚ) (params : TakerSwapPreparedParams),
      FeesFit myCoin otherCoin paid params.takerPaymentTradeFee
        params.makerPaymentSpendTradeFee →
      wallet.checkBalanceForTakerSwap myCoin otherCoin volume (.ok params) = .ok () →
      wallet.Covers (takerCharges myCoin volume params)) ↔
        FeeStandsAlone myCoin otherCoin paid) ∧
    ((∀ (wallet : SwapWallet) (volume balance : ℚ) (params : MakerSwapPreparedParams),
      FeesFit myCoin otherCoin paid params.makerPaymentTradeFee
        params.takerPaymentSpendTradeFee →
      wallet.checkBalanceForMakerSwap myCoin otherCoin volume (.ok params) =
        .ok balance →
      wallet.Covers (makerCharges myCoin volume params)) ↔
        FeeStandsAlone myCoin otherCoin paid) := by
  refine ⟨⟨?_, ?_⟩, ⟨?_, ?_⟩⟩
  · intro hcovered
    by_contra hclash
    obtain ⟨rfl, volume, fee, hsum, hvolume, hfee, hticker⟩ := clash_cases hclash
    have hown := unitWallet_own myCoin (some ⟨0, ⟨myCoin.feeTicker, 0, false⟩⟩) hsum
      hvolume hfee (by simp [totalFees]; rfl)
    refine not_covers_unitWallet (Or.inr rfl) hvolume hfee hticker
      (hcovered unitWallet volume ⟨0, ⟨myCoin.feeTicker, 0, false⟩,
        ⟨myCoin.feeTicker, fee, false⟩, ⟨otherCoin.feeTicker, 1, false⟩⟩ ⟨rfl, rfl, rfl⟩ ?_)
    simp only [checkBalanceForTakerSwap, hown, bind, Except.bind,
      Bool.not_false, if_true]
    exact unitWallet_other
  · rintro hstands wallet volume params ⟨hown, hother, rfl⟩ hcheck
    obtain ⟨_, ⟨⟩, hcheck⟩ := except_bind_eq_ok.mp hcheck
    obtain ⟨balance, hmine, hcheck⟩ := except_bind_eq_ok.mp hcheck
    refine covers_both hstands hown hother hmine ?_
    cases hpaid : params.makerPaymentSpendTradeFee.paidFromTradingVol with
    | true => simp [checkOtherCoinBalanceForSwap, hpaid, pure, Except.pure]
    | false => simpa [hpaid] using hcheck
  · intro hcovered
    by_contra hclash
    obtain ⟨rfl, volume, fee, hsum, hvolume, hfee, hticker⟩ := clash_cases hclash
    have hown := unitWallet_own myCoin none hsum hvolume hfee rfl
    refine not_covers_unitWallet (Or.inl rfl) hvolume hfee hticker
      (hcovered unitWallet volume 1 ⟨⟨myCoin.feeTicker, fee, false⟩,
        ⟨otherCoin.feeTicker, 1, false⟩⟩ ⟨rfl, rfl, rfl⟩ ?_)
    simp only [checkBalanceForMakerSwap, hown, unitWallet_other, bind, Except.bind]
    rfl
  · rintro hstands wallet volume balance params ⟨hown, hother, rfl⟩ hcheck
    obtain ⟨_, ⟨⟩, hcheck⟩ := except_bind_eq_ok.mp hcheck
    obtain ⟨_, hmine, hcheck⟩ := except_bind_eq_ok.mp hcheck
    obtain ⟨_, hcheck, -⟩ := except_bind_eq_ok.mp hcheck
    exact covers_both hstands hown hother hmine hcheck

/-- A swap of the platform coin for its own token: the check passes with one unit, of
which the volume takes all and the fee for claiming the token as much again. -/
theorem platform_coin_overdrawn :
    unitWallet.checkBalanceForTakerSwap ⟨"ETH", "ETH"⟩ ⟨"USDT", "ETH"⟩ 1
        (.ok ⟨0, ⟨"ETH", 0, false⟩, ⟨"ETH", 0, false⟩, ⟨"ETH", 1, false⟩⟩) = .ok () ∧
      ¬unitWallet.Covers (takerCharges ⟨"ETH", "ETH"⟩ 1
        ⟨0, ⟨"ETH", 0, false⟩, ⟨"ETH", 0, false⟩, ⟨"ETH", 1, false⟩⟩) := by
  refine ⟨by decide +kernel, fun hcovers => ?_⟩
  exact absurd (hcovers "ETH" (by decide)) (by decide +kernel)

end KdfProtocol
