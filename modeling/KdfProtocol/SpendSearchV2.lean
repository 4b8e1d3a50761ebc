import KdfProtocol.TakerSwapV2

/-!
# How the taker sees that its payment was spent

The states that wait for the maker's spend of the taker payment ask the taker coin
for it, from a height of the chain on.  A swap keeps the heights that both chains
had when it started, and these states hand the height of the maker coin to the
taker coin.
-/

namespace KdfProtocol

namespace V2

/-! ## The call of the states -/

structure FindSpendCall where
  takerPayment : Bytes
  fromBlock : UInt64
  waitUntil : UInt64

def TakerSwapStateMachine.findSpendCall (machine : TakerSwapStateMachine) :
    TakerSwapState → Option FindSpendCall
  | .takerPaymentSent blocks _ takerPayment _
  | .takerPaymentSentPreimageSendingSkipped blocks _ takerPayment _ =>
    some ⟨takerPayment, blocks.makerCoinStartBlock, machine.takerPaymentLocktime⟩
  | _ => none

open TakerSwapStateMachine

/-- What the coins have to answer for a state to come to the call: the state that
sends a preimage builds it first. -/
def TakerSwapStateMachine.ReadyToAsk (coins : SwapCoins)
    (machine : TakerSwapStateMachine) (answers : TakerAnswers) : TakerSwapState → Prop
  | .takerPaymentSent _ negotiation takerPayment _ =>
    coins.parseTakerTx takerPayment = .ok () ∧
      coins.parseTakerPubkey negotiation.takerCoinHtlcPub = .ok () ∧
      (∃ pubkey, coins.deriveTakerHtlcPubkey machine.uniqueData = .ok pubkey ∧
        coins.parseTakerPubkey pubkey = .ok ()) ∧
      (∃ address, answers.takerCoinAddress = .ok address) ∧
      coins.netConfig = .ok () ∧ answers.takerPaymentSpendPreimage = .ok ()
  | .takerPaymentSentPreimageSendingSkipped _ _ takerPayment _ =>
    coins.parseTakerTx takerPayment = .ok ()
  | _ => False

/-- A transaction that spends a taker payment, and where it stands on the chain. -/
structure PaymentSpend where
  takerPayment : Bytes
  tx : Bytes
  height : ℕ
  time : UInt64
  deriving DecidableEq

structure TakerCoinChain where
  spends : List PaymentSpend
  spent_once : ∀ first ∈ spends, ∀ second ∈ spends,
    first.takerPayment = second.takerPayment → first = second

/-- The chain has the spend at or above the start block, before the deadline. -/
def TakerCoinChain.SpentInTime (chain : TakerCoinChain) (startBlock deadline : UInt64)
    (spend : PaymentSpend) : Prop :=
  spend ∈ chain.spends ∧ startBlock.toNat ≤ spend.height ∧ spend.time ≤ deadline

/-- The call returns exactly the spends at or above the height that it is given, in
the time that it is given. -/
def TakerCoinChain.ReturnedBy (chain : TakerCoinChain)
    (find : FindSpendCall → Option (Except String Bytes)) : Prop :=
  ∀ call tx, find call = some (.ok tx) ↔
    ∃ spend ∈ chain.spends, spend.takerPayment = call.takerPayment ∧
      call.fromBlock.toNat ≤ spend.height ∧ spend.time ≤ call.waitUntil ∧
      spend.tx = tx

def TakerSwapState.takerPaymentSpend? : TakerSwapState → Option Bytes
  | .takerPaymentSpent _ spend _ _ _ => some spend
  | _ => none

def TakerSwapState.takerPayment? : TakerSwapState → Option Bytes
  | .takerPaymentSent _ _ takerPayment _
  | .takerPaymentSentPreimageSendingSkipped _ _ takerPayment _ => some takerPayment
  | _ => none

def TakerSwapState.blocks? : TakerSwapState → Option StartBlocks
  | .initialized blocks _ | .negotiated blocks _ _ _ | .takerFundingSent blocks _ _
  | .takerFundingRefundRequired blocks _ _ _
  | .makerPaymentAndFundingSpendPreimgReceived blocks _ _ _ _
  | .makerPaymentConfirmed blocks _ _ _ _ | .takerPaymentSent blocks _ _ _
  | .takerPaymentSentPreimageSendingSkipped blocks _ _ _ | .takerPaymentSpent blocks _ _ _ _
  | .makerPaymentSpent blocks _ _ _ => some blocks
  | .takerPaymentRefundRequired .. | .takerFundingRefunded .. | .takerPaymentRefunded ..
  | .aborted _ | .completed => none

def StartsAt (makerHeight takerHeight : UInt64) (_ : TakerSwapStateMachine)
    (position : Option TakerSwapState) (answers : TakerAnswers) : Prop :=
  position = none → answers.makerCurrentBlock = .ok makerHeight ∧
    answers.takerCurrentBlock = .ok takerHeight

/-! ## The heights of a swap -/

section Heights

variable {coins : SwapCoins} {machine : TakerSwapStateMachine}
  {answers : TakerAnswers} {next : TakerSwapState} {blocks : StartBlocks}

theorem blocks_of_initialize (hnext : (machine.onInitial coins answers).next = some next)
    (hblocks : next.blocks? = some blocks) :
    answers.makerCurrentBlock = .ok blocks.makerCoinStartBlock ∧
      answers.takerCurrentBlock = .ok blocks.takerCoinStartBlock := by
  obtain ⟨reason, rfl⟩ | ⟨started, hstart, hchanged⟩ := settle_next hnext
  · cases hblocks
  simp only [initializeSwap, except_bind_eq_ok, abortOn_eq_ok] at hstart
  obtain ⟨makerHeight, hmaker, takerHeight, htaker, _, -, _, -, _, -, _, -, hstate⟩ := hstart
  cases hstate
  cases hchanged
  cases hblocks
  exact ⟨hmaker, htaker⟩

theorem blocks_of_onChanged {state : TakerSwapState}
    (hnext : (machine.onChanged coins state answers).next = some next)
    (hblocks : next.blocks? = some blocks) : state.blocks? = some blocks := by
  cases state with
  | initialized kept fees
  | takerPaymentSent kept negotiation takerPayment makerPayment
  | takerPaymentSentPreimageSendingSkipped kept negotiation takerPayment makerPayment =>
    obtain ⟨reason, rfl⟩ | ⟨_, -, hchanged⟩ := settle_next hnext
    · cases hblocks
    · cases hchanged
      exact hblocks
  | negotiated kept negotiation fee spendFee
  | takerPaymentSpent kept spend makerPayment negotiation takerPayment =>
    obtain ⟨reason, rfl⟩ | ⟨_, -, hsent⟩ := settle_next hnext
    · cases hblocks
    · cases hsent
      split at hblocks
      · exact hblocks
      · cases hblocks
  | takerFundingSent kept negotiation takerFunding =>
    obtain ⟨reason, rfl⟩ | ⟨info, -, hchanged⟩ := settle_next hnext
    · exact hblocks
    · cases hchanged
      exact hblocks
  | makerPaymentAndFundingSpendPreimgReceived kept negotiation takerFunding preimage makerPayment
  | makerPaymentConfirmed kept negotiation takerFunding preimage makerPayment =>
    obtain ⟨reason, rfl⟩ | ⟨_, -, hsent⟩ := settle_next hnext
    · exact hblocks
    · cases hsent
      split at hblocks
      · split at hblocks
        · exact hblocks
        · exact hblocks
      · exact hblocks
  | makerPaymentSpent kept spend negotiation takerPayment =>
    obtain ⟨reason, rfl⟩ | ⟨_, -, hchanged⟩ := settle_next hnext
    · cases hblocks
    · cases hchanged
      cases hblocks
  | takerFundingRefundRequired kept negotiation takerFunding reason
  | takerPaymentRefundRequired takerPayment negotiation reason =>
    obtain ⟨reason, rfl⟩ | ⟨_, -, hsent⟩ := settle_next hnext
    · cases hblocks
    · cases hsent
      split at hblocks
      · cases hblocks
      · cases hblocks
  | takerFundingRefunded fundingTx refund reason
  | takerPaymentRefunded takerPayment refund reason | aborted reason | completed => cases hnext

theorem takerProgram_carries_blocks (coins : SwapCoins) (makerHeight takerHeight : UInt64) :
    (takerProgram coins).Carries (fun machine position answers _ _ =>
        StartsAt makerHeight takerHeight machine position answers)
      (fun position _ => ∀ state blocks, position = some state →
        state.blocks? = some blocks → blocks = ⟨makerHeight, takerHeight⟩) where
  start := by
    intro state blocks hstate
    cases hstate
  stays := by
    intro machine position answers stored sent hkept _ _
    exact hkept
  moves := by
    intro machine position answers next sent hkept hstarts hnext state blocks hstate hblocks
    cases hstate
    cases position with
    | none =>
      obtain ⟨hmaker, htaker⟩ := blocks_of_initialize hnext hblocks
      obtain ⟨hmakerStart, htakerStart⟩ := hstarts rfl
      rw [hmakerStart] at hmaker
      rw [htakerStart] at htaker
      cases hmaker
      cases htaker
      rfl
    | some before =>
      exact hkept before blocks rfl (blocks_of_onChanged hnext hblocks)

end Heights

/-! ## What the states see -/

section Sees

variable {coins : SwapCoins} {machine : TakerSwapStateMachine} {answers : TakerAnswers} {tx : Bytes}

theorem findTakerPaymentSpend_eq_ok_iff :
    findTakerPaymentSpend answers = .ok tx ↔ answers.takerPaymentSpend = some (.ok tx) := by
  unfold findTakerPaymentSpend
  cases answers.takerPaymentSpend with
  | none => simp
  | some answer => simp [abortOn_eq_ok]

variable {takerPayment : Bytes}

variable {negotiation : StoredTakerNegotiationData} {state : TakerSwapState} {makerPayment : Bytes}
  {blocks : StartBlocks}

theorem generateSpendPreimage_eq_ok_iff :
    machine.generateSpendPreimage coins negotiation takerPayment answers = .ok () ↔
      machine.ReadyToAsk coins answers
        (.takerPaymentSent blocks negotiation takerPayment makerPayment) := by
  simp only [generateSpendPreimage, ownTakerPubkey, TakerSwapStateMachine.ReadyToAsk,
    except_bind_eq_ok, abortOn_eq_ok]
  constructor
  · rintro ⟨_, hpay, _, hmaker, _, hown, address, haddress, _, hnet, himage⟩
    exact ⟨hpay, hmaker, hown, ⟨address, haddress⟩, hnet, himage⟩
  · rintro ⟨hpay, hmaker, hown, ⟨address, haddress⟩, hnet, himage⟩
    exact ⟨(), hpay, (), hmaker, (), hown, address, haddress, (), hnet, himage⟩

theorem settle_spend_iff {steps : Except Halt Bytes} :
    (∃ next, (settle (.takerPaymentRefundRequired takerPayment negotiation)
        (steps.map fun spend => (changeTo (.takerPaymentSpent blocks spend makerPayment
          negotiation takerPayment) : TakerActivation))).next = some next ∧
        next.takerPaymentSpend? = some tx) ↔ steps = .ok tx := by
  constructor
  · rintro ⟨next, hnext, hspend⟩
    obtain ⟨reason, rfl⟩ | ⟨spend, hsteps, hchanged⟩ := settle_next hnext
    · cases hspend
    · cases hchanged
      cases hspend
      exact hsteps
  · rintro rfl
    exact ⟨_, rfl, rfl⟩

theorem takerPaymentSpend_of_onChanged_iff (hawait : state.awaitingSpend = true) :
    (∃ next, (machine.onChanged coins state answers).next = some next ∧
        next.takerPaymentSpend? = some tx) ↔
      machine.ReadyToAsk coins answers state ∧ answers.takerPaymentSpend = some (.ok tx) := by
  cases state with
  | takerPaymentSent blocks negotiation takerPayment makerPayment =>
    refine settle_spend_iff.trans ?_
    rw [awaitSpend, except_bind_eq_ok,
      ← generateSpendPreimage_eq_ok_iff, ← findTakerPaymentSpend_eq_ok_iff]
    constructor
    · rintro ⟨_, hready, hfound⟩
      exact ⟨hready, hfound⟩
    · rintro ⟨hready, hfound⟩
      exact ⟨(), hready, hfound⟩
  | takerPaymentSentPreimageSendingSkipped blocks negotiation takerPayment makerPayment =>
    refine settle_spend_iff.trans ?_
    rw [awaitSpendPreimageSkipped, except_bind_eq_ok, ← findTakerPaymentSpend_eq_ok_iff]
    simp only [abortOn_eq_ok]
    constructor
    · rintro ⟨_, hready, hfound⟩
      exact ⟨hready, hfound⟩
    · rintro ⟨hready, hfound⟩
      exact ⟨(), hready, hfound⟩
  | _ => cases hawait

theorem TakerCoinChain.ReturnedBy.eq_ok_iff {chain : TakerCoinChain}
    {find : FindSpendCall → Option (Except String Bytes)} (hfind : chain.ReturnedBy find)
    {spend : PaymentSpend} (hspend : spend ∈ chain.spends) {call : FindSpendCall}
    (hpay : spend.takerPayment = call.takerPayment) (htime : spend.time ≤ call.waitUntil) :
    find call = some (.ok spend.tx) ↔ call.fromBlock.toNat ≤ spend.height := by
  rw [hfind]
  constructor
  · rintro ⟨other, hother, hsame, hheight, -, -⟩
    rwa [chain.spent_once other hother spend hspend (hsame.trans hpay.symm)] at hheight
  · intro hheight
    exact ⟨spend, hspend, hpay, hheight, htime, rfl⟩

theorem TakerSwapStateMachine.findSpendCall_of_takerPayment (machine : TakerSwapStateMachine)
    (hpay : state.takerPayment? = some takerPayment) :
    state.awaitingSpend = true ∧ ∃ blocks, state.blocks? = some blocks ∧
      machine.findSpendCall state = some ⟨takerPayment, blocks.makerCoinStartBlock,
        machine.takerPaymentLocktime⟩ := by
  cases state with
  | takerPaymentSent blocks negotiation payment makerPayment
  | takerPaymentSentPreimageSendingSkipped blocks negotiation payment makerPayment =>
    cases hpay
    exact ⟨rfl, blocks, rfl, rfl⟩
  | _ => cases hpay

end Sees

/-! ## Whole runs -/

open MachineRun

def SeesSpend (coins : SwapCoins)
    (run : MachineRun TakerSwapStateMachine TakerSwapState TakerSwapDbRepr TakerSent)
    (answers : TakerAnswers) (tx : Bytes) : Prop :=
  ∃ later next, (run.step (takerProgram coins) (.change answers true)).process =
    .running later (some next) ∧ next.takerPaymentSpend? = some tx

variable {state : TakerSwapState} {coins : SwapCoins}

theorem seesSpend_iff
    {run : MachineRun TakerSwapStateMachine TakerSwapState TakerSwapDbRepr TakerSent}
    {machine : TakerSwapStateMachine} {answers : TakerAnswers} {tx : Bytes}
    (hproc : run.process = .running machine (some state)) (hawait : state.awaitingSpend = true) :
    SeesSpend coins run answers tx ↔
      ∃ next, (machine.onChanged coins state answers).next = some next ∧
        next.takerPaymentSpend? = some tx := by
  have hopen : (some state).any (takerProgram coins).isLast = false := by
    cases state with
    | takerPaymentSent | takerPaymentSentPreimageSendingSkipped => rfl
    | _ => cases hawait
  have hunspent : state.takerPaymentSpend? = none := by
    cases state with
    | takerPaymentSpent => cases hawait
    | _ => rfl
  constructor
  · rintro ⟨later, next, hlater, hspend⟩
    cases hnext : (machine.onChanged coins state answers).next with
    | none =>
      have hwaits : (run.step (takerProgram coins) (.change answers true)).process =
          .running machine (some state) := change_waits hproc hnext
      rw [hwaits] at hlater
      cases hlater
      rw [hunspent] at hspend
      cases hspend
    | some reached =>
      rw [change_stored hproc hopen hnext] at hlater
      cases hlater
      exact ⟨next, rfl, hspend⟩
  · rintro ⟨next, hnext, hspend⟩
    rw [SeesSpend, change_stored hproc hopen hnext]
    exact ⟨_, next, rfl, hspend⟩

/-- In every run, restarts included, a taker that waits for the spend of its payment
sees it exactly if its coins let it come to the call and the block of the spend is not
below the height that the chain of the maker coin had at the start. -/
theorem maker_spend_seen_iff (coins : SwapCoins) (taker : TakerSwapStateMachine)
    (inputs : List (MachineInput TakerAnswers)) (makerHeight takerHeight : UInt64)
    (hstarts : EveryStep (step (takerProgram coins))
      (Guarded (StartsAt makerHeight takerHeight)) (fresh taker) inputs)
    (machine : TakerSwapStateMachine) (state : TakerSwapState)
    (hprocess : (run (step (takerProgram coins)) (fresh taker) inputs).process =
      .running machine (some state))
    (chain : TakerCoinChain) (find : FindSpendCall → Option (Except String Bytes))
    (hfind : chain.ReturnedBy find) (spend : PaymentSpend)
    (hspend : chain.SpentInTime takerHeight machine.takerPaymentLocktime spend)
    (hpayment : state.takerPayment? = some spend.takerPayment) (answers : TakerAnswers)
    (hanswer : answers.takerPaymentSpend = (machine.findSpendCall state).bind find) :
    SeesSpend coins (run (step (takerProgram coins)) (fresh taker) inputs) answers
        spend.tx ↔
      machine.ReadyToAsk coins answers state ∧ makerHeight.toNat ≤ spend.height := by
  obtain ⟨hmem, -, htime⟩ := hspend
  obtain ⟨hawaiting, blocks, hblocks, hcall⟩ := machine.findSpendCall_of_takerPayment hpayment
  obtain ⟨position, hrun⟩ := everyState_last _ (everyState_recorded
    ((takerProgram_keepsEvents coins).journal.guarded _)
    (takerProgram_carries_blocks coins makerHeight takerHeight) taker hstarts)
  have hposition := hrun.process machine (some state) (Or.inr hprocess)
  cases hrun.sent state blocks hposition.symm hblocks
  rw [seesSpend_iff hprocess hawaiting, takerPaymentSpend_of_onChanged_iff hawaiting,
    hanswer, hcall, Option.bind_some, hfind.eq_ok_iff hmem rfl htime]

/-! ## A swap between two chains -/

deriving instance DecidableEq for MachineProcess

/-- The maker spends the taker payment ten blocks after the swap started. -/
def sampleSpend : PaymentSpend where
  takerPayment := [4]
  tx := [6]
  height := 800010
  time := 1700000120

def sampleChain : TakerCoinChain where
  spends := [sampleSpend]
  spent_once := by decide

def sampleFind (call : FindSpendCall) : Option (Except String Bytes) :=
  if sampleSpend.takerPayment = call.takerPayment ∧
      call.fromBlock.toNat ≤ sampleSpend.height ∧ sampleSpend.time ≤ call.waitUntil then
    some (.ok sampleSpend.tx)
  else some (.error "Timeout")

theorem sampleFind_returned : sampleChain.ReturnedBy sampleFind := by
  intro call tx
  unfold sampleFind
  split
  next hfound => simp [sampleChain, hfound]
  next hmissed =>
    simp only [sampleChain, List.mem_singleton, exists_eq_left]
    refine iff_of_false (by simp) ?_
    rintro ⟨hpay, hheight, htime, -⟩
    exact hmissed ⟨hpay, hheight, htime⟩

/-- The answers of the coins in a swap that starts at height 800000 of the taker
coin. -/
def searchAnswers (makerHeight : UInt64) : TakerAnswers :=
  { sampleTakerAnswers 1700000000 with
    makerCurrentBlock := .ok makerHeight
    takerCurrentBlock := .ok 800000
    takerPaymentSpend := sampleFind
      ⟨[4], makerHeight, (sampleTaker 1700000000).takerPaymentLocktime⟩ }

def searchInputs (makerHeight : UInt64) : List (MachineInput TakerAnswers) :=
  .onStart true :: List.replicate 5 (.change (searchAnswers makerHeight) true)

def searchState (makerHeight : UInt64) : TakerSwapState :=
  .takerPaymentSent ⟨makerHeight, 800000⟩
    (TakerSwapStateMachine.storedNegotiation (sampleOffer 1700000000)) [4] [3]

theorem searchInputs_starts (makerHeight : UInt64) :
    EveryStep (step (takerProgram sampleCoins)) (Guarded (StartsAt makerHeight 800000))
      (fresh (sampleTaker 1700000000)) (searchInputs makerHeight) := by
  refine everyStep_of_forall ?_
  rintro run input hinput machine position answers stored - rfl -
  obtain ⟨rfl, -⟩ : answers = searchAnswers makerHeight ∧ stored = true := by
    simpa [searchInputs] using hinput
  exact ⟨rfl, rfl⟩

theorem sampleSpend_in_time :
    sampleChain.SpentInTime 800000 (sampleTaker 1700000000).takerPaymentLocktime
      sampleSpend := by
  refine ⟨List.mem_singleton_self _, ?_, ?_⟩
  · decide
  · decide

theorem sample_maker_spend_seen :
    SeesSpend sampleCoins (run (step (takerProgram sampleCoins))
        (fresh (sampleTaker 1700000000)) (searchInputs 799000))
      (searchAnswers 799000) [6] := by
  have hprocess : (run (step (takerProgram sampleCoins)) (fresh (sampleTaker 1700000000))
      (searchInputs 799000)).process =
        .running (sampleTaker 1700000000) (some (searchState 799000)) := by
    decide +kernel
  refine (maker_spend_seen_iff sampleCoins (sampleTaker 1700000000) (searchInputs 799000)
    799000 800000 (searchInputs_starts 799000) (sampleTaker 1700000000)
    (searchState 799000) hprocess sampleChain sampleFind sampleFind_returned sampleSpend
    sampleSpend_in_time rfl (searchAnswers 799000) rfl).mpr ?_
  refine ⟨⟨rfl, rfl, ⟨_, rfl, rfl⟩, ⟨_, rfl⟩, rfl, rfl⟩, ?_⟩
  decide

/-- The chain of the maker coin is longer than that of the taker coin.  The spend of
the taker payment is on the chain in time, and the taker gives the swap up. -/
theorem spend_missed_below_maker_height :
    (run (step (takerProgram sampleCoins)) (fresh (sampleTaker 1700000000))
        (searchInputs 3000000)).process =
      .running (sampleTaker 1700000000) (some (searchState 3000000)) ∧
    sampleChain.ReturnedBy sampleFind ∧
    sampleChain.SpentInTime 800000 (sampleTaker 1700000000).takerPaymentLocktime
      sampleSpend ∧
    (searchState 3000000).takerPayment? = some sampleSpend.takerPayment ∧
    (searchAnswers 3000000).takerPaymentSpend =
      ((sampleTaker 1700000000).findSpendCall (searchState 3000000)).bind sampleFind ∧
    ((run (step (takerProgram sampleCoins)) (fresh (sampleTaker 1700000000))
        (searchInputs 3000000)).step (takerProgram sampleCoins)
          (.change (searchAnswers 3000000) true)).process =
      .running (sampleTaker 1700000000) (some (.takerPaymentRefundRequired [4]
        (TakerSwapStateMachine.storedNegotiation (sampleOffer 1700000000))
        (.makerDidNotSpendInTime "Timeout"))) := by
  refine ⟨?_, sampleFind_returned, sampleSpend_in_time, rfl, rfl, ?_⟩
  · decide +kernel
  · decide +kernel

end V2

end KdfProtocol
