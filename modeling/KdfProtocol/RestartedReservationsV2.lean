import KdfProtocol.ReservationsV2
import KdfProtocol.RestartV2
import KdfProtocol.SwapRecordV2

/-!
# What a restarted V2 swap reserves

The entries of a restarted swap are filed again from its last event and from the
event that initialized it.  The last event does not tell whether the other
payment was spent before: the headroom of a swap that has to refund its own
payment after that is reserved again.
-/

namespace KdfProtocol

namespace V2

open BucketLedger

/-! ## Two ledgers compared -/

namespace SwapReservation

def resume (swap : SwapReservation) (volume headroom : Bool)
    (ledger : LockedAmountsV2) : LockedAmountsV2 :=
  let withHeadroom := if headroom then swap.reserveHeadroom ledger else ledger
  if volume then swap.reserveVolume withHeadroom else withHeadroom

def reserved (ledger : LockedAmountsV2) (uuid : Uuid)
    (kind : LockedAmountV2Kind) (coin : String) : ℚ :=
  ((held ledger uuid kind coin).map LockedAmount.amount).sum

variable {swap : SwapReservation} {ledger : LockedAmountsV2}

theorem Holds.resume (hholds : swap.Holds false false ledger) (volume headroom : Bool) :
    swap.Holds volume headroom (swap.resume volume headroom ledger) := by
  have hroom : swap.Holds false headroom
      (if headroom then swap.reserveHeadroom ledger else ledger) := by
    cases headroom with
    | false => exact hholds
    | true => exact hholds.reserveHeadroom
  cases volume with
  | false => exact hroom
  | true => exact hroom.reserveVolume

variable {volume headroom : Bool}

theorem Holds.reserved_volume (hholds : swap.Holds volume headroom ledger) (coin : String) :
    reserved ledger swap.uuid .volume coin =
      if volume then
        if coin = swap.volumeCoin then swap.volume
        else if coin = swap.sendFeeCoin then swap.sendFee else 0
      else 0 := by
  rw [reserved, hholds.volume]
  cases volume with
  | false => rfl
  | true =>
    simp only [if_true, volumeEntries]
    split
    · simp
    · split
      · simp
      · rfl

theorem Holds.reserved_headroom (hholds : swap.Holds volume headroom ledger) (coin : String) :
    reserved ledger swap.uuid .spendHeadroom coin =
      if headroom ∧ coin = swap.spendFeeCoin then swap.headroom else 0 := by
  rw [reserved, hholds.headroom]
  cases headroom with
  | false => simp
  | true =>
    simp only [if_true, headroomEntries]
    split
    · simp [*]
    · simp [*]

/-- Two swaps that differ in their volume only have the same amounts reserved
exactly if the volumes agree as long as they are reserved, and the headroom is
reserved in both or in none. -/
theorem reserved_eq_iff {resumed : SwapReservation} {ledger' : LockedAmountsV2} {headroom' : Bool}
    {amount : ℚ} (hresumed : resumed = { swap with volume := amount })
    (hlive : swap.Holds volume headroom ledger) (hresume : resumed.Holds volume headroom' ledger') :
    (∀ kind coin, reserved ledger' swap.uuid kind coin = reserved ledger swap.uuid kind coin) ↔
      (volume = true → amount = swap.volume) ∧ (swap.headroom = 0 ∨ headroom' = headroom) := by
  subst hresumed
  have hvol := hresume.reserved_volume
  have hroom := hresume.reserved_headroom
  dsimp only at hvol hroom
  constructor
  · intro hall
    constructor
    · rintro rfl
      have hcoin := hall .volume swap.volumeCoin
      rw [hvol, hlive.reserved_volume] at hcoin
      simpa using hcoin
    · have hcoin := hall .spendHeadroom swap.spendFeeCoin
      rw [hroom, hlive.reserved_headroom] at hcoin
      cases headroom with
      | false =>
        cases headroom' with
        | false => exact Or.inr rfl
        | true => exact Or.inl (by simpa using hcoin)
      | true =>
        cases headroom' with
        | false => exact Or.inl (by simpa using hcoin.symm)
        | true => exact Or.inr rfl
  · rintro ⟨hamount, hkeeps⟩ kind coin
    cases kind with
    | volume =>
      rw [hvol, hlive.reserved_volume]
      cases volume with
      | false => rfl
      | true => rw [hamount rfl]
    | spendHeadroom =>
      rw [hroom, hlive.reserved_headroom]
      rcases hkeeps with hzero | rfl
      · simp [hzero]
      · rfl

end SwapReservation

/-- How the states of a program follow each other, as far as the ledger is
concerned: the first files the entries, and the volume is filed until the
payment. -/
structure LedgerRole.Phases {μ σ ρ ε α τ : Type} (role : LedgerRole μ ε)
    (program : StorableMachine μ σ ρ ε α τ) (unpaid resumable : σ → Bool) : Prop where
  first : ∀ machine answers next,
    (program.activate machine none answers).next = some next →
      resumable next = true → role.effect (program.getEvent next) = .reserves ∧ unpaid next = true
  later : ∀ machine state answers next,
    (program.activate machine (some state) answers).next = some next →
      resumable next = true →
        resumable state = true ∧
        role.effect (program.getEvent next) ≠ .reserves ∧
        unpaid next = (unpaid state && !(role.effect (program.getEvent next)).isPays)

section Live

variable {μ σ ρ ε α τ : Type} {role : LedgerRole μ ε}
  {program : StorableMachine μ σ ρ ε α τ} {unpaid resumable : σ → Bool}

def ledgerInputs (program : StorableMachine μ σ ρ ε α τ) (states : List σ) : List (LedgerInput ε) :=
  states.map fun state => .event (program.getEvent state)

variable {start : LedgerRun μ} {states : List σ} {state : σ}

theorem LedgerRole.Phases.files (hphases : role.Phases program unpaid resumable)
    (hfresh : role.Fresh start) {position : Option σ} (hlog : program.Log states position)
    (hpos : position = some state) (hresum : resumable state = true) :
    ∃ first rest, states = first :: rest ∧ role.effect (program.getEvent first) = .reserves ∧
      role.Files (role.reservation (role.onEvent start.machine (program.getEvent first)))
        (unpaid state) (!states.any fun state => (role.effect (program.getEvent state)).isSpends)
        (run role.step start (ledgerInputs program states)) := by
  induction hlog generalizing state with
  | start => cases hpos
  | @next states position machine answers next hlog hnext ih =>
    cases hpos
    cases position with
    | none =>
      obtain ⟨heff, hunpaid⟩ := hphases.first machine answers next hnext hresum
      have hnil : states = [] := List.getLast?_eq_none_iff.mp hlog.getLast?
      subst hnil
      refine ⟨next, [], rfl, heff, ?_⟩
      have hfiles := hfresh.reserves heff
      simpa [hunpaid, heff, LedgerEffect.isSpends, ledgerInputs] using hfiles
    | some before =>
      obtain ⟨hpre, hnew, hunpaid⟩ := hphases.later machine before answers next hnext hresum
      obtain ⟨first, rest, hstates, heff, hfiles⟩ := ih rfl hpre
      refine ⟨first, rest ++ [next], by rw [hstates]; rfl, heff, ?_⟩
      rw [ledgerInputs, List.map_append, run_append, List.any_append,
        List.map_singleton, run_cons, run_nil, hunpaid]
      cases hkind : role.effect (program.getEvent next) with
      | reserves => exact absurd hkind hnew
      | pays =>
        simpa [hkind, LedgerEffect.isPays, LedgerEffect.isSpends,
          ledgerInputs] using hfiles.pays hkind
      | spends =>
        simpa [hkind, LedgerEffect.isPays, LedgerEffect.isSpends,
          ledgerInputs] using hfiles.spends hkind
      | keeps =>
        rw [step_eq_of_keeps hkind]
        simpa [hkind, LedgerEffect.isPays, LedgerEffect.isSpends, ledgerInputs] using hfiles

/-- A swap that is resumed at the end of a log has the amounts reserved that the
uninterrupted run has, exactly if its volume is the same as long as it is
reserved, and the headroom is zero or was not released before the last event. -/
theorem LedgerRole.Phases.resume_eq_iff (hphases : role.Phases program unpaid resumable)
    (hfresh : role.Fresh start)
    (hlog : program.Log states (some state)) (hresum : resumable state = true)
    {resumed : SwapReservation} {amount volume : ℚ}
    (hresumed : ∀ first rest, states = first :: rest →
      role.effect (program.getEvent first) = .reserves →
        resumed = { role.reservation (role.onEvent start.machine
          (program.getEvent first)) with volume := amount } ∧
        (role.reservation (role.onEvent start.machine (program.getEvent first))).volume = volume)
    {ledger : LockedAmountsV2} (hledger : resumed.Holds false false ledger) :
    (∀ kind coin,
      SwapReservation.reserved
          (resumed.resume (unpaid state) (!(role.effect (program.getEvent state)).isSpends) ledger)
          (role.uuid start.machine) kind coin =
        SwapReservation.reserved (run role.step start (ledgerInputs program states)).ledger
          (role.uuid start.machine) kind coin) ↔
      (unpaid state = true → amount = volume) ∧
        (resumed.headroom = 0 ∨ ((states.any fun state =>
            (role.effect (program.getEvent state)).isSpends) = true →
              (role.effect (program.getEvent state)).isSpends = true)) := by
  obtain ⟨first, rest, hstates, hfirst, hfiles⟩ := hphases.files hfresh hlog rfl hresum
  obtain ⟨hsame, rfl⟩ := hresumed first rest hstates hfirst
  have huuid : (role.reservation (role.onEvent start.machine
      (program.getEvent first))).uuid = role.uuid start.machine :=
    role.uuid_onEvent start.machine _
  have hroom : resumed.headroom = (role.reservation
      (role.onEvent start.machine (program.getEvent first))).headroom :=
    by rw [hsame]
  have hiff := SwapReservation.reserved_eq_iff hsame hfiles.holds
    (hledger.resume (unpaid state) (!(role.effect (program.getEvent state)).isSpends))
  rw [huuid] at hiff
  rw [hiff, hroom]
  have hmem : (role.effect (program.getEvent state)).isSpends = true →
      (states.any fun state => (role.effect (program.getEvent state)).isSpends) = true := by
    intro hspends
    exact List.any_eq_true.mpr ⟨state, List.mem_of_getLast? hlog.getLast?, hspends⟩
  refine and_congr_right fun _ => or_congr_right ?_
  rw [Bool.not_inj_iff]
  constructor
  · intro heq hany
    rw [heq]
    exact hany
  · intro himp
    exact Bool.eq_iff_iff.mpr ⟨hmem, himp⟩

end Live

/-! ## The restarted machines -/

theorem MakerSwapStateMachine.onKickstartEvent_eq (coins : SwapCoins)
    (machine : MakerSwapStateMachine) (state : MakerSwapState) (ledger : LockedAmountsV2) :
    machine.onKickstartEvent coins state.getEvent ledger =
      (machine.reservation coins).resume state.unpaid
        (!state.getEvent.ledgerEffect.isSpends) ledger := by
  cases state <;> rfl

theorem TakerSwapStateMachine.onKickstartEvent_eq (coins : SwapCoins)
    (machine : TakerSwapStateMachine) (state : TakerSwapState) (ledger : LockedAmountsV2) :
    machine.onKickstartEvent coins state.getEvent ledger =
      (machine.reservation coins).resume state.unfunded
        (!state.getEvent.ledgerEffect.isSpends) ledger := by
  cases state <;> rfl

def restartMaker (coins : SwapCoins) (maker : MakerSwapStateMachine)
    (events : List MakerSwapEvent) : Option (MakerSwapStateMachine × MakerSwapState) :=
  (getMakerSwapRepr maker.uuid (events.foldl MySwapsRow.appendEvent
    (insertSwapV2Maker (maker.toDbRepr coins)))).toOption.bind (swapKickstartHandlerForMaker coins)

def restartTaker (coins : SwapCoins) (taker : TakerSwapStateMachine)
    (events : List TakerSwapEvent) : Option (TakerSwapStateMachine × TakerSwapState) :=
  (getTakerSwapRepr taker.uuid (events.foldl MySwapsRow.appendEvent
    (insertSwapV2Taker (taker.toDbRepr coins)))).toOption.bind (swapKickstartHandlerForTaker coins)

section Maker

variable {coins : SwapCoins} {machine : MakerSwapStateMachine} {activation : MakerActivation}
  {answers : MakerAnswers} {state next : MakerSwapState}

theorem MakerMove.first_phase (hmove : MakerMove answers none activation)
    (hnext : activation.next = some next) (hresum : next.getEvent.resumable = true) :
    next.getEvent.ledgerEffect = .reserves ∧ next.unpaid = true := by
  cases hmove with
  | waits => cases hnext
  | starts blocks fees =>
    cases hnext
    exact ⟨rfl, rfl⟩
  | aborts =>
    cases hnext
    cases hresum

theorem MakerSwapState.resumable_of_rank (hrank : 0 < makerRank (some state)) :
    state.getEvent.resumable = true := by
  cases state with
  | aborted reason | completed => cases hrank
  | _ => rfl

open MakerSwapState

theorem MakerSwapState.unpaid_eq_false (hlater : (state.spending || state.paid) = true) :
    state.unpaid = false := by
  cases state with
  | initialized | waitingForTakerFunding | takerFundingReceived => cases hlater
  | _ => rfl

theorem MakerSwapState.ledgerEffect_of_spending (hspend : state.spending = true) :
    state.getEvent.ledgerEffect = .keeps := by
  cases state with
  | takerPaymentReceived | takerPaymentReceivedPreimageSkipped => rfl
  | _ => cases hspend

theorem MakerMove.later_phase (hmove : MakerMove answers (some state) activation)
    (hnext : activation.next = some next) (hresum : next.getEvent.resumable = true) :
    next.getEvent.ledgerEffect ≠ .reserves ∧
      next.unpaid = (state.unpaid && !next.getEvent.ledgerEffect.isPays) := by
  cases hmove with
  | waits => cases hnext
  | aborts | completes =>
    cases hnext
    cases hresum
  | negotiates | receivesFunding =>
    cases hnext
    exact ⟨nofun, rfl⟩
  | sendsPayment | refunds =>
    cases hnext
    revert hresum
    split
    · intro _
      exact ⟨nofun, rfl⟩
    · exact nofun
  | findsTakerPayment _ _ _ _ _ later hlater =>
    have hpaid : later.unpaid = false :=
      unpaid_eq_false (by simp [hlater])
    cases hnext
    rw [hpaid, ledgerEffect_of_spending hlater]
    exact ⟨nofun, rfl⟩
  | spendsTakerPayment state hspend =>
    have hstate : state.unpaid = false :=
      unpaid_eq_false (by simp [hspend])
    rw [hstate]
    cases hnext
    split
    · exact ⟨nofun, rfl⟩
    · exact ⟨nofun, rfl⟩
  | requiresRefund state hpaid =>
    have hstate : state.unpaid = false :=
      unpaid_eq_false (by simp [hpaid])
    rw [hstate]
    cases hnext
    exact ⟨nofun, rfl⟩

theorem makerPhases (coins : SwapCoins) :
    (makerRole coins).Phases (makerProgram coins) unpaid
      (fun state => state.getEvent.resumable) where
  first := by
    intro machine answers next hnext hresum
    exact (makerProgram_move coins machine none answers).first_phase hnext hresum
  later := by
    intro machine state answers next hnext hresum
    have hmove := makerProgram_move coins machine (some state) answers
    have hrank := (Nat.zero_le _).trans_lt (hmove.lowers hnext)
    exact ⟨resumable_of_rank hrank, hmove.later_phase hnext hresum⟩

end Maker

section Taker

variable {coins : SwapCoins} {machine : TakerSwapStateMachine} {activation : TakerActivation}
  {answers : TakerAnswers} {state next : TakerSwapState}

theorem TakerMove.first_phase (hmove : TakerMove coins answers none activation)
    (hnext : activation.next = some next) (hresum : next.getEvent.resumable = true) :
    next.getEvent.ledgerEffect = .reserves ∧ next.unfunded = true := by
  cases hmove with
  | waits => cases hnext
  | starts blocks fees =>
    cases hnext
    exact ⟨rfl, rfl⟩
  | aborts =>
    cases hnext
    cases hresum

theorem TakerSwapState.resumable_of_rank (hrank : 0 < takerRank (some state)) :
    state.getEvent.resumable = true := by
  cases state with
  | takerFundingRefunded | takerPaymentRefunded | aborted | completed => cases hrank
  | _ => rfl

open TakerSwapState

theorem TakerSwapState.unfunded_eq_false
    (hlater : (state.funded || state.paying || state.awaitingSpend || state.paid) = true) :
    state.unfunded = false := by
  cases state with
  | initialized | negotiated => cases hlater
  | _ => rfl

theorem TakerMove.later_phase (hmove : TakerMove coins answers (some state) activation)
    (hnext : activation.next = some next) (hresum : next.getEvent.resumable = true) :
    next.getEvent.ledgerEffect ≠ .reserves ∧
      next.unfunded = (state.unfunded && !next.getEvent.ledgerEffect.isPays) := by
  cases hmove with
  | waits => cases hnext
  | aborts | completes =>
    cases hnext
    cases hresum
  | negotiates | receivesMakerPayment =>
    cases hnext
    exact ⟨nofun, rfl⟩
  | sendsFunding | spendsMakerPayment =>
    cases hnext
    revert hresum
    split
    · intro _
      exact ⟨nofun, rfl⟩
    · exact nofun
  | requiresFundingRefund state hstate | findsSpend state hstate
  | requiresPaymentRefund state hstate =>
    have hfunded : state.unfunded = false :=
      unfunded_eq_false (by simp [hstate])
    rw [hfunded]
    cases hnext
    exact ⟨nofun, rfl⟩
  | sendsPayment state hpaying =>
    have hfunded : state.unfunded = false :=
      unfunded_eq_false (by simp [hpaying])
    rw [hfunded]
    cases hnext
    split
    · split
      · exact ⟨nofun, rfl⟩
      · exact ⟨nofun, rfl⟩
    · exact ⟨nofun, rfl⟩
  | refundsFunding | refundsPayment =>
    cases hnext
    revert hresum
    split
    · exact nofun
    · exact nofun

theorem takerPhases (coins : SwapCoins) :
    (takerRole coins).Phases (takerProgram coins) unfunded
      (fun state => state.getEvent.resumable) where
  first := by
    intro machine answers next hnext hresum
    exact (takerProgram_move coins machine none answers).first_phase hnext hresum
  later := by
    intro machine state answers next hnext hresum
    have hmove := takerProgram_move coins machine (some state) answers
    have hrank := (Nat.zero_le _).trans_lt (hmove.lowers hnext)
    exact ⟨resumable_of_rank hrank, hmove.later_phase hnext hresum⟩

end Taker

/-- For every log of either machine from which it can be restarted: the amounts
that are reserved after the restart are those of the uninterrupted run, coin by
coin and kind by kind, exactly if the printed volume is the volume as long as it
is reserved, and the headroom is zero or the payment that it is for was not
spent before the last event. -/
theorem restart_reserves_same_iff (coins : SwapCoins) (maker makerMachine : MakerSwapStateMachine)
    (taker takerMachine : TakerSwapStateMachine)
    (makerStates : List MakerSwapState) (makerState : MakerSwapState)
    (takerStates : List TakerSwapState) (takerState : TakerSwapState)
    (makerLive makerResumed takerLive takerResumed : LockedAmountsV2)
    (hmakerLog : (makerProgram coins).Log makerStates (some makerState))
    (htakerLog : (takerProgram coins).Log takerStates (some takerState))
    (hmakerRestart : restartMaker coins maker
      (makerStates.map MakerSwapState.getEvent) = some (makerMachine, makerState))
    (htakerRestart : restartTaker coins taker
      (takerStates.map TakerSwapState.getEvent) = some (takerMachine, takerState))
    (hmakerLive : (makerRole coins).Fresh ⟨maker, makerLive⟩)
    (hmakerResumed : (makerRole coins).Fresh ⟨makerMachine, makerResumed⟩)
    (htakerLive : (takerRole coins).Fresh ⟨taker, takerLive⟩)
    (htakerResumed : (takerRole coins).Fresh ⟨takerMachine, takerResumed⟩) :
    ((∀ kind coin,
      SwapReservation.reserved (makerMachine.onKickstartEvent coins
          makerState.getEvent makerResumed) maker.uuid kind coin =
        SwapReservation.reserved (run (makerRole coins).step ⟨maker, makerLive⟩
          (ledgerInputs (makerProgram coins) makerStates)).ledger maker.uuid
            kind coin) ↔
      (makerState.unpaid = true →
        toDecimal maker.makerVolume = maker.makerVolume) ∧
      (makerMachine.takerPaymentSpendHeadroom = 0 ∨
        ((makerStates.any fun state =>
          state.getEvent.ledgerEffect.isSpends) = true →
            makerState.getEvent.ledgerEffect.isSpends = true))) ∧
    ((∀ kind coin,
      SwapReservation.reserved (takerMachine.onKickstartEvent coins
          takerState.getEvent takerResumed) taker.uuid kind coin =
        SwapReservation.reserved (run (takerRole coins).step ⟨taker, takerLive⟩
          (ledgerInputs (takerProgram coins) takerStates)).ledger taker.uuid
            kind coin) ↔
      (takerState.unfunded = true →
        toDecimal taker.takerVolume + toDecimal taker.takerPremium =
          taker.takerVolume + taker.takerPremium) ∧
      (takerMachine.makerPaymentSpendHeadroom = 0 ∨
        ((takerStates.any fun state =>
          state.getEvent.ledgerEffect.isSpends) = true →
            takerState.getEvent.ledgerEffect.isSpends = true))) := by
  constructor
  · unfold restartMaker getMakerSwapRepr at hmakerRestart
    rw [foldl_appendEvent, MySwapsRow.amounts_eq_ok rfl rfl rfl rfl rfl] at hmakerRestart
    obtain ⟨rfl, event, hlast, hstate⟩ :=
      recreateMachine_eq_ok (swapKickstartHandlerForMaker_eq_some hmakerRestart)
    change (makerStates.map MakerSwapState.getEvent).getLast? = some event at hlast
    rw [List.getLast?_map, hmakerLog.getLast?] at hlast
    cases hlast
    rw [MakerSwapStateMachine.onKickstartEvent_eq]
    refine (makerPhases coins).resume_eq_iff hmakerLive hmakerLog
      (MakerSwapEvent.resumable_iff.mpr ⟨makerState, hstate⟩) ?_ hmakerResumed
    rintro first rest rfl heffect
    cases first with
    | initialized blocks fees => exact ⟨rfl, rfl⟩
    | _ => cases heffect
  · unfold restartTaker getTakerSwapRepr at htakerRestart
    rw [foldl_appendEvent, MySwapsRow.amounts_eq_ok rfl rfl rfl rfl rfl] at htakerRestart
    obtain ⟨rfl, event, hlast, hstate⟩ :=
      recreateTakerMachine_eq_ok (swapKickstartHandlerForTaker_eq_some htakerRestart)
    change (takerStates.map TakerSwapState.getEvent).getLast? = some event at hlast
    rw [List.getLast?_map, htakerLog.getLast?] at hlast
    cases hlast
    rw [TakerSwapStateMachine.onKickstartEvent_eq]
    refine (takerPhases coins).resume_eq_iff htakerLive htakerLog
      (TakerSwapEvent.resumable_iff.mpr ⟨takerState, hstate⟩) ?_ htakerResumed
    rintro first rest rfl heffect
    cases first with
    | initialized blocks fees => exact ⟨rfl, rfl⟩
    | _ => cases heffect

/-- The maker payment is sent, and the spend of the taker payment has a headroom of two. -/
def paidMakerStates : List MakerSwapState :=
  (makerProgram sampleCoins).statesOf (sampleMaker 1700000000)
    { sampleMakerAnswers 1700000000 1700000060 1700000010 1700000020 1700000100 with
      receiverTradeFee := .ok ⟨"MORTY", 2, false⟩ } 4

def paidTakerStates : List TakerSwapState :=
  (takerProgram sampleCoins).statesOf (sampleTaker 1700000000)
    { sampleTakerAnswers 1700000000 with receiverTradeFee := .ok ⟨"RICK", 2, false⟩ } 5

theorem paid_swaps_reserve_same :
    ∃ maker taker,
      restartMaker sampleCoins (sampleMaker 1700000000)
        (paidMakerStates.map MakerSwapState.getEvent) = some maker ∧
      restartTaker sampleCoins (sampleTaker 1700000000)
        (paidTakerStates.map TakerSwapState.getEvent) = some taker ∧
      (∀ kind coin,
        SwapReservation.reserved (maker.1.onKickstartEvent sampleCoins maker.2.getEvent ∅) 0
            kind coin =
          SwapReservation.reserved (run (makerRole sampleCoins).step
            ⟨sampleMaker 1700000000, ∅⟩ (ledgerInputs (makerProgram sampleCoins)
              paidMakerStates)).ledger 0 kind coin) ∧
      ∀ kind coin,
        SwapReservation.reserved (taker.1.onKickstartEvent sampleCoins taker.2.getEvent ∅) 0
            kind coin =
          SwapReservation.reserved (run (takerRole sampleCoins).step
            ⟨sampleTaker 1700000000, ∅⟩ (ledgerInputs (takerProgram sampleCoins)
              paidTakerStates)).ledger 0 kind coin := by
  have hmakerState : (restartMaker sampleCoins (sampleMaker 1700000000) (paidMakerStates.map
      MakerSwapState.getEvent)).map Prod.snd = paidMakerStates.getLast? := by decide +kernel
  have htakerState : (restartTaker sampleCoins (sampleTaker 1700000000) (paidTakerStates.map
      TakerSwapState.getEvent)).map Prod.snd = paidTakerStates.getLast? := by decide +kernel
  obtain ⟨maker, hmaker⟩ : ∃ maker, restartMaker sampleCoins (sampleMaker 1700000000)
      (paidMakerStates.map MakerSwapState.getEvent) = some maker :=
    Option.isSome_iff_exists.mp (by decide +kernel)
  obtain ⟨taker, htaker⟩ : ∃ taker, restartTaker sampleCoins (sampleTaker 1700000000)
      (paidTakerStates.map TakerSwapState.getEvent) = some taker :=
    Option.isSome_iff_exists.mp (by decide +kernel)
  rw [hmaker, Option.map_some] at hmakerState
  rw [htaker, Option.map_some] at htakerState
  have hboth := restart_reserves_same_iff sampleCoins (sampleMaker 1700000000) maker.1
    (sampleTaker 1700000000) taker.1 paidMakerStates maker.2 paidTakerStates taker.2 ∅ ∅ ∅ ∅
    (hmakerState ▸ StorableMachine.log_statesOf ..)
    (htakerState ▸ StorableMachine.log_statesOf ..) hmaker htaker
    ⟨fun _ => rfl, fun _ => rfl⟩ ⟨fun _ => rfl, fun _ => rfl⟩ ⟨fun _ => rfl, fun _ => rfl⟩
    ⟨fun _ => rfl, fun _ => rfl⟩
  refine ⟨maker, taker, hmaker, htaker, hboth.1.mpr ⟨fun _ => by decide +kernel, Or.inr ?_⟩,
    hboth.2.mpr ⟨fun _ => by decide +kernel, Or.inr ?_⟩⟩
  · exact fun hspends => absurd hspends (by decide +kernel)
  · exact fun hspends => absurd hspends (by decide +kernel)

/-- The spend of the taker payment is not confirmed, and the maker has to refund
its payment. -/
def unconfirmedSpendAnswers : MakerAnswers :=
  { sampleMakerAnswers 1700000000 1700000060 1700000010 1700000020 1700000100 with
    receiverTradeFee := .ok ⟨"MORTY", 2, false⟩
    takerPaymentSpendConfirmed := atOnce 1700000200 (.error "no such tx") }

def unconfirmedSpendEvents : List MakerSwapEvent :=
  ((run (MachineRun.step (makerProgram sampleCoins)) (MachineRun.fresh (sampleMaker 1700000000))
    (.onStart true :: List.replicate 7 (.change unconfirmedSpendAnswers true))).record.map
      MakerSwapDbRepr.events).getD []

/-- The headroom of two was released with the spend and is reserved again after a restart. -/
theorem released_headroom_reserved_again :
    SwapReservation.reserved (run (makerRole sampleCoins).step
        ⟨sampleMaker 1700000000, ∅⟩
        (unconfirmedSpendEvents.map LedgerInput.event)).ledger 0 .spendHeadroom
      "MORTY" = 0 ∧
    (restartMaker sampleCoins (sampleMaker 1700000000)
      unconfirmedSpendEvents).map (fun restarted =>
        SwapReservation.reserved (restarted.1.onKickstartEvent sampleCoins
          restarted.2.getEvent ∅) 0 .spendHeadroom "MORTY") = some 2 := by
  decide +kernel

end V2

end KdfProtocol
