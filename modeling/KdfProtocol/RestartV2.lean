import KdfProtocol.MakerSwapV2
import KdfProtocol.TakerSwapV2

/-!
# Restarting an interrupted V2 swap

The record of an interrupted swap is found again as long as it is not marked as
finished.  A machine can be recreated from it if the last event is one that the
recreation accepts.  Such a machine comes to its end; a record without events,
or with the event of a state that has nothing left to do, is never finished.
-/

namespace KdfProtocol

open MachineRun

namespace V2

/-! ## Records that can be resumed -/

def MakerSwapEvent.resumable : MakerSwapEvent → Bool
  | .aborted _ | .completed => false
  | _ => true

def TakerSwapEvent.resumable : TakerSwapEvent → Bool
  | .takerFundingRefunded .. | .takerPaymentRefunded .. | .aborted _ | .completed => false
  | _ => true

def MakerSwapDbRepr.Resumable (repr : MakerSwapDbRepr) : Prop :=
  repr.swapVersion ≠ nftSwapV2Version ∧
    ∃ event, repr.events.getLast? = some event ∧ event.resumable = true

def TakerSwapDbRepr.Resumable (repr : TakerSwapDbRepr) : Prop :=
  repr.swapVersion ≠ nftSwapV2Version ∧
    ∃ event, repr.events.getLast? = some event ∧ event.resumable = true

theorem MakerSwapEvent.resumable_iff {event : MakerSwapEvent} :
    event.resumable = true ↔ ∃ state, event.restore = .ok state := by
  cases event <;> simp [resumable, restore]

theorem TakerSwapEvent.resumable_iff {event : TakerSwapEvent} :
    event.resumable = true ↔ ∃ state, event.restore = .ok state := by
  cases event <;> simp [resumable, restore]

section Maker

variable {coins : SwapCoins} {repr : MakerSwapDbRepr}

theorem MakerSwapDbRepr.resumable_iff :
    repr.Resumable ↔ ∃ restored, swapKickstartHandlerForMaker coins repr = some restored := by
  constructor
  · rintro ⟨hversion, event, hlast, hresum⟩
    obtain ⟨state, hstate⟩ := MakerSwapEvent.resumable_iff.mp hresum
    unfold swapKickstartHandlerForMaker recreateMachine
    rw [hlast, if_neg (by simpa [interceptNftV2MakerRestart] using hversion)]
    simp only [hstate]
    exact ⟨_, rfl⟩
  · rintro ⟨restored, hrest⟩
    have hversion : repr.swapVersion ≠ nftSwapV2Version := by
      intro hnft
      simp [swapKickstartHandlerForMaker, interceptNftV2MakerRestart, hnft] at hrest
    obtain ⟨-, event, hlast, hstate⟩ := recreateMachine_eq_ok
      (swapKickstartHandlerForMaker_eq_some hrest)
    exact ⟨hversion, event, hlast, MakerSwapEvent.resumable_iff.mpr ⟨restored.2, hstate⟩⟩

theorem makerProgram_keepsKey (coins : SwapCoins) (key : Bytes) :
    (makerProgram coins).Maintains (fun _ _ _ => True)
      (fun machine _ => machine.takerP2pPubkey = key)
      (fun repr => repr.takerP2pPub = key) (fun _ => True) where
  toDbRepr := by
    intro machine _ hkey
    exact hkey
  sent := by
    intro _ _ _ _ _ _ _
    trivial
  next := by
    intro machine _ _ next hkey _
    have hsame : (machine.onEvent next.getEvent).takerP2pPubkey = machine.takerP2pPubkey := by
      cases next <;> rfl
    exact hsame.trans hkey
  addEvent := by
    intro _ _ repr _ hkey
    exact hkey
  recreate := by
    intro repr machine state hkey hrec
    obtain ⟨rfl, -⟩ := recreateMachine_eq_ok (swapKickstartHandlerForMaker_eq_some hrec)
    exact hkey

theorem maker_ready (coins : SwapCoins) (maker : MakerSwapStateMachine)
    (inputs : List (MachineInput MakerAnswers))
    (hrec : (run (step (makerProgram coins)) (fresh maker) inputs).record = some repr)
    {restored : MakerSwapStateMachine × MakerSwapState}
    (hrest : swapKickstartHandlerForMaker coins repr = some restored) :
    restored.1.initAdditionalContext coins = true := by
  obtain ⟨hmach, event, hlast, -⟩ := recreateMachine_eq_ok
    (swapKickstartHandlerForMaker_eq_some hrest)
  obtain ⟨hkey, hvalid⟩ := ready_of_logged
    (coins.p2pPubkeyValid maker.takerP2pPubkey = true) (fun repr => repr.events.getLast?.isSome = true)
    (makerProgram_keepsKey coins maker.takerP2pPubkey) (fun _ _ _ => trivial)
    (fun _ _ hkey hready => hkey ▸ hready) (fun _ => Bool.false_ne_true) rfl inputs hrec
    (by rw [hlast]; rfl)
  rw [← hkey] at hvalid
  rw [hmach]
  exact hvalid

end Maker

section Taker

variable {coins : SwapCoins} {repr : TakerSwapDbRepr}

theorem TakerSwapDbRepr.resumable_iff :
    repr.Resumable ↔ ∃ restored, swapKickstartHandlerForTaker coins repr = some restored := by
  constructor
  · rintro ⟨hversion, event, hlast, hresum⟩
    obtain ⟨state, hstate⟩ := TakerSwapEvent.resumable_iff.mp hresum
    unfold swapKickstartHandlerForTaker recreateTakerMachine
    rw [hlast, if_neg (by simpa [interceptNftV2MakerRestart] using hversion)]
    simp only [hstate]
    exact ⟨_, rfl⟩
  · rintro ⟨restored, hrest⟩
    have hversion : repr.swapVersion ≠ nftSwapV2Version := by
      intro hnft
      simp [swapKickstartHandlerForTaker, interceptNftV2MakerRestart, hnft] at hrest
    obtain ⟨-, event, hlast, hstate⟩ := recreateTakerMachine_eq_ok
      (swapKickstartHandlerForTaker_eq_some hrest)
    exact ⟨hversion, event, hlast, TakerSwapEvent.resumable_iff.mpr ⟨restored.2, hstate⟩⟩

theorem takerProgram_keepsKey (coins : SwapCoins) (key : Bytes) :
    (takerProgram coins).Maintains (fun _ _ _ => True)
      (fun machine _ => machine.makerP2pPubkey = key)
      (fun repr => repr.makerP2pPub = key) (fun _ => True) where
  toDbRepr := by
    intro machine _ hkey
    exact hkey
  sent := by
    intro _ _ _ _ _ _ _
    trivial
  next := by
    intro machine _ _ next hkey _
    have hsame : (machine.onEvent next.getEvent).makerP2pPubkey = machine.makerP2pPubkey := by
      cases next <;> rfl
    exact hsame.trans hkey
  addEvent := by
    intro _ _ repr _ hkey
    exact hkey
  recreate := by
    intro repr machine state hkey hrec
    obtain ⟨rfl, -⟩ := recreateTakerMachine_eq_ok (swapKickstartHandlerForTaker_eq_some hrec)
    exact hkey

theorem taker_ready (coins : SwapCoins) (taker : TakerSwapStateMachine)
    (inputs : List (MachineInput TakerAnswers))
    (hrec : (run (step (takerProgram coins)) (fresh taker) inputs).record = some repr)
    {restored : TakerSwapStateMachine × TakerSwapState}
    (hrest : swapKickstartHandlerForTaker coins repr = some restored) :
    restored.1.initAdditionalContext coins = true := by
  obtain ⟨hmach, event, hlast, -⟩ := recreateTakerMachine_eq_ok
    (swapKickstartHandlerForTaker_eq_some hrest)
  obtain ⟨hkey, hvalid⟩ := ready_of_logged
    (coins.p2pPubkeyValid taker.makerP2pPubkey = true) (fun repr => repr.events.getLast?.isSome = true)
    (takerProgram_keepsKey coins taker.makerP2pPubkey) (fun _ _ _ => trivial)
    (fun _ _ hkey hready => hkey ▸ hready) (fun _ => Bool.false_ne_true) rfl inputs hrec
    (by rw [hlast]; rfl)
  rw [← hkey] at hvalid
  rw [hmach]
  exact hvalid

end Taker

/-! ## Both machines -/

/-- For every run of the maker's or the taker's machine that has stopped with an
unfinished record: the restarted machine comes to the finished mark exactly if
the record can be resumed, and otherwise the record is never finished. -/
theorem restart_finishes_iff (coins : SwapCoins)
    (maker : MakerSwapStateMachine) (taker : TakerSwapStateMachine)
    (makerInputs : List (MachineInput MakerAnswers))
    (takerInputs : List (MachineInput TakerAnswers))
    (makerRepr : MakerSwapDbRepr) (takerRepr : TakerSwapDbRepr)
    (hmaker : (run (MachineRun.step (makerProgram coins))
      (MachineRun.fresh maker) makerInputs).Interrupted makerRepr)
    (htaker : (run (MachineRun.step (takerProgram coins))
      (MachineRun.fresh taker) takerInputs).Interrupted takerRepr) :
    (((run (MachineRun.step (makerProgram coins)) (MachineRun.fresh maker)
          makerInputs).Restarts (makerProgram coins) 8 ↔
        makerRepr.Resumable) ∧
      (¬makerRepr.Resumable → ∀ later,
        (run (MachineRun.step (makerProgram coins)) (MachineRun.fresh maker)
          (makerInputs ++ later)).finished = false)) ∧
    (((run (MachineRun.step (takerProgram coins)) (MachineRun.fresh taker)
          takerInputs).Restarts (takerProgram coins) 9 ↔
        takerRepr.Resumable) ∧
      (¬takerRepr.Resumable → ∀ later,
        (run (MachineRun.step (takerProgram coins)) (MachineRun.fresh taker)
          (takerInputs ++ later)).finished = false)) := by
  simp only [run_append]
  constructor
  · refine restarts_iff (makerProgram_ranked coins) hmaker
      MakerSwapDbRepr.resumable_iff ?_ makerRank_le (sampleMakerAnswers 0 0 0 0 0)
    intro restored hrestored
    exact maker_ready coins maker makerInputs hmaker.2.1 hrestored
  · refine restarts_iff (takerProgram_ranked coins) htaker
      TakerSwapDbRepr.resumable_iff ?_ takerRank_le (sampleTakerAnswers 0)
    intro restored hrestored
    exact taker_ready coins taker takerInputs htaker.2.1 hrestored

def startedMakerRecord : MakerSwapDbRepr :=
  ((sampleMaker 1700000000).toDbRepr sampleCoins).addEvent
    (.initialized ⟨100, 200⟩ ⟨0, 0, 0, some 0⟩)

def startedTakerRecord : TakerSwapDbRepr :=
  ((sampleTaker 1700000000).toDbRepr sampleCoins).addEvent
    (.initialized ⟨100, 200⟩ ⟨0, 0, 0, some 0⟩)

def crashAfterFirst {α : Type} (answers : α) : List (MachineInput α) :=
  [.onStart true, .change answers true, .crash]

theorem started_swaps_restart :
    (run (MachineRun.step (makerProgram sampleCoins))
      (MachineRun.fresh (sampleMaker 1700000000))
      (crashAfterFirst (sampleMakerAnswers 1700000000 1700000060 1700000010
        1700000020 1700000100))).Restarts (makerProgram sampleCoins) 8 ∧
    (run (MachineRun.step (takerProgram sampleCoins))
      (MachineRun.fresh (sampleTaker 1700000000))
      (crashAfterFirst (sampleTakerAnswers 1700000000))).Restarts
        (takerProgram sampleCoins) 9 := by
  have hboth := restart_finishes_iff sampleCoins (sampleMaker 1700000000) (sampleTaker 1700000000)
    (crashAfterFirst (sampleMakerAnswers 1700000000 1700000060 1700000010 1700000020 1700000100))
    (crashAfterFirst (sampleTakerAnswers 1700000000)) startedMakerRecord
    startedTakerRecord ⟨rfl, by decide +kernel, by decide +kernel⟩
    ⟨rfl, by decide +kernel, by decide +kernel⟩
  exact ⟨hboth.1.1.mpr ⟨by decide, _, rfl, rfl⟩, hboth.2.1.mpr ⟨by decide, _, rfl, rfl⟩⟩

/-- A record that was stored just before a crash, and one whose swap was aborted
just before the mark. -/
theorem unmarked_swaps_stay_unfinished :
    (∀ later, (run (MachineRun.step (makerProgram sampleCoins))
      (MachineRun.fresh (sampleMaker 1700000000))
      ([.onStart true, .crash] ++ later)).finished = false) ∧
    (∀ later, (run (MachineRun.step (takerProgram sampleCoins))
      (MachineRun.fresh (sampleTaker 1700000000))
      (crashAfterFirst { sampleTakerAnswers 1700000000 with
        makerCurrentBlock := .error "no connection" } ++ later)).finished =
          false) := by
  simp only [run_append]
  constructor
  · exact not_finished_of_stuck ⟨rfl, rfl, rfl⟩ rfl
  · exact not_finished_of_stuck ⟨rfl, rfl, rfl⟩ rfl

end V2

end KdfProtocol
