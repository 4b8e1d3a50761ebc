import KdfProtocol.GuardedRun

/-!
# Storable state machines

A machine is driven from state to state.  Every change of state stores the
event of the new state before the new state acts, and a machine that was
interrupted is recreated from its record: the representation stored when it
started and the events since.  What a state sends is not stored with its event,
so an interrupted machine may have sent what its record does not show.
-/

namespace KdfProtocol

structure Activation (σ τ : Type) where
  sent : List τ
  /-- The state to change to; none while the state waits. -/
  next : Option σ

/-- The states `σ` are those that have an event.  The initial state, which has
none, is no position at all. -/
structure StorableMachine (μ σ ρ ε α τ : Type) where
  onInitial : μ → α → Activation σ τ
  onChanged : μ → σ → α → Activation σ τ
  isLast : σ → Bool
  getEvent : σ → ε
  onEvent : μ → ε → μ
  toDbRepr : μ → ρ
  /-- Whether the context of a started machine is set up; the process ends if it
  is not. -/
  initAdditionalContext : μ → Bool
  addEvent : ρ → ε → ρ
  /-- None stands for every error of the recreation. -/
  recreate : ρ → Option (μ × σ)

inductive MachineProcess (μ σ : Type) where
  | stopped
  /-- The machine has yet to acquire its lock and to look for its record. -/
  | starting (machine : μ) (position : Option σ)
  | running (machine : μ) (position : Option σ)

structure MachineRun (μ σ ρ τ : Type) where
  process : MachineProcess μ σ
  record : Option ρ
  finished : Bool
  sent : List τ

inductive MachineInput (α : Type) where
  | onStart (stored : Bool)
  /-- The current state acts; the machine stops if the event of the next state
  is not stored. -/
  | change (answers : α) (stored : Bool)
  | finish (marked : Bool)
  | crash
  | kickstart

section StorableMachine

variable {μ σ ρ ε α τ : Type} (program : StorableMachine μ σ ρ ε α τ)

def StorableMachine.activate (machine : μ) (position : Option σ) (answers : α) : Activation σ τ :=
  match position with
  | none => program.onInitial machine answers
  | some state => program.onChanged machine state answers

def MachineProcess.At (process : MachineProcess μ σ) (machine : μ) (position : Option σ) : Prop :=
  process = .starting machine position ∨ process = .running machine position

namespace MachineRun

def fresh (machine : μ) : MachineRun μ σ ρ τ where
  process := .starting machine none
  record := none
  finished := false
  sent := []

variable (run : MachineRun μ σ ρ τ)

def onStart (stored : Bool) : MachineRun μ σ ρ τ :=
  match run.process with
  | .starting machine position =>
    if stored then
      { run with
        process := if program.initAdditionalContext machine then
          .running machine position else .stopped
        record := run.record.or (some (program.toDbRepr machine)) }
    else { run with process := .stopped }
  | _ => run

/-- The event of the new state is stored before the new state acts. -/
def changeState (machine : μ) (next : σ) (stored : Bool) : MachineRun μ σ ρ τ :=
  let event := program.getEvent next
  if stored then
    { run with
      process := .running (program.onEvent machine event) (some next)
      record := run.record.map (program.addEvent · event) }
  else { run with process := .stopped }

def change (answers : α) (stored : Bool) : MachineRun μ σ ρ τ :=
  match run.process with
  | .running machine position =>
    if position.any program.isLast then run
    else
      let activation := program.activate machine position answers
      let acted := { run with sent := run.sent ++ activation.sent }
      match activation.next with
      | none => acted
      | some next => acted.changeState program machine next stored
  | _ => run

def finish (marked : Bool) : MachineRun μ σ ρ τ :=
  match run.process with
  | .running _ position =>
    if position.any program.isLast then
      { run with
        process := .stopped
        finished := run.finished || marked }
    else run
  | _ => run

/-- A stopped machine that is not finished is recreated from its record. -/
def kickstart : MachineRun μ σ ρ τ :=
  match run.process with
  | .stopped =>
    if run.finished then run
    else
      match run.record.bind program.recreate with
      | none => run
      | some (machine, state) =>
        { run with process := .starting machine (some state) }
  | _ => run

def step : MachineInput α → MachineRun μ σ ρ τ
  | .onStart stored => run.onStart program stored
  | .change answers stored => run.change program answers stored
  | .finish marked => run.finish program marked
  | .crash => { run with process := .stopped }
  | .kickstart => run.kickstart program

/-- What a step can do, told by the process before it. -/
inductive Steps (run : MachineRun μ σ ρ τ) : MachineInput α → MachineRun μ σ ρ τ → Prop where
  | same (input : MachineInput α) : Steps run input run
  | stopped (input : MachineInput α) : Steps run input { run with process := .stopped }
  | started (machine : μ) (position : Option σ) (process : MachineProcess μ σ)
      (hproc : run.process = .starting machine position)
      (hprocess : process = .stopped ∨
        process = .running machine position ∧ program.initAdditionalContext machine = true) :
      Steps run (.onStart true)
        { run with process, record := run.record.or (some (program.toDbRepr machine)) }
  | acted (machine : μ) (position : Option σ) (answers : α) (stored : Bool)
      (process : MachineProcess μ σ) (hproc : run.process = .running machine position)
      (hlost : (program.activate machine position answers).next = none ∨ stored = false)
      (hprocess : process = .stopped ∨ process = run.process) :
      Steps run (.change answers stored)
        { run with process, sent := run.sent ++ (program.activate machine position answers).sent }
  | moved (machine : μ) (position : Option σ) (answers : α) (next : σ)
      (hproc : run.process = .running machine position)
      (hnext : (program.activate machine position answers).next = some next) :
      Steps run (.change answers true)
        { run with
          process := .running (program.onEvent machine (program.getEvent next)) (some next)
          record := run.record.map (program.addEvent · (program.getEvent next))
          sent := run.sent ++ (program.activate machine position answers).sent }
  | finished (machine : μ) (state : σ) (marked : Bool)
      (hproc : run.process = .running machine (some state)) (hlast : program.isLast state = true) :
      Steps run (.finish marked)
        { run with process := .stopped, finished := run.finished || marked }
  | kickstarted (repr : ρ) (machine : μ) (state : σ) (hopen : run.finished ≠ true)
      (hrecord : run.record = some repr) (hrec : program.recreate repr = some (machine, state)) :
      Steps run .kickstart { run with process := .starting machine (some state) }

theorem step_steps (input : MachineInput α) : run.Steps program input (run.step program input) := by
  cases input with
  | onStart stored =>
    simp only [step, onStart]
    split
    next machine position hproc =>
      split
      next hstored =>
        subst hstored
        refine .started machine position _ hproc ?_
        split
        next hready => exact Or.inr ⟨rfl, hready⟩
        · exact Or.inl rfl
      · exact .stopped _
    · exact .same _
  | change answers stored =>
    simp only [step, change]
    split
    next machine position hproc =>
      split
      · exact .same _
      · split
        next hnone =>
          exact .acted machine position answers stored _ hproc (Or.inl hnone) (Or.inr rfl)
        next next hnext =>
          unfold changeState
          dsimp only
          split
          next hstored =>
            subst hstored
            exact .moved machine position answers next hproc hnext
          next hlost =>
            rw [Bool.not_eq_true] at hlost
            exact .acted machine position answers stored _ hproc (Or.inr hlost) (Or.inl rfl)
    · exact .same _
  | finish marked =>
    simp only [step, finish]
    split
    next machine position hproc =>
      split
      next hlast =>
        cases position with
        | none => cases hlast
        | some state => exact .finished machine state marked hproc hlast
      · exact .same _
    · exact .same _
  | crash => exact .stopped _
  | kickstart =>
    simp only [step, kickstart]
    split
    · split
      · exact .same _
      next hopen =>
        split
        · exact .same _
        next machine state hrec =>
          obtain ⟨repr, hrecord, hrecreated⟩ := Option.bind_eq_some_iff.mp hrec
          exact .kickstarted repr machine state hopen hrecord hrecreated
    · exact .same _

/-! ## Properties of the machine, its record and what it sent -/

@[simp] theorem not_at_stopped {machine : μ} {position : Option σ} :
    ¬(MachineProcess.stopped : MachineProcess μ σ).At machine position := by
  simp [MachineProcess.At]

@[simp] theorem at_starting_iff {machine other : μ} {position later : Option σ} :
    (MachineProcess.starting machine position).At other later ↔
      machine = other ∧ position = later := by
  simp [MachineProcess.At]

@[simp] theorem at_running_iff {machine other : μ} {position later : Option σ} :
    (MachineProcess.running machine position).At other later ↔
      machine = other ∧ position = later := by
  simp [MachineProcess.At]

structure Holds (atPosition : μ → Option σ → Prop) (inRecord : ρ → Prop)
    (ofSent : τ → Prop) (run : MachineRun μ σ ρ τ) : Prop where
  process : ∀ machine position, run.process.At machine position → atPosition machine position
  record : ∀ repr, run.record = some repr → inRecord repr
  sent : ∀ tx ∈ run.sent, ofSent tx

def Guarded (guard : μ → Option σ → α → Prop) (run : MachineRun μ σ ρ τ)
    (input : MachineInput α) : Prop :=
  ∀ machine position answers stored, run.process = .running machine position →
    input = .change answers stored → guard machine position answers

end MachineRun

/-- What a program has to show for properties of its machine, its record and
what it sent to hold in every run. -/
structure StorableMachine.Maintains (guard : μ → Option σ → α → Prop)
    (atPosition : μ → Option σ → Prop) (inRecord : ρ → Prop) (ofSent : τ → Prop) : Prop where
  toDbRepr : ∀ machine position, atPosition machine position → inRecord (program.toDbRepr machine)
  sent : ∀ machine position answers, atPosition machine position →
    guard machine position answers →
      ∀ tx ∈ (program.activate machine position answers).sent, ofSent tx
  next : ∀ machine position answers next, atPosition machine position →
    (program.activate machine position answers).next = some next →
      atPosition (program.onEvent machine (program.getEvent next)) (some next)
  addEvent : ∀ machine state repr, atPosition machine (some state) →
    inRecord repr → inRecord (program.addEvent repr (program.getEvent state))
  recreate : ∀ repr machine state, inRecord repr →
    program.recreate repr = some (machine, state) → atPosition machine (some state)

namespace MachineRun

variable {program} {guard : μ → Option σ → α → Prop} {atPosition : μ → Option σ → Prop}
  {inRecord : ρ → Prop} {ofSent : τ → Prop} {run : MachineRun μ σ ρ τ}

section

variable (hrun : run.Holds atPosition inRecord ofSent)

include hrun

theorem Holds.stop (finished : Bool) : ({ run with process := .stopped, finished := finished } :
      MachineRun μ σ ρ τ).Holds atPosition inRecord ofSent where
  process := by simp
  record := hrun.record
  sent := hrun.sent

variable (hprog : program.Maintains guard atPosition inRecord ofSent)

include hprog

theorem Holds.step {input : MachineInput α} (hguard : run.Guarded guard input) :
    (run.step program input).Holds atPosition inRecord ofSent := by
  have hsteps := run.step_steps program input
  generalize run.step program input = after at hsteps
  cases hsteps with
  | same => exact hrun
  | stopped | finished => exact hrun.stop _
  | started machine position process hproc hprocess =>
    have hpos := hrun.process machine position (Or.inl hproc)
    refine ⟨?_, ?_, hrun.sent⟩
    · rcases hprocess with rfl | ⟨rfl, -⟩
      · simp
      · simpa using hpos
    · intro repr hrec
      rcases Option.or_eq_some_iff.mp hrec with hold | ⟨-, hnew⟩
      · exact hrun.record repr hold
      · cases hnew
        exact hprog.toDbRepr machine position hpos
  | acted machine position answers stored process hproc hlost hprocess =>
    have hsent := hprog.sent machine position answers (hrun.process _ _ (Or.inr hproc))
      (hguard machine position answers stored hproc rfl)
    refine ⟨?_, hrun.record, List.forall_mem_append.mpr ⟨hrun.sent, hsent⟩⟩
    rcases hprocess with rfl | rfl
    · simp
    · exact hrun.process
  | moved machine position answers next hproc hnext =>
    have hpos := hrun.process machine position (Or.inr hproc)
    have hsent := hprog.sent machine position answers hpos
      (hguard machine position answers true hproc rfl)
    have hlater := hprog.next machine position answers next hpos hnext
    refine ⟨by simpa using hlater, ?_, List.forall_mem_append.mpr ⟨hrun.sent, hsent⟩⟩
    intro repr hrec
    obtain ⟨before, hpre, rfl⟩ := Option.map_eq_some_iff.mp hrec
    exact hprog.addEvent _ next before hlater (hrun.record before hpre)
  | kickstarted repr machine state hopen hrecord hrec =>
    have hpos := hprog.recreate repr machine state (hrun.record repr hrecord) hrec
    exact ⟨by simpa using hpos, hrun.record, hrun.sent⟩

theorem everyState_holds {inputs : List (MachineInput α)}
    (hguards : EveryStep (step program) (Guarded guard) run inputs) :
    EveryState (step program) (Holds atPosition inRecord ofSent) run inputs :=
  everyState_of_everyStep (step program)
    (fun _ _ hnow hguard => hnow.step hprog hguard) hrun hguards

end

theorem holds_fresh {machine : μ} (hmach : atPosition machine none) :
    (fresh machine : MachineRun μ σ ρ τ).Holds atPosition inRecord ofSent where
  process := by simpa [fresh] using hmach
  record := by simp [fresh]
  sent := by simp [fresh]

theorem everyStep_guarded_and {machine : μ} {inputs : List (MachineInput α)}
    (hprog : program.Maintains (fun _ _ _ => True) atPosition inRecord ofSent)
    (hmach : atPosition machine none)
    (hguards : EveryStep (step program) (Guarded guard) (fresh machine) inputs) :
    EveryStep (step program) (Guarded fun machine position answers =>
        atPosition machine position ∧ guard machine position answers)
      (fresh machine) inputs := by
  have hfresh : (fresh machine : MachineRun μ σ ρ τ).Holds atPosition inRecord ofSent :=
    holds_fresh hmach
  refine (everyStep_and_of_invariant (step program) ?_ hfresh hguards).imp ?_
  · intro run input hholds _
    refine hholds.step hprog ?_
    intro _ _ _ _ _ _
    trivial
  · rintro run input ⟨hholds, hguard⟩ machine position answers stored hproc hinput
    exact ⟨hholds.process machine position (Or.inr hproc),
      hguard machine position answers stored hproc hinput⟩

end MachineRun

end StorableMachine

end KdfProtocol
