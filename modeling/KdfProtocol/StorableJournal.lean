import KdfProtocol.StorableMachine

/-!
# The recorded position of a storable machine

The record of a machine ends with the event of the state the machine is in or
was in when it stopped.  A property of this position and of everything that was
sent holds in every run if every change of state carries it on, both when the
event of the new state is stored and when the machine stops before that.  A
machine whose states are ranked comes to a last state when no state waits for
ever.
-/

namespace KdfProtocol

section StorableJournal

variable {μ σ ρ ε α τ : Type} (program : StorableMachine μ σ ρ ε α τ)

/-- A relation between records and positions: a new record has no position, and
the record of a state that was stored under the condition has that position. -/
structure StorableMachine.GuardedJournal (guard : μ → Option σ → α → Bool → List τ → Prop)
    (endsWith : ρ → Option σ → Prop) : Prop where
  toDbRepr : ∀ machine, endsWith (program.toDbRepr machine) none
  addEvent : ∀ repr machine position answers next sent, endsWith repr position →
    guard machine position answers true sent →
    (program.activate machine position answers).next = some next →
      endsWith (program.addEvent repr (program.getEvent next)) (some next)
  recreate : ∀ repr position machine state, endsWith repr position →
    program.recreate repr = some (machine, state) → position = some state

def StorableMachine.Journal (endsWith : ρ → Option σ → Prop) : Prop :=
  program.GuardedJournal (fun _ _ _ _ _ => True) endsWith

variable {program} in
theorem StorableMachine.Journal.guarded {endsWith : ρ → Option σ → Prop}
    (hjournal : program.Journal endsWith) (guard : μ → Option σ → α → Bool → List τ → Prop) :
    program.GuardedJournal guard endsWith :=
  { hjournal with
    addEvent := fun repr machine position answers next sent hends _ =>
      hjournal.addEvent repr machine position answers next sent hends trivial }

/-- The states that a machine can have been in one after the other, and the
last of them. -/
inductive StorableMachine.Log : List σ → Option σ → Prop where
  | start : StorableMachine.Log [] none
  | next {states : List σ} {position : Option σ} (machine : μ) (answers : α)
      (next : σ) (hlog : StorableMachine.Log states position)
      (hnext : (program.activate machine position answers).next = some next) :
      StorableMachine.Log (states ++ [next]) (some next)

variable {states : List σ}

variable {guard : μ → Option σ → α → Prop} {position : Option σ} {events : ρ → List ε}

theorem StorableMachine.Log.getLast?
    (hlog : program.Log states position) : states.getLast? = position := by
  cases hlog with
  | start => rfl
  | next machine answers next hlog hnext => exact List.getLast?_concat

/-- The states that a machine goes through if it always hears the same. -/
def StorableMachine.statesOf (machine : μ) (answers : α) : ℕ → List σ
  | 0 => []
  | n + 1 =>
    let states := StorableMachine.statesOf machine answers n
    states ++ (program.activate machine states.getLast? answers).next.toList

theorem StorableMachine.log_statesOf (machine : μ) (answers : α) (n : ℕ) :
    program.Log (program.statesOf machine answers n)
      (program.statesOf machine answers n).getLast? := by
  induction n with
  | zero => exact .start
  | succ n ih =>
    rw [statesOf]
    cases hnext : (program.activate machine (program.statesOf machine answers n).getLast?
        answers).next with
    | none => simpa using ih
    | some next => simpa using .next machine answers next ih hnext

inductive StorableMachine.GuardedLog (guard : μ → Option σ → α → Prop) :
    List σ → Option σ → Prop where
  | start : StorableMachine.GuardedLog guard [] none
  | next {states : List σ} {position : Option σ} (machine : μ) (answers : α)
      (next : σ) (hlog : StorableMachine.GuardedLog guard states position)
      (hguard : guard machine position answers)
      (hnext : (program.activate machine position answers).next = some next) :
      StorableMachine.GuardedLog guard (states ++ [next]) (some next)

theorem StorableMachine.GuardedLog.getLast? (hlog : program.GuardedLog guard states position) :
    states.getLast? = position := by
  cases hlog with
  | start => rfl
  | next machine answers next hlog hguard hnext => exact List.getLast?_concat

theorem StorableMachine.GuardedLog.previous
    {state : σ} (hlog : program.GuardedLog guard states (some state)) :
    ∃ before position machine answers, states = before ++ [state] ∧
      program.GuardedLog guard before position ∧ guard machine position answers ∧
      (program.activate machine position answers).next = some state := by
  cases hlog with
  | next machine answers next hlog hguard hnext =>
    exact ⟨_, _, machine, answers, rfl, hlog, hguard, hnext⟩

/-- The events of a record: none at first, each stored event at the end, and a
machine is recreated from the last. -/
structure StorableMachine.KeepsEvents (events : ρ → List ε) : Prop where
  toDbRepr : ∀ machine, events (program.toDbRepr machine) = []
  addEvent : ∀ repr event, events (program.addEvent repr event) = events repr ++ [event]
  recreate : ∀ repr machine state, program.recreate repr = some (machine, state) →
    ∃ event, (events repr).getLast? = some event ∧
      ∀ other, program.getEvent other = event → other = state

/-- The events of a record are those of the states that the machine has been in, and
every change met the condition. -/
def StorableMachine.GuardedLogged (guard : μ → Option σ → α → Prop)
    (events : ρ → List ε) (repr : ρ) (position : Option σ) : Prop :=
  ∃ states, events repr = states.map program.getEvent ∧ program.GuardedLog guard states position

variable {program} in
theorem StorableMachine.KeepsEvents.guardedJournal
    (hevents : program.KeepsEvents events) (guard : μ → Option σ → α → Prop) :
    program.GuardedJournal (fun machine position answers _ _ => guard machine position answers)
      (program.GuardedLogged guard events) where
  toDbRepr := fun machine => ⟨[], hevents.toDbRepr machine, .start⟩
  addEvent := by
    rintro repr machine position answers next _ ⟨states, hstates, hlog⟩ hguard hnext
    refine ⟨states ++ [next], ?_, .next machine answers next hlog hguard hnext⟩
    rw [hevents.addEvent, hstates, List.map_append, List.map_singleton]
  recreate := by
    rintro repr position machine state ⟨states, hstates, hlog⟩ hrec
    obtain ⟨event, hlast, hunique⟩ := hevents.recreate repr machine state hrec
    rw [hstates, List.getLast?_map, hlog.getLast?] at hlast
    obtain ⟨other, rfl, hother⟩ := Option.map_eq_some_iff.mp hlast
    rw [hunique other hother]

variable {program} in
theorem StorableMachine.KeepsEvents.journal (hevents : program.KeepsEvents events) :
    program.Journal (program.GuardedLogged (fun _ _ _ => True) events) :=
  hevents.guardedJournal _

/-- What a program has to show for a property of the position and of what was
sent to hold in every run. -/
structure StorableMachine.Carries (guard : μ → Option σ → α → Bool → List τ → Prop)
    (invariant : Option σ → List τ → Prop) : Prop where
  start : invariant none []
  stays : ∀ machine position answers stored sent, invariant position sent →
    guard machine position answers stored sent →
      (program.activate machine position answers).next = none ∨ stored = false →
        invariant position (sent ++ (program.activate machine position answers).sent)
  moves : ∀ machine position answers next sent, invariant position sent →
    guard machine position answers true sent →
      (program.activate machine position answers).next = some next →
        invariant (some next) (sent ++ (program.activate machine position answers).sent)

/-- One kind of transaction is sent in pending positions only, and a state that
follows is pending only if nothing of the kind was sent. -/
structure StorableMachine.SendsOnce (kind : τ → Bool) (pending : Option σ → Bool) : Prop where
  sends : ∀ machine position answers,
    (program.activate machine position answers).sent.countP kind ≠ 0 →
      pending position = true ∧
      (program.activate machine position answers).sent.countP kind = 1 ∧
      (program.activate machine position answers).next.isSome = true
  stays : ∀ machine position answers next,
    (program.activate machine position answers).next = some next →
      pending (some next) = true → pending position = true ∧
        (program.activate machine position answers).sent.countP kind = 0

/-- When a transaction of the kind gets on the chain, the event of the next
state is stored. -/
def StorableMachine.SentIsStored (kind : τ → Bool) (machine : μ)
    (position : Option σ) (answers : α) (stored : Bool) (_ : List τ) : Prop :=
  (program.activate machine position answers).sent.countP kind ≠ 0 → stored = true

namespace MachineRun

/-- The condition on a state in action, on whether the event of the next state
is stored, and on what was sent before. -/
def GuardedChange (guard : μ → Option σ → α → Bool → List τ → Prop)
    (run : MachineRun μ σ ρ τ) (input : MachineInput α) : Prop :=
  ∀ machine position answers stored, run.process = .running machine position →
    input = .change answers stored → guard machine position answers stored run.sent

structure Recorded (endsWith : ρ → Option σ → Prop) (invariant : Option σ → List τ → Prop)
    (run : MachineRun μ σ ρ τ) (position : Option σ) : Prop where
  sent : invariant position run.sent
  process : ∀ machine other, run.process.At machine other → other = position
  record : ∀ repr, run.record = some repr → endsWith repr position
  unrecorded : run.record = none → position = none
  running : ∀ machine other, run.process = .running machine other → run.record ≠ none
  finished : run.finished = true → run.process = .stopped ∧
    ∃ state, position = some state ∧ program.isLast state = true

def Ended (run : MachineRun μ σ ρ τ) : Prop :=
  run.finished = true ∨ ∃ machine state,
    run.process = .running machine (some state) ∧ program.isLast state = true

/-! ## One step -/

section OneStep

variable {program} {endsWith : ρ → Option σ → Prop}
  {guard : μ → Option σ → α → Bool → List τ → Prop} {invariant : Option σ → List τ → Prop}
  {run : MachineRun μ σ ρ τ} {position : Option σ}

variable {machine : μ} {answers : α}

section

variable (hrun : run.Recorded program endsWith invariant position)

include hrun

theorem Recorded.ended (hended : run.Ended program) :
    ∃ state, position = some state ∧ program.isLast state = true := by
  rcases hended with hfin | ⟨machine, state, hproc, hlast⟩
  · exact (hrun.finished hfin).2
  · exact ⟨state, (hrun.process machine _ (Or.inr hproc)).symm, hlast⟩

theorem Recorded.not_finished
    {other : Option σ} (hproc : run.process.At machine other) : run.finished = false := by
  cases hfin : run.finished with
  | false => rfl
  | true =>
    have hstop := (hrun.finished hfin).1
    rcases hproc with hstart | hrunning
    · rw [hstop] at hstart
      cases hstart
    · rw [hstop] at hrunning
      cases hrunning

theorem Recorded.stop : ({ run with process := .stopped } : MachineRun μ σ ρ τ).Recorded program
      endsWith invariant position where
  sent := hrun.sent
  process := by simp
  record := hrun.record
  unrecorded := hrun.unrecorded
  running := by simp
  finished := fun hfin => ⟨rfl, (hrun.finished hfin).2⟩

theorem Recorded.step (hjournal : program.GuardedJournal guard endsWith)
    (hcarry : program.Carries guard invariant)
    {input : MachineInput α} (hguard : run.GuardedChange guard input) :
    ∃ later, (run.step program input).Recorded program endsWith invariant
      later := by
  have hsteps := run.step_steps program input
  generalize run.step program input = after at hsteps
  cases hsteps with
  | same => exact ⟨position, hrun⟩
  | stopped => exact ⟨position, hrun.stop⟩
  | started machine other process hproc hprocess =>
    have hpos := hrun.process machine other (Or.inl hproc)
    have hunfinished := hrun.not_finished (Or.inl hproc)
    refine ⟨position, hrun.sent, ?_, ?_, by simp, by simp, by simp [hunfinished]⟩
    · rcases hprocess with rfl | ⟨rfl, -⟩
      · simp
      · simpa using hpos
    · intro repr hrec
      rcases Option.or_eq_some_iff.mp hrec with hold | ⟨hnone, hnew⟩
      · exact hrun.record repr hold
      · cases hnew
        rw [hrun.unrecorded hnone]
        exact hjournal.toDbRepr machine
  | acted machine other answers stored process hproc hlost hprocess =>
    obtain rfl := hrun.process machine other (Or.inr hproc)
    have hnow := hguard machine other answers stored hproc rfl
    have hstays : ({ run with
          sent := run.sent ++ (program.activate machine other answers).sent } :
        MachineRun μ σ ρ τ).Recorded program endsWith invariant other :=
      { hrun with
        sent := hcarry.stays machine other answers stored run.sent hrun.sent hnow hlost }
    rcases hprocess with rfl | rfl
    · exact ⟨other, hstays.stop⟩
    · exact ⟨other, hstays⟩
  | moved machine other answers next hproc hnext =>
    obtain rfl := hrun.process machine other (Or.inr hproc)
    have hnow := hguard machine other answers true hproc rfl
    have hunfinished := hrun.not_finished (Or.inr hproc)
    have hrecorded := hrun.running machine other hproc
    refine ⟨some next, hcarry.moves machine other answers next run.sent hrun.sent hnow hnext,
      by simp, ?_, by simp [hrecorded], by simp [hrecorded], by simp [hunfinished]⟩
    intro repr hrec
    obtain ⟨before, hpre, rfl⟩ := Option.map_eq_some_iff.mp hrec
    exact hjournal.addEvent before machine other answers next run.sent
      (hrun.record before hpre) hnow hnext
  | finished machine state marked hproc hlast =>
    have hpos := hrun.process machine _ (Or.inr hproc)
    exact ⟨position, { hrun.stop with finished := fun _ => ⟨rfl, state, hpos.symm, hlast⟩ }⟩
  | kickstarted repr machine state hopen hrecord hrec =>
    have hpos := hjournal.recreate repr position machine state (hrun.record repr hrecord) hrec
    exact ⟨position, { hrun with
      process := by simp [hpos]
      running := by simp
      finished := fun hfin => absurd hfin hopen }⟩

end

theorem recorded_fresh (hcarry : program.Carries guard invariant) (machine : μ) :
    (fresh machine : MachineRun μ σ ρ τ).Recorded program endsWith invariant none where
  sent := hcarry.start
  process := by simp [fresh]
  record := by simp [fresh]
  unrecorded := fun _ => rfl
  running := by simp [fresh]
  finished := by simp [fresh]

theorem change_stored {next : σ} (hrunning : run.process = .running machine position)
    (hopen : position.any program.isLast = false)
    (hnext : (program.activate machine position answers).next = some next) :
    run.step program (.change answers true) = { run with
        process := .running (program.onEvent machine (program.getEvent next)) (some next)
        record := run.record.map (program.addEvent · (program.getEvent next))
        sent := run.sent ++ (program.activate machine position answers).sent } := by
  simp [step, MachineRun.change, changeState, hrunning, hopen, hnext]

theorem change_waits {stored : Bool} (hrunning : run.process = .running machine position)
    (hnext : (program.activate machine position answers).next = none) :
    (run.step program (.change answers stored)).process = .running machine position := by
  simp only [step, MachineRun.change, hrunning, hnext]
  split
  · exact hrunning
  · rfl

end OneStep

/-! ## Whole runs -/

section WholeRuns

variable {program} {endsWith : ρ → Option σ → Prop}
  {guard : μ → Option σ → α → Bool → List τ → Prop} {invariant : Option σ → List τ → Prop}

variable {inputs : List (MachineInput α)}

theorem everyState_recorded (hjournal : program.GuardedJournal guard endsWith)
    (hcarry : program.Carries guard invariant) (machine : μ)
    (hguards : EveryStep (step program) (GuardedChange guard) (fresh machine) inputs) :
    EveryState (step program)
      (fun run => ∃ position, run.Recorded program endsWith invariant position)
      (fresh machine) inputs :=
  everyState_of_everyStep (step program)
    (fun _ _ hnow hguard => hnow.elim fun _ hrec => hrec.step hjournal hcarry hguard)
    ⟨none, recorded_fresh hcarry machine⟩ hguards

theorem everyStep_logged {events : ρ → List ε} (hevents : program.KeepsEvents events)
    {guard : μ → Option σ → α → Prop} (machine : μ)
    (hguards : EveryStep (step program) (Guarded guard) (fresh machine) inputs) :
    EveryStep (step program)
      (fun run _ => ∃ position, run.Recorded program
        (program.GuardedLogged guard events) (fun _ _ => True) position)
      (fresh machine) inputs := by
  have hcarry : program.Carries (fun machine position answers _ _ => guard machine position answers)
      (fun _ _ => True) := by
    constructor
    · trivial
    · intros
      trivial
    · intros
      trivial
  refine (everyStep_and_of_invariant (step program) ?_
    ⟨none, recorded_fresh hcarry machine⟩ hguards).imp fun _ _ hboth => hboth.1
  rintro run input ⟨position, hrun⟩ hguard
  exact hrun.step (hevents.guardedJournal guard) hcarry hguard

/-- A property of what was sent when a machine has ended.  The runs that keep it
are those whose changes of state all meet the condition, if the condition
carries an invariant that implies the property and a change to a last state
that breaks the condition breaks the property. -/
theorem everyState_ended_iff {condition :
      μ → Option σ → α → Bool → List τ → Prop} {property : List τ → Prop}
    (hjournal : program.Journal endsWith) (hcarry : program.Carries
      (fun machine position answers stored sent =>
        guard machine position answers stored sent ∧
          condition machine position answers stored sent) invariant)
    (hlast : ∀ state sent, program.isLast state = true →
      invariant (some state) sent → property sent)
    (hneeded : ∀ machine position answers stored sent,
      invariant position sent → guard machine position answers stored sent →
        ¬condition machine position answers stored sent →
          position.any program.isLast = false ∧ stored = true ∧
          ∃ next, (program.activate machine position answers).next = some next ∧
            program.isLast next = true ∧ ¬property
              (sent ++ (program.activate machine position answers).sent)) (machine : μ)
    (hguards : EveryStep (step program) (GuardedChange guard) (fresh machine) inputs) :
    EveryState (step program) (fun run => run.Ended program → property run.sent)
        (fresh machine) inputs ↔
      EveryStep (step program) (GuardedChange condition) (fresh machine) inputs := by
  have hprop : ∀ run : MachineRun μ σ ρ τ,
      (∃ position, run.Recorded program endsWith invariant position) →
        run.Ended program → property run.sent := by
    rintro run ⟨position, hrun⟩ hended
    obtain ⟨state, rfl, hstate⟩ := hrun.ended hended
    exact hlast state run.sent hstate hrun.sent
  refine everyState_iff_everyStep_of_invariant (step program) hprop ?_ ?_
    ⟨none, recorded_fresh hcarry machine⟩ hguards
  · rintro run input ⟨position, hrun⟩ hguard hcondition
    refine hrun.step (hjournal.guarded _) hcarry ?_
    intro machine other answers stored hproc hinput
    exact ⟨hguard machine other answers stored hproc hinput,
      hcondition machine other answers stored hproc hinput⟩
  · rintro run input ⟨position, hrun⟩ hguard hprop machine other answers stored hproc rfl
    have hpos := hrun.process machine other (Or.inr hproc)
    subst hpos
    by_contra hbroken
    obtain ⟨hopen, rfl, next, hnext, hnextLast, hfails⟩ := hneeded machine other
      answers stored run.sent hrun.sent (hguard machine other answers stored hproc rfl) hbroken
    rw [change_stored hproc hopen hnext] at hprop
    exact hfails (hprop (Or.inr ⟨_, next, rfl, hnextLast⟩))

end WholeRuns

/-! ## What is sent once -/

section SentOnce

variable {program} {endsWith : ρ → Option σ → Prop} {kind : τ → Bool} {pending : Option σ → Bool}

/-- Nothing of the kind was sent before a pending position is left, and one at
most after that. -/
def SentOnce (kind : τ → Bool) (pending : Option σ → Bool)
    (position : Option σ) (sent : List τ) : Prop :=
  sent.countP kind ≤ 1 ∧ (pending position = true → sent.countP kind = 0)

theorem carries_sentOnce (hprog : program.SendsOnce kind pending) :
    program.Carries (program.SentIsStored kind) (SentOnce kind pending) where
  start := ⟨Nat.zero_le 1, fun _ => rfl⟩
  stays := by
    intro machine position answers stored sent hsent hguard hlost
    have hnone : (program.activate machine position answers).sent.countP kind =
        0 := by
      by_contra hsome
      obtain ⟨-, -, hnext⟩ := hprog.sends machine position answers hsome
      have hstore := hguard hsome
      rcases hlost with hwaits | hunstored
      · rw [hwaits] at hnext
        cases hnext
      · rw [hunstored] at hstore
        cases hstore
    rw [SentOnce, List.countP_append, hnone, Nat.add_zero]
    exact hsent
  moves := by
    intro machine position answers next sent hsent _ hnext
    rw [SentOnce, List.countP_append]
    constructor
    · by_cases hnone : (program.activate machine position answers).sent.countP kind = 0
      · rw [hnone, Nat.add_zero]
        exact hsent.1
      · obtain ⟨hpend, hone, -⟩ := hprog.sends machine position answers hnone
        rw [hsent.2 hpend, hone]
    · intro hlater
      obtain ⟨hpend, hnone⟩ := hprog.stays machine position answers next hnext hlater
      rw [hsent.2 hpend, hnone]

theorem everyState_sentOnce (hjournal : program.Journal endsWith)
    (hprog : program.SendsOnce kind pending) (machine : μ) {inputs : List (MachineInput α)}
    (hguards : EveryStep (step program)
      (GuardedChange (program.SentIsStored kind)) (fresh machine) inputs) :
    EveryState (step program) (fun run => run.sent.countP kind ≤ 1) (fresh machine) inputs := by
  refine (everyState_recorded (hjournal.guarded _) (carries_sentOnce hprog) machine hguards).imp ?_
  rintro run ⟨position, hrun⟩
  exact hrun.sent.1

end SentOnce

/-! ## Progress -/

section Progress

variable {program}

def Productive (program : StorableMachine μ σ ρ ε α τ)
    (run : MachineRun μ σ ρ τ) (input : MachineInput α) : Prop :=
  ∀ machine position answers stored, run.process = .running machine position →
    position.any program.isLast = false → input = .change answers stored →
      (program.activate machine position answers).next.isSome = true

/-- Every change of state lowers the rank of the position, and the last states
are those of rank zero. -/
structure Ranked (program : StorableMachine μ σ ρ ε α τ) (rank : Option σ → ℕ) : Prop where
  initial : rank none ≠ 0
  last : ∀ state, program.isLast state = true ↔ rank (some state) = 0
  lowers : ∀ machine position answers next,
    (program.activate machine position answers).next = some next → rank (some next) < rank position

theorem finished_of_productive {rank : Option σ → ℕ}
    (hranked : Ranked program rank) {run : MachineRun μ σ ρ τ} {machine : μ}
    {position : Option σ} (hrunning : run.process = .running machine position)
    {answers : List α} (henough : rank position ≤ answers.length)
    (hproductive : EveryStep (step program) (Productive program) run
      (answers.map fun answer => .change answer true)) :
    (KdfProtocol.run (step program) run
      ((answers.map fun answer => .change answer true) ++ [.finish true])).finished = true := by
  induction answers generalizing run machine position with
  | nil =>
    have hzero : rank position = 0 := Nat.le_zero.mp henough
    cases position with
    | none => exact absurd hzero hranked.initial
    | some state =>
      have hlast := (hranked.last state).mpr hzero
      simp [KdfProtocol.run, step, finish, hrunning, hlast]
  | cons answer rest ih =>
    obtain ⟨hnow, hrest⟩ := hproductive
    rw [List.map_cons, List.cons_append, run_cons]
    cases hopen : position.any program.isLast with
    | true =>
      have hsame : run.step program (.change answer true) = run := by
        simp [step, change, hrunning, hopen]
      rw [hsame] at hrest ⊢
      have hzero : rank position = 0 := by
        cases position with
        | none => cases hopen
        | some state => exact (hranked.last state).mp hopen
      exact ih hrunning (by omega) hrest
    | false =>
      have hsome := hnow machine position answer true hrunning hopen rfl
      obtain ⟨next, hnext⟩ := Option.isSome_iff_exists.mp hsome
      have hlower := hranked.lowers machine position answer next hnext
      rw [change_stored hrunning hopen hnext] at hrest ⊢
      rw [List.length_cons] at henough
      exact ih rfl (by omega) hrest

/-- The machine has stopped and its record is not marked as finished. -/
def Interrupted (run : MachineRun μ σ ρ τ) (repr : ρ) : Prop :=
  run.process = .stopped ∧ run.record = some repr ∧ run.finished = false

/-- After a restart, the given number of changes of state are enough for the
machine to be marked as finished, if no state waits for ever. -/
def Restarts (program : StorableMachine μ σ ρ ε α τ) (changes : ℕ)
    (run : MachineRun μ σ ρ τ) : Prop :=
  ∀ answers : List α, changes ≤ answers.length →
    EveryStep (step program) (Productive program) ((run.kickstart program).onStart program true)
      (answers.map fun answer => .change answer true) →
    (KdfProtocol.run (step program) run
      (.kickstart :: .onStart true ::
        ((answers.map fun answer => .change answer true) ++ [.finish true]))).finished = true

section Interrupted

variable {run : MachineRun μ σ ρ τ} {repr : ρ}

variable {rank : Option σ → ℕ} {changes : ℕ}

theorem restarts_of_recreate
    (hranked : Ranked program rank) (hrun : run.Interrupted repr) {machine : μ}
    {state : σ} (hrec : program.recreate repr = some (machine, state))
    (hready : program.initAdditionalContext machine = true)
    (henough : rank (some state) ≤ changes) : run.Restarts program changes := by
  obtain ⟨hstop, hrecord, hunfinished⟩ := hrun
  intro answers hlen hproductive
  have hrunning : ((run.kickstart program).onStart program true).process =
      .running machine (some state) := by
    simp [MachineRun.kickstart, MachineRun.onStart, hstop, hunfinished, hrecord, hrec, hready]
  rw [run_cons, run_cons]
  exact finished_of_productive hranked hrunning (henough.trans hlen) hproductive

section

variable (hrun : run.Interrupted repr) (hstuck : program.recreate repr = none)

include hrun hstuck

theorem run_eq_self_of_stuck (inputs : List (MachineInput α)) :
    KdfProtocol.run (step program) run inputs = run := by
  obtain ⟨hstop, hrec, -⟩ := hrun
  refine run_induction (step program) (· = run) ?_ inputs rfl
  rintro _ input rfl
  cases input with
  | onStart stored => simp [step, MachineRun.onStart, hstop]
  | change answers stored => simp [step, change, hstop]
  | finish marked => simp [step, finish, hstop]
  | crash => simp [step, ← hstop]
  | kickstart =>
    simp [step, MachineRun.kickstart, hstop, hrec, hstuck]

theorem not_finished_of_stuck (inputs : List (MachineInput α)) :
    (KdfProtocol.run (step program) run inputs).finished = false := by
  rw [run_eq_self_of_stuck hrun hstuck inputs]
  exact hrun.2.2

theorem not_restarts_of_stuck (changes : ℕ) (answer : α) : ¬run.Restarts program changes := by
  intro hrestarts
  have hsame : (run.kickstart program).onStart program true = run :=
    run_eq_self_of_stuck hrun hstuck [.kickstart, .onStart true]
  have hproductive : EveryStep (step program) (Productive program) run
      ((List.replicate changes answer).map fun answer => .change answer true) := by
    refine (everyStep_of_invariant (step program) ?_ _ rfl).imp ?_
    · rintro now input rfl
      exact (run_eq_self_of_stuck hrun hstuck [input]).symm
    · -- A stopped machine has no state in action.
      rintro now input rfl machine position answers stored hrunning
      rw [hrun.1] at hrunning
      cases hrunning
  have hfin := hrestarts (List.replicate changes answer)
    (List.length_replicate ..).ge (hsame.symm ▸ hproductive)
  rw [not_finished_of_stuck hrun hstuck] at hfin
  cases hfin

end

/-- An interrupted run restarts exactly if a machine can be recreated from its record; it
is never finished otherwise. -/
theorem restarts_iff (hranked : Ranked program rank)
    (hrun : run.Interrupted repr) {resumable : Prop}
    (hresum : resumable ↔ ∃ restored, program.recreate repr = some restored)
    (hready : ∀ restored, program.recreate repr = some restored →
      program.initAdditionalContext restored.1 = true)
    (henough : ∀ position, rank position ≤ changes) (answer : α) :
    (run.Restarts program changes ↔ resumable) ∧
      (¬resumable → ∀ later, (KdfProtocol.run (step program) run later).finished = false) := by
  cases hrec : program.recreate repr with
  | some restored =>
    have htrue : resumable := hresum.mpr ⟨restored, hrec⟩
    have hrestarts := restarts_of_recreate hranked hrun hrec (hready restored hrec) (henough _)
    exact ⟨iff_of_true hrestarts htrue, fun hfalse => absurd htrue hfalse⟩
  | none =>
    have hfalse : ¬resumable := by
      rw [hresum, hrec]
      rintro ⟨restored, hsome⟩
      cases hsome
    exact ⟨iff_of_false (not_restarts_of_stuck hrun hrec changes answer) hfalse,
      fun _ later => not_finished_of_stuck hrun hrec later⟩

end Interrupted

end Progress

/-! ## The context of a started machine -/

section Context

variable {program} {guard : μ → Option σ → α → Prop} {atPosition : μ → Option σ → Prop}
  {inRecord : ρ → Prop} {ofSent : τ → Prop}

/-- A machine runs, and its record has events, only after its context was set
up. -/
structure SetUp (ready : Prop) (logged : ρ → Prop) (run : MachineRun μ σ ρ τ) : Prop where
  running : ∀ machine position, run.process = .running machine position → ready
  record : ∀ repr, run.record = some repr → logged repr → ready

theorem SetUp.step {ready : Prop} {logged : ρ → Prop}
    (hctx : ∀ machine position, atPosition machine position →
      program.initAdditionalContext machine = true → ready)
    (hnew : ∀ machine, ¬logged (program.toDbRepr machine))
    {run : MachineRun μ σ ρ τ} (hrun : run.SetUp ready logged)
    (hholds : run.Holds atPosition inRecord ofSent) (input : MachineInput α) :
    (run.step program input).SetUp ready logged := by
  have hsteps := run.step_steps program input
  generalize run.step program input = after at hsteps
  cases hsteps with
  | same => exact hrun
  | stopped | finished | kickstarted => exact ⟨by simp, hrun.record⟩
  | started machine position process hproc hprocess =>
    have hpos := hholds.process machine position (Or.inl hproc)
    refine ⟨?_, ?_⟩
    · rcases hprocess with rfl | ⟨rfl, hready⟩
      · simp
      · exact fun _ _ _ => hctx machine position hpos hready
    · intro repr hrec hlogged
      rcases Option.or_eq_some_iff.mp hrec with hold | ⟨-, hfresh⟩
      · exact hrun.record repr hold hlogged
      · cases hfresh
        exact absurd hlogged (hnew machine)
  | acted machine position answers stored process hproc | moved machine position answers next hproc =>
    have hready := hrun.running machine position hproc
    exact ⟨fun _ _ _ => hready, fun _ _ _ => hready⟩

theorem ready_of_logged (ready : Prop) (logged : ρ → Prop)
    (hprog : program.Maintains guard atPosition inRecord ofSent)
    (hguard : ∀ machine position answers, guard machine position answers)
    (hctx : ∀ machine position, atPosition machine position →
      program.initAdditionalContext machine = true → ready)
    (hnew : ∀ machine, ¬logged (program.toDbRepr machine)) {machine : μ}
    (hmach : atPosition machine none) (inputs : List (MachineInput α))
    {repr : ρ}
    (hrec : (KdfProtocol.run (step program) (fresh machine) inputs).record = some repr)
    (hlogged : logged repr) : inRecord repr ∧ ready := by
  suffices hboth : (KdfProtocol.run (step program) (fresh machine) inputs).Holds atPosition
      inRecord ofSent ∧ (KdfProtocol.run (step program) (fresh machine) inputs).SetUp ready logged
    from ⟨hboth.1.record repr hrec, hboth.2.record repr hrec hlogged⟩
  refine run_induction (step program)
    (fun run => run.Holds atPosition inRecord ofSent ∧ run.SetUp ready logged)
    ?_ inputs ⟨holds_fresh hmach, ?_⟩
  · rintro run input ⟨hholds, hsetUp⟩
    refine ⟨hholds.step hprog ?_, hsetUp.step hctx hnew hholds input⟩
    intro machine position answers _ _ _
    exact hguard machine position answers
  · exact ⟨by simp [fresh], by simp [fresh]⟩

end Context

end MachineRun

end StorableJournal

end KdfProtocol
