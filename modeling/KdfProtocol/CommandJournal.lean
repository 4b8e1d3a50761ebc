import KdfProtocol.GuardedRun

/-!
# Programs that journal their commands

A program runs one command after the other.  A finished command names the next
command and a list of events; the events are saved to a journal and applied to
the state, one at a time.  After a crash the program is loaded from its journal
and goes on with the command that a table gives for the last saved event.

A command may put transactions on a ledger.  The ledger and the journal are not
written together, so a crash can leave a transaction whose event was not saved.
-/

namespace KdfProtocol

/-! ## Programs -/

structure Exit (κ ε τ : Type) where
  next : Option κ
  events : List ε
  sent : List τ := []

inductive Outcome (κ ε τ : Type) where
  | waiting
  | panicked
  | exited (exit : Exit κ ε τ)

section ExitOr

variable {κ ε τ δ α : Type} (onError : δ → Exit κ ε τ) (result : Except δ α)
  (exit : α → Exit κ ε τ)

def exitOr : Outcome κ ε τ :=
  match result with
  | .ok a => .exited (exit a)
  | .error err => .exited (onError err)

variable {onError result exit}

theorem exitOr_eq_exited {e : Exit κ ε τ} (hexit : exitOr onError result exit = .exited e) :
    (∃ a, result = .ok a ∧ e = exit a) ∨ ∃ err, result = .error err ∧ e = onError err := by
  cases result with
  | ok a =>
    cases hexit
    exact Or.inl ⟨a, rfl, rfl⟩
  | error err =>
    cases hexit
    exact Or.inr ⟨err, rfl, rfl⟩

theorem exitOr_ne_panicked : exitOr onError result exit ≠ .panicked := by
  cases result with
  | ok a | error err => intro h; cases h

theorem exitOr_ne_waiting : exitOr onError result exit ≠ .waiting := by
  cases result with
  | ok a | error err => intro h; cases h

end ExitOr

/-- `α` are the answers that a command gets from outside. -/
structure CommandProgram (σ κ ε τ α : Type) where
  handle : σ → κ → α → Outcome κ ε τ
  apply : σ → ε → σ
  /-- The command that the last saved event stands for. -/
  command : ε → Option κ
  load : List ε → Except String (σ × Option κ)

/-! ## A run without crashes -/

structure LiveRun (σ κ ε : Type) where
  state : σ
  command : Option κ
  journal : List ε

section Live

variable {σ κ ε τ α : Type} (program : CommandProgram σ κ ε τ α)

def CommandProgram.replay (s : σ) (events : List ε) : σ :=
  events.foldl program.apply s

def LiveRun.take (live : LiveRun σ κ ε) (exit : Exit κ ε τ) : LiveRun σ κ ε where
  state := program.replay live.state exit.events
  command := exit.next
  journal := live.journal ++ exit.events

def LiveRun.step (live : LiveRun σ κ ε) (answers : α) : LiveRun σ κ ε :=
  match live.command with
  | none => live
  | some command =>
    match program.handle live.state command answers with
    | .waiting => live
    | .panicked => { live with command := none }
    | .exited exit => live.take program exit

variable {program}

variable {live : LiveRun σ κ ε} {answers : α} {command : κ}

/-- The last event of an exit stands for its next command. -/
def Exit.Tabled (table : ε → Option κ) (exit : Exit κ ε τ) : Prop :=
  ∃ event, exit.events.getLast? = some event ∧ table event = exit.next

/-! ### Loading -/

variable (program) in
/-- A journal is loaded from its first event on: the program begins with this event as
it is opened, and applies the others. -/
def LoadsFromFirst (begun : σ → Prop) : Prop :=
  ∀ journal s next, program.load journal = .ok (s, next) → ∃ first rest start opened,
    journal = first :: rest ∧ begun start ∧ program.command opened = program.command first ∧
    ∀ events, program.load (first :: events) = .ok (program.replay start (opened :: events),
      program.command (events.getLast?.getD opened))

section Loading

variable {begun : σ → Prop} (hloads : LoadsFromFirst program begun) {journal events : List ε}
  {s : σ} {next : Option κ} {event : ε} (hload : program.load journal = .ok (s, next))

include hloads hload

theorem LoadsFromFirst.replayed : ∃ start events, begun start ∧ program.replay start events = s := by
  obtain ⟨first, rest, start, opened, rfl, hbegun, -, heq⟩ := hloads _ _ _ hload
  rw [heq] at hload
  cases hload
  exact ⟨start, _, hbegun, rfl⟩

theorem LoadsFromFirst.load_command :
    ∃ event, journal.getLast? = some event ∧ program.command event = next := by
  obtain ⟨first, rest, start, opened, rfl, -, hcmd, heq⟩ := hloads _ _ _ hload
  rw [heq] at hload
  cases hload
  refine ⟨_, List.getLast?_cons, ?_⟩
  cases rest.getLast? with
  | none => exact hcmd.symm
  | some event => rfl

theorem LoadsFromFirst.load_append (hlast : events.getLast? = some event) :
    program.load (journal ++ events) = .ok (program.replay s events, program.command event) := by
  obtain ⟨first, rest, start, opened, rfl, -, -, heq⟩ := hloads _ _ _ hload
  rw [heq] at hload
  cases hload
  have hlast' : (rest ++ events).getLast? = some event := by
    rw [List.getLast?_append, hlast]
    rfl
  rw [List.cons_append, heq, hlast', CommandProgram.replay, ← List.cons_append, List.foldl_append]
  rfl

end Loading

/-! ### Resuming -/

variable (program) in
/-- What makes a program that starts with the command `first` run and load
without a panic: `ready` says that a state holds what the next command reads,
`restored` is the part of a state that loading brings back. -/
structure Journals (first : κ) (ready : σ → Option κ → Prop) (restored : σ → σ) : Prop where
  events_ne_nil : ∀ s command answers exit,
    program.handle s command answers = .exited exit → exit.events ≠ []
  next_ne_first : ∀ s command answers exit,
    program.handle s command answers = .exited exit → exit.next ≠ some first
  ready_next : ∀ s command answers exit, ready s (some command) →
    program.handle s command answers = .exited exit → ready (program.replay s exit.events) exit.next
  not_panicked : ∀ s command answers, ready s (some command) →
    program.handle s command answers ≠ .panicked
  restored_apply : ∀ s event, restored (program.apply s event) = program.apply (restored s) event
  load_append : ∀ journal s next events event,
    program.load journal = .ok (s, next) → events.getLast? = some event →
      program.load (journal ++ events) = .ok (program.replay s events, program.command event)

structure LiveRun.Ordered (first : κ) (ready : σ → Option κ → Prop)
    (initial : σ) (live : LiveRun σ κ ε) : Prop where
  first_iff : live.command = some first ↔ live.journal = []
  initial_eq : live.journal = [] → live.state = initial
  ready : ready live.state live.command

variable {first : κ} {ready : σ → Option κ → Prop} {restored : σ → σ}
  {initial : σ} (hprog : Journals program first ready restored)

include hprog

theorem Journals.restored_replay (s : σ) (events : List ε) :
    restored (program.replay s events) = program.replay (restored s) events := by
  induction events generalizing s with
  | nil => rfl
  | cons event events ih =>
    change restored (program.replay (program.apply s event) events) = _
    rw [ih, hprog.restored_apply]
    rfl

theorem LiveRun.Ordered.step (hlive : live.Ordered first ready initial) (answers : α) :
    (live.step program answers).Ordered first ready initial := by
  unfold LiveRun.step
  split
  · exact hlive
  next command hcmd =>
    have hready : ready live.state (some command) := by
      rw [← hcmd]
      exact hlive.ready
    split
    · exact hlive
    next hout =>
      exact absurd hout (hprog.not_panicked _ _ _ hready)
    next exit hout =>
      have hevents := hprog.events_ne_nil _ _ _ _ hout
      have hnonempty : live.journal ++ exit.events ≠ [] :=
        List.append_ne_nil_of_right_ne_nil _ hevents
      refine ⟨⟨fun hnext => ?_, fun hempty => absurd hempty hnonempty⟩,
        fun hempty => absurd hempty hnonempty, hprog.ready_next _ _ _ _ hready hout⟩
      exact absurd hnext (hprog.next_ne_first _ _ _ _ hout)

variable (program restored) in
/-- A program that crashes here is loaded and goes on with the command that the
live run executes next. -/
def LiveRun.Resumes (live : LiveRun σ κ ε) : Prop :=
  live.journal ≠ [] → program.load live.journal = .ok (restored live.state, live.command)

def LiveRun.Meets (condition : κ → α → Prop) (live : LiveRun σ κ ε) (answers : α) : Prop :=
  ∀ command, live.command = some command → condition command answers

theorem LiveRun.resumes_take_iff {exit : Exit κ ε τ} (hresum : live.Resumes program restored)
    (hjournal : live.journal ≠ []) (hevents : exit.events ≠ []) :
    (live.take program exit).Resumes program restored ↔ exit.Tabled program.command := by
  have hlast : exit.events.getLast? = some (exit.events.getLast hevents) :=
    List.getLast?_eq_some_getLast hevents
  have hload := hprog.load_append _ _ _ _ _ (hresum hjournal) hlast
  have hstate : program.replay (restored live.state) exit.events =
      restored (live.take program exit).state :=
    (hprog.restored_replay live.state exit.events).symm
  rw [hstate] at hload
  constructor
  · intro hresumed
    have hagain := hresumed (List.append_ne_nil_of_right_ne_nil _ hevents)
    change program.load (live.journal ++ exit.events) = _ at hagain
    rw [hload, Except.ok.injEq, Prod.mk.injEq] at hagain
    exact ⟨_, hlast, hagain.2⟩
  · rintro ⟨event, hevent, htable⟩ _
    rw [hlast, Option.some.injEq] at hevent
    change program.load (live.journal ++ exit.events) = _
    rw [hload, hevent, htable]
    rfl

section Condition

variable {condition : κ → α → Prop}
  (hwait : ∀ s command answers,
    program.handle s command answers = .waiting → condition command answers)
  (hfirst : ∀ answers exit, program.handle initial first answers = .exited exit →
    (program.load exit.events = .ok (restored (program.replay initial exit.events), exit.next) ↔
      condition first answers))
  (hlater : ∀ s command answers exit, command ≠ first →
    program.handle s command answers = .exited exit →
    (exit.Tabled program.command ↔ condition command answers))

variable {live : LiveRun σ κ ε}

include hfirst hlater

theorem LiveRun.resumes_exited_iff {command : κ} {answers : α} {exit : Exit κ ε τ}
    (hresum : live.Resumes program restored) (hlive : live.Ordered first ready initial)
    (hcmd : live.command = some command)
    (hout : program.handle live.state command answers = .exited exit) :
    (live.take program exit).Resumes program restored ↔ condition command answers := by
  have hevents := hprog.events_ne_nil _ _ _ _ hout
  by_cases hjournal : live.journal = []
  · -- Nothing is saved yet: the whole journal is that of the first command.
    have hstate := hlive.initial_eq hjournal
    have hcommand' := hlive.first_iff.mpr hjournal
    rw [hcmd, Option.some.injEq] at hcommand'
    rw [hcommand', hstate] at hout
    rw [hcommand', ← hfirst answers exit hout]
    simp only [LiveRun.Resumes, take, hjournal, List.nil_append, hstate]
    exact ⟨fun h => h hevents, fun h _ => h⟩
  · have hne : command ≠ first := by
      intro heq
      rw [heq] at hcmd
      exact hjournal (hlive.first_iff.mp hcmd)
    rw [resumes_take_iff hprog hresum hjournal hevents]
    exact hlater _ _ _ _ hne hout

include hwait

theorem LiveRun.resumes_step_iff (hresum : live.Resumes program restored)
    (hlive : live.Ordered first ready initial) (answers : α) :
    (live.step program answers).Resumes program restored ↔ live.Meets condition answers := by
  cases hcmd : live.command with
  | none =>
    simpa [step, LiveRun.Meets, hcmd] using hresum
  | some command =>
    simp only [step, LiveRun.Meets, hcmd]
    cases hout : program.handle live.state command answers with
    | waiting =>
      simpa using iff_of_true hresum (hwait _ _ _ hout)
    | panicked =>
      have hready := hlive.ready
      rw [hcmd] at hready
      exact absurd hout (hprog.not_panicked _ _ _ hready)
    | exited exit =>
      simpa using resumes_exited_iff hprog hfirst hlater hresum hlive hcmd hout

/-- A live run resumes from every prefix of its journal exactly when the answers
to its commands meet the condition under which an exit agrees with the table. -/
theorem LiveRun.everyState_resumes_iff (hready : ready initial (some first)) (inputs : List α) :
    EveryState (step program) (LiveRun.Resumes program restored) ⟨initial, some first, []⟩ inputs ↔
      EveryStep (step program) (LiveRun.Meets condition) ⟨initial, some first, []⟩ inputs := by
  have hordered : EveryStep (step program) (fun live _ => live.Ordered first ready initial)
      ⟨initial, some first, []⟩ inputs :=
    everyStep_of_invariant (step program)
      (fun live answers hlive => hlive.step hprog answers) inputs ⟨by simp, fun _ => rfl, hready⟩
  have hstep : ∀ live answers, LiveRun.Resumes program restored live →
      live.Ordered first ready initial →
      (LiveRun.Resumes program restored (live.step program answers) ↔
        live.Meets condition answers) :=
    fun live answers hresum hlive =>
      resumes_step_iff hprog hwait hfirst hlater hresum hlive answers
  exact everyState_iff_everyStep_of_guard (step program) hstep (fun hne => absurd rfl hne) hordered

end Condition

end Live

/-! ## Runs with crashes -/

/-- A running program.  `unsaved` are the events of the finished command that
are not saved yet, with the command that comes after them. -/
structure Process (σ κ ε : Type) where
  state : σ
  command : κ
  unsaved : Option (List ε × Option κ)

structure CrashRun (σ κ ε τ : Type) where
  process : Option (Process σ κ ε)
  journal : List ε
  ledger : List τ

open CrashRun

inductive CrashEvent (α : Type) where
  | execute (answers : α)
  | saveNext
  | crash
  /-- The program is started again from its journal; `accepted` says whether it
  passes the checks that come after loading. -/
  | kickStart (accepted : Bool)

section Crash

variable {σ κ ε τ α : Type} (program : CommandProgram σ κ ε τ α)

def Process.finish (process : Process σ κ ε) (exit : Exit κ ε τ) : Process σ κ ε :=
  { process with unsaved := some (exit.events, exit.next) }

variable (s : CrashRun σ κ ε τ)

def CrashRun.execute (answers : α) : CrashRun σ κ ε τ :=
  match s.process with
  | none => s
  | some process =>
    match process.unsaved with
    | some _ => s
    | none =>
      match program.handle process.state process.command answers with
      | .waiting => s
      | .panicked => { s with process := none }
      | .exited exit =>
        { s with
          process := some (process.finish exit)
          ledger := s.ledger ++ exit.sent }

def CrashRun.saveNext : CrashRun σ κ ε τ :=
  match s.process with
  | none => s
  | some process =>
    match process.unsaved with
    | none => s
    | some (event :: rest, next) =>
      { s with
        process := some
          { process with
            state := program.apply process.state event
            unsaved := some (rest, next) }
        journal := s.journal ++ [event] }
    | some ([], some command) =>
      { s with
        process := some { process with command := command, unsaved := none } }
    | some ([], none) => { s with process := none }

def CrashRun.kickStart (accepted : Bool) : CrashRun σ κ ε τ :=
  match s.process, accepted, program.load s.journal with
  | none, true, .ok (state, some command) =>
    { s with process := some ⟨state, command, none⟩ }
  | _, _, _ => s

def CrashRun.step : CrashEvent α → CrashRun σ κ ε τ
  | .execute answers => s.execute program answers
  | .saveNext => s.saveNext program
  | .crash => { s with process := none }
  | .kickStart accepted => s.kickStart program accepted

/-- What a step can do, told by the process before and after it. -/
inductive CrashRun.Steps (s : CrashRun σ κ ε τ) : CrashEvent α → CrashRun σ κ ε τ → Prop where
  | same (event : CrashEvent α) : Steps s event s
  | panicked (answers : α) (process : Process σ κ ε)
      (hprocess : s.process = some process) (hunsaved : process.unsaved = none) :
      Steps s (.execute answers) { s with process := none }
  | exited (answers : α) (process : Process σ κ ε) (exit : Exit κ ε τ)
      (hprocess : s.process = some process) (hunsaved : process.unsaved = none)
      (houtcome : program.handle process.state process.command answers = .exited exit) :
      Steps s (.execute answers)
        { s with
          process := some (process.finish exit)
          ledger := s.ledger ++ exit.sent }
  | saved (process : Process σ κ ε) (event : ε) (rest : List ε)
      (next : Option κ) (hprocess : s.process = some process)
      (hunsaved : process.unsaved = some (event :: rest, next)) :
      Steps s .saveNext
        { s with
          process := some
            { process with
              state := program.apply process.state event
              unsaved := some (rest, next) }
          journal := s.journal ++ [event] }
  | continued (process : Process σ κ ε) (command : κ) (hprocess : s.process = some process)
      (hunsaved : process.unsaved = some ([], some command)) :
      Steps s .saveNext
        { s with
          process := some { process with command := command, unsaved := none } }
  | ended (process : Process σ κ ε) (hprocess : s.process = some process)
      (hunsaved : process.unsaved = some ([], none)) :
      Steps s .saveNext { s with process := none }
  | crashed : Steps s .crash { s with process := none }
  | kickStarted (state : σ) (command : κ) (hprocess : s.process = none)
      (hload : program.load s.journal = .ok (state, some command)) :
      Steps s (.kickStart true)
        { s with process := some ⟨state, command, none⟩ }

theorem CrashRun.step_steps (event : CrashEvent α) :
    s.Steps program event (s.step program event) := by
  cases event with
  | execute answers =>
    change s.Steps program _ (s.execute program answers)
    unfold execute
    split
    · exact .same _
    next process hproc =>
      split
      · exact .same _
      next hunsaved =>
        split
        · exact .same _
        · exact .panicked answers process hproc hunsaved
        next exit hout =>
          exact .exited answers process exit hproc hunsaved hout
  | saveNext =>
    change s.Steps program _ (s.saveNext program)
    unfold saveNext
    split
    · exact .same _
    next process hproc =>
      split
      · exact .same _
      next event rest next hunsaved =>
        exact .saved process event rest next hproc hunsaved
      next command hunsaved =>
        exact .continued process command hproc hunsaved
      next hunsaved => exact .ended process hproc hunsaved
  | crash => exact .crashed
  | kickStart accepted =>
    change s.Steps program _ (s.kickStart program accepted)
    unfold kickStart
    split
    next state command hproc hload =>
      exact .kickStarted state command hproc hload
    · exact .same _

end Crash

/-! ## Where a journal stands -/

section Places

variable {σ κ ε τ α : Type} (program : CommandProgram σ κ ε τ α) (initial : σ) (first : κ)
  (heard : α → Prop) (place : List ε → Option κ → Prop)

/-- `place` relates a journal to the command that comes next.  It holds before the
first command, and the events of a command lead from place to place whether all of
them are saved or only some. -/
structure Places : Prop where
  start : place [] (some first)
  events_ne_nil : ∀ s command answers exit,
    program.handle s command answers = .exited exit → exit.events ≠ []
  next : ∀ s journal command answers exit, place journal (some command) →
    (journal = [] → s = initial) → heard answers →
    program.handle s command answers = .exited exit → place (journal ++ exit.events) exit.next
  saved : ∀ s journal command answers exit before event after,
    place journal (some command) → (journal = [] → s = initial) →
    heard answers → program.handle s command answers = .exited exit →
    exit.events = before ++ event :: after →
      place (journal ++ before ++ [event]) (program.command event)
  load_command : ∀ journal s next, program.load journal = .ok (s, next) →
    ∃ event, journal.getLast? = some event ∧ program.command event = next

structure CrashRun.Placed (s : CrashRun σ κ ε τ) : Prop where
  idle : ∀ process, s.process = some process → process.unsaved = none →
    place s.journal (some process.command) ∧ (s.journal = [] → process.state = initial)
  saving : ∀ process events next, s.process = some process →
    process.unsaved = some (events, next) →
      place (s.journal ++ events) next ∧ s.journal ++ events ≠ [] ∧
        ∀ before event after, events = before ++ event :: after →
          place (s.journal ++ before ++ [event]) (program.command event)
  journal : ∀ event, s.journal.getLast? = some event → place s.journal (program.command event)

variable {program initial first heard place}

variable {s : CrashRun σ κ ε τ}

section

variable (hplaced : s.Placed program initial place)

include hplaced

theorem CrashRun.Placed.stopped :
    CrashRun.Placed program initial place { s with process := none } where
  idle process hproc := by cases hproc
  saving process events next hproc := by cases hproc
  journal := hplaced.journal

theorem CrashRun.Placed.idling {state : σ} {command : κ}
    (hcmd : place s.journal (some command)) (hne : s.journal ≠ []) :
    CrashRun.Placed program initial place { s with process := some ⟨state, command, none⟩ } where
  idle := by
    intro process hproc _
    cases hproc
    exact ⟨hcmd, fun hempty => absurd hempty hne⟩
  saving := by
    intro process events next hproc hunsaved
    cases hproc
    cases hunsaved
  journal := hplaced.journal

variable {process : Process σ κ ε}

theorem CrashRun.Placed.exited (hplaces : Places program initial first heard place) {answers : α}
    {exit : Exit κ ε τ}
    (hheard : heard answers) (hproc : s.process = some process) (hidle : process.unsaved = none)
    (hout : program.handle process.state process.command answers = .exited exit) :
    CrashRun.Placed program initial place { s with
        process := some (process.finish exit)
        ledger := s.ledger ++ exit.sent } where
  idle := by
    intro process' hprocess' hnone
    cases hprocess'
    cases hnone
  saving := by
    intro process' events next hprocess' hunsaved
    cases hprocess'
    cases hunsaved
    obtain ⟨hplace, hinitial⟩ := hplaced.idle process hproc hidle
    refine ⟨hplaces.next _ _ _ _ _ hplace hinitial hheard hout, ?_, ?_⟩
    · exact List.append_ne_nil_of_right_ne_nil _ (hplaces.events_ne_nil _ _ _ _ hout)
    · intro before event after hsplit
      exact hplaces.saved _ _ _ _ _ _ _ _ hplace hinitial hheard hout hsplit
  journal := hplaced.journal

theorem CrashRun.Placed.saved {event : ε} {rest : List ε} {next : Option κ}
    (hproc : s.process = some process) (hunsaved : process.unsaved = some (event :: rest, next)) :
    CrashRun.Placed program initial place { s with
        process := some { process with
            state := program.apply process.state event
            unsaved := some (rest, next) }
        journal := s.journal ++ [event] } := by
  obtain ⟨hnext, hne, hevents⟩ := hplaced.saving process _ _ hproc hunsaved
  have happend : s.journal ++ [event] ++ rest = s.journal ++ event :: rest :=
    List.append_cons .. |>.symm
  constructor
  · intro process' hprocess' hnone
    cases hprocess'
    cases hnone
  · intro process' events next' hprocess' hunsaved'
    cases hprocess'
    cases hunsaved'
    refine ⟨?_, ?_, ?_⟩
    · change place (s.journal ++ [event] ++ rest) next
      rw [happend]
      exact hnext
    · change s.journal ++ [event] ++ rest ≠ []
      rw [happend]
      exact hne
    · intro before later after hsplit
      have hplace := hevents (event :: before) later after (by rw [hsplit]; rfl)
      rw [List.append_cons s.journal event before] at hplace
      exact hplace
  · intro last hlast
    have heq : event = last := by simpa using hlast
    have hplace := hevents [] event rest rfl
    rw [List.append_nil, heq] at hplace
    rw [heq]
    exact hplace

theorem CrashRun.Placed.step (hplaces : Places program initial first heard place)
    {event : CrashEvent α} (hheard : ∀ answers, event = .execute answers → heard answers) :
    (s.step program event).Placed program initial place := by
  have hsteps := s.step_steps program event
  generalize s.step program event = s' at hsteps
  cases hsteps with
  | same => exact hplaced
  | panicked | ended | crashed => exact hplaced.stopped
  | exited answers process exit hproc hidle hout =>
    exact hplaced.exited hplaces (hheard answers rfl) hproc hidle hout
  | saved process event rest next hproc hunsaved =>
    exact hplaced.saved hproc hunsaved
  | continued process command hproc hunsaved =>
    have hsaving := hplaced.saving process _ _ hproc hunsaved
    rw [List.append_nil] at hsaving
    exact hplaced.idling hsaving.1 hsaving.2.1
  | kickStarted state command hproc hload =>
    obtain ⟨event, hlast, hcmd⟩ := hplaces.load_command _ _ _ hload
    have hplace := hplaced.journal event hlast
    rw [hcmd] at hplace
    refine hplaced.idling hplace ?_
    intro hempty
    rw [hempty] at hlast
    cases hlast

end

theorem Places.run (hplaces : Places program initial first heard place)
    (events : List (CrashEvent α)) (hheard : ∀ answers, .execute answers ∈ events → heard answers) :
    (run (step program)
      ⟨some ⟨initial, first, none⟩, [], []⟩ events).Placed program initial place := by
  have hstart : CrashRun.Placed program initial place
      (⟨some ⟨initial, first, none⟩, [], []⟩ : CrashRun σ κ ε τ) := by
    constructor
    · intro process hproc _
      cases hproc
      exact ⟨hplaces.start, fun _ => rfl⟩
    · intro process events next hproc hunsaved
      cases hproc
      cases hunsaved
    · intro event hlast
      cases hlast
  have hsteps : EveryStep (step program)
      (fun _ event => ∀ answers, event = .execute answers → heard answers)
      ⟨some ⟨initial, first, none⟩, [], []⟩ events :=
    everyStep_of_forall fun _ event hmem answers heq => hheard answers (heq ▸ hmem)
  exact everyState_last _ (everyState_of_everyStep (step program)
    (fun s event hs hevent => hs.step hplaces hevent) hstart hsteps)

end Places

/-! ### Journals with two opening events -/

section Opens

variable {σ κ ε τ α : Type} (program : CommandProgram σ κ ε τ α) (initial : σ) (first second : κ)
  (heard : α → Prop) (begun agreed settled : ε → Prop) (dead : Option κ → Prop)

def PastOpening (next : Option κ) : Prop :=
  next ≠ some first ∧ next ≠ some second

/-- The first command opens the journal with one event and the second goes on with
one; either can fail and leaves a journal of a dead program then. -/
structure Opens : Prop where
  events_ne_nil : ∀ s command answers exit,
    program.handle s command answers = .exited exit → exit.events ≠ []
  load_command : ∀ journal s next, program.load journal = .ok (s, next) →
    ∃ event, journal.getLast? = some event ∧ program.command event = next
  not_settled : ∀ event, begun event → ¬settled event
  begins : ∀ answers exit, program.handle initial first answers = .exited exit →
    ∃ event, exit.events = [event] ∧
      ((begun event ∧ exit.next = some second ∧
          program.command event = some second) ∨
        (¬settled event ∧ dead exit.next ∧ dead (program.command event)))
  agrees : ∀ s answers exit, heard answers →
    program.handle s second answers = .exited exit →
    ∃ event, exit.events = [event] ∧
      ((agreed event ∧ PastOpening first second exit.next ∧
          PastOpening first second (program.command event)) ∨
        (¬settled event ∧ dead exit.next ∧ dead (program.command event)))
  goesOn : ∀ s command answers exit, PastOpening first second (some command) →
    program.handle s command answers = .exited exit →
      PastOpening first second exit.next ∧ ∀ event ∈ exit.events,
        PastOpening first second (program.command event)
  staysDead : ∀ s command answers exit, dead (some command) →
    program.handle s command answers = .exited exit →
      dead exit.next ∧ ∀ event ∈ exit.events, ¬settled event ∧ dead (program.command event)

inductive Opened : List ε → Option κ → Prop where
  | empty : Opened [] (some first)
  | begun (event : ε) (hbegun : begun event) : Opened [event] (some second)
  | agreed (opening answer : ε) (rest : List ε) (next : Option κ) (hbegun : begun opening)
      (hagreed : agreed answer) (hnext : PastOpening first second next) :
      Opened (opening :: answer :: rest) next
  | failed (journal : List ε) (next : Option κ) (hsettled : ∀ event ∈ journal, ¬settled event)
      (hdead : dead next) (hne : journal ≠ []) :
      Opened journal next

variable {program initial first second heard begun agreed settled dead}

variable {journal : List ε} {events : List ε} {event : ε}

theorem isPrefix_of_eq_append_cons {before after : List ε}
    (hsplit : events = before ++ event :: after) :
    before ++ [event] <+: events ∧ event ∈ events := by
  subst hsplit
  exact ⟨⟨after, (List.append_cons ..).symm⟩, by simp⟩

variable (hopens : Opens program initial first second heard begun agreed settled dead)

include hopens

theorem Opened.append {s : σ} {command : κ} {answers : α} {exit : Exit κ ε τ}
    (hplace : Opened first second begun agreed settled dead journal (some command))
    (hinitial : journal = [] → s = initial) (hheard : heard answers)
    (hexit : program.handle s command answers = .exited exit) {next : Option κ}
    (hne : events ≠ []) (hsaved : events <+: exit.events)
    (hnext : ∀ property : Option κ → Prop, property exit.next →
      (∀ event ∈ exit.events, property (program.command event)) → property next) :
    Opened first second begun agreed settled dead (journal ++ events) next := by
  have hsingle : ∀ event, exit.events = [event] → events = [event] ∧
      ∀ property : Option κ → Prop, property exit.next → property (program.command event) →
        property next := by
    intro event hevents
    rw [hevents] at hsaved hnext
    obtain ⟨rest, rfl, hrest⟩ := (List.prefix_cons_iff.mp hsaved).resolve_left hne
    rw [List.prefix_nil.mp hrest]
    exact ⟨rfl, fun property hexitNext hcmd =>
      hnext property hexitNext (List.forall_mem_singleton.mpr hcmd)⟩
  cases hplace with
  | empty =>
    rw [hinitial rfl] at hexit
    obtain ⟨event, hevents, hcase⟩ := hopens.begins answers exit hexit
    obtain ⟨rfl, hof⟩ := hsingle event hevents
    rcases hcase with ⟨hbegun, hexitNext, hcmd⟩ | ⟨hsett, hdeads⟩
    · rw [hof (· = some second) hexitNext hcmd]
      exact .begun event hbegun
    · exact .failed [event] next (List.forall_mem_singleton.mpr hsett)
        (hof dead hdeads.1 hdeads.2) hne
  | begun opening hbegun =>
    obtain ⟨event, hevents, hcase⟩ := hopens.agrees s answers exit hheard hexit
    obtain ⟨rfl, hof⟩ := hsingle event hevents
    rcases hcase with ⟨hagreed, hpast⟩ | ⟨hsett, hdeads⟩
    · exact .agreed opening event [] next hbegun hagreed (hof _ hpast.1 hpast.2)
    · refine .failed [opening, event] next ?_ (hof dead hdeads.1 hdeads.2) (List.cons_ne_nil _ _)
      rw [List.forall_mem_cons, List.forall_mem_singleton]
      exact ⟨hopens.not_settled opening hbegun, hsett⟩
  | agreed opening answer rest next hbegun hagreed hpast =>
    obtain ⟨hexitNext, hcommands⟩ := hopens.goesOn s command answers exit hpast hexit
    exact .agreed opening answer (rest ++ events) _ hbegun hagreed (hnext _ hexitNext hcommands)
  | failed journal next hsett hdead hjournal =>
    obtain ⟨hexitNext, hevents⟩ := hopens.staysDead s command answers exit hdead hexit
    refine .failed _ _ (List.forall_mem_append.mpr ⟨hsett, fun event hmem => ?_⟩)
      (hnext dead hexitNext fun event hmem => (hevents event hmem).2)
      (List.append_ne_nil_of_left_ne_nil hjournal _)
    exact (hevents event (hsaved.subset hmem)).1

theorem Opens.places :
    Places program initial first heard (Opened first second begun agreed settled dead) where
  start := .empty
  events_ne_nil := hopens.events_ne_nil
  load_command := hopens.load_command
  next s journal command answers exit hplace hinitial hheard hexit :=
    hplace.append hopens hinitial hheard hexit
      (hopens.events_ne_nil s command answers exit hexit) (List.prefix_refl _)
      fun _ hexitNext _ => hexitNext
  saved s journal command answers exit before event after hplace hinitial hheard hexit hsplit := by
    obtain ⟨hsaved, hmem⟩ := isPrefix_of_eq_append_cons hsplit
    rw [List.append_assoc]
    exact hplace.append hopens hinitial hheard hexit (by simp) hsaved
      fun _ _ hevents => hevents event hmem

theorem Opens.journal_of_settled
    {events : List (CrashEvent α)} (hheard : ∀ answers, .execute answers ∈ events → heard answers)
    (hjournal : (run (step program) ⟨some ⟨initial, first, none⟩, [], []⟩ events).journal = journal)
    (hmem : event ∈ journal) (hsett : settled event) :
    ∃ opening answer rest, journal = opening :: answer :: rest ∧ begun opening ∧ agreed answer := by
  have hplaced := hopens.places.run events hheard
  obtain ⟨last, hlast⟩ : ∃ last, journal.getLast? = some last := by
    rw [List.getLast?_eq_some_getLast (List.ne_nil_of_mem hmem)]
    exact ⟨_, rfl⟩
  have hplace := hplaced.journal last (by rw [hjournal]; exact hlast)
  rw [hjournal] at hplace
  generalize program.command last = next at hplace
  cases hplace with
  | empty => cases hmem
  | begun opening hbegun =>
    rw [List.mem_singleton.mp hmem] at hsett
    exact absurd hsett (hopens.not_settled opening hbegun)
  | agreed opening answer rest next hbegun hagreed hpast =>
    exact ⟨opening, answer, rest, rfl, hbegun, hagreed⟩
  | failed journal next hnone hdead hne => exact absurd hsett (hnone event hmem)

end Opens

/-! ## Transactions that are sent once -/

section SendsOnce

variable {σ κ ε τ α : Type} (program : CommandProgram σ κ ε τ α)
  (kind : τ → Bool) (sender : κ) (past : Option κ → Prop)

/-- Only `sender` sends transactions of the kind, one at most; once it has run,
neither the next command nor the events lead back to it. -/
structure SendsOnce : Prop where
  sender_not_past : ¬past (some sender)
  sent_le_one : ∀ s answers exit,
    program.handle s sender answers = .exited exit → exit.sent.countP kind ≤ 1
  sent_eq_zero : ∀ s command answers exit, command ≠ sender →
    program.handle s command answers = .exited exit → exit.sent.countP kind = 0
  next_past : ∀ s command answers exit,
    command = sender ∨ past (some command) →
    program.handle s command answers = .exited exit → past exit.next
  events_past : ∀ s command answers exit,
    command = sender ∨ past (some command) →
    program.handle s command answers = .exited exit →
      ∀ event ∈ exit.events, past (program.command event)
  load_command : ∀ journal s next, program.load journal = .ok (s, next) →
    ∃ event, journal.getLast? = some event ∧ program.command event = next

variable {program kind sender past}

variable {command : κ} {answers : α} {exit : Exit κ ε τ} {s : CrashRun σ κ ε τ}
  {process : Process σ κ ε}

/-! ### A sender that asks the ledger -/

variable {fresh : σ → Prop} {truthful : CrashRun σ κ ε τ → α → Prop}

variable (kind past) in
/-- A process that has run since the beginning has sent nothing before it
passed the sender. -/
def FreshUnsent (fresh : σ → Prop) (s : CrashRun σ κ ε τ) : Prop :=
  ∀ process, s.process = some process → fresh process.state →
    (process.unsaved = none → ¬past (some process.command) → s.ledger.countP kind = 0) ∧
    (∀ events next, process.unsaved = some (events, next) → ¬past next → s.ledger.countP kind = 0)

variable (program kind sender fresh truthful) in
/-- A process that was started again asks the ledger before it sends. -/
structure AsksLedger : Prop where
  fresh_of_apply : ∀ s event, fresh (program.apply s event) → fresh s
  not_fresh_load : ∀ journal s next, program.load journal = .ok (s, next) → ¬fresh s
  asks : ∀ (run : CrashRun σ κ ε τ) process answers exit,
    run.process = some process → ¬fresh process.state →
    process.command = sender → truthful run answers →
    program.handle process.state sender answers = .exited exit →
    run.ledger.countP kind ≠ 0 → exit.sent.countP kind = 0

def TruthfulStep (truthful : CrashRun σ κ ε τ → α → Prop)
    (s : CrashRun σ κ ε τ) : CrashEvent α → Prop
  | .execute answers => truthful s answers
  | _ => True

section

variable (hsends : SendsOnce program kind sender past)

include hsends

theorem SendsOnce.eq_sender_of_sent {s : σ} (hout : program.handle s command answers = .exited exit)
    (hsent : exit.sent.countP kind ≠ 0) : command = sender := by
  by_contra hne
  exact hsent (hsends.sent_eq_zero s command answers exit hne hout)

theorem SendsOnce.countP_append_le_one {s : σ} {ledger : List τ}
    (hout : program.handle s command answers = .exited exit) (hone : ledger.countP kind ≤ 1)
    (hempty : command = sender → exit.sent.countP kind ≠ 0 → ledger.countP kind = 0) :
    (ledger ++ exit.sent).countP kind ≤ 1 := by
  rw [List.countP_append]
  by_cases hsent : exit.sent.countP kind = 0
  · omega
  · have hsender := hsends.eq_sender_of_sent hout hsent
    have hzero := hempty hsender hsent
    rw [hsender] at hout
    have hle := hsends.sent_le_one _ _ _ hout
    omega

variable (hasks : AsksLedger program kind sender fresh truthful)

include hasks

theorem FreshUnsent.step (hunsent : FreshUnsent kind past fresh s) (event : CrashEvent α) :
    FreshUnsent kind past fresh (s.step program event) := by
  have hsteps := s.step_steps program event
  generalize s.step program event = s' at hsteps
  cases hsteps with
  | same => exact hunsent
  | panicked | ended | crashed => intro process hproc; cases hproc
  | exited answers process exit hproc hidle hout =>
    intro process' hprocess' hfresh
    cases hprocess'
    constructor
    · intro hnone
      cases hnone
    · intro events next hfin hnext
      cases hfin
      have hcmd : ¬(process.command = sender ∨ past (some process.command)) :=
        fun h => hnext (hsends.next_past _ _ _ _ h hout)
      obtain ⟨hsender, hpast⟩ := not_or.mp hcmd
      have hpre : s.ledger.countP kind = 0 := (hunsent process hproc hfresh).1 hidle hpast
      have hsent : exit.sent.countP kind = 0 := hsends.sent_eq_zero _ _ _ _ hsender hout
      change (s.ledger ++ exit.sent).countP kind = 0
      rw [List.countP_append]
      omega
  | saved process event rest next hproc hunsaved =>
    intro process' hprocess' hfresh
    cases hprocess'
    have hfresh' := hasks.fresh_of_apply _ _ hfresh
    constructor
    · intro hnone
      cases hnone
    · intro events next' hsaved hnext
      cases hsaved
      exact (hunsent process hproc hfresh').2 _ _ hunsaved hnext
  | continued process command hproc hunsaved =>
    intro process' hprocess' hfresh
    cases hprocess'
    constructor
    · intro _ hnext
      exact (hunsent process hproc hfresh).2 _ _ hunsaved hnext
    · intro events next hsome
      cases hsome
  | kickStarted state command hproc hload =>
    intro process hprocess' hfresh
    cases hprocess'
    exact absurd hfresh (hasks.not_fresh_load _ _ _ hload)

theorem countP_le_one_step {event : CrashEvent α} (hunsent : FreshUnsent kind past fresh s)
    (htrue : TruthfulStep truthful s event) (hone : s.ledger.countP kind ≤ 1) :
    (s.step program event).ledger.countP kind ≤ 1 := by
  have hsteps := s.step_steps program event
  generalize s.step program event = s' at hsteps
  cases hsteps with
  | exited answers process exit hproc hidle hout =>
    apply hsends.countP_append_le_one hout hone
    intro hsender hsent
    by_cases hfresh : fresh process.state
    · refine (hunsent process hproc hfresh).1 hidle ?_
      rw [hsender]
      exact hsends.sender_not_past
    · by_contra hledger
      rw [hsender] at hout
      exact hsent (hasks.asks s process answers exit hproc hfresh hsender htrue hout hledger)
  | same | panicked | saved | continued | ended | crashed | kickStarted => exact hone

theorem everyState_sentOnce_of_asks {events : List (CrashEvent α)}
    (hempty : s.ledger.countP kind = 0)
    (htrue : EveryStep (step program) (TruthfulStep truthful) s events) :
    EveryState (step program) (fun s => s.ledger.countP kind ≤ 1) s events := by
  have hstart : FreshUnsent kind past fresh s ∧ s.ledger.countP kind ≤ 1 := by
    constructor
    · intro process _ _
      exact ⟨fun _ _ => hempty, fun _ _ _ _ => hempty⟩
    · omega
  have hstep : ∀ s event, FreshUnsent kind past fresh s ∧ s.ledger.countP kind ≤ 1 →
      TruthfulStep truthful s event →
      FreshUnsent kind past fresh (s.step program event) ∧
        (s.step program event).ledger.countP kind ≤ 1 := by
    intro s event hs htruth
    exact ⟨hs.1.step hsends hasks event, countP_le_one_step hsends hasks hs.1 htruth hs.2⟩
  exact (everyState_of_everyStep (step program) hstep hstart htrue).imp fun _ hs => hs.2

end

/-! ### A sender that does not ask -/

variable (sender) in
/-- The sender has ended and its events are not all saved. -/
def InSendWindow (s : CrashRun σ κ ε τ) : Prop :=
  ∃ process event rest next, s.process = some process ∧ process.command = sender ∧
    process.unsaved = some (event :: rest, next)

variable (kind sender) in
/-- The program does not crash between sending a transaction of the kind and
saving the event that says so. -/
def SavesBeforeCrash (s : CrashRun σ κ ε τ) : CrashEvent α → Prop
  | .crash => s.ledger.countP kind ≠ 0 → ¬InSendWindow sender s
  | _ => True

variable (program kind sender past) in
/-- Once a transaction of the kind is on the ledger, the process and the journal
are past the sender, or the events of the sender are being saved. -/
structure SentIsPast (s : CrashRun σ κ ε τ) : Prop where
  idle : s.ledger.countP kind ≠ 0 → ∀ process, s.process = some process →
    process.unsaved = none → past (some process.command)
  saving : s.ledger.countP kind ≠ 0 → ∀ process events next,
    s.process = some process → process.unsaved = some (events, next) →
      past next ∧ ∀ event ∈ events, past (program.command event)
  journal : s.ledger.countP kind ≠ 0 → InSendWindow sender s ∨
    ∃ event, s.journal.getLast? = some event ∧ past (program.command event)
  once : s.ledger.countP kind ≤ 1

section

variable (hpast : SentIsPast program kind sender past s)

include hpast

theorem SentIsPast.journal_past
    (hledger : s.ledger.countP kind ≠ 0) (hwindow : ¬InSendWindow sender s) :
    ∃ event, s.journal.getLast? = some event ∧ past (program.command event) :=
  (hpast.journal hledger).resolve_left hwindow

theorem SentIsPast.stopped (hwindow : s.ledger.countP kind ≠ 0 → ¬InSendWindow sender s) :
    SentIsPast program kind sender past { s with process := none } where
  idle _ process hproc := by cases hproc
  saving _ process events next hproc := by cases hproc
  journal hledger := Or.inr (hpast.journal_past hledger (hwindow hledger))
  once := hpast.once

theorem SentIsPast.saved {event : ε} {rest : List ε} {next : Option κ}
    (hproc : s.process = some process) (hunsaved : process.unsaved = some (event :: rest, next)) :
    SentIsPast program kind sender past { s with
        process := some { process with
            state := program.apply process.state event
            unsaved := some (rest, next) }
        journal := s.journal ++ [event] } where
  idle := by
    intro _ process' hprocess' hnone
    cases hprocess'
    cases hnone
  saving := by
    intro hledger process' events next' hprocess' hunsaved'
    cases hprocess'
    cases hunsaved'
    have hsaving := hpast.saving hledger process _ _ hproc hunsaved
    exact ⟨hsaving.1, fun e he => hsaving.2 e (List.mem_cons_of_mem _ he)⟩
  journal := by
    intro hledger
    have hsaving := hpast.saving hledger process _ _ hproc hunsaved
    exact Or.inr ⟨event, by simp, hsaving.2 event List.mem_cons_self⟩
  once := hpast.once

theorem SentIsPast.idling {state : σ}
    (hwindow : ¬InSendWindow sender s) (hcmd : s.ledger.countP kind ≠ 0 → past (some command)) :
    SentIsPast program kind sender past { s with process := some ⟨state, command, none⟩ } where
  idle := by
    intro hledger process hproc _
    cases hproc
    exact hcmd hledger
  saving := by
    intro _ process events next hproc hunsaved
    cases hproc
    cases hunsaved
  journal hledger := Or.inr (hpast.journal_past hledger hwindow)
  once := hpast.once

theorem SentIsPast.continued
    (hproc : s.process = some process) (hunsaved : process.unsaved = some ([], some command)) :
    SentIsPast program kind sender past { s with
        process := some { process with command := command, unsaved := none } } :=
  hpast.idling (by simp [InSendWindow, hproc, hunsaved])
    fun hledger => (hpast.saving hledger process _ _ hproc hunsaved).1

variable (hsends : SendsOnce program kind sender past)

include hsends

theorem SentIsPast.exited (hevents : ∀ s answers exit,
      program.handle s sender answers = .exited exit → exit.events ≠ [])
    (hproc : s.process = some process) (hidle : process.unsaved = none)
    (hout : program.handle process.state process.command answers = .exited exit) :
    SentIsPast program kind sender past { s with
        process := some (process.finish exit)
        ledger := s.ledger ++ exit.sent } := by
  have hcount : (s.ledger ++ exit.sent).countP kind =
      s.ledger.countP kind + exit.sent.countP kind := List.countP_append
  have hpre : s.ledger.countP kind ≠ 0 → past (some process.command) :=
    fun hledger => hpast.idle hledger process hproc hidle
  -- The process is past the sender, or the sender has just sent.
  have hplace : s.ledger.countP kind + exit.sent.countP kind ≠ 0 →
      process.command = sender ∨ past (some process.command) := by
    intro hledger
    by_cases hsent : exit.sent.countP kind = 0
    · exact Or.inr (hpre (by omega))
    · exact Or.inl (hsends.eq_sender_of_sent hout hsent)
  refine ⟨?_, ?_, ?_, ?_⟩
  · intro _ process' hprocess' hnone
    cases hprocess'
    cases hnone
  · intro hledger process' events next hprocess' hunsaved
    cases hprocess'
    cases hunsaved
    have hcmd := hplace (by rw [← hcount]; exact hledger)
    exact ⟨hsends.next_past _ _ _ _ hcmd hout, hsends.events_past _ _ _ _ hcmd hout⟩
  · intro hledger
    by_cases hsent : exit.sent.countP kind = 0
    · have hold : s.ledger.countP kind ≠ 0 := by
        change (s.ledger ++ exit.sent).countP kind ≠ 0 at hledger
        omega
      exact Or.inr (hpast.journal_past hold (by simp [InSendWindow, hproc, hidle]))
    · have hsender := hsends.eq_sender_of_sent hout hsent
      have hne : exit.events ≠ [] := by
        rw [hsender] at hout
        exact hevents _ _ _ hout
      obtain ⟨event, rest, hsplit⟩ := List.exists_cons_of_ne_nil hne
      refine Or.inl ⟨_, event, rest, exit.next, rfl, hsender, ?_⟩
      rw [← hsplit]
      rfl
  · apply hsends.countP_append_le_one hout hpast.once
    intro hsender _
    by_contra hledger
    have hcmd := hpre hledger
    rw [hsender] at hcmd
    exact hsends.sender_not_past hcmd

theorem SentIsPast.kickStarted {state : σ} (hproc : s.process = none)
    (hload : program.load s.journal = .ok (state, some command)) :
    SentIsPast program kind sender past { s with process := some ⟨state, command, none⟩ } := by
  have hwindow : ¬InSendWindow sender s := by simp [InSendWindow, hproc]
  apply hpast.idling hwindow
  intro hledger
  -- The command is that of the last saved event, which is past the sender.
  obtain ⟨event, hlast, hevent⟩ := hpast.journal_past hledger hwindow
  obtain ⟨event', hlast', hcmd⟩ := hsends.load_command _ _ _ hload
  rw [hlast] at hlast'
  cases hlast'
  rw [hcmd] at hevent
  exact hevent

theorem SentIsPast.step (hevents : ∀ s answers exit,
      program.handle s sender answers = .exited exit → exit.events ≠ []) {event : CrashEvent α}
    (hsaves : SavesBeforeCrash kind sender s event) :
    SentIsPast program kind sender past (s.step program event) := by
  have hsteps := s.step_steps program event
  generalize s.step program event = s' at hsteps
  cases hsteps with
  | same => exact hpast
  | panicked answers process hproc hidle =>
    exact hpast.stopped fun _ => by simp [InSendWindow, hproc, hidle]
  | exited answers process exit hproc hidle hout =>
    exact hpast.exited hsends hevents hproc hidle hout
  | saved process event rest next hproc hunsaved =>
    exact hpast.saved hproc hunsaved
  | continued process command hproc hunsaved =>
    exact hpast.continued hproc hunsaved
  | ended process hproc hunsaved =>
    exact hpast.stopped fun _ => by simp [InSendWindow, hproc, hunsaved]
  | crashed => exact hpast.stopped hsaves
  | kickStarted state command hproc hload =>
    exact hpast.kickStarted hsends hproc hload

end

theorem everyState_sentOnce_of_saves (hsends : SendsOnce program kind sender past)
    (hevents : ∀ s answers exit, program.handle s sender answers = .exited exit → exit.events ≠ [])
    {events : List (CrashEvent α)} (hempty : s.ledger.countP kind = 0)
    (hsaves : EveryStep (step program) (SavesBeforeCrash kind sender) s events) :
    EveryState (step program) (fun s => s.ledger.countP kind ≤ 1) s events := by
  have hstart : SentIsPast program kind sender past s :=
    ⟨fun h => absurd hempty h, fun h => absurd hempty h, fun h => absurd hempty h, by omega⟩
  have hstep : ∀ s event, SentIsPast program kind sender past s →
      SavesBeforeCrash kind sender s event →
      SentIsPast program kind sender past (s.step program event) :=
    fun s event hs hcrash => hs.step hsends hevents hcrash
  exact (everyState_of_everyStep (step program) hstep hstart hsaves).imp fun _ hs => hs.once

end SendsOnce

/-! ### Programs that give up before the sender -/

section GivesUp

variable {σ κ ε τ α : Type} (program : CommandProgram σ κ ε τ α)
  (kind : τ → Bool) (sender : κ) (past : Option κ → Prop) (aborts pays : ε → Prop)

/-- A command before the sender goes on or gives up; the sender and the commands after
it do not give up any more. -/
structure GivesUpBefore : Prop extends SendsOnce program kind sender past where
  events_ne_nil : ∀ s command answers exit,
    program.handle s command answers = .exited exit → exit.events ≠ []
  before : ∀ s command answers exit, ¬past (some command) → command ≠ sender →
    program.handle s command answers = .exited exit →
      (¬past exit.next ∧ exit.Tabled program.command ∧ ∀ event ∈ exit.events,
        (¬aborts event ∧ ¬pays event) ∧ ¬past (program.command event)) ∨
      past exit.next ∧ ∀ event ∈ exit.events,
        (aborts event ∧ ¬pays event) ∧ past (program.command event)
  sender_pays : ∀ s answers exit, program.handle s sender answers = .exited exit →
    ∀ event ∈ exit.events, pays event
  not_pays : ∀ s command answers exit, past (some command) →
    program.handle s command answers = .exited exit → ∀ event ∈ exit.events, ¬pays event
  not_aborts : ∀ s command answers exit, command = sender ∨ past (some command) →
    program.handle s command answers = .exited exit → ∀ event ∈ exit.events, ¬aborts event

/-- Before the sender the journal names the command to go on with; after it the journal
tells why. -/
inductive Stage (journal : List ε) (next : Option κ) : Prop where
  | early (hclean : ∀ event ∈ journal, ¬aborts event ∧ ¬pays event)
      (htabled : ∀ last, journal.getLast? = some last → program.command last = next)
      (hnext : ¬past next)
  | aborted (event : ε) (hmem : event ∈ journal) (haborts : aborts event)
      (hpays : ∀ event ∈ journal, ¬pays event) (hnext : past next)
  | paid (event : ε) (hmem : event ∈ journal) (hpays : pays event)
      (haborts : ∀ event ∈ journal, ¬aborts event) (hnext : past next)

/-- The sender was reached without giving up. -/
def Reached (journal : List ε) (next : Option κ) : Prop :=
  (∀ event ∈ journal, ¬aborts event) ∧ (next = some sender ∨ past next)

variable {program kind sender past aborts pays}

variable {events : List ε} {initial : σ}

variable (program kind sender past aborts pays) in
/-- The journal stands at its stage, and a run that has sent has not given up. -/
def CrashRun.Staged (initial : σ) (s : CrashRun σ κ ε τ) : Prop :=
  s.Placed program initial (Stage program past aborts pays) ∧
    (s.ledger.countP kind ≠ 0 → s.Placed program initial (Reached sender past aborts))

variable (hgives : GivesUpBefore program kind sender past aborts pays)

include hgives

variable {s : CrashRun σ κ ε τ} {exit : Exit κ ε τ} {journal : List ε} {next : Option κ}
  {command : κ} {answers : α} {first : κ}

theorem Stage.append {s : σ} (hstage : Stage program past aborts pays journal (some command))
    (hexit : program.handle s command answers = .exited exit)
    (hsaved : events <+: exit.events) (hne : events ≠ [])
    (hnext : events = exit.events ∧ next = exit.next ∨ ∃ event ∈ exit.events,
      events.getLast? = some event ∧ next = program.command event) :
    Stage program past aborts pays (journal ++ events) next := by
  obtain ⟨first, hfirst⟩ := List.exists_mem_of_ne_nil events hne
  have hpast : past exit.next → (∀ event ∈ exit.events, past (program.command event)) →
      past next := by
    intro hexitNext hcommands
    rcases hnext with ⟨-, rfl⟩ | ⟨event, hmem, -, rfl⟩
    · exact hexitNext
    · exact hcommands event hmem
  have hreach : command = sender ∨ past (some command) → past next := fun hcmd =>
    hpast (hgives.next_past _ _ _ _ hcmd hexit) (hgives.events_past _ _ _ _ hcmd hexit)
  have hall : ∀ {unmarked : ε → Prop}, (∀ event ∈ journal, unmarked event) →
      (∀ event ∈ exit.events, unmarked event) →
      ∀ event ∈ journal ++ events, unmarked event := fun hold hnew =>
    List.forall_mem_append.mpr ⟨hold, fun event hmem => hnew event (hsaved.subset hmem)⟩
  cases hstage with
  | aborted event hmem haborts hpays hcmd =>
    exact .aborted event (List.mem_append_left _ hmem) haborts
      (hall hpays (hgives.not_pays _ _ _ _ hcmd hexit)) (hreach (Or.inr hcmd))
  | paid event hmem hpays haborts hcmd =>
    exact .paid event (List.mem_append_left _ hmem) hpays
      (hall haborts (hgives.not_aborts _ _ _ _ (Or.inr hcmd) hexit)) (hreach (Or.inr hcmd))
  | early hclean _ hcmd =>
    by_cases hsender : command = sender
    · subst hsender
      exact .paid first (List.mem_append_right _ hfirst)
        (hgives.sender_pays _ _ _ hexit first (hsaved.subset hfirst))
        (hall (fun event hmem => (hclean event hmem).1)
          (hgives.not_aborts _ _ _ _ (Or.inl rfl) hexit)) (hreach (Or.inl rfl))
    · rcases hgives.before _ _ _ _ hcmd hsender hexit with
        ⟨hexitNext, ⟨final, hfinal, htable⟩, hevents⟩ | ⟨hexitNext, hevents⟩
      · obtain ⟨last, hlast, hcommandLast, hnot⟩ : ∃ last, events.getLast? = some last ∧
            program.command last = next ∧ ¬past next := by
          rcases hnext with ⟨rfl, rfl⟩ | ⟨event, hmem, hlast, rfl⟩
          · exact ⟨final, hfinal, htable, hexitNext⟩
          · exact ⟨event, hlast, rfl, (hevents event hmem).2⟩
        refine .early (hall hclean fun event hmem => (hevents event hmem).1) ?_ hnot
        intro other hother
        rw [List.getLast?_append, hlast, Option.some_or, Option.some.injEq] at hother
        rw [← hother, hcommandLast]
      · exact .aborted first (List.mem_append_right _ hfirst)
          (hevents first (hsaved.subset hfirst)).1.1
          (hall (fun event hmem => (hclean event hmem).2)
            fun event hmem => (hevents event hmem).1.2)
          (hpast hexitNext fun event hmem => (hevents event hmem).2)

theorem GivesUpBefore.places_stage (hfirst : ¬past (some first)) :
    Places program initial first (fun _ => True) (Stage program past aborts pays) where
  start := .early (by simp) (by simp) hfirst
  events_ne_nil := hgives.events_ne_nil
  load_command := hgives.load_command
  next s journal command answers exit hstage _ _ hexit :=
    hstage.append hgives hexit (List.prefix_refl _)
      (hgives.events_ne_nil _ _ _ _ hexit) (Or.inl ⟨rfl, rfl⟩)
  saved s journal command answers exit before event after hstage _ _ hexit hsplit := by
    obtain ⟨hsaved, hmem⟩ := isPrefix_of_eq_append_cons hsplit
    rw [List.append_assoc]
    exact hstage.append hgives hexit hsaved (by simp) (Or.inr ⟨event, hmem, by simp, rfl⟩)

theorem Reached.append {s : σ} (hreach : Reached sender past aborts journal (some command))
    (hexit : program.handle s command answers = .exited exit) (hsaved : events <+: exit.events)
    (hnext : past next) : Reached sender past aborts (journal ++ events) next := by
  have hcmd : command = sender ∨ past (some command) := hreach.2.imp_left Option.some.inj
  refine ⟨List.forall_mem_append.mpr ⟨hreach.1, fun event hmem => ?_⟩, Or.inr hnext⟩
  exact hgives.not_aborts _ _ _ _ hcmd hexit event (hsaved.subset hmem)

theorem GivesUpBefore.places_reached :
    Places program initial sender (fun _ => True) (Reached sender past aborts) where
  start := ⟨by simp, Or.inl rfl⟩
  events_ne_nil := hgives.events_ne_nil
  load_command := hgives.load_command
  next s journal command answers exit hreach _ _ hexit :=
    hreach.append hgives hexit (List.prefix_refl _)
      (hgives.next_past _ _ _ _ (hreach.2.imp_left Option.some.inj) hexit)
  saved s journal command answers exit before event after hreach _ _ hexit hsplit := by
    obtain ⟨hsaved, hmem⟩ := isPrefix_of_eq_append_cons hsplit
    rw [List.append_assoc]
    exact hreach.append hgives hexit hsaved (hgives.events_past _ _ _ _
      (hreach.2.imp_left Option.some.inj) hexit event hmem)

theorem CrashRun.Placed.reached {process : Process σ κ ε}
    (hplaced : s.Placed program initial (Stage program past aborts pays))
    (hproc : s.process = some process) (hidle : process.unsaved = none)
    (hsender : process.command = sender) :
    s.Placed program initial (Reached sender past aborts) := by
  obtain ⟨hstage, hinitial⟩ := hplaced.idle process hproc hidle
  rw [hsender] at hstage
  cases hstage with
  | aborted _ _ _ _ hpast | paid _ _ _ _ hpast => exact absurd hpast hgives.sender_not_past
  | early hclean htabled _ =>
    have hunaborted : ∀ event ∈ s.journal, ¬aborts event := fun event hmem => (hclean event hmem).1
    constructor
    · intro other hother _
      rw [hproc, Option.some.injEq] at hother
      rw [← hother, hsender]
      exact ⟨⟨hunaborted, Or.inl rfl⟩, hinitial⟩
    · intro other events next hother hunsaved
      rw [hproc, Option.some.injEq] at hother
      rw [← hother, hidle] at hunsaved
      cases hunsaved
    · intro last hlast
      exact ⟨hunaborted, Or.inl (htabled last hlast)⟩

theorem CrashRun.Staged.step (hfirst : ¬past (some first))
    (hstaged : s.Staged program kind sender past aborts pays initial) (event : CrashEvent α) :
    (s.step program event).Staged program kind sender past aborts pays initial := by
  obtain ⟨hstage, hreach⟩ := hstaged
  refine ⟨hstage.step (hgives.places_stage hfirst) fun _ _ => trivial, fun hledger => ?_⟩
  suffices hpre : s.Placed program initial (Reached sender past aborts) from
    hpre.step hgives.places_reached fun _ _ => trivial
  have hsteps := s.step_steps program event
  generalize s.step program event = s' at hsteps hledger
  cases hsteps with
  | exited answers process exit hproc hidle hout =>
    by_cases hsent : exit.sent.countP kind = 0
    · rw [List.countP_append, hsent, Nat.add_zero] at hledger
      exact hreach hledger
    · -- The payment goes out in this step, so the process runs the sender.
      exact hstage.reached hgives hproc hidle (hgives.eq_sender_of_sent hout hsent)
  | same | panicked | saved | continued | ended | crashed | kickStarted => exact hreach hledger

theorem GivesUpBefore.run
    (initial : σ) (first : κ) (hfirst : ¬past (some first)) (events : List (CrashEvent α)) :
    (run (step program) ⟨some ⟨initial, first, none⟩, [], []⟩ events).Staged
      program kind sender past aborts pays initial := by
  refine run_induction (step program) _
    (fun s event hstaged => hstaged.step hgives hfirst event) events ?_
  exact ⟨(hgives.places_stage hfirst).run [] fun _ _ => trivial, fun hledger => absurd rfl hledger⟩

end GivesUp

end KdfProtocol
