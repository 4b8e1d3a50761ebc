import KdfProtocol.GuardedRun

/-!
# Log queries in windows

A query asks for the logs of a range of blocks window by window.  The width of the windows
is shared by the queries of a coin and its tokens, and a node that refuses a window for its
size lowers it.  A step of a call ends with an access to the shared width or with a request;
the order of the steps and the answers are arbitrary.
-/

namespace KdfProtocol.LogsWindow

/-- A message that names zero blocks is read as one that names none. -/
structure RangeRefusal where
  namedBlocks : Option ℕ
  named_pos : ∀ named ∈ namedBlocks, 0 < named

inductive LogsError where
  | rangeRefused (refusal : RangeRefusal)
  | other (text : String)

def effectiveWindow (reducedTo cap : ℕ) : ℕ :=
  if reducedTo = 0 then max cap 1 else max (min reducedTo (max cap 1)) 1

structure Query where
  cap : ℕ
  fromBlock : ℕ
  toBlock : ℕ
  toBlock_lt : toBlock < 2 ^ 64

/-- While the width is lowered, the window that was refused ends at `stop`. -/
inductive Phase where
  | querying
  | awaiting (stop : ℕ)
  | lowering (stop : ℕ) (refusal : RangeRefusal) (current new : ℕ)
  | rechecking (stop : ℕ) (refusal : RangeRefusal) (current : ℕ)
  | returned
  | failed (stop : ℕ) (error : LogsError)

structure Window (Log : Type) where
  start : ℕ
  stop : ℕ
  logs : List Log

def Window.blocks {Log : Type} (window : Window Log) : List ℕ :=
  List.range' window.start (window.stop + 1 - window.start)

/-- The answered windows and the numbers of refusals and of steps are not kept by the program. -/
structure Call (Log : Type) where
  phase : Phase
  start : ℕ
  logs : List Log
  answered : List (Window Log)
  refusals : ℕ
  taken : ℕ

variable {Log ι : Type}

def shrunk (refusal : RangeRefusal) (current : ℕ) : ℕ :=
  (refusal.namedBlocks.filter fun named => named < current).getD (max (current / 2) 1)

namespace Query

variable (query : Query)

def begin : Call Log := ⟨.querying, query.fromBlock, [], [], 0, 0⟩

def windowEnd (start width : ℕ) : ℕ := min query.toBlock (min (start + (width - 1)) (2 ^ 64 - 1))

/-- A call whose request has been answered; `width` is read after a refusal only. -/
def answer (width stop : ℕ) (call : Call Log) : Except LogsError (List Log) → Call Log
  | .ok chunk =>
    let call : Call Log := { call with
      logs := call.logs ++ chunk
      answered := call.answered ++ [⟨call.start, stop, chunk⟩] }
    if stop + 1 < 2 ^ 64 then { call with start := stop + 1, phase := .querying }
    else { call with phase := .returned }
  | .error (.rangeRefused refusal) =>
    let call : Call Log := { call with refusals := call.refusals + 1 }
    if width ≤ 1 then { call with phase := .failed stop (.rangeRefused refusal) }
    else { call with phase := .lowering stop refusal width (shrunk refusal width) }
  | .error err => { call with phase := .failed stop err }

def advance (reducedTo : ℕ) (reply : Except LogsError (List Log)) (call : Call Log) :
    ℕ × Call Log :=
  let width := effectiveWindow reducedTo query.cap
  let next := { call with taken := call.taken + 1 }
  match call.phase with
  | .querying =>
    if call.start ≤ query.toBlock then
      (reducedTo, { next with phase := .awaiting (query.windowEnd call.start width) })
    else (reducedTo, { next with phase := .returned })
  | .awaiting stop => (reducedTo, answer width stop next reply)
  | .lowering stop refusal current new =>
    if new < width then (new, { next with phase := .querying })
    else (reducedTo, { next with phase := .rechecking stop refusal current })
  | .rechecking stop refusal current =>
    if width < current then (reducedTo, { next with phase := .querying })
    else (reducedTo, { next with phase := .failed stop (.rangeRefused refusal) })
  | .returned | .failed _ _ => (reducedTo, call)

end Query

structure State (ι Log : Type) where
  reducedTo : ℕ
  calls : ι → Call Log

structure Event (ι Log : Type) where
  call : ι
  reply : Except LogsError (List Log)

def initial (queries : ι → Query) : State ι Log := ⟨0, fun i => (queries i).begin⟩

def step [DecidableEq ι] (queries : ι → Query) (s : State ι Log) (event : Event ι Log) :
    State ι Log :=
  let next := (queries event.call).advance s.reducedTo event.reply (s.calls event.call)
  ⟨next.1, Function.update s.calls event.call next.2⟩

/-! ## The width -/

theorem effectiveWindow_bounds (reducedTo cap : ℕ) :
    0 < effectiveWindow reducedTo cap ∧ effectiveWindow reducedTo cap ≤ max cap 1 := by
  unfold effectiveWindow
  split <;> omega

theorem effectiveWindow_lowered {reducedTo new cap : ℕ} (hpos : 0 < new)
    (hlower : new < effectiveWindow reducedTo cap) (other : ℕ) :
    effectiveWindow new other ≤ min new (effectiveWindow reducedTo other) := by
  unfold effectiveWindow at *
  rw [if_neg hpos.ne']
  split_ifs at * <;> omega

theorem shrunk_bounds {refusal : RangeRefusal} {current : ℕ} (hmany : 1 < current) :
    0 < shrunk refusal current ∧ shrunk refusal current < current := by
  unfold shrunk
  cases hnamed : refusal.namedBlocks.filter fun named => named < current with
  | none =>
    rw [Option.getD_none]
    omega
  | some named =>
    obtain ⟨hmem, hlt⟩ := Option.filter_eq_some_iff.mp hnamed
    exact ⟨refusal.named_pos named hmem, of_decide_eq_true hlt⟩

/-! ## One call -/

/-- The answered windows hold the blocks from the first one to before `next`, in order. -/
structure Covers (query : Query) (answered : List (Window Log)) (logs : List Log) (next : ℕ) :
    Prop where
  blocks : answered.flatMap Window.blocks = List.range' query.fromBlock (next - query.fromBlock)
  nonempty : ∀ window ∈ answered, window.start ≤ window.stop
  logs_eq : logs = answered.flatMap Window.logs
  count : answered.length ≤ next - query.fromBlock

theorem Covers.answer {query : Query} {answered : List (Window Log)} {logs : List Log}
    {start stop : ℕ} (hcovers : Covers query answered logs start)
    (hfrom : query.fromBlock ≤ start) (hstop : start ≤ stop) (chunk : List Log) :
    Covers query (answered ++ [⟨start, stop, chunk⟩]) (logs ++ chunk) (stop + 1) where
  blocks := by
    have happend := @List.range'_append_1 query.fromBlock (start - query.fromBlock)
      (stop + 1 - start)
    rw [Nat.add_sub_cancel' hfrom] at happend
    rw [List.flatMap_append, hcovers.blocks, List.flatMap_singleton, Window.blocks, happend]
    congr 1
    omega
  nonempty := by
    rw [List.forall_mem_append, List.forall_mem_singleton]
    exact ⟨hcovers.nonempty, hstop⟩
  logs_eq := by rw [List.flatMap_append, List.flatMap_singleton, hcovers.logs_eq]
  count := by
    have hcount := hcovers.count
    rw [List.length_append, List.length_singleton]
    omega

namespace Call

def Active (query : Query) (call : Call Log) : Prop :=
  Covers query call.answered call.logs call.start ∧ query.fromBlock ≤ call.start ∧
    call.start ≤ max query.fromBlock (query.toBlock + 1)

/-- Two steps for each answered window, and at most four for each refused one. -/
def paid (call : Call Log) : ℕ := 2 * call.answered.length + 4 * call.refusals

/-- What holds of a call that finds the width at most `width`. -/
def Fits (query : Query) (width : ℕ) (call : Call Log) : Prop :=
  match call.phase with
  | .querying => call.Active query ∧ call.refusals + width ≤ max query.cap 1 ∧
      call.taken ≤ call.paid
  | .awaiting stop => call.Active query ∧ call.refusals + width ≤ max query.cap 1 ∧
      call.taken ≤ call.paid + 1 ∧ call.start ≤ stop ∧ stop ≤ query.toBlock
  | .lowering _ _ current new => call.Active query ∧ call.refusals + new ≤ max query.cap 1 ∧
      call.taken + 2 ≤ call.paid ∧ 0 < new ∧ new < current
  | .rechecking _ _ current => call.Active query ∧ call.refusals + width ≤ max query.cap 1 ∧
      call.taken + 1 ≤ call.paid ∧ width < current
  | .returned => Covers query call.answered call.logs (query.toBlock + 1) ∧
      call.refusals ≤ max query.cap 1
  | .failed _ _ => call.Active query ∧ call.refusals ≤ max query.cap 1

/-- A refusal is the error of the call only if it was the refusal of one block. -/
def RefusedSingle (call : Call Log) : Prop :=
  ∀ stop refusal, call.phase = .failed stop (.rangeRefused refusal) → stop = call.start

/-- No other call has lowered the width to one block when a request for more is refused. -/
def RefusedWide (query : Query) (reducedTo : ℕ) (reply : Except LogsError (List Log))
    (call : Call Log) : Prop :=
  ∀ stop refusal, call.phase = .awaiting stop → reply = .error (.rangeRefused refusal) →
    call.start < stop → 1 < effectiveWindow reducedTo query.cap

structure Advanced (query : Query) (reducedTo : ℕ) (reply : Except LogsError (List Log))
    (call : Call Log) (next : ℕ × Call Log) : Prop where
  fits : ∃ width, effectiveWindow next.1 query.cap ≤ width ∧ next.2.Fits query width
  narrows : ∀ cap, effectiveWindow next.1 cap ≤ effectiveWindow reducedTo cap
  single_iff : call.RefusedSingle →
    (next.2.RefusedSingle ↔ call.RefusedWide query reducedTo reply)

variable {query : Query} {call : Call Log} {reducedTo width : ℕ}

theorem Fits.advance (hfits : call.Fits query width)
    (hwidth : effectiveWindow reducedTo query.cap ≤ width) (reply : Except LogsError (List Log)) :
    call.Advanced query reducedTo reply (query.advance reducedTo reply call) := by
  obtain ⟨phase, start, logs, answered, refusals, taken⟩ := call
  have hlt := query.toBlock_lt
  have hpos := (effectiveWindow_bounds reducedTo query.cap).1
  unfold Query.advance
  cases phase with
  | querying =>
    obtain ⟨⟨hcovers, hfrom, hto⟩, hrefusals, htaken⟩ := hfits
    dsimp only at *
    split
    · refine ⟨⟨width, hwidth, ⟨hcovers, hfrom, hto⟩, hrefusals, Nat.succ_le_succ htaken, ?_⟩,
        fun _ => le_rfl, by simp [RefusedSingle, RefusedWide]⟩
      unfold Query.windowEnd
      dsimp only
      omega
    · have hend : start - query.fromBlock = query.toBlock + 1 - query.fromBlock := by omega
      have hall : Covers query answered logs (query.toBlock + 1) :=
        ⟨hend ▸ hcovers.blocks, hcovers.nonempty, hcovers.logs_eq, hend ▸ hcovers.count⟩
      exact ⟨⟨width, hwidth, hall, by dsimp only; omega⟩, fun _ => le_rfl,
        by simp [RefusedSingle, RefusedWide]⟩
  | awaiting stop =>
    obtain ⟨⟨hcovers, hfrom, hto⟩, hrefusals, htaken, hstart, hstop⟩ := hfits
    have hnext := hcovers.answer hfrom hstart
    dsimp only [paid] at *
    cases reply with
    | ok chunk =>
      simp only [Query.answer]
      split
      · refine ⟨⟨width, hwidth, ⟨hnext chunk, ?_, ?_⟩, hrefusals, ?_⟩, fun _ => le_rfl,
          by simp [RefusedSingle, RefusedWide]⟩
        all_goals simp [paid]
        all_goals omega
      · have hlast : stop = query.toBlock := by omega
        subst hlast
        exact ⟨⟨width, hwidth, hnext chunk, by dsimp only; omega⟩, fun _ => le_rfl,
          by simp [RefusedSingle, RefusedWide]⟩
    | error err =>
      cases err with
      | rangeRefused refusal =>
        simp only [Query.answer]
        split
        next hone =>
          refine ⟨⟨width, hwidth, ⟨hcovers, hfrom, hto⟩, by dsimp only; omega⟩, fun _ => le_rfl, ?_⟩
          simp [RefusedSingle, RefusedWide]
          omega
        next hmany =>
          have hnew := @shrunk_bounds refusal _ (not_le.mp hmany)
          refine ⟨⟨width, hwidth, ⟨hcovers, hfrom, hto⟩, by dsimp only; omega,
            by dsimp only [paid]; omega, hnew⟩, fun _ => le_rfl, ?_⟩
          simp [RefusedSingle, RefusedWide]
          omega
      | other text =>
        exact ⟨⟨width, hwidth, ⟨hcovers, hfrom, hto⟩, by dsimp only [Query.answer]; omega⟩,
          fun _ => le_rfl, by simp [RefusedSingle, RefusedWide, Query.answer]⟩
  | lowering stop refusal current new =>
    obtain ⟨hactive, hrefusals, htaken, hnewPos, hnew⟩ := hfits
    dsimp only [paid] at *
    split
    · next hlower =>
      have hnarrows := effectiveWindow_lowered hnewPos hlower
      exact ⟨⟨new, (hnarrows _).trans (min_le_left _ _), hactive, hrefusals,
          by dsimp only [paid]; omega⟩,
        fun cap => (hnarrows cap).trans (min_le_right _ _), by simp [RefusedSingle, RefusedWide]⟩
    · next hkept =>
      exact ⟨⟨new, not_lt.mp hkept, hactive, hrefusals, htaken, hnew⟩, fun _ => le_rfl,
        by simp [RefusedSingle, RefusedWide]⟩
  | rechecking stop refusal current =>
    obtain ⟨hactive, hrefusals, htaken, hbelow⟩ := hfits
    dsimp only
    rw [if_pos (hwidth.trans_lt hbelow)]
    exact ⟨⟨width, hwidth, hactive, hrefusals, htaken⟩, fun _ => le_rfl,
      by simp [RefusedSingle, RefusedWide]⟩
  | returned | failed stop err =>
    exact ⟨⟨width, hwidth, hfits⟩, fun _ => le_rfl, fun hsingle => iff_of_true hsingle
      (by simp [RefusedWide])⟩

structure Right (query : Query) (call : Call Log) : Prop where
  returned : call.phase = .returned → Covers query call.answered call.logs (query.toBlock + 1)
  successes : call.answered.length ≤ query.toBlock + 1 - query.fromBlock
  refusals : call.refusals ≤ max query.cap 1
  ends : call.phase = .returned ∨ (∃ stop err, call.phase = .failed stop err) ∨
    call.taken ≤ 2 * (query.toBlock + 1 - query.fromBlock) + 4 * max query.cap 1 + 1

theorem Fits.right (hfits : call.Fits query width) : call.Right query := by
  obtain ⟨phase, start, logs, answered, refusals, taken⟩ := call
  have hactive : Active query ⟨phase, start, logs, answered, refusals, taken⟩ →
      answered.length ≤ query.toBlock + 1 - query.fromBlock := by
    rintro ⟨hcovers, hfrom, hto⟩
    have hcount := hcovers.count
    dsimp only at *
    omega
  cases phase with
  | returned => exact ⟨fun _ => hfits.1, hfits.1.count, hfits.2, Or.inl rfl⟩
  | failed stop err =>
    exact ⟨fun hend => (by cases hend), hactive hfits.1, hfits.2, Or.inr (Or.inl ⟨_, _, rfl⟩)⟩
  | querying | awaiting stop | lowering stop refusal current new
  | rechecking stop refusal current =>
    have hcount := hactive hfits.1
    obtain ⟨-, hfits⟩ := hfits
    dsimp only [paid] at *
    exact ⟨fun hend => (by cases hend), hcount, by dsimp only; omega, by dsimp only; omega⟩

end Call

/-! ## Runs -/

def Inv (queries : ι → Query) (s : State ι Log) : Prop :=
  ∀ i, ∃ width, effectiveWindow s.reducedTo (queries i).cap ≤ width ∧
    (s.calls i).Fits (queries i) width

variable {queries : ι → Query} {s : State ι Log}

theorem inv_initial : Inv queries (initial queries : State ι Log) := by
  intro i
  have hcovers : Covers (queries i) ([] : List (Window Log)) [] (queries i).fromBlock := by
    constructor <;> simp
  exact ⟨_, le_rfl, ⟨hcovers, le_rfl, le_max_left _ _⟩, (Nat.zero_add _).le, le_rfl⟩

theorem Inv.advanced (hinv : Inv queries s) (event : Event ι Log) :
    (s.calls event.call).Advanced (queries event.call) s.reducedTo event.reply
      ((queries event.call).advance s.reducedTo event.reply (s.calls event.call)) := by
  obtain ⟨width, hwidth, hfits⟩ := hinv event.call
  exact hfits.advance hwidth event.reply

variable [DecidableEq ι]

theorem forall_step (holds : ι → Call Log → Prop) {event : Event ι Log}
    (hothers : ∀ i, i ≠ event.call → holds i (s.calls i)) :
    (∀ i, holds i ((step queries s event).calls i)) ↔ holds event.call
      ((queries event.call).advance s.reducedTo event.reply (s.calls event.call)).2 := by
  constructor
  · intro hall
    simpa [step] using hall event.call
  · intro hcall i
    by_cases hother : i = event.call
    · subst hother
      simpa [step] using hcall
    · simpa [step, hother] using hothers i hother

theorem Inv.step (hinv : Inv queries s) (event : Event ι Log) :
    Inv queries (step queries s event) := by
  have hadvanced := hinv.advanced event
  refine (forall_step (fun i call => ∃ width, effectiveWindow _ (queries i).cap ≤ width ∧
    call.Fits (queries i) width) fun i _ => ?_).mpr hadvanced.fits
  obtain ⟨width, hwidth, hfits⟩ := hinv i
  exact ⟨width, (hadvanced.narrows _).trans hwidth, hfits⟩

theorem Inv.single_iff (hinv : Inv queries s) (hsingle : ∀ i, (s.calls i).RefusedSingle)
    (event : Event ι Log) :
    (∀ i, ((LogsWindow.step queries s event).calls i).RefusedSingle) ↔
      (s.calls event.call).RefusedWide (queries event.call) s.reducedTo event.reply :=
  (forall_step (fun _ => Call.RefusedSingle) fun i _ => hsingle i).trans
    ((hinv.advanced event).single_iff (hsingle event.call))

/-- Whatever the nodes answer and however the calls interleave, a call that returns has read its
blocks in order, no call makes more requests than it may, and the width only falls.  Refusals are
returned for single blocks only exactly if the width is not one block when more are refused. -/
theorem log_queries_right_iff (queries : ι → Query) (events : List (Event ι Log)) :
    EveryState (step queries) (fun s => ∀ i, (s.calls i).Right (queries i))
        (initial queries) events ∧
      EveryStep (step queries) (fun s event => ∀ cap,
          0 < effectiveWindow (step queries s event).reducedTo cap ∧
          effectiveWindow (step queries s event).reducedTo cap ≤
            effectiveWindow s.reducedTo cap ∧
          effectiveWindow s.reducedTo cap ≤ max cap 1) (initial queries) events ∧
      (EveryState (step queries) (fun s => ∀ i, (s.calls i).RefusedSingle)
          (initial queries) events ↔
        EveryStep (step queries) (fun s event =>
          (s.calls event.call).RefusedWide (queries event.call) s.reducedTo event.reply)
            (initial queries) events) := by
  have hsteps := everyStep_of_invariant (step queries)
    (fun s event (hinv : Inv queries s) => hinv.step event) events (@inv_initial Log ι queries)
  refine ⟨?_, ?_, ?_⟩
  · refine (everyState_of_everyStep (step queries)
      (fun s event (hinv : Inv queries s) _ => hinv.step event) inv_initial hsteps).imp
      fun s hinv i => ?_
    obtain ⟨width, -, hfits⟩ := hinv i
    exact hfits.right
  · refine hsteps.imp fun s event hinv cap => ?_
    exact ⟨(effectiveWindow_bounds _ _).1, (hinv.advanced event).narrows cap,
      (effectiveWindow_bounds _ _).2⟩
  · refine everyState_iff_everyStep_of_invariant (step queries)
      (fun s (hboth : Inv queries s ∧ ∀ i, (s.calls i).RefusedSingle) => hboth.2) ?_ ?_
      ⟨inv_initial, fun i stop refusal hphase => by cases hphase⟩ (everyStep_true _ _ _)
    · intro s event hboth _ hwide
      exact ⟨hboth.1.step event, (hboth.1.single_iff hboth.2 event).mpr hwide⟩
    · intro s event hboth _ hsingle
      exact (hboth.1.single_iff hboth.2 event).mp hsingle

def pairQuery : Query := ⟨1000, 0, 1, by norm_num⟩

/-- Both calls ask for two blocks; the refusal of the first names one block. -/
def refusedTogether : List (Event Bool Unit) :=
  [⟨true, .ok []⟩, ⟨false, .ok []⟩, ⟨true, .error (.rangeRefused ⟨some 1, by simp⟩)⟩,
    ⟨true, .ok []⟩, ⟨false, .error (.rangeRefused ⟨none, by simp⟩)⟩]

/-- The refusal of two blocks is returned, since the other call has lowered the width to one. -/
theorem refused_pair_returned :
    ∃ refusal, ((run (step fun _ => pairQuery) (initial fun _ => pairQuery)
        refusedTogether).calls false).phase = .failed 1 (.rangeRefused refusal) ∧
      ((run (step fun _ => pairQuery) (initial fun _ => pairQuery)
        refusedTogether).calls false).start = 0 :=
  ⟨_, rfl, rfl⟩

end KdfProtocol.LogsWindow
