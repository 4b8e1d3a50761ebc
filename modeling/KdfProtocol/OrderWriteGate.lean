import KdfProtocol.GuardedRun
import KdfProtocol.OrderbookItem

/-!
# The storage order of one maker order

Writers publish the state of an order under a short state lock and complete
it under an I/O lock that they wait for.  The system interleaves any number of
calls: a call that waits for the I/O lock gets it in any order, and the holder
advances one step at a time, each of which takes the state lock once or is
one storage operation.  A log keeps what happened, newest first.

Tickets are natural numbers.  The outcome of a storage write is an input.
-/

namespace KdfProtocol

inductive MyOrdersError where
  | noSuchOrder (uuid : Uuid)
  | errorSaving (reason : String)
  | errorLoading (reason : String)
  | errorDeserializing (reason : String)
  | errorSerializing (reason : String)
  | internalError (reason : String)
  deriving DecidableEq

abbrev MyOrdersResult := Except MyOrdersError Unit

/-! ## The gate -/

structure PendingWrite (Order : Type) where
  ticket : ℕ
  order : Order
  withHistory : Bool
  deriving DecidableEq

structure GateState (Order : Type) where
  lastTicket : ℕ := 0
  pending : Option (PendingWrite Order) := none
  writtenUpto : ℕ := 0
  failedUpto : ℕ := 0
  failure : String := ""
  removed : Bool := false

open GateState

/-- What `complete` goes on with once it has looked at the state. -/
inductive CompleteCheck (Order : Type) where
  | finished (result : MyOrdersResult)
  | noPending
  | write (pending : PendingWrite Order)

section Gate

variable {Order : Type}

namespace GateState

/-- The part of `publish` after the check for the removal. -/
def accept (order : Order) (withHistory : Bool) (state : GateState Order) : GateState Order :=
  let ticket := state.lastTicket + 1
  let withHistory :=
    withHistory || state.pending.any fun pending => pending.withHistory
  { state with
    lastTicket := ticket
    pending := some { ticket, order, withHistory } }

def publish (order : Order) (withHistory : Bool) (state : GateState Order) :
    Option ℕ × GateState Order :=
  if state.removed then (none, state)
  else
    let state := state.accept order withHistory
    (some state.lastTicket, state)

def markRemoved (state : GateState Order) : GateState Order :=
  { state with removed := true }

def checkComplete (ticket : ℕ) (state : GateState Order) : CompleteCheck Order :=
  if ticket ≤ state.writtenUpto ∨ state.removed then .finished (.ok ())
  else if ticket ≤ state.failedUpto then
    .finished (.error (.errorSaving state.failure))
  else
    match state.pending with
    | some pending => .write pending
    | none => .noPending

/-- How a write of the state with the ticket went.  `errorText` renders the
error with its trace. -/
def recordWrite (errorText : MyOrdersError → String) (ticket : ℕ)
    (result : MyOrdersResult) (state : GateState Order) : GateState Order :=
  let state :=
    match result with
    | .ok () => { state with writtenUpto := ticket }
    | .error e =>
      { state with failedUpto := ticket, failure := errorText e }
  -- A newer state published during the write stays pending.
  if state.pending.any fun pending => pending.ticket = ticket then
    { state with pending := none }
  else state

end GateState

/-! ## Interleaved calls -/

variable (Order) in
inductive GateCall where
  | complete (ticket : ℕ)
  | delete (order : Order)

variable (Order) in
inductive IoHolder where
  | checking (ticket : ℕ)
  | takingPending (order : Order)
  | writing (call : GateCall Order) (pending : PendingWrite Order)
  | recording (call : GateCall Order) (pending : PendingWrite Order) (result : MyOrdersResult)
  | deleting (order : Order)

variable (Order) in
inductive GateEvent where
  | published (ticket : ℕ) (withHistory : Bool)
  | markedRemoved
  | wrote (pending : PendingWrite Order) (result : MyOrdersResult)
  | completed (ticket : ℕ) (result : MyOrdersResult)
  | foundNoPending (ticket : ℕ)
  | deleted (order : Order)
  deriving DecidableEq

open GateEvent

variable (Order) in
structure GateSystem where
  state : GateState Order := {}
  waiting : List (GateCall Order) := []
  io : Option (IoHolder Order) := none
  log : List (GateEvent Order) := []

variable (Order) in
inductive GateAction where
  | publish (order : Order) (withHistory : Bool)
  | markRemoved
  | call (call : GateCall Order)
  /-- The waiting call at the position gets the I/O lock if it is free. -/
  | acquire (position : ℕ)
  /-- The holder of the I/O lock takes its next step.  The outcome is that of
  a storage write, if the step is one. -/
  | advance (outcome : MyOrdersResult)

/-- Completions are called with the ticket of a published state, deletions for
an order whose gate is marked. -/
def GateCall.allowed (state : GateState Order) : GateCall Order → Prop
  | .complete ticket => 1 ≤ ticket ∧ ticket ≤ state.lastTicket
  | .delete _ => state.removed = true

instance decidableAllowed (state : GateState Order) :
    (call : GateCall Order) → Decidable (call.allowed state)
  | .complete ticket => inferInstanceAs (Decidable (1 ≤ ticket ∧ ticket ≤ state.lastTicket))
  | .delete _ => inferInstanceAs (Decidable (state.removed = true))

def GateCall.enter : GateCall Order → IoHolder Order
  | .complete ticket => .checking ticket
  | .delete order => .takingPending order

namespace GateSystem

variable (errorText : MyOrdersError → String)

def advance (outcome : MyOrdersResult) (s : GateSystem Order) : IoHolder Order → GateSystem Order
  | .checking ticket =>
    match s.state.checkComplete ticket with
    | .finished result =>
      { s with io := none, log := .completed ticket result :: s.log }
    | .noPending =>
      { s with
        io := none
        log := .completed ticket (.ok ()) :: .foundNoPending ticket :: s.log }
    | .write pending =>
      { s with io := some (.writing (.complete ticket) pending) }
  | .takingPending order =>
    match s.state.pending with
    | some pending =>
      { s with io := some (.writing (.delete order) pending) }
    | none => { s with io := some (.deleting order) }
  | .writing call pending =>
    { s with
      io := some (.recording call pending outcome)
      log := .wrote pending outcome :: s.log }
  | .recording call pending result =>
    let s :=
      { s with
        state := s.state.recordWrite errorText pending.ticket result }
    match call with
    | .complete ticket =>
      { s with io := none, log := .completed ticket result :: s.log }
    | .delete order => { s with io := some (.deleting order) }
  | .deleting order =>
    { s with io := none, log := .deleted order :: s.log }

/-- An action that is not possible leaves the system as it is. -/
def step (s : GateSystem Order) : GateAction Order → GateSystem Order
  | .publish order withHistory =>
    match s.state.publish order withHistory with
    | (none, _) => s
    | (some ticket, state) =>
      { s with
        state
        log := .published ticket withHistory :: s.log }
  | .markRemoved =>
    { s with
      state := s.state.markRemoved
      log := .markedRemoved :: s.log }
  | .call call =>
    if call.allowed s.state then { s with waiting := call :: s.waiting }
    else s
  | .acquire position =>
    match s.io, s.waiting[position]? with
    | none, some call =>
      { s with
        waiting := s.waiting.eraseIdx position
        io := some call.enter }
    | _, _ => s
  | .advance outcome =>
    match s.io with
    | none => s
    | some holder => s.advance errorText outcome holder

/-! ## Invariants -/

def justified (earlier : List (GateEvent Order)) : GateEvent Order → Prop
  | .wrote pending _ =>
    (∀ p r, .wrote p r ∈ earlier → p.ticket < pending.ticket) ∧
    (∀ order, .deleted order ∉ earlier) ∧
    ∀ ticket, .published ticket true ∈ earlier → ticket ≤ pending.ticket →
      (∀ p r, .wrote p r ∈ earlier → p.ticket < ticket) →
      pending.withHistory = true
  | .completed ticket (.ok ()) =>
    (∃ p, .wrote p (.ok ()) ∈ earlier ∧ ticket ≤ p.ticket) ∨ .markedRemoved ∈ earlier
  | .completed ticket (.error _) => ∃ p e, .wrote p (.error e) ∈ earlier ∧ ticket ≤ p.ticket
  | .foundNoPending _ => False
  | _ => True

structure StateInv (state : GateState Order) (log : List (GateEvent Order)) : Prop where
  published : ∀ ticket withHistory, .published ticket withHistory ∈ log → ticket ≤ state.lastTicket
  pending : ∀ p, state.pending = some p → p.ticket = state.lastTicket
  issued : ∀ p r, .wrote p r ∈ log → p.ticket ≤ state.lastTicket
  covered : state.pending = none →
    state.lastTicket ≤ state.writtenUpto ∨ state.lastTicket ≤ state.failedUpto
  written : 0 < state.writtenUpto → ∃ p, .wrote p (.ok ()) ∈ log ∧ p.ticket = state.writtenUpto
  failed : 0 < state.failedUpto → ∃ p e, .wrote p (.error e) ∈ log ∧ p.ticket = state.failedUpto
  removed : state.removed = true → .markedRemoved ∈ log
  deleted : ∀ order, .deleted order ∈ log → state.removed = true ∧ state.pending = none
  /-- A request for the history is in the pending state until a write covers
  it. -/
  history : ∀ ticket, .published ticket true ∈ log →
    (∃ p r, .wrote p r ∈ log ∧ ticket ≤ p.ticket) ∨
      ∃ p, state.pending = some p ∧ p.withHistory = true

def Fresh (state : GateState Order) (log : List (GateEvent Order)) : Prop :=
  ∀ p q r, state.pending = some p → .wrote q r ∈ log → q.ticket < p.ticket

/-- The state that the holder writes serves its call: it covers the ticket of
a completion, and is the last one of a removed order. -/
def Serves (state : GateState Order) (p : PendingWrite Order) : GateCall Order → Prop
  | .complete ticket => ticket ≤ p.ticket
  | .delete _ => state.removed = true ∧ state.pending = some p

structure Writing (state : GateState Order) (log : List (GateEvent Order))
    (call : GateCall Order) (p : PendingWrite Order) : Prop where
  serves : Serves state p call
  pending : ∃ q, state.pending = some q ∧ p.ticket ≤ q.ticket
  fresh : ∀ q r, .wrote q r ∈ log → q.ticket < p.ticket
  history : ∀ ticket, .published ticket true ∈ log → ticket ≤ p.ticket →
    (∃ q r, .wrote q r ∈ log ∧ ticket ≤ q.ticket) ∨ p.withHistory = true

structure Recording (state : GateState Order) (log : List (GateEvent Order)) (call : GateCall Order)
    (p : PendingWrite Order) (result : MyOrdersResult) : Prop where
  serves : Serves state p call
  pending : ∃ q, state.pending = some q ∧ p.ticket ≤ q.ticket
  wrote : .wrote p result ∈ log
  newest : ∀ q r, .wrote q r ∈ log → q.ticket ≤ p.ticket

def HolderInv (state : GateState Order) (log : List (GateEvent Order)) :
    Option (IoHolder Order) → Prop
  | none => Fresh state log
  | some (.checking ticket) => (1 ≤ ticket ∧ ticket ≤ state.lastTicket) ∧ Fresh state log
  | some (.takingPending _) => state.removed = true ∧ Fresh state log
  | some (.writing call p) => Writing state log call p
  | some (.recording call p result) => Recording state log call p result
  | some (.deleting _) => state.removed = true ∧ state.pending = none

structure Inv (s : GateSystem Order) : Prop where
  state : StateInv s.state s.log
  waiting : ∀ call ∈ s.waiting, call.allowed s.state
  holder : HolderInv s.state s.log s.io
  log : LogJustified justified s.log

theorem inv_initial : Inv ({} : GateSystem Order) where
  state := by constructor <;> simp
  waiting := by simp
  holder := by
    intro p q r hpend
    cases hpend
  log := trivial

/-! ## Publishing and marking -/

variable {s : GateSystem Order} {state : GateState Order} {log : List (GateEvent Order)}
  {p : PendingWrite Order}

/-- An event joins the log: tickets it names were issued, a history it asks for is pending. -/
theorem StateInv.cons (hinv : StateInv state log) (event : GateEvent Order)
    (hpublished : ∀ ticket withHistory, event = .published ticket withHistory →
      ticket ≤ state.lastTicket ∧
        (withHistory = true → ∃ p, state.pending = some p ∧ p.withHistory = true))
    (hwrote : ∀ p r, event = .wrote p r → p.ticket ≤ state.lastTicket)
    (hdeleted : ∀ order, event = .deleted order → state.removed = true ∧ state.pending = none) :
    StateInv state (event :: log) where
  published := by
    intro ticket requested hmem
    rcases List.mem_cons.mp hmem with heq | hmem
    · exact (hpublished ticket requested heq.symm).1
    · exact hinv.published ticket requested hmem
  pending := hinv.pending
  issued := by
    intro p r hmem
    rcases List.mem_cons.mp hmem with heq | hmem
    · exact hwrote p r heq.symm
    · exact hinv.issued p r hmem
  covered := hinv.covered
  written := by
    intro hpos
    obtain ⟨p, hmem, hticket⟩ := hinv.written hpos
    exact ⟨p, List.mem_cons_of_mem _ hmem, hticket⟩
  failed := by
    intro hpos
    obtain ⟨p, e, hmem, hticket⟩ := hinv.failed hpos
    exact ⟨p, e, List.mem_cons_of_mem _ hmem, hticket⟩
  removed := by
    intro hrem
    exact List.mem_cons_of_mem _ (hinv.removed hrem)
  deleted := by
    intro order hmem
    rcases List.mem_cons.mp hmem with heq | hmem
    · exact hdeleted order heq.symm
    · exact hinv.deleted order hmem
  history := by
    intro ticket hmem
    rcases List.mem_cons.mp hmem with heq | hmem
    · exact Or.inr ((hpublished ticket true heq.symm).2 rfl)
    · rcases hinv.history ticket hmem with ⟨p, r, hmem, hticket⟩ | hpend
      · exact Or.inl ⟨p, r, List.mem_cons_of_mem _ hmem, hticket⟩
      · exact Or.inr hpend

theorem StateInv.accept (hinv : StateInv state log)
    (hlive : state.removed = false) (order : Order) (withHistory : Bool) :
    StateInv (state.accept order withHistory)
      (.published (state.lastTicket + 1) withHistory :: log) := by
  have haccepted : StateInv (state.accept order withHistory) log := by
    constructor
    case published =>
      intro ticket requested hmem
      exact Nat.le_succ_of_le (hinv.published ticket requested hmem)
    case pending =>
      intro p hp
      cases hp
      rfl
    case issued =>
      intro p r hmem
      exact Nat.le_succ_of_le (hinv.issued p r hmem)
    case covered =>
      intro hnone
      cases hnone
    case written => exact hinv.written
    case failed => exact hinv.failed
    case removed => exact hinv.removed
    case deleted =>
      intro deleted hmem
      have hrem := (hinv.deleted deleted hmem).1
      rw [hlive] at hrem
      cases hrem
    case history =>
      intro ticket hmem
      rcases hinv.history ticket hmem with hwrote | ⟨p, hp, hhist⟩
      · exact Or.inl hwrote
      · -- The new state inherits the request of the one it supersedes.
        exact Or.inr ⟨_, rfl, by simp [hp, hhist]⟩
  refine haccepted.cons _ ?_ (by simp) (by simp)
  intro ticket requested heq
  cases heq
  exact ⟨le_rfl, fun hreq => ⟨_, rfl, by simp [hreq]⟩⟩

variable {io : Option (IoHolder Order)} {result : MyOrdersResult} {order : Order}

theorem HolderInv.accept (hinv : StateInv state log) (hlive : state.removed = false)
    (hhold : HolderInv state log io) (order : Order) (withHistory : Bool) :
    HolderInv (state.accept order withHistory)
      (.published (state.lastTicket + 1) withHistory :: log) io := by
  have hnot : state.removed ≠ true := by simp [hlive]
  have hfresh : Fresh (state.accept order withHistory)
      (.published (state.lastTicket + 1) withHistory :: log) := by
    intro p q r hp hmem
    cases hp
    simp only [List.mem_cons, reduceCtorEq, false_or] at hmem
    exact Nat.lt_succ_of_le (hinv.issued q r hmem)
  have hissued : ∀ p : PendingWrite Order, (∃ q, state.pending = some q ∧
      p.ticket ≤ q.ticket) → p.ticket ≤ state.lastTicket := by
    rintro p ⟨q, hq, hle⟩
    rw [hinv.pending q hq] at hle
    exact hle
  have hserves : ∀ p call, Serves state p call →
      Serves (state.accept order withHistory) p call := by
    intro p call hserves
    cases call with
    | complete ticket => exact hserves
    | delete => exact absurd hserves.1 hnot
  cases io with
  | none => exact hfresh
  | some holder =>
    cases holder with
    | checking ticket =>
      obtain ⟨⟨hpos, hle⟩, -⟩ := hhold
      exact ⟨⟨hpos, Nat.le_succ_of_le hle⟩, hfresh⟩
    | takingPending | deleting => exact absurd hhold.1 hnot
    | writing call p =>
      have hle := hissued p hhold.pending
      refine ⟨hserves p call hhold.serves, ⟨_, rfl, Nat.le_succ_of_le hle⟩, ?_, ?_⟩
      · intro q r hmem
        simp only [List.mem_cons, reduceCtorEq, false_or] at hmem
        exact hhold.fresh q r hmem
      · intro ticket hmem hticket
        simp only [List.mem_cons, published.injEq] at hmem
        rcases hmem with ⟨rfl, -⟩ | hmem
        · omega
        · rcases hhold.history ticket hmem hticket with
            ⟨q, r, hwrote, hq⟩ | hhist
          · exact Or.inl ⟨q, r, List.mem_cons_of_mem _ hwrote, hq⟩
          · exact Or.inr hhist
    | recording call p result =>
      have hle := hissued p hhold.pending
      refine ⟨hserves p call hhold.serves, ⟨_, rfl, Nat.le_succ_of_le hle⟩,
        List.mem_cons_of_mem _ hhold.wrote, ?_⟩
      intro q r hmem
      simp only [List.mem_cons, reduceCtorEq, false_or] at hmem
      exact hhold.newest q r hmem

theorem Inv.publish (hinv : Inv s) (order : Order) (withHistory : Bool) :
    Inv (s.step errorText (.publish order withHistory)) := by
  cases hlive : s.state.removed with
  | true => simpa [step, GateState.publish, hlive] using hinv
  | false =>
    have hstep : s.step errorText (.publish order withHistory) = { s with
          state := s.state.accept order withHistory
          log := .published (s.state.lastTicket + 1) withHistory :: s.log } := by
      simp [step, GateState.publish, hlive, GateState.accept]
    rw [hstep]
    refine ⟨hinv.state.accept hlive order withHistory, ?_,
      HolderInv.accept hinv.state hlive hinv.holder order withHistory, trivial, hinv.log⟩
    intro call hcall
    have hallowed := hinv.waiting call hcall
    cases call with
    | complete ticket => exact ⟨hallowed.1, Nat.le_succ_of_le hallowed.2⟩
    | delete => exact hallowed

theorem Fresh.cons (hfresh : Fresh state log) {event : GateEvent Order}
    (hwrote : ∀ p r, event ≠ .wrote p r) : Fresh state (event :: log) := by
  intro p q r hp hmem
  rcases List.mem_cons.mp hmem with heq | hmem
  · exact absurd heq.symm (hwrote q r)
  · exact hfresh p q r hp hmem

theorem HolderInv.markRemoved (hhold : HolderInv state log io) :
    HolderInv state.markRemoved (.markedRemoved :: log) io := by
  have hfresh : Fresh state log → Fresh state.markRemoved (.markedRemoved :: log) := by
    intro hfresh p q r hp hmem
    simp only [List.mem_cons, reduceCtorEq, false_or] at hmem
    exact hfresh p q r hp hmem
  have hserves : ∀ p call, Serves state p call → Serves state.markRemoved p call := by
    intro p call hserves
    cases call with
    | complete ticket => exact hserves
    | delete => exact ⟨rfl, hserves.2⟩
  cases io with
  | none => exact hfresh hhold
  | some holder =>
    cases holder with
    | checking ticket => exact ⟨hhold.1, hfresh hhold.2⟩
    | takingPending => exact ⟨rfl, hfresh hhold.2⟩
    | writing call p =>
      constructor
      case serves => exact hserves p call hhold.serves
      case pending => exact hhold.pending
      case fresh =>
        intro q r hmem
        simp only [List.mem_cons, reduceCtorEq, false_or] at hmem
        exact hhold.fresh q r hmem
      case history =>
        intro ticket hmem hticket
        simp only [List.mem_cons, reduceCtorEq, false_or] at hmem ⊢
        exact hhold.history ticket hmem hticket
    | recording call p result =>
      constructor
      case serves => exact hserves p call hhold.serves
      case pending => exact hhold.pending
      case wrote => exact List.mem_cons_of_mem _ hhold.wrote
      case newest =>
        intro q r hmem
        simp only [List.mem_cons, reduceCtorEq, false_or] at hmem
        exact hhold.newest q r hmem
    | deleting => exact ⟨rfl, hhold.2⟩

theorem Inv.markRemoved (hinv : Inv s) : Inv (s.step errorText .markRemoved) := by
  have hcons := StateInv.cons hinv.state .markedRemoved (by simp) (by simp) (by simp)
  constructor
  case state =>
    exact { hcons with
        removed := fun _ => List.mem_cons_self
        deleted := fun order hmem => ⟨rfl, (hcons.deleted order hmem).2⟩ }
  case waiting =>
    intro call hcall
    have hallowed := hinv.waiting call hcall
    cases call with
    | complete ticket => exact hallowed
    | delete => rfl
  case holder => exact hinv.holder.markRemoved
  case log => exact ⟨trivial, hinv.log⟩

/-! ## Steps of the calls -/

theorem Inv.call (hinv : Inv s) (call : GateCall Order) : Inv (s.step errorText (.call call)) := by
  simp only [step]
  split
  next hallowed =>
    refine ⟨hinv.state, ?_, hinv.holder, hinv.log⟩
    intro other hother
    rcases List.mem_cons.mp hother with rfl | hother
    · exact hallowed
    · exact hinv.waiting other hother
  · exact hinv

theorem Inv.acquire (hinv : Inv s) (position : ℕ) : Inv (s.step errorText (.acquire position)) := by
  simp only [step]
  split
  next call hio hcall =>
    have hfresh : Fresh s.state s.log := by
      have hhold := hinv.holder
      rw [hio] at hhold
      exact hhold
    have hallowed := hinv.waiting call (List.mem_of_getElem? hcall)
    refine ⟨hinv.state, ?_, ?_, hinv.log⟩
    · intro other hother
      exact hinv.waiting other (List.mem_of_mem_eraseIdx hother)
    · cases call with
      | complete ticket | delete => exact ⟨hallowed, hfresh⟩
  · exact hinv

variable {call : GateCall Order}

theorem Writing.of_pending (hinv : StateInv state log) (hfresh : Fresh state log)
    (hpend : state.pending = some p) (hserves : Serves state p call) :
    Writing state log call p where
  serves := hserves
  pending := ⟨p, hpend, le_rfl⟩
  fresh := by
    intro q r hmem
    exact hfresh p q r hpend hmem
  history := by
    intro ticket hmem _
    cases hinv.history ticket hmem with
    | inl hwrote => exact Or.inl hwrote
    | inr hreq =>
      obtain ⟨q, hq, hhist⟩ := hreq
      rw [hpend] at hq
      cases hq
      exact Or.inr hhist

theorem Inv.checking (hinv : Inv s) {ticket : ℕ}
    (hhold : HolderInv s.state s.log (some (.checking ticket))) (outcome : MyOrdersResult) :
    Inv (s.advance errorText outcome (.checking ticket)) := by
  obtain ⟨⟨hpos, hlast⟩, hfresh⟩ := hhold
  have hfinish : ∀ result, justified s.log (.completed ticket result) →
      Inv { s with io := none, log := .completed ticket result :: s.log } := by
    intro result hjustified
    exact ⟨hinv.state.cons _ (by simp) (by simp) (by simp), hinv.waiting,
      hfresh.cons (by simp), hjustified, hinv.log⟩
  simp only [advance, checkComplete]
  by_cases hdone : ticket ≤ s.state.writtenUpto ∨ s.state.removed = true
  · rw [if_pos hdone]
    apply hfinish
    rcases hdone with hwrote | hrem
    · obtain ⟨p, hmem, hticket⟩ := hinv.state.written (lt_of_lt_of_le hpos hwrote)
      exact Or.inl ⟨p, hmem, hticket ▸ hwrote⟩
    · exact Or.inr (hinv.state.removed hrem)
  · rw [if_neg hdone]
    push Not at hdone
    by_cases hfail : ticket ≤ s.state.failedUpto
    · rw [if_pos hfail]
      apply hfinish
      obtain ⟨p, e, hmem, hticket⟩ := hinv.state.failed (lt_of_lt_of_le hpos hfail)
      exact ⟨p, e, hmem, hticket ▸ hfail⟩
    · rw [if_neg hfail]
      cases hpend : s.state.pending with
      | none =>
        -- Every ticket up to the last one is covered by some write.
        have hcov := hinv.state.covered hpend
        omega
      | some p =>
        have hticket := hinv.state.pending p hpend
        have hcovers : ticket ≤ p.ticket := by omega
        exact ⟨hinv.state, hinv.waiting,
          Writing.of_pending hinv.state hfresh hpend hcovers, hinv.log⟩

theorem Inv.takingPending (hinv : Inv s)
    (hhold : HolderInv s.state s.log (some (.takingPending order)))
    (outcome : MyOrdersResult) : Inv (s.advance errorText outcome (.takingPending order)) := by
  obtain ⟨hrem, hfresh⟩ := hhold
  unfold advance
  cases hpend : s.state.pending with
  | none =>
    exact ⟨hinv.state, hinv.waiting, ⟨hrem, hpend⟩, hinv.log⟩
  | some p =>
    exact ⟨hinv.state, hinv.waiting, Writing.of_pending hinv.state hfresh hpend ⟨hrem, hpend⟩,
      hinv.log⟩

theorem Inv.writing (hinv : Inv s) (hhold : Writing s.state s.log call p)
    (outcome : MyOrdersResult) : Inv (s.advance errorText outcome (.writing call p)) := by
  obtain ⟨q, hq, hle⟩ := hhold.pending
  have hissued : p.ticket ≤ s.state.lastTicket := by
    rw [← hinv.state.pending q hq]
    exact hle
  have hstate : StateInv s.state (.wrote p outcome :: s.log) := by
    refine hinv.state.cons _ (by simp) ?_ (by simp)
    intro q r heq
    cases heq
    exact hissued
  refine ⟨hstate, hinv.waiting, ?_, ?_, hinv.log⟩
  · refine ⟨hhold.serves, ⟨q, hq, hle⟩, List.mem_cons_self, ?_⟩
    intro other r hmem
    simp only [advance, List.mem_cons, wrote.injEq] at hmem
    rcases hmem with ⟨rfl, -⟩ | hmem
    · exact le_rfl
    · exact (hhold.fresh other r hmem).le
  · refine ⟨hhold.fresh, ?_, ?_⟩
    · intro order hmem
      have hnone := (hinv.state.deleted order hmem).2
      rw [hq] at hnone
      cases hnone
    · intro ticket hmem hticket hfirst
      rcases hhold.history ticket hmem hticket with
        ⟨other, r, hwrote, hcovers⟩ | hhist
      · have hpre := hfirst other r hwrote
        omega
      · exact hhist

theorem recordWrite_eq (ticket : ℕ) (result : MyOrdersResult) (state : GateState Order) :
    state.recordWrite errorText ticket result = { state with
        pending := if state.pending.any fun p => p.ticket = ticket then none else state.pending
        writtenUpto := match result with
          | .ok () => ticket
          | .error _ => state.writtenUpto
        failedUpto := match result with
          | .ok () => state.failedUpto
          | .error _ => ticket
        failure := match result with
          | .ok () => state.failure
          | .error e => errorText e } := by
  unfold recordWrite
  cases result <;> simp only <;> split <;> rfl

theorem StateInv.recordWrite (hinv : StateInv state log)
    (hhold : Recording state log call p result) :
    StateInv (state.recordWrite errorText p.ticket result) log := by
  obtain ⟨q, hq, -⟩ := hhold.pending
  have hlast := hinv.pending q hq
  rw [recordWrite_eq]
  constructor
  case published => exact hinv.published
  case pending =>
    intro other hother
    dsimp only at hother
    split at hother
    · cases hother
    · exact hinv.pending other hother
  case issued => exact hinv.issued
  case covered =>
    intro hnone
    have hsame : q.ticket = p.ticket := by
      by_contra hne
      simp [hq, hne] at hnone
    cases result with
    | ok => exact Or.inl (by dsimp only; omega)
    | error => exact Or.inr (by dsimp only; omega)
  case written =>
    intro hpos
    cases result with
    | ok => exact ⟨p, hhold.wrote, rfl⟩
    | error => exact hinv.written hpos
  case failed =>
    intro hpos
    cases result with
    | ok => exact hinv.failed hpos
    | error e => exact ⟨p, e, hhold.wrote, rfl⟩
  case removed => exact hinv.removed
  case deleted =>
    intro order hmem
    have hnone := (hinv.deleted order hmem).2
    rw [hq] at hnone
    cases hnone
  case history =>
    intro ticket hmem
    dsimp only
    split
    next hany =>
      -- The write covers every ticket up to the last one.
      have hsame : q.ticket = p.ticket := by simpa [hq] using hany
      have hpublished := hinv.published ticket true hmem
      exact Or.inl ⟨p, result, hhold.wrote, by omega⟩
    · exact hinv.history ticket hmem

theorem Inv.recording (hinv : Inv s) (hhold : Recording s.state s.log call p result)
    (outcome : MyOrdersResult) : Inv (s.advance errorText outcome (.recording call p result)) := by
  have hstate := hinv.state.recordWrite errorText hhold
  have hfresh : Fresh (s.state.recordWrite errorText p.ticket result) s.log := by
    intro q other r hq hmem
    obtain ⟨q', hq', hle⟩ := hhold.pending
    rw [recordWrite_eq, hq'] at hq
    have hnewest := hhold.newest other r hmem
    by_cases hsame : q'.ticket = p.ticket
    · simp [hsame] at hq
    · simp only [Option.any_some, hsame, decide_false, Bool.false_eq_true,
        if_false, Option.some.injEq] at hq
      subst hq
      omega
  have hwait : ∀ other ∈ s.waiting,
      other.allowed (s.state.recordWrite errorText p.ticket result) := by
    intro other hother
    have hallowed := hinv.waiting other hother
    cases other with
    | complete ticket | delete => simpa [GateCall.allowed, recordWrite_eq] using hallowed
  have hserves := hhold.serves
  cases call with
  | complete ticket =>
    refine ⟨hstate.cons _ (by simp) (by simp) (by simp), hwait, hfresh.cons (by simp), ?_, hinv.log⟩
    cases result with
    | ok => exact Or.inl ⟨p, hhold.wrote, hserves⟩
    | error e => exact ⟨p, e, hhold.wrote, hserves⟩
  | delete order =>
    refine ⟨hstate, hwait, ⟨?_, ?_⟩, hinv.log⟩
    · simp only [advance, recordWrite_eq]
      exact hserves.1
    · simp [advance, recordWrite_eq, hserves.2]

theorem Inv.deleting (hinv : Inv s) (hhold : HolderInv s.state s.log (some (.deleting order)))
    (outcome : MyOrdersResult) : Inv (s.advance errorText outcome (.deleting order)) := by
  obtain ⟨hrem, hnone⟩ := hhold
  refine ⟨?_, hinv.waiting, ?_, trivial, hinv.log⟩
  · exact hinv.state.cons _ (by simp) (by simp) fun _ _ => ⟨hrem, hnone⟩
  · intro p q r hp
    have hp : s.state.pending = some p := hp
    rw [hnone] at hp
    cases hp

/-! ## Whole runs -/

theorem Inv.step (hinv : Inv s) (action : GateAction Order) : Inv (s.step errorText action) := by
  cases action with
  | publish order withHistory => exact hinv.publish errorText order withHistory
  | markRemoved => exact hinv.markRemoved errorText
  | call call => exact hinv.call errorText call
  | acquire position => exact hinv.acquire errorText position
  | advance outcome =>
    simp only [GateSystem.step]
    have hhold := hinv.holder
    cases hio : s.io with
    | none => exact hinv
    | some holder =>
      rw [hio] at hhold
      cases holder with
      | checking => exact hinv.checking errorText hhold outcome
      | takingPending => exact hinv.takingPending errorText hhold outcome
      | writing => exact hinv.writing errorText hhold outcome
      | recording => exact hinv.recording errorText hhold outcome
      | deleting => exact hinv.deleting errorText hhold outcome

theorem inv_run (actions : List (GateAction Order)) :
    Inv (run (GateSystem.step errorText) {} actions) :=
  run_induction (GateSystem.step errorText) Inv
    (fun _ action hinv => hinv.step errorText action) actions inv_initial

end GateSystem

def GateEvent.writtenTicket : GateEvent Order → Option ℕ
  | .wrote pending _ => some pending.ticket
  | _ => none

namespace GateSystem

theorem pairwise_writtenTickets {log : List (GateEvent Order)} (hlog : LogJustified justified log) :
    (log.filterMap writtenTicket).reverse.Pairwise (· < ·) := by
  rw [List.pairwise_reverse]
  induction log with
  | nil => exact .nil
  | cons event earlier ih =>
    have htail := ih hlog.2
    cases event with
    | wrote p r =>
      have hcons : (wrote p r :: earlier).filterMap writtenTicket =
            p.ticket :: earlier.filterMap writtenTicket := rfl
      rw [hcons]
      refine .cons ?_ htail
      intro ticket hmem
      obtain ⟨other, hother, hticket⟩ := List.mem_filterMap.mp hmem
      cases other with
      | wrote q r' =>
        cases hticket
        exact hlog.1.1 q r' hother
      | _ => cases hticket
    | _ => exact htail

/-- Along every interleaving, with the log newest first. -/
theorem run_storage_order (errorText : MyOrdersError → String) (actions : List (GateAction Order)) :
    let log := (run (GateSystem.step errorText) {} actions).log
    (log.filterMap GateEvent.writtenTicket).reverse.Pairwise (· < ·) ∧
    (∀ later earlier p r order, log = later ++ .wrote p r :: earlier → .deleted order ∉ earlier) ∧
    (∀ later earlier ticket,
      log = later ++ .completed ticket (.ok ()) :: earlier →
      (∃ p, .wrote p (.ok ()) ∈ earlier ∧ ticket ≤ p.ticket) ∨ .markedRemoved ∈ earlier) ∧
    (∀ later earlier ticket e,
      log = later ++ .completed ticket (.error e) :: earlier →
      ∃ p e', .wrote p (.error e') ∈ earlier ∧ ticket ≤ p.ticket) ∧
    (∀ ticket, .foundNoPending ticket ∉ log) ∧
    (∀ later earlier p r ticket, log = later ++ .wrote p r :: earlier →
      .published ticket true ∈ earlier → ticket ≤ p.ticket →
      (∀ q r', .wrote q r' ∈ earlier → q.ticket < ticket) →
      p.withHistory = true) := by
  have hlog := (inv_run errorText actions).log
  refine ⟨pairwise_writtenTickets hlog, ?_, ?_, ?_, ?_, ?_⟩
  · intro later earlier p r order hsplit
    exact (hlog.of_split hsplit).2.1 order
  · intro later earlier ticket hsplit
    exact hlog.of_split hsplit
  · intro later earlier ticket e hsplit
    exact hlog.of_split hsplit
  · intro ticket hmem
    obtain ⟨later, earlier, hsplit⟩ := List.append_of_mem hmem
    exact hlog.of_split hsplit
  · intro later earlier p r ticket hsplit
    exact (hlog.of_split hsplit).2.2 ticket

-- The completion of the first state writes the second one, with the history
-- request that it inherited; the deletion finds nothing left to write.
example :
    (run (GateSystem.step fun _ => "") ({} : GateSystem String)
      [.publish "first" true, .publish "second" false, .call (.complete 1),
        .acquire 0, .advance (.ok ()), .advance (.ok ()), .advance (.ok ()),
        .markRemoved, .call (.delete "second"), .acquire 0,
        .advance (.ok ()), .advance (.ok ())]).log =
      [.deleted "second", .markedRemoved, .completed 1 (.ok ()),
        .wrote ⟨2, "second", true⟩ (.ok ()), .published 2 false,
        .published 1 true] := by
  decide

end GateSystem

end Gate

end KdfProtocol
