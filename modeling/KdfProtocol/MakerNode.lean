import KdfProtocol.MakerReservation

/-!
# The maker side of a node

All maker orders of a node and the tasks that work on them.  A task fetches
an order from the container and takes the order's lock later, so that other
tasks run in between.  Each event is what one task does without giving up the
order's lock or the container's lock in the middle.

The uuid of an order is new when the order is added, so it also names the
shared cell of the order, which outlives the entry in the container.
-/

namespace KdfProtocol

open HashMap

inductive NodeTask where
  /-- `process_taker_request`, with the orders of its snapshot that it has
  not looked at yet. -/
  | answering (request : TakerRequest) (remaining : List Uuid)
  /-- `process_taker_connect` after the order was fetched; it waits for the
  order's lock or has it. -/
  | connecting (senderPubkey : H256) (connect : TakerConnect) (locked : Bool)
  /-- The task that `lp_connect_start_bob` spawns. -/
  | starting (orderMatch : MakerMatch) (base rel : String)
  /-- `run_maker_swap` before it has the lock of the swap. -/
  | locking (swap : Uuid) (attempts : ℕ)
  | running (swap : Uuid)
  deriving DecidableEq

def NodeTask.locks (uuid : Uuid) : NodeTask → Bool
  | .connecting _ connect locked => locked && connect.makerOrderUuid = uuid
  | _ => false

structure BobStart where
  order : Uuid
  swap : Uuid
  /-- The order was in the container at that time. -/
  listed : Bool
  deriving DecidableEq

structure MakerNode where
  orders : HashMap Uuid MakerOrder
  /-- The container. -/
  listed : HashSet Uuid
  tasks : HashMap ℕ NodeTask
  toCancel : List Uuid
  swapLocks : HashSet Uuid
  bobStarts : List BobStart
  startedSwaps : List Uuid

/-- The matches of an order are stored under the uuids of their requests. -/
def MakerOrder.MatchesKeyed (order : MakerOrder) : Prop :=
  ∀ swap orderMatch, order.orderMatches.lookup swap = some orderMatch →
    orderMatch.request.uuid = swap

open MakerOrder

inductive NodeEvent where
  /-- A new order, or one that is loaded with its matches. -/
  | addOrder (order : MakerOrder) (keyed : order.MatchesKeyed)
  /-- `snapshot` is the container in its iteration order. -/
  | takerRequest (task : ℕ) (node : TradingNode) (fromPubkey : H256)
      (request : TakerRequest) (snapshot : List Uuid)
  | answerNext (task : ℕ) (node : TradingNode) (nowMs : ℕ)
  | takerConnect (task : ℕ) (node : TradingNode) (senderPubkey : H256) (connect : TakerConnect)
  | lockOrder (task : ℕ)
  | connectOrder (task : ℕ) (node : TradingNode)
  | findSwapCoins (task : ℕ) (node : TradingNode)
  | lockSwap (task : ℕ)
  | finishSwap (task : ℕ)
  | matchTimeout (uuid : Uuid) (nowMs : ℕ)
  | cancelOrder (uuid : Uuid)
  | cancelPrevious (uuid : Uuid) (base rel : String)
  | balanceUpdate (uuid : Uuid) (reads : MakerVolumeReads)
  | checkBalance (uuid : Uuid)
  | reconcile (uuid : Uuid) (maxVol : Except CheckBalanceError ℚ)
  | reconcileCancel (uuid : Uuid)
  | expire (uuid : Uuid)

namespace MakerNode

def initial : MakerNode where
  orders := ∅
  listed := ∅
  tasks := ∅
  toCancel := []
  swapLocks := ∅
  bobStarts := []
  startedSwaps := []

variable (id : ℕ) (node : TradingNode) (uuid : Uuid) (s : MakerNode)

def setOrder (order : MakerOrder) (s : MakerNode) : MakerNode :=
  { s with orders := s.orders.insert uuid order }

/-- `RemovedMakerOrder::take_out`. -/
def takeOut : MakerNode :=
  { s with listed := s.listed.erase uuid }

def setTask (task : NodeTask) (s : MakerNode) : MakerNode :=
  { s with tasks := s.tasks.insert id task }

def endTask : MakerNode :=
  { s with tasks := s.tasks.erase id }

def isLocked : Bool :=
  (HashMap.values s.tasks).any (NodeTask.locks uuid)

def withOrder (work : MakerOrder → MakerNode) (s : MakerNode) : MakerNode :=
  if s.isLocked uuid then s
  else
    match s.orders.lookup uuid with
    | none => s
    | some order => work order

/-! ## Requests and connections -/

def takerRequest (fromPubkey : H256) (request : TakerRequest) (snapshot : List Uuid)
    (s : MakerNode) : MakerNode :=
  if id ∈ s.tasks ∨ ¬snapshot.Perm s.listed.keys then s
  else if node.publicId = fromPubkey then s
  else if ¬request.canMatchWithMakerPubkey node.publicId then s
  else
    s.setTask id (.answering request (snapshot.filter request.canMatchWithUuid))

def answerOrder (nowMs : ℕ) (request : TakerRequest) (uuid : Uuid) (rest : List Uuid)
    (s : MakerNode) (order : MakerOrder) : MakerNode :=
  match order.answerRequest node nowMs uuid request with
  | .ok .notMatched => s.setTask id (.answering request rest)
  | .ok .ignored => s.endTask id
  | .ok .cancelled => (s.takeOut uuid).endTask id
  | .ok (.reserved _ order) => (s.setOrder uuid order).endTask id
  | .error _ => s.endTask id

def answerNext (nowMs : ℕ) (s : MakerNode) : MakerNode :=
  match s.tasks.lookup id with
  | some (.answering _ []) => s.endTask id
  | some (.answering request (uuid :: rest)) =>
    s.withOrder uuid (s.answerOrder id node nowMs request uuid rest)
  | _ => s

def takerConnect (senderPubkey : H256) (connect : TakerConnect) (s : MakerNode) : MakerNode :=
  if id ∈ s.tasks then s
  else if node.publicId = senderPubkey then s
  else if connect.makerOrderUuid ∈ s.listed then
    s.setTask id (.connecting senderPubkey connect false)
  else s

def lockOrder : MakerNode :=
  match s.tasks.lookup id with
  | some (.connecting senderPubkey connect false) =>
    if s.isLocked connect.makerOrderUuid then s
    else s.setTask id (.connecting senderPubkey connect true)
  | _ => s

/-- The match is connected and `lp_connect_start_bob` is called. -/
def startBob (orderMatch : MakerMatch) (order : MakerOrder) (s : MakerNode) : MakerNode :=
  { (s.setOrder uuid order).setTask id
      (.starting orderMatch order.base order.rel) with
    bobStarts := s.bobStarts ++
      [{ order := uuid
         swap := orderMatch.request.uuid
         listed := uuid ∈ s.listed }] }

/-- The rest of `process_taker_connect`; the container is not asked again. -/
def connectOrder : MakerNode :=
  match s.tasks.lookup id with
  | some (.connecting senderPubkey connect true) =>
    match s.orders.lookup connect.makerOrderUuid with
    | none => s.endTask id
    | some order =>
      match order.processTakerConnect node senderPubkey connect with
      | .ignored => s.endTask id
      | .connected orderMatch order _ => s.startBob id connect.makerOrderUuid orderMatch order
  | _ => s

/-! ## The start of a swap -/

def findSwapCoins : MakerNode :=
  match s.tasks.lookup id with
  | some (.starting orderMatch base rel) =>
    match node.findPair base rel with
    | none => s.endTask id
    | some (makerCoin, takerCoin) =>
      if node.swapKeyMismatch makerCoin takerCoin then s.endTask id
      else s.setTask id (.locking orderMatch.request.uuid 0)
  | _ => s

/-- One attempt to lock the swap.  A swap that is locked by another task is
given up after the second attempt. -/
def lockSwap : MakerNode :=
  match s.tasks.lookup id with
  | some (.locking swap attempts) =>
    if swap ∈ s.swapLocks then
      if 1 ≤ attempts then s.endTask id
      else s.setTask id (.locking swap (attempts + 1))
    else
      { s.setTask id (.running swap) with
        swapLocks := s.swapLocks.insert swap ()
        startedSwaps := s.startedSwaps ++ [swap] }
  | _ => s

def finishSwap : MakerNode :=
  match s.tasks.lookup id with
  | some (.running swap) =>
    { s.endTask id with swapLocks := s.swapLocks.erase swap }
  | _ => s

/-! ## Withdrawals -/

def cancelOrder : MakerNode :=
  s.withOrder uuid fun order => if order.hasOngoingMatches then s else s.takeOut uuid

def cancelPrevious (base rel : String) (s : MakerNode) : MakerNode :=
  s.withOrder uuid fun order => if order.base = base ∧ order.rel = rel then s.takeOut uuid else s

def balanceUpdate (reads : MakerVolumeReads) (s : MakerNode) : MakerNode :=
  s.withOrder uuid fun order =>
    match OrderState.balanceVolume reads with
    | none => s
    | some newVolume =>
      if order.base ≠ reads.ticker then s
      else if newVolume < order.minBaseVol ∧ uuid ∈ s.listed then
        s.takeOut uuid
      else s.setOrder uuid (order.limitAvailable newVolume)

def checkBalance : MakerNode :=
  s.withOrder uuid fun order =>
    if order.minBaseVol ≤ order.availableAmount ∨ order.hasOngoingMatches then s
    else s.takeOut uuid

/-- The volume is read before the order is locked.  An order without volume
is cancelled after the pass. -/
def reconcile (maxVol : Except CheckBalanceError ℚ) (s : MakerNode) : MakerNode :=
  match maxVol with
  | .error _ => { s with toCancel := uuid :: s.toCancel }
  | .ok maxVol =>
    s.withOrder uuid fun order =>
      if uuid ∈ s.listed then
        let order := order.limitAvailable maxVol
        let s := s.setOrder uuid order
        if order.availableAmount < order.minBaseVol then
          { s with toCancel := uuid :: s.toCancel }
        else s
      else s

def reconcileCancel : MakerNode :=
  if uuid ∈ s.toCancel then s.withOrder uuid fun _ => s.takeOut uuid else s

def expire : MakerNode :=
  match s.orders.lookup uuid with
  | none => s
  | some order => if order.timeoutInMinutes.isSome then s.takeOut uuid else s

/-- A uuid that was used before is not given to a new order. -/
def addOrder (order : MakerOrder) (s : MakerNode) : MakerNode :=
  if order.uuid ∈ s.orders then s
  else
    { s.setOrder order.uuid order with
      listed := s.listed.insert order.uuid () }

def step : NodeEvent → MakerNode
  | .addOrder order _ => s.addOrder order
  | .takerRequest task node fromPubkey request snapshot =>
    s.takerRequest task node fromPubkey request snapshot
  | .answerNext task node nowMs => s.answerNext task node nowMs
  | .takerConnect task node senderPubkey connect => s.takerConnect task node senderPubkey connect
  | .lockOrder task => s.lockOrder task
  | .connectOrder task node => s.connectOrder task node
  | .findSwapCoins task node => s.findSwapCoins task node
  | .lockSwap task => s.lockSwap task
  | .finishSwap task => s.finishSwap task
  | .matchTimeout uuid nowMs =>
    s.withOrder uuid fun order =>
      s.setOrder uuid (order.dropTimedOutMatches nowMs)
  | .cancelOrder uuid => s.cancelOrder uuid
  | .cancelPrevious uuid base rel => s.cancelPrevious uuid base rel
  | .balanceUpdate uuid reads => s.balanceUpdate uuid reads
  | .checkBalance uuid => s.checkBalance uuid
  | .reconcile uuid maxVol => s.reconcile uuid maxVol
  | .reconcileCancel uuid => s.reconcileCancel uuid
  | .expire uuid => s.expire uuid

/-! ## What a step can do

Tasks and matches are seen only as far as they can lead to a swap.  Most
steps narrow this view; the others add exactly one thing to it. -/

end MakerNode

/-- The taker has not answered the reservation. -/
def MakerMatch.IsOpen (orderMatch : MakerMatch) : Prop :=
  orderMatch.connected = none ∧ orderMatch.connect = none

def MakerOrder.Awaits (order : MakerOrder) (swap : Uuid) (request : TakerRequest) : Prop :=
  ∃ orderMatch, order.orderMatches.lookup swap = some orderMatch ∧
    orderMatch.IsOpen ∧ orderMatch.request = request

namespace MakerNode

def OpenMatch (s : MakerNode) (uuid swap : Uuid) (request : TakerRequest) : Prop :=
  ∃ order, s.orders.lookup uuid = some order ∧ order.Awaits swap request

def Connecting (s : MakerNode) (id : ℕ) (sender : H256) (connect : TakerConnect) : Prop :=
  ∃ locked, s.tasks.lookup id = some (.connecting sender connect locked)

def Answering (s : MakerNode) (id : ℕ) (request : TakerRequest) (uuid : Uuid) : Prop :=
  ∃ remaining, s.tasks.lookup id = some (.answering request remaining) ∧ uuid ∈ remaining

def Asks (s : MakerNode) (id : ℕ) (request : TakerRequest) (uuid : Uuid) : Prop :=
  ∃ rest, s.tasks.lookup id = some (.answering request (uuid :: rest))

variable {s : MakerNode} {id : ℕ} {request : TakerRequest} {uuid swap : Uuid}
  {order order' : MakerOrder} {task : NodeTask} {sender : H256} {connect : TakerConnect}
  {node : TradingNode}

theorem Asks.answering (hasks : s.Asks id request uuid) : s.Answering id request uuid := by
  obtain ⟨rest, hfound⟩ := hasks
  exact ⟨uuid :: rest, hfound, List.mem_cons_self⟩

def Starting (s : MakerNode) (id : ℕ) (swap : Uuid) : Prop :=
  ∃ task, s.tasks.lookup id = some task ∧
    ((∃ orderMatch base rel, task = .starting orderMatch base rel ∧
        orderMatch.request.uuid = swap) ∨
      ∃ attempts, task = .locking swap attempts)

structure Narrows (s s' : MakerNode) : Prop where
  listed : ∀ uuid, uuid ∈ s'.listed → uuid ∈ s.listed
  connecting : ∀ id sender connect, s'.Connecting id sender connect → s.Connecting id sender connect
  answering : ∀ id request uuid, s'.Answering id request uuid → s.Answering id request uuid
  starting : ∀ id swap, s'.Starting id swap → s.Starting id swap
  openMatch : ∀ uuid swap request, s'.OpenMatch uuid swap request → s.OpenMatch uuid swap request
  bobStarts : s'.bobStarts = s.bobStarts
  startedSwaps : s'.startedSwaps = s.startedSwaps

open Narrows

theorem Narrows.refl (s : MakerNode) : Narrows s s where
  listed := fun _ h => h
  connecting := fun _ _ _ h => h
  answering := fun _ _ _ h => h
  starting := fun _ _ h => h
  openMatch := fun _ _ _ h => h
  bobStarts := rfl
  startedSwaps := rfl

theorem Narrows.trans {s' s'' : MakerNode} (hfirst : Narrows s s')
    (hsnd : Narrows s' s'') : Narrows s s'' where
  listed := fun uuid h => hfirst.listed uuid (hsnd.listed uuid h)
  connecting := fun id sender connect h =>
    hfirst.connecting id sender connect (hsnd.connecting id sender connect h)
  answering := fun id request uuid h =>
    hfirst.answering id request uuid (hsnd.answering id request uuid h)
  starting := fun id swap h => hfirst.starting id swap (hsnd.starting id swap h)
  openMatch := fun uuid swap request h =>
    hfirst.openMatch uuid swap request (hsnd.openMatch uuid swap request h)
  bobStarts := hsnd.bobStarts.trans hfirst.bobStarts
  startedSwaps := hsnd.startedSwaps.trans hfirst.startedSwaps

theorem narrows_takeOut (s : MakerNode) (uuid : Uuid) : Narrows s (s.takeOut uuid) :=
  { refl s with
    listed := fun _ hother => (AList.mem_erase.mp hother).2 }

theorem narrows_setOrder (horder : ∀ swap request, order.Awaits swap request →
      s.OpenMatch uuid swap request) : Narrows s (s.setOrder uuid order) :=
  { refl s with
    openMatch := by
      intro other swap request hopen
      obtain ⟨found, hfound, hawaits⟩ := hopen
      simp only [setOrder, lookup_insert_if] at hfound
      split at hfound
      next heq =>
        cases hfound
        rw [heq]
        exact horder swap request hawaits
      · exact ⟨found, hfound, hawaits⟩ }

theorem lookup_setTask (s : MakerNode) (id : ℕ) (task : NodeTask) (other : ℕ) :
    (s.setTask id task).tasks.lookup other =
      if other = id then some task else s.tasks.lookup other :=
  lookup_insert_if s.tasks id task other

variable {orderMatch : MakerMatch} {announced : Option ℚ} {other : ℕ}

theorem connecting_setTask (hview : (s.setTask id task).Connecting other sender connect) :
    (other = id ∧ ∃ locked, task = .connecting sender connect locked) ∨
      s.Connecting other sender connect := by
  obtain ⟨locked, hfound⟩ := hview
  rw [lookup_setTask] at hfound
  split at hfound
  next heq =>
    cases hfound
    exact .inl ⟨heq, locked, rfl⟩
  · exact .inr ⟨locked, hfound⟩

theorem answering_setTask (hview : (s.setTask id task).Answering other request uuid) :
    (other = id ∧ ∃ remaining, task = .answering request remaining ∧ uuid ∈ remaining) ∨
      s.Answering other request uuid := by
  obtain ⟨remaining, hfound, hmem⟩ := hview
  rw [lookup_setTask] at hfound
  split at hfound
  next heq =>
    cases hfound
    exact .inl ⟨heq, remaining, rfl, hmem⟩
  · exact .inr ⟨remaining, hfound, hmem⟩

theorem starting_setTask (hview : (s.setTask id task).Starting other swap) :
    (other = id ∧
        ((∃ orderMatch base rel, task = .starting orderMatch base rel ∧
            orderMatch.request.uuid = swap) ∨
          ∃ attempts, task = .locking swap attempts)) ∨
      (other ≠ id ∧ s.Starting other swap) := by
  obtain ⟨found, hfound, hkind⟩ := hview
  rw [lookup_setTask] at hfound
  split at hfound
  next heq =>
    cases hfound
    exact .inl ⟨heq, hkind⟩
  next hne => exact .inr ⟨hne, found, hfound, hkind⟩

theorem narrows_setTask (hconn : ∀ sender connect locked, task = .connecting sender connect locked →
        s.Connecting id sender connect) (hanswering : ∀ request remaining uuid,
      task = .answering request remaining → uuid ∈ remaining → s.Answering id request uuid)
    (hstart : ∀ orderMatch base rel, task = .starting orderMatch base rel →
      s.Starting id orderMatch.request.uuid)
    (hlock : ∀ swap attempts, task = .locking swap attempts → s.Starting id swap) :
    Narrows s (s.setTask id task) := by
  constructor
  case listed => exact fun _ h => h
  case connecting =>
    intro other sender connect hview
    obtain ⟨rfl, locked, htask⟩ | hpre := connecting_setTask hview
    · exact hconn sender connect locked htask
    · exact hpre
  case answering =>
    intro other request uuid hview
    obtain ⟨rfl, remaining, htask, hmem⟩ | hpre := answering_setTask hview
    · exact hanswering request remaining uuid htask hmem
    · exact hpre
  case starting =>
    intro other swap hview
    obtain ⟨rfl, ⟨orderMatch, base, rel, htask, rfl⟩ | ⟨attempts, htask⟩⟩ | ⟨-, hpre⟩ :=
      starting_setTask hview
    · exact hstart orderMatch base rel htask
    · exact hlock swap attempts htask
    · exact hpre
  case openMatch => exact fun _ _ _ h => h
  case bobStarts => rfl
  case startedSwaps => rfl

theorem narrows_endTask (s : MakerNode) (id : ℕ) : Narrows s (s.endTask id) := by
  have hother : ∀ {other : ℕ} {found : NodeTask},
      (s.endTask id).tasks.lookup other = some found → s.tasks.lookup other = some found := by
    intro other found hfound
    simp only [endTask, lookup_erase_if] at hfound
    split at hfound
    · cases hfound
    · exact hfound
  constructor
  case listed => exact fun _ h => h
  case connecting =>
    intro other sender connect hview
    obtain ⟨locked, hfound⟩ := hview
    exact ⟨locked, hother hfound⟩
  case answering =>
    intro other request uuid hview
    obtain ⟨remaining, hfound, hmem⟩ := hview
    exact ⟨remaining, hother hfound, hmem⟩
  case starting =>
    intro other swap hview
    obtain ⟨found, hfound, hkind⟩ := hview
    exact ⟨found, hother hfound, hkind⟩
  case openMatch => exact fun _ _ _ h => h
  case bobStarts => rfl
  case startedSwaps => rfl

theorem narrows_withOrder {work : MakerOrder → MakerNode}
    (hwork : ∀ order, s.orders.lookup uuid = some order → Narrows s (work order)) :
    Narrows s (s.withOrder uuid work) := by
  unfold withOrder
  split
  · exact refl s
  · split
    · exact refl s
    next order horder => exact hwork order horder

theorem narrows_setOrder_of_matches (horder : s.orders.lookup uuid = some order)
    (hmatches : ∀ swap orderMatch, order'.orderMatches.lookup swap = some orderMatch →
        order.orderMatches.lookup swap = some orderMatch) : Narrows s (s.setOrder uuid order') := by
  apply narrows_setOrder
  intro swap request hawaits
  obtain ⟨orderMatch, hmatch, hrest⟩ := hawaits
  exact ⟨order, horder, orderMatch, hmatches swap orderMatch hmatch, hrest⟩

theorem limitAvailable_orderMatches (volume : ℚ) (order : MakerOrder) :
    (order.limitAvailable volume).orderMatches = order.orderMatches := by
  unfold limitAvailable
  split
  · rfl
  · rfl

theorem narrows_limitAvailable (horder : s.orders.lookup uuid = some order) (volume : ℚ) :
    Narrows s (s.setOrder uuid (order.limitAvailable volume)) := by
  apply narrows_setOrder_of_matches horder
  intro swap orderMatch hmatch
  rwa [limitAvailable_orderMatches] at hmatch

section

variable (s id uuid)

theorem narrows_matchTimeout (nowMs : ℕ) : Narrows s (s.step (.matchTimeout uuid nowMs)) := by
  apply narrows_withOrder
  intro order horder
  apply narrows_setOrder_of_matches horder
  intro swap orderMatch hmatch
  simp only [dropTimedOutMatches, lookup_retain, Option.filter_eq_some_iff] at hmatch
  exact hmatch.1

theorem narrows_lockOrder : Narrows s (s.lockOrder id) := by
  unfold lockOrder
  split
  next sender connect hfound =>
    split
    · exact refl s
    · apply narrows_setTask
      case hconn =>
        rintro _ _ _ ⟨⟩
        exact ⟨false, hfound⟩
      case hanswering => simp
      case hstart => simp
      case hlock => simp
  · exact refl s

theorem narrows_findSwapCoins (node : TradingNode) : Narrows s (s.findSwapCoins id node) := by
  unfold findSwapCoins
  split
  next orderMatch base rel hfound =>
    split
    · exact narrows_endTask s id
    · split
      · exact narrows_endTask s id
      · apply narrows_setTask
        case hconn => simp
        case hanswering => simp
        case hstart => simp
        case hlock =>
          rintro _ _ ⟨⟩
          exact ⟨_, hfound, .inl ⟨orderMatch, base, rel, rfl, rfl⟩⟩
  · exact refl s

theorem narrows_finishSwap : Narrows s (s.finishSwap id) := by
  unfold finishSwap
  split
  · exact { narrows_endTask s id with }
  · exact refl s

theorem narrows_cancelOrder : Narrows s (s.cancelOrder uuid) := by
  apply narrows_withOrder
  intro order _
  split
  · exact refl s
  · exact narrows_takeOut s uuid

theorem narrows_cancelPrevious
    (base rel : String) : Narrows s (s.cancelPrevious uuid base rel) := by
  apply narrows_withOrder
  intro order _
  split
  · exact narrows_takeOut s uuid
  · exact refl s

theorem narrows_balanceUpdate
    (reads : MakerVolumeReads) : Narrows s (s.balanceUpdate uuid reads) := by
  apply narrows_withOrder
  intro order horder
  split
  · exact refl s
  next newVolume _ =>
    split
    · exact refl s
    · split
      · exact narrows_takeOut s uuid
      · exact narrows_limitAvailable horder newVolume

theorem narrows_checkBalance : Narrows s (s.checkBalance uuid) := by
  apply narrows_withOrder
  intro order _
  split
  · exact refl s
  · exact narrows_takeOut s uuid

theorem narrows_reconcile (maxVol : Except CheckBalanceError ℚ) :
    Narrows s (s.reconcile uuid maxVol) := by
  cases maxVol with
  | error e => exact { refl s with }
  | ok maxVol =>
    apply narrows_withOrder
    intro order horder
    dsimp only
    split
    · have hlimited := narrows_limitAvailable horder maxVol
      split
      · exact { hlimited with }
      · exact hlimited
    · exact refl s

theorem narrows_reconcileCancel : Narrows s (s.reconcileCancel uuid) := by
  unfold reconcileCancel
  split
  · apply narrows_withOrder
    intro order _
    exact narrows_takeOut s uuid
  · exact refl s

theorem narrows_expire : Narrows s (s.expire uuid) := by
  unfold expire
  split
  · exact refl s
  · split
    · exact narrows_takeOut s uuid
    · exact refl s

inductive Effect (s : MakerNode) : NodeEvent → MakerNode → Prop
  | narrows {event : NodeEvent} {s' : MakerNode} (hnarrows : Narrows s s') : Effect s event s'
  | added {order : MakerOrder} {keyed : order.MatchesKeyed} (hnew : order.uuid ∉ s.orders) :
      Effect s (.addOrder order keyed)
        { s.setOrder order.uuid order with
          listed := s.listed.insert order.uuid () }
  | asked {id : ℕ} {node : TradingNode} {fromPubkey : H256}
      {request : TakerRequest} {snapshot remaining : List Uuid}
      (hnew : id ∉ s.tasks) (hlisted : ∀ uuid ∈ remaining, uuid ∈ s.listed) :
      Effect s (.takerRequest id node fromPubkey request snapshot)
        (s.setTask id (.answering request remaining))
  | reserved {id : ℕ} {node : TradingNode} {nowMs : ℕ} {request : TakerRequest} {uuid : Uuid}
      {order order' : MakerOrder} {reserved : MakerReserved} (hasks : s.Asks id request uuid)
      (horder : s.orders.lookup uuid = some order)
      (hanswer : order.answerRequest node nowMs uuid request = .ok (.reserved reserved order')) :
      Effect s (.answerNext id node nowMs) ((s.setOrder uuid order').endTask id)
  | fetched {id : ℕ} {node : TradingNode} {sender : H256} {connect : TakerConnect}
      (hnew : id ∉ s.tasks) (hlisted : connect.makerOrderUuid ∈ s.listed) :
      Effect s (.takerConnect id node sender connect)
        (s.setTask id (.connecting sender connect false))
  | connected {id : ℕ} {node : TradingNode} {sender : H256}
      {connect : TakerConnect} {order order' : MakerOrder}
      {orderMatch : MakerMatch} {announced : Option ℚ}
      (hconnecting : s.Connecting id sender connect)
      (horder : s.orders.lookup connect.makerOrderUuid = some order)
      (hanswer : order.processTakerConnect node sender connect =
        .connected orderMatch order' announced) :
      Effect s (.connectOrder id node) (s.startBob id connect.makerOrderUuid orderMatch order')
  | started {id : ℕ} {swap : Uuid} (hstarting : s.Starting id swap) : Effect s (.lockSwap id)
        { s.setTask id (.running swap) with
          swapLocks := s.swapLocks.insert swap ()
          startedSwaps := s.startedSwaps ++ [swap] }

theorem effect_addOrder (order : MakerOrder) (keyed : order.MatchesKeyed) :
    Effect s (.addOrder order keyed) (s.addOrder order) := by
  unfold addOrder
  split
  · exact .narrows (refl s)
  next hnew => exact .added hnew

theorem effect_answerNext (node : TradingNode) (nowMs : ℕ) :
    Effect s (.answerNext id node nowMs) (s.answerNext id node nowMs) := by
  unfold answerNext
  split
  · exact .narrows (narrows_endTask s id)
  next request uuid rest hfound =>
    unfold withOrder
    split
    · exact .narrows (refl s)
    · split
      · exact .narrows (refl s)
      next order horder =>
        unfold answerOrder
        split
        · apply Effect.narrows
          apply narrows_setTask
          case hconn => simp
          case hanswering =>
            rintro _ _ other ⟨⟩ hmem
            exact ⟨_, hfound, List.mem_cons_of_mem uuid hmem⟩
          case hstart => simp
          case hlock => simp
        · exact .narrows (narrows_endTask s id)
        · exact .narrows ((narrows_takeOut s uuid).trans (narrows_endTask _ id))
        next reserved order' hans =>
          exact .reserved ⟨rest, hfound⟩ horder hans
        · exact .narrows (narrows_endTask s id)
  · exact .narrows (refl s)

theorem effect_takerRequest (node : TradingNode)
    (fromPubkey : H256) (request : TakerRequest) (snapshot : List Uuid) :
    Effect s (.takerRequest id node fromPubkey request snapshot)
      (s.takerRequest id node fromPubkey request snapshot) := by
  unfold takerRequest
  split
  · exact .narrows (refl s)
  next hready =>
    push Not at hready
    split
    · exact .narrows (refl s)
    · split
      · exact .narrows (refl s)
      · apply Effect.asked hready.1
        intro uuid hmem
        exact hready.2.mem_iff.mp (List.mem_of_mem_filter hmem)

theorem effect_takerConnect (node : TradingNode) (sender : H256) (connect : TakerConnect) :
    Effect s (.takerConnect id node sender connect) (s.takerConnect id node sender connect) := by
  unfold takerConnect
  split
  · exact .narrows (refl s)
  next hnew =>
    split
    · exact .narrows (refl s)
    · split
      next hlist => exact .fetched hnew hlist
      · exact .narrows (refl s)

theorem effect_connectOrder (node : TradingNode) :
    Effect s (.connectOrder id node) (s.connectOrder id node) := by
  unfold connectOrder
  split
  next sender connect hfound =>
    split
    · exact .narrows (narrows_endTask s id)
    next order horder =>
      split
      · exact .narrows (narrows_endTask s id)
      next orderMatch order' announced hans =>
        exact .connected ⟨true, hfound⟩ horder hans
  · exact .narrows (refl s)

theorem effect_lockSwap : Effect s (.lockSwap id) (s.lockSwap id) := by
  unfold lockSwap
  split
  next swap attempts hfound =>
    have hstart : s.Starting id swap := ⟨_, hfound, .inr ⟨attempts, rfl⟩⟩
    split
    · split
      · exact .narrows (narrows_endTask s id)
      · apply Effect.narrows
        apply narrows_setTask
        case hconn => simp
        case hanswering => simp
        case hstart => simp
        case hlock =>
          rintro _ _ ⟨⟩
          exact hstart
    · exact .started hstart
  · exact .narrows (refl s)

theorem step_effect (event : NodeEvent) : Effect s event (s.step event) := by
  cases event with
  | addOrder order keyed => exact effect_addOrder s order keyed
  | takerRequest id node fromPubkey request snapshot =>
    exact effect_takerRequest s id node fromPubkey request snapshot
  | answerNext id node nowMs => exact effect_answerNext s id node nowMs
  | takerConnect id node sender connect =>
    exact effect_takerConnect s id node sender connect
  | lockOrder id => exact .narrows (narrows_lockOrder s id)
  | connectOrder id node => exact effect_connectOrder s id node
  | findSwapCoins id node => exact .narrows (narrows_findSwapCoins s id node)
  | lockSwap id => exact effect_lockSwap s id
  | finishSwap id => exact .narrows (narrows_finishSwap s id)
  | matchTimeout uuid nowMs => exact .narrows (narrows_matchTimeout s uuid nowMs)
  | cancelOrder uuid => exact .narrows (narrows_cancelOrder s uuid)
  | cancelPrevious uuid base rel =>
    exact .narrows (narrows_cancelPrevious s uuid base rel)
  | balanceUpdate uuid reads => exact .narrows (narrows_balanceUpdate s uuid reads)
  | checkBalance uuid => exact .narrows (narrows_checkBalance s uuid)
  | reconcile uuid maxVol => exact .narrows (narrows_reconcile s uuid maxVol)
  | reconcileCancel uuid => exact .narrows (narrows_reconcileCancel s uuid)
  | expire uuid => exact .narrows (narrows_expire s uuid)

end

/-! ## The view after the other steps -/

theorem awaits_of_reserved {nowMs : ℕ} {reserved : MakerReserved}
    (hans : order.answerRequest node nowMs uuid request = .ok (.reserved reserved order'))
    {asked : TakerRequest} (hawaits : order'.Awaits swap asked) :
    (swap = request.uuid ∧ asked = request) ∨ order.Awaits swap asked := by
  obtain ⟨b, r, baseCoin, relCoin, -, -, -, -, rfl⟩ := answerRequest_eq_reserved hans
  obtain ⟨orderMatch, hmatch, hopen, hasked⟩ := hawaits
  simp only [withReserved, lookup_insert_if] at hmatch
  split at hmatch
  next heq =>
    cases hmatch
    exact .inl ⟨heq, hasked.symm⟩
  · exact .inr ⟨orderMatch, hmatch, hopen, hasked⟩

theorem awaits_of_connected (hans : order.processTakerConnect node sender connect =
      .connected orderMatch order' announced) :
    (order.Awaits connect.takerOrderUuid orderMatch.request ∧
        orderMatch.request.senderPubkey = sender) ∧
      ∀ swap asked, order'.Awaits swap asked →
        swap ≠ connect.takerOrderUuid ∧ order.Awaits swap asked := by
  unfold processTakerConnect at hans
  split at hans
  · cases hans
  · split at hans
    · cases hans
    next before hpre =>
      split at hans
      · cases hans
      next hsender =>
        split at hans
        next hopen =>
          cases hans
          push Not at hsender
          rw [Option.isNone_iff_eq_none, Option.isNone_iff_eq_none] at hopen
          refine ⟨⟨⟨before, hpre, hopen, rfl⟩, hsender⟩, ?_⟩
          intro swap asked hawaits
          obtain ⟨found, hfound, hfoundOpen, hasked⟩ := hawaits
          simp only [withConnected, lookup_insert_if] at hfound
          split at hfound
          · cases hfound
            exact absurd hfoundOpen.1 (by simp [MakerMatch.connectedBy])
          next hne => exact ⟨hne, found, hfound, hfoundOpen, hasked⟩
        · cases hans

theorem openMatch_startBob (horder : s.orders.lookup connect.makerOrderUuid = some order)
    (hans : order.processTakerConnect node sender connect = .connected orderMatch order' announced)
    (hview : (s.startBob id connect.makerOrderUuid orderMatch order').OpenMatch uuid swap request) :
    s.OpenMatch uuid swap request ∧
      (uuid = connect.makerOrderUuid → swap ≠ connect.takerOrderUuid) := by
  obtain ⟨found, hfound, hawaits⟩ := hview
  simp only [startBob, setTask, setOrder, lookup_insert_if] at hfound
  split at hfound
  next heq =>
    cases hfound
    obtain ⟨hne, hpre⟩ := (awaits_of_connected hans).2 _ _ hawaits
    exact ⟨⟨order, heq ▸ horder, hpre⟩, fun _ => hne⟩
  next hne => exact ⟨⟨found, hfound, hawaits⟩, fun heq => absurd heq hne⟩

theorem narrows_setRunning (s : MakerNode) (id : ℕ) (swap : Uuid) :
    Narrows s (s.setTask id (.running swap)) := by
  apply narrows_setTask
  case hconn => simp
  case hanswering => simp
  case hstart => simp
  case hlock => simp

end MakerNode

end KdfProtocol
