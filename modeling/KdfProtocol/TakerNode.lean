import KdfProtocol.GuardedRun
import KdfProtocol.OrderMatching

/-!
# Reservations of a taker node

The handlers of `MakerReserved` messages share one list of reservations per
taker order.  The handler that files the first reservation of a list sleeps
and then takes the whole list out; the later ones only add to the list.  A
step below is what a handler does between two points at which it waits.
-/

namespace KdfProtocol

/-! ## Prices of reservations -/

namespace MakerReserved

def price (reserved : MakerReserved) : Fallible Empty ℚ :=
  divide reserved.relAmount reserved.baseAmount

/-- The sort of the reservations by price.  A sort of two or more reservations
reads the price of each; a sort of fewer reads none.  The given arrangement
decides between equal prices. -/
def sortByPrice (arranged : List MakerReserved) : Fallible Empty (List MakerReserved) :=
  if arranged.length < 2 then .ok arranged
  else do
    let prices ← arranged.mapM price
    let keyed := (prices.zip arranged).mergeSort fun first second =>
      decide (first.1 ≤ second.1)
    pure (keyed.map Prod.snd)

theorem mapM_price_isOk (reservations : List MakerReserved) :
    (∃ prices, reservations.mapM price = .ok prices) ↔
      ∀ reserved ∈ reservations, reserved.baseAmount ≠ 0 := by
  induction reservations with
  | nil => simp [pure, Except.pure]
  | cons reserved rest ih =>
    have hcons : (∃ prices, (reserved :: rest).mapM price = .ok prices) ↔
        (∃ first, reserved.price = .ok first) ∧ ∃ prices, rest.mapM price = .ok prices := by
      rw [List.mapM_cons]
      simp only [Fallible.bind_eq_ok]
      constructor
      · rintro ⟨_, first, hfirst, prices, hprices, -⟩
        exact ⟨⟨first, hfirst⟩, prices, hprices⟩
      · rintro ⟨⟨first, hfirst⟩, prices, hprices⟩
        exact ⟨_, first, hfirst, prices, hprices, rfl⟩
    rw [hcons, ih, List.forall_mem_cons]
    simp [price, divide_eq_ok]

theorem sortByPrice_isOk (arranged : List MakerReserved) :
    (∃ sorted, sortByPrice arranged = .ok sorted) ↔
      arranged.length < 2 ∨ ∀ reserved ∈ arranged, reserved.baseAmount ≠ 0 := by
  unfold sortByPrice
  by_cases hshort : arranged.length < 2
  · simp [hshort]
  · rw [if_neg hshort, ← mapM_price_isOk, Fallible.bind_pure_isOk]
    simp [hshort]

end MakerReserved

/-- The loop over the sorted reservations: it ends at the first reservation
the taker connects to. -/
def TakerOrder.selectReserved (node : TradingNode) (nowMs : ℕ)
    (sorted : List MakerReserved) (order : TakerOrder) : Option (TakerMatch × TakerOrder) :=
  sorted.findSome? fun reserved => order.answerReserved node nowMs reserved

/-! ## Handlers -/

inductive ReservedHandler where
  /-- For the lock of the lists; the order of the reservation was found. -/
  | filing (reserved : MakerReserved)
  /-- For the end of its sleep and the lock of the orders. -/
  | sleeping (uuid : Uuid)
  /-- For the lock of the lists, with the lock of the orders in its hands and
  both coins of the order found. -/
  | selecting (uuid : Uuid) (node : TradingNode)

def ReservedHandler.holdsOrders : ReservedHandler → Bool
  | .selecting _ _ => true
  | _ => false

structure TakerNode where
  myTakerOrders : HashMap Uuid TakerOrder
  /-- The uuids of all orders the node has made; a new order has a new one. -/
  createdUuids : HashSet Uuid
  pendingMakerReserved : HashMap Uuid (List MakerReserved)
  handlers : HashMap ℕ ReservedHandler
  connects : List TakerConnect
  panics : ℕ

inductive TakerNodeEvent where
  | createOrder (order : TakerOrder)
  /-- The order is cancelled, fulfilled, timed out or becomes a maker order. -/
  | removeOrder (uuid : Uuid)
  | makerReserved (id : ℕ) (publicId fromPubkey : H256) (reserved : MakerReserved)
  | file (id : ℕ)
  /-- The node with the coins that are active when the handler looks. -/
  | wake (id : ℕ) (node : TradingNode)
  | select (id : ℕ) (nowMs : ℕ) (arranged : List MakerReserved)

namespace TakerNode

def initial : TakerNode where
  myTakerOrders := ∅
  createdUuids := ∅
  pendingMakerReserved := ∅
  handlers := ∅
  connects := []
  panics := 0

variable (id : ℕ) (s : TakerNode)

def ordersLocked : Bool :=
  (HashMap.values s.handlers).any ReservedHandler.holdsOrders

def setHandler (handler : ReservedHandler) (s : TakerNode) : TakerNode :=
  { s with handlers := s.handlers.insert id handler }

def endHandler : TakerNode :=
  { s with handlers := s.handlers.erase id }

def createOrder (order : TakerOrder) (s : TakerNode) : TakerNode :=
  if s.ordersLocked ∨ order.request.uuid ∈ s.createdUuids then s
  else
    { s with
      myTakerOrders := s.myTakerOrders.insert order.request.uuid order
      createdUuids := s.createdUuids.insert order.request.uuid () }

def removeOrder (uuid : Uuid) (s : TakerNode) : TakerNode :=
  if s.ordersLocked then s
  else { s with myTakerOrders := s.myTakerOrders.erase uuid }

/-- A handler starts.  It ends at once if the order is not there or if the
message is the node's own. -/
def makerReserved (publicId fromPubkey : H256) (reserved : MakerReserved) (s : TakerNode) :
    TakerNode :=
  if s.ordersLocked ∨ id ∈ s.handlers then s
  else if reserved.takerOrderUuid ∉ s.myTakerOrders then s
  else if publicId = fromPubkey then s
  else s.setHandler id (.filing reserved)

def filed (reserved : MakerReserved) (s : TakerNode) : List MakerReserved :=
  (s.pendingMakerReserved.lookup reserved.takerOrderUuid).getD [] ++ [reserved]

def fileReserved (reserved : MakerReserved) (s : TakerNode) : TakerNode :=
  { s with
    pendingMakerReserved :=
      s.pendingMakerReserved.insert reserved.takerOrderUuid (s.filed reserved) }

def file : TakerNode :=
  match s.handlers.lookup id with
  | some (.filing reserved) =>
    if 1 < (s.filed reserved).length then
      -- The list is sorted and processed in the first called handler.
      (s.fileReserved reserved).endHandler id
    else
      (s.fileReserved reserved).setHandler id (.sleeping reserved.takerOrderUuid)
  | _ => s

def wake (node : TradingNode) (s : TakerNode) : TakerNode :=
  match s.handlers.lookup id with
  | some (.sleeping uuid) =>
    if s.ordersLocked then s
    else
      match s.myTakerOrders.lookup uuid with
      | none => s.endHandler id
      | some order =>
        match node.findPair order.makerCoinTicker order.takerCoinTicker with
        | none => s.endHandler id
        | some _ => s.setHandler id (.selecting uuid node)
  | _ => s

def takeList (uuid : Uuid) (s : TakerNode) : TakerNode :=
  { s with
    pendingMakerReserved := s.pendingMakerReserved.erase uuid
    handlers := s.handlers.erase id }

def connectBest (uuid : Uuid) (node : TradingNode) (nowMs : ℕ)
    (sorted : List MakerReserved) (s : TakerNode) : TakerNode :=
  match s.myTakerOrders.lookup uuid with
  | none => s
  | some order =>
    match order.selectReserved node nowMs sorted with
    | none => s
    | some (takerMatch, order) =>
      { s with
        myTakerOrders := s.myTakerOrders.insert uuid order
        connects := s.connects ++ [takerMatch.connect] }

def panicked : TakerNode := { s with panics := s.panics + 1 }

def select (nowMs : ℕ) (arranged : List MakerReserved) (s : TakerNode) : TakerNode :=
  match s.handlers.lookup id with
  | some (.selecting uuid node) =>
    match s.pendingMakerReserved.lookup uuid with
    | none => s.endHandler id
    | some reservations =>
      if arranged.Perm reservations then
        match MakerReserved.sortByPrice arranged with
        | .error _ => (s.takeList id uuid).panicked
        | .ok sorted => (s.takeList id uuid).connectBest uuid node nowMs sorted
      else s
  | _ => s

def step : TakerNodeEvent → TakerNode
  | .createOrder order => s.createOrder order
  | .removeOrder uuid => s.removeOrder uuid
  | .makerReserved id publicId fromPubkey reserved =>
    s.makerReserved id publicId fromPubkey reserved
  | .file id => s.file id
  | .wake id node => s.wake id node
  | .select id nowMs arranged => s.select id nowMs arranged

end TakerNode

end KdfProtocol
