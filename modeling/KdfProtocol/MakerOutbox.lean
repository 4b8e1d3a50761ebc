import KdfProtocol.OrderOwnership

/-!
# The maker outbox

The messages that a node publishes for its own maker orders wait in an outbox
per maker pubkey, with at most one pending message per order.  A new message
is merged into the pending one.  When a message leaves is up to the rate
budget of the pubkey, which the model leaves open: a step takes the number of
messages that the budget lets out.
-/

namespace KdfProtocol

inductive OutboxMessage where
  | created (msg : MakerOrderCreated)
  | updated (msg : MakerOrderUpdated)
  | cancelled (uuid : Uuid)

namespace OutboxMessage

def isCancelled : OutboxMessage → Bool
  | .cancelled _ => true
  | _ => false

def uuid : OutboxMessage → Uuid
  | .created msg | .updated msg => msg.uuid
  | .cancelled uuid => uuid

end OutboxMessage

/-! ## Merging -/

def applyUpdatedToCreated (created : MakerOrderCreated)
    (updated : MakerOrderUpdated) : MakerOrderCreated :=
  { created with
    price := updated.newPrice.getD created.price
    maxVolume := updated.newMaxVolume.getD created.maxVolume
    minVolume := updated.newMinVolume.getD created.minVolume
    confSettings := updated.newConfSettings.getD created.confSettings }

/-- `setSome with_ value msg` sets a field of the message if there is a value
for it. -/
def setSome {α : Type} (with_ : α → MakerOrderUpdated → MakerOrderUpdated)
    (value : Option α) (msg : MakerOrderUpdated) : MakerOrderUpdated :=
  match value with
  | some a => with_ a msg
  | none => msg

/-- `nowSecs` is the clock reading for the timestamp of the new message. -/
def mergeUpdated (nowSecs : ℕ) (older newer : MakerOrderUpdated) : MakerOrderUpdated :=
  let merged := MakerOrderUpdated.new newer.uuid nowSecs
  let merged := setSome .withNewPrice (newer.newPrice.or older.newPrice) merged
  let merged := setSome .withNewMaxVolume (newer.newMaxVolume.or older.newMaxVolume) merged
  let merged := setSome .withNewMinVolume (newer.newMinVolume.or older.newMinVolume) merged
  setSome .withNewConfSettings (newer.newConfSettings.or older.newConfSettings) merged

def mergePending (nowSecs : ℕ) : Option OutboxMessage → OutboxMessage → OutboxMessage
  | none, new => new
  | some (.cancelled uuid), _ | some _, .cancelled uuid => .cancelled uuid
  | some _, .created msg => .created msg
  | some (.created created), .updated updated => .created (applyUpdatedToCreated created updated)
  | some (.updated older), .updated newer => .updated (mergeUpdated nowSecs older newer)

/-! ## The outbox of one pubkey -/

structure Release where
  topic : String
  message : OutboxMessage

structure OutboxEntry where
  message : OutboxMessage
  topic : String
  seq : ℕ

structure PubkeyOutbox where
  entries : HashMap Uuid OutboxEntry
  /-- The pending orders by slot number. -/
  byAge : HashMap ℕ Uuid
  nextSeq : ℕ

namespace PubkeyOutbox

def new : PubkeyOutbox where
  entries := ∅
  byAge := ∅
  nextSeq := 0

def release (uuid : Uuid) (outbox : PubkeyOutbox) : Option Release × PubkeyOutbox :=
  match outbox.entries.lookup uuid with
  | none => (none, outbox)
  | some entry =>
    (some { topic := entry.topic, message := entry.message },
      { outbox with
        entries := outbox.entries.erase uuid
        byAge := outbox.byAge.erase entry.seq })

def slot (uuid : Uuid) (outbox : PubkeyOutbox) : ℕ × ℕ :=
  match outbox.entries.lookup uuid with
  | some entry => (entry.seq, outbox.nextSeq)
  | none => (outbox.nextSeq, outbox.nextSeq + 1)

def merged (nowSecs : ℕ) (uuid : Uuid) (message : OutboxMessage)
    (outbox : PubkeyOutbox) : OutboxMessage :=
  mergePending nowSecs ((outbox.entries.lookup uuid).map OutboxEntry.message) message

def store (nowSecs : ℕ) (uuid : Uuid) (topic : String)
    (message : OutboxMessage) (outbox : PubkeyOutbox) : PubkeyOutbox where
  entries := outbox.entries.insert uuid
    { message := outbox.merged nowSecs uuid message
      topic
      seq := (outbox.slot uuid).1 }
  byAge := outbox.byAge.insert (outbox.slot uuid).1 uuid
  nextSeq := (outbox.slot uuid).2

/-- Stores the message, merged into the pending one of the order.  A
cancellation is not held back. -/
def push (nowSecs : ℕ) (uuid : Uuid) (topic : String)
    (message : OutboxMessage) (outbox : PubkeyOutbox) : Option Release × PubkeyOutbox :=
  let stored := outbox.store nowSecs uuid topic message
  if (outbox.merged nowSecs uuid message).isCancelled then stored.release uuid
  else (none, stored)

def oldest (outbox : PubkeyOutbox) : Option Uuid :=
  outbox.byAge.keys.min?.bind outbox.byAge.lookup

def releaseBudgeted : ℕ → PubkeyOutbox → List Release × PubkeyOutbox
  | 0, outbox => ([], outbox)
  | tokens + 1, outbox =>
    match outbox.oldest with
    | none => ([], outbox)
    | some uuid =>
      let (released, outbox) := outbox.release uuid
      let (later, outbox) := releaseBudgeted tokens outbox
      (released.toList ++ later, outbox)

def pending (uuid : Uuid) (outbox : PubkeyOutbox) : Option OutboxMessage :=
  (outbox.entries.lookup uuid).map OutboxEntry.message

end PubkeyOutbox

/-! ## The outboxes of a node -/

/-- The outboxes, with the messages they were given and the messages they have
released, each under the pubkey of its maker. -/
structure MakerOutboxes where
  byPubkey : HashMap String PubkeyOutbox
  enqueued : List (String × OutboxMessage)
  published : List (String × OutboxMessage)

inductive OutboxEvent where
  /-- The budget lets `tokens` messages out. -/
  | enqueue (nowSecs tokens : ℕ) (pubkey topic : String) (message : OutboxMessage)
  /-- A signal that a relay is not keeping up concerns only the budgets. -/
  | signal
  /-- The outboxes in `remembered` have a budget that is not yet idle. -/
  | tick (tokens : String → ℕ) (remembered : String → Bool)

namespace MakerOutboxes

def initial : MakerOutboxes where
  byPubkey := ∅
  enqueued := []
  published := []

def outbox (pubkey : String) (s : MakerOutboxes) : PubkeyOutbox :=
  (s.byPubkey.lookup pubkey).getD .new

def publish (pubkey : String) (released : List Release) : List (String × OutboxMessage) :=
  released.map fun release => (pubkey, release.message)

def enqueue (nowSecs tokens : ℕ) (pubkey topic : String)
    (message : OutboxMessage) (s : MakerOutboxes) : MakerOutboxes :=
  let (first, outbox) :=
    (s.outbox pubkey).push nowSecs message.uuid topic message
  let (later, outbox) := outbox.releaseBudgeted tokens
  { byPubkey := s.byPubkey.insert pubkey outbox
    enqueued := s.enqueued ++ [(pubkey, message)]
    published := s.published ++ publish pubkey (first.toList ++ later) }

def tick (tokens : String → ℕ) (remembered : String → Bool) (s : MakerOutboxes) : MakerOutboxes :=
  let advanced := HashMap.mapValues
    (fun pubkey outbox => (outbox.releaseBudgeted (tokens pubkey)).2)
    s.byPubkey
  { s with
    byPubkey := HashMap.retain
      (fun pubkey outbox => !outbox.entries.entries.isEmpty || remembered pubkey)
      advanced
    published := s.published ++ (HashMap.toList s.byPubkey).flatMap
      fun entry => publish entry.1 (entry.2.releaseBudgeted (tokens entry.1)).1 }

def step (s : MakerOutboxes) : OutboxEvent → MakerOutboxes
  | .enqueue nowSecs tokens pubkey topic message => s.enqueue nowSecs tokens pubkey topic message
  | .signal => s
  | .tick tokens remembered => s.tick tokens remembered

def messagesOf (pubkey : String) (uuid : Uuid)
    (log : List (String × OutboxMessage)) : List OutboxMessage :=
  (log.filter fun entry => entry.1 = pubkey ∧ entry.2.uuid = uuid).map Prod.snd

def pending (pubkey : String) (uuid : Uuid) (s : MakerOutboxes) : Option OutboxMessage :=
  (s.outbox pubkey).pending uuid

/-- What peers get to see of an order: the released messages and then the
pending one. -/
def outgoing (pubkey : String) (uuid : Uuid) (s : MakerOutboxes) : List OutboxMessage :=
  messagesOf pubkey uuid s.published ++ (s.pending pubkey uuid).toList

end MakerOutboxes

/-! ## The receiver of the messages of one order -/

structure Receiver where
  held : Option OrderbookItem
  cancelled : Bool

def OrderbookItem.ifTradable (order : OrderbookItem) : Option OrderbookItem :=
  if order.Untradable then none else some order

namespace Receiver

/-- If `guards`, a cancellation holds off every later message of the order. -/
def guarded (guards : Bool) (receiver : Receiver) : Bool :=
  guards && receiver.cancelled

def receive (guards : Bool) (pubkey : String) (receiver : Receiver) : OutboxMessage → Receiver
  | .created msg =>
    if receiver.guarded guards then receiver
    else { receiver with held := (msg.toOrderbookItem pubkey).ifTradable }
  | .updated msg =>
    if receiver.guarded guards then receiver
    else
      { receiver with
        held := receiver.held.bind fun order =>
          (order.applyUpdated msg).ifTradable }
  | .cancelled _ => { held := none, cancelled := true }

def receiveAll (guards : Bool) (pubkey : String) (receiver : Receiver)
    (messages : List OutboxMessage) : Receiver :=
  messages.foldl (receive guards pubkey) receiver

end Receiver

end KdfProtocol
