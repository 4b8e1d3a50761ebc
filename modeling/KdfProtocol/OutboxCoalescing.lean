import KdfProtocol.MakerOutbox

/-!
# What coalescing leaves of the messages

A release moves a message from the pending slot of an order to the end of its
released messages, so it changes nothing in the sequence that peers get to
see.  Only a merge does, and a receiver tells the merged message from the two
it stands for only by the confirmation settings: an update of a pending
created message carries them over, an update that is received alone does not.
-/

namespace KdfProtocol

/-! ## Merged messages -/

namespace OutboxMessage

/-- Positive prices and volumes; a minimal volume may also be zero. -/
def Positive : OutboxMessage → Prop
  | .created msg => 0 < msg.price ∧ 0 < msg.maxVolume ∧ 0 ≤ msg.minVolume
  | .updated msg =>
    (∀ price ∈ msg.newPrice, 0 < price) ∧ (∀ volume ∈ msg.newMaxVolume, 0 < volume) ∧
      ∀ volume ∈ msg.newMinVolume, 0 ≤ volume
  | .cancelled _ => True

/-- The new message sets no confirmation settings that the pending created
message does not have. -/
def KeepsConfSettings : OutboxMessage → OutboxMessage → Prop
  | .created pending, .updated new =>
    ∀ settings ∈ new.newConfSettings, settings = pending.confSettings
  | _, _ => True

end OutboxMessage

theorem mergeUpdated_eq (nowSecs : ℕ) (older newer : MakerOrderUpdated) :
    mergeUpdated nowSecs older newer =
      .v2
        { uuid := newer.uuid
          newPrice := newer.newPrice.or older.newPrice
          newMaxVolume := newer.newMaxVolume.or older.newMaxVolume
          newMinVolume := newer.newMinVolume.or older.newMinVolume
          timestamp := nowSecs
          confSettings := newer.newConfSettings.or older.newConfSettings } := by
  unfold mergeUpdated
  cases newer.newPrice.or older.newPrice <;> cases newer.newMaxVolume.or older.newMaxVolume <;>
    cases newer.newMinVolume.or older.newMinVolume <;>
    cases newer.newConfSettings.or older.newConfSettings <;> rfl

theorem applyUpdated_mergeUpdated (nowSecs : ℕ)
    (older newer : MakerOrderUpdated) (order : OrderbookItem) :
    order.applyUpdated (mergeUpdated nowSecs older newer) =
      (order.applyUpdated older).applyUpdated newer := by
  rw [mergeUpdated_eq]
  simp [OrderbookItem.applyUpdated, MakerOrderUpdated.newPrice,
    MakerOrderUpdated.newMaxVolume, MakerOrderUpdated.newMinVolume,
    MakerOrderUpdated.fields, Option.getD_or]

section Positive

variable {nowSecs : ℕ} {pubkey : String}

theorem tradable_created {created : MakerOrderCreated}
    (hpos : (OutboxMessage.created created).Positive) :
    ¬(created.toOrderbookItem pubkey).Untradable := by
  obtain ⟨hprice, hmax, hmin⟩ := hpos
  rintro (hle | hle | hlt)
  · exact absurd hmax (not_lt.mpr hle)
  · exact absurd hprice (not_lt.mpr hle)
  · exact absurd hmin (not_le.mpr hlt)

theorem getD_of_forall_mem {α : Type} {P : α → Prop} {value : Option α}
    {old : α} (hvalue : ∀ a ∈ value, P a) (hold : P old) : P (value.getD old) := by
  cases value with
  | none => exact hold
  | some a => exact hvalue a rfl

theorem tradable_applyUpdated {updated : MakerOrderUpdated} {order : OrderbookItem}
    (hpos : (OutboxMessage.updated updated).Positive) (horder : ¬order.Untradable) :
    ¬(order.applyUpdated updated).Untradable := by
  obtain ⟨hprice, hmax, hmin⟩ := hpos
  unfold OrderbookItem.Untradable at horder ⊢
  rw [not_or, not_or, not_le, not_le, not_lt] at horder ⊢
  exact ⟨getD_of_forall_mem hmax horder.1, getD_of_forall_mem hprice horder.2.1,
    getD_of_forall_mem hmin horder.2.2⟩

theorem positive_applyUpdatedToCreated {created : MakerOrderCreated} {updated : MakerOrderUpdated}
    (hcreated : (OutboxMessage.created created).Positive)
    (hupd : (OutboxMessage.updated updated).Positive) :
    (OutboxMessage.created (applyUpdatedToCreated created updated)).Positive :=
  ⟨getD_of_forall_mem hupd.1 hcreated.1, getD_of_forall_mem hupd.2.1 hcreated.2.1,
    getD_of_forall_mem hupd.2.2 hcreated.2.2⟩

theorem forall_mem_or {α : Type} {P : α → Prop} {first second : Option α}
    (hfirst : ∀ a ∈ first, P a) (hsnd : ∀ a ∈ second, P a) : ∀ a ∈ first.or second, P a := by
  cases first with
  | none => exact hsnd
  | some a => exact hfirst

theorem positive_mergeUpdated {older newer : MakerOrderUpdated}
    (holder : (OutboxMessage.updated older).Positive)
    (hnewer : (OutboxMessage.updated newer).Positive) :
    (OutboxMessage.updated (mergeUpdated nowSecs older newer)).Positive := by
  rw [mergeUpdated_eq]
  exact ⟨forall_mem_or hnewer.1 holder.1, forall_mem_or hnewer.2.1 holder.2.1,
    forall_mem_or hnewer.2.2 holder.2.2⟩

end Positive

/-- What an outbox may store: messages of the order, with positive numbers,
and no cancellation. -/
structure OutboxMessage.Waiting (uuid : Uuid) (message : OutboxMessage) :
    Prop where
  uuid_eq : message.uuid = uuid
  positive : message.Positive
  notCancelled : message.isCancelled = false

theorem uuid_mergePending (nowSecs : ℕ) {uuid : Uuid} {pending : Option OutboxMessage}
    {new : OutboxMessage} (hpend : ∀ message ∈ pending, message.uuid = uuid)
    (hnew : new.uuid = uuid) : (mergePending nowSecs pending new).uuid = uuid := by
  cases pending with
  | none => exact hnew
  | some message =>
    have hmsg := hpend message rfl
    cases message with
    | cancelled => exact hmsg
    | created =>
      cases new with
      | created | cancelled => exact hnew
      | updated => exact hmsg
    | updated older =>
      cases new with
      | created | cancelled => exact hnew
      | updated newer =>
        simp only [mergePending, mergeUpdated_eq]
        exact hnew

theorem waiting_mergePending {nowSecs : ℕ} {uuid : Uuid} {pending : Option OutboxMessage}
    {new : OutboxMessage} (hpend : ∀ message ∈ pending, message.Waiting uuid)
    (huuid : new.uuid = uuid) (hpos : new.Positive)
    (hkept : (mergePending nowSecs pending new).isCancelled = false) :
    (mergePending nowSecs pending new).Waiting uuid where
  uuid_eq := uuid_mergePending nowSecs (fun message hmem => (hpend message hmem).uuid_eq) huuid
  positive := by
    cases pending with
    | none => exact hpos
    | some message =>
      have hmsg := (hpend message rfl).positive
      cases message with
      | cancelled => trivial
      | created =>
        cases new with
        | created => exact hpos
        | cancelled => trivial
        | updated => exact positive_applyUpdatedToCreated hmsg hpos
      | updated =>
        cases new with
        | created => exact hpos
        | cancelled => trivial
        | updated => exact positive_mergeUpdated hmsg hpos
  notCancelled := hkept

/-! ## The receiver of a merged message -/

namespace Receiver

variable {guards : Bool} {pubkey : String} {receiver : Receiver}

def Sound (receiver : Receiver) : Prop :=
  ∀ order ∈ receiver.held, ¬order.Untradable

theorem tradable_of_ifTradable {order kept : OrderbookItem}
    (hkept : order.ifTradable = some kept) : ¬kept.Untradable := by
  unfold OrderbookItem.ifTradable at hkept
  split at hkept
  · cases hkept
  next htradable =>
    cases hkept
    exact htradable

theorem ifTradable_eq_some {order : OrderbookItem}
    (htradable : ¬order.Untradable) : order.ifTradable = some order :=
  if_neg htradable

theorem Sound.receive (hsound : receiver.Sound) (message : OutboxMessage) :
    (receiver.receive guards pubkey message).Sound := by
  cases message with
  | created msg =>
    simp only [Receiver.receive]
    split
    · exact hsound
    · intro order hheld
      exact tradable_of_ifTradable hheld
  | updated msg =>
    simp only [Receiver.receive]
    split
    · exact hsound
    · intro order hheld
      obtain ⟨before, -, hkept⟩ := Option.bind_eq_some_iff.mp hheld
      exact tradable_of_ifTradable hkept
  | cancelled uuid =>
    intro order hheld
    cases hheld

theorem Sound.receiveAll (hsound : receiver.Sound) (messages : List OutboxMessage) :
    (receiver.receiveAll guards pubkey messages).Sound := by
  induction messages generalizing receiver with
  | nil => exact hsound
  | cons message rest ih => exact ih (hsound.receive message)

theorem receive_of_guarded (hguarded : receiver.guarded guards = true) {message : OutboxMessage}
    (hopen : message.isCancelled = false) : receiver.receive guards pubkey message = receiver := by
  cases message with
  | created | updated => simp [receive, hguarded]
  | cancelled => cases hopen

theorem receive_created (hopen : receiver.guarded guards = false) {created : MakerOrderCreated}
    (hpos : (OutboxMessage.created created).Positive) :
    receiver.receive guards pubkey (.created created) =
      { receiver with held := some (created.toOrderbookItem pubkey) } := by
  simp [receive, hopen, ifTradable_eq_some (tradable_created hpos)]

theorem receive_updated (hopen : receiver.guarded guards = false) (hsound : receiver.Sound)
    {updated : MakerOrderUpdated} (hpos : (OutboxMessage.updated updated).Positive) :
    receiver.receive guards pubkey (.updated updated) = { receiver with
        held := receiver.held.map fun order =>
          order.applyUpdated updated } := by
  have hheld : (receiver.held.bind fun order =>
        (order.applyUpdated updated).ifTradable) =
      receiver.held.map fun order => order.applyUpdated updated := by
    cases hcase : receiver.held with
    | none => rfl
    | some order =>
      exact ifTradable_eq_some (tradable_applyUpdated hpos (hsound order hcase))
  simp [receive, hopen, hheld]

theorem guarded_receive_of_open {message : OutboxMessage} (hopen : message.isCancelled = false) :
    (receiver.receive guards pubkey message).guarded guards = receiver.guarded guards := by
  cases message with
  | created | updated =>
    simp only [receive]
    split
    · rfl
    · rfl
  | cancelled => cases hopen

variable {nowSecs : ℕ} {new : OutboxMessage}

theorem receive_mergePending_of_guarded {pending : OutboxMessage}
    (hguarded : receiver.guarded guards = true) (hopen : pending.isCancelled = false) :
    receiver.receive guards pubkey (mergePending nowSecs (some pending) new) =
      (receiver.receive guards pubkey pending).receive guards pubkey new := by
  rw [receive_of_guarded hguarded hopen]
  cases new with
  | cancelled | created =>
    cases pending with
    | cancelled => cases hopen
    | created | updated => rfl
  | updated updated =>
    have hsame : receiver.receive guards pubkey (.updated updated) = receiver :=
      receive_of_guarded hguarded rfl
    rw [hsame]
    cases pending with
    | cancelled => cases hopen
    | created | updated => exact receive_of_guarded hguarded rfl

theorem receive_mergePending_created_iff {created : MakerOrderCreated}
    (hguarded : receiver.guarded guards = false) (hsound : receiver.Sound)
    (hpend : (OutboxMessage.created created).Positive) (hnew : new.Positive) :
    receiver.receive guards pubkey (mergePending nowSecs (some (.created created)) new) =
        (receiver.receive guards pubkey (.created created)).receive guards pubkey new ↔
      (OutboxMessage.created created).KeepsConfSettings new := by
  have hlater : (receiver.receive guards pubkey (.created created)).guarded guards = false := by
    rw [guarded_receive_of_open rfl, hguarded]
  cases new with
  | cancelled => simp [mergePending, receive, OutboxMessage.KeepsConfSettings]
  | created newer =>
    rw [receive_created hguarded hpend] at hlater ⊢
    simp only [mergePending, OutboxMessage.KeepsConfSettings, iff_true]
    rw [receive_created hguarded hnew, receive_created hlater hnew]
  | updated updated =>
    have hafter : (receiver.receive guards pubkey (.created created)).Sound := hsound.receive _
    rw [receive_updated hlater hafter hnew]
    simp only [mergePending, OutboxMessage.KeepsConfSettings]
    rw [receive_created hguarded hpend, receive_created hguarded
      (positive_applyUpdatedToCreated hpend hnew)]
    simp only [Receiver.mk.injEq, Option.map_some, Option.some.injEq, and_true,
      MakerOrderCreated.toOrderbookItem, applyUpdatedToCreated, OrderbookItem.applyUpdated,
      OrderbookItem.mk.injEq, true_and]
    cases updated.newConfSettings with
    | none | some settings => simp

theorem receive_mergePending_updated {older : MakerOrderUpdated}
    (hguarded : receiver.guarded guards = false) (hsound : receiver.Sound)
    (hpend : (OutboxMessage.updated older).Positive) (hnew : new.Positive) :
    receiver.receive guards pubkey (mergePending nowSecs (some (.updated older)) new) =
      (receiver.receive guards pubkey (.updated older)).receive guards pubkey new := by
  have hlater : (receiver.receive guards pubkey (.updated older)).guarded guards = false := by
    rw [guarded_receive_of_open rfl, hguarded]
  have hafter : (receiver.receive guards pubkey (.updated older)).Sound := hsound.receive _
  cases new with
  | cancelled => rfl
  | created newer =>
    rw [receive_created hlater hnew, receive_updated hguarded hsound hpend]
    simp only [mergePending]
    rw [receive_created hguarded hnew]
  | updated newer =>
    rw [receive_updated hlater hafter hnew, receive_updated hguarded hsound hpend]
    simp only [mergePending]
    rw [receive_updated hguarded hsound (positive_mergeUpdated hpend hnew)]
    simp [applyUpdated_mergeUpdated, Function.comp_def]

/-- A receiver cannot tell the merged message from the pending and the new one
exactly if it is guarded or the confirmation settings stay the same. -/
theorem receive_mergePending_iff {pending : OutboxMessage} (hsound : receiver.Sound)
    (hpend : pending.Positive) (hnew : new.Positive) (hopen : pending.isCancelled = false) :
    receiver.receive guards pubkey (mergePending nowSecs (some pending) new) =
        (receiver.receive guards pubkey pending).receive guards pubkey new ↔
      receiver.guarded guards = true ∨ pending.KeepsConfSettings new := by
  cases hguarded : receiver.guarded guards with
  | true =>
    simp only [true_or, iff_true]
    exact receive_mergePending_of_guarded hguarded hopen
  | false =>
    simp only [Bool.false_eq_true, false_or]
    cases pending with
    | created created =>
      exact receive_mergePending_created_iff hguarded hsound hpend hnew
    | updated older =>
      simp only [OutboxMessage.KeepsConfSettings, iff_true]
      exact receive_mergePending_updated hguarded hsound hpend hnew
    | cancelled => cases hopen

end Receiver

/-! ## The sequence of one order -/

namespace PubkeyOutbox

def Keyed (outbox : PubkeyOutbox) : Prop :=
  ∀ uuid, ∀ message ∈ outbox.pending uuid, message.uuid = uuid

def releasedOf (uuid : Uuid) (released : List Release) : List OutboxMessage :=
  (released.map Release.message).filter fun message => message.uuid = uuid

theorem releasedOf_append (uuid : Uuid) (first second : List Release) :
    releasedOf uuid (first ++ second) = releasedOf uuid first ++ releasedOf uuid second := by
  simp [releasedOf]

variable {outbox : PubkeyOutbox}

theorem pending_release (uuid other : Uuid) : (outbox.release uuid).2.pending other =
      if other = uuid then none else outbox.pending other := by
  unfold release
  cases hentry : outbox.entries.lookup uuid with
  | none =>
    by_cases heq : other = uuid
    · subst other
      simp [pending, hentry]
    · simp [heq]
  | some entry =>
    simp only [pending, HashMap.lookup_erase_if]
    by_cases heq : other = uuid
    · simp [heq]
    · simp [heq]

theorem releasedOf_release (hkeyed : outbox.Keyed) (uuid other : Uuid) :
    releasedOf other (outbox.release uuid).1.toList =
      if other = uuid then (outbox.pending uuid).toList else [] := by
  unfold release
  cases hentry : outbox.entries.lookup uuid with
  | none => simp [releasedOf, pending, hentry]
  | some entry =>
    have hpend : outbox.pending uuid = some entry.message := by
      simp [pending, hentry]
    have huuid : entry.message.uuid = uuid := hkeyed uuid entry.message hpend
    by_cases heq : other = uuid
    · subst other
      simp [releasedOf, hpend, huuid]
    · have hne : ¬uuid = other := fun h => heq h.symm
      simp [releasedOf, huuid, heq, hne]

theorem release_sequence (hkeyed : outbox.Keyed) (uuid other : Uuid) :
    releasedOf other (outbox.release uuid).1.toList ++
        ((outbox.release uuid).2.pending other).toList =
      (outbox.pending other).toList := by
  rw [releasedOf_release hkeyed, pending_release]
  by_cases heq : other = uuid
  · subst other
    simp
  · simp [heq]

theorem forall_pending_release {P : Uuid → OutboxMessage → Prop}
    (hall : ∀ uuid, ∀ message ∈ outbox.pending uuid, P uuid message) (uuid : Uuid) :
    ∀ other, ∀ message ∈ (outbox.release uuid).2.pending other, P other message := by
  intro other message hmem
  rw [pending_release] at hmem
  split at hmem
  · cases hmem
  · exact hall other message hmem

theorem forall_pending_releaseBudgeted {P : Uuid → OutboxMessage → Prop} (tokens : ℕ)
    {outbox : PubkeyOutbox} (hall : ∀ uuid, ∀ message ∈ outbox.pending uuid, P uuid message) :
    ∀ uuid, ∀ message ∈ (outbox.releaseBudgeted tokens).2.pending uuid, P uuid message := by
  induction tokens generalizing outbox with
  | zero => exact hall
  | succ tokens ih =>
    unfold releaseBudgeted
    split
    · exact hall
    next uuid _ => exact ih (forall_pending_release hall uuid)

theorem releaseBudgeted_sequence (tokens : ℕ) {outbox : PubkeyOutbox}
    (hkeyed : outbox.Keyed) (uuid : Uuid) :
    releasedOf uuid (outbox.releaseBudgeted tokens).1 ++
        ((outbox.releaseBudgeted tokens).2.pending uuid).toList =
      (outbox.pending uuid).toList := by
  induction tokens generalizing outbox with
  | zero => rfl
  | succ tokens ih =>
    unfold releaseBudgeted
    split
    · rfl
    next oldest _ =>
      have hlater : (outbox.release oldest).2.Keyed := forall_pending_release hkeyed oldest
      simp only [releasedOf_append, List.append_assoc]
      rw [ih hlater]
      exact release_sequence hkeyed oldest uuid

theorem pending_store (nowSecs : ℕ) (uuid : Uuid) (topic : String)
    (message : OutboxMessage) (other : Uuid) :
    (outbox.store nowSecs uuid topic message).pending other =
      if other = uuid then
        some (mergePending nowSecs (outbox.pending uuid) message)
      else outbox.pending other := by
  simp only [pending, store, HashMap.lookup_insert_if]
  by_cases heq : other = uuid
  · simp [heq, merged]
  · simp [heq]

section Push

variable (hkeyed : outbox.Keyed) (nowSecs : ℕ) (topic : String) (message : OutboxMessage)
include hkeyed

theorem keyed_store : (outbox.store nowSecs message.uuid topic message).Keyed := by
  intro uuid stored hmem
  rw [pending_store] at hmem
  split at hmem
  next heq =>
    cases hmem
    rw [heq]
    exact uuid_mergePending nowSecs (hkeyed message.uuid) rfl
  · exact hkeyed uuid stored hmem

theorem Keyed.push : (outbox.push nowSecs message.uuid topic message).2.Keyed := by
  have hstore := keyed_store hkeyed nowSecs topic message
  unfold PubkeyOutbox.push
  split
  · exact forall_pending_release hstore message.uuid
  · exact hstore

theorem push_sequence (uuid : Uuid) :
    releasedOf uuid (outbox.push nowSecs message.uuid topic message).1.toList ++
        ((outbox.push nowSecs message.uuid topic message).2.pending uuid).toList =
      if uuid = message.uuid then
        [mergePending nowSecs (outbox.pending uuid) message]
      else (outbox.pending uuid).toList := by
  have hstore : ((outbox.store nowSecs message.uuid topic message).pending uuid).toList =
      if uuid = message.uuid then
        [mergePending nowSecs (outbox.pending uuid) message]
      else (outbox.pending uuid).toList := by
    rw [pending_store]
    by_cases heq : uuid = message.uuid
    · simp [heq]
    · simp [heq]
  rw [← hstore]
  unfold push
  split
  · exact release_sequence (keyed_store hkeyed nowSecs topic message) message.uuid uuid
  · rfl

end Push

def Waits (outbox : PubkeyOutbox) : Prop :=
  ∀ uuid, ∀ message ∈ outbox.pending uuid, message.Waiting uuid

theorem Waits.keyed (hwaits : outbox.Waits) : outbox.Keyed :=
  fun uuid message hmem => (hwaits uuid message hmem).uuid_eq

theorem waits_new : new.Waits := by
  intro uuid message hmem
  simp [new, pending] at hmem

theorem Waits.push (hwaits : outbox.Waits) (nowSecs : ℕ) (topic : String) {message : OutboxMessage}
    (hpos : message.Positive) : (outbox.push nowSecs message.uuid topic message).2.Waits := by
  intro uuid stored hmem
  unfold PubkeyOutbox.push at hmem
  split at hmem
  · rw [pending_release, pending_store] at hmem
    split at hmem
    · cases hmem
    · exact hwaits uuid stored hmem
  next hkept =>
    rw [pending_store] at hmem
    split at hmem
    next heq =>
      cases hmem
      rw [heq]
      exact waiting_mergePending (hwaits message.uuid) rfl hpos (Bool.not_eq_true _ ▸ hkept)
    · exact hwaits uuid stored hmem

end PubkeyOutbox

/-! ## Runs of the outboxes -/

namespace MakerOutboxes

open PubkeyOutbox

def Waits (s : MakerOutboxes) : Prop := ∀ pubkey, (s.outbox pubkey).Waits

def EnqueuesPositive (_ : MakerOutboxes) : OutboxEvent → Prop
  | .enqueue _ _ _ _ message => message.Positive
  | _ => True

theorem messagesOf_append (pubkey : String) (uuid : Uuid)
    (first second : List (String × OutboxMessage)) :
    messagesOf pubkey uuid (first ++ second) =
      messagesOf pubkey uuid first ++ messagesOf pubkey uuid second := by
  simp [messagesOf]

theorem messagesOf_publish (pubkey other : String) (uuid : Uuid) (released : List Release) :
    messagesOf pubkey uuid (publish other released) =
      if other = pubkey then releasedOf uuid released else [] := by
  by_cases heq : other = pubkey
  · subst other
    simp [messagesOf, publish, releasedOf, List.filter_map, Function.comp_def]
  · simp [messagesOf, publish, heq, List.filter_map, Function.comp_def]

section Enqueue

variable {s : MakerOutboxes} (nowSecs tokens : ℕ) (topic : String) (message : OutboxMessage)
  (pubkey other : String) (uuid : Uuid)

theorem outbox_enqueue_self : (s.enqueue nowSecs tokens pubkey topic message).outbox pubkey =
      (((s.outbox pubkey).push nowSecs message.uuid topic message).2.releaseBudgeted tokens).2 := by
  simp [enqueue, outbox]

theorem outbox_enqueue_ne {pubkey other : String} (hne : other ≠ pubkey) :
    (s.enqueue nowSecs tokens pubkey topic message).outbox other = s.outbox other := by
  simp [enqueue, outbox, AList.lookup_insert_ne hne]

theorem outgoing_enqueue (hwaits : s.Waits) :
    (s.enqueue nowSecs tokens pubkey topic message).outgoing other uuid =
      if other = pubkey ∧ uuid = message.uuid then
        messagesOf other uuid s.published ++ [mergePending nowSecs (s.pending other uuid) message]
      else s.outgoing other uuid := by
  by_cases hpubkey : other = pubkey
  · subst other
    have hpushed : ((s.outbox pubkey).push nowSecs message.uuid topic
        message).2.Keyed := (hwaits pubkey).keyed.push nowSecs topic message
    have hsequence := push_sequence (hwaits pubkey).keyed nowSecs topic message uuid
    have hreleased := releaseBudgeted_sequence tokens hpushed uuid
    simp only [outgoing, pending, outbox_enqueue_self]
    simp only [enqueue, messagesOf_append, messagesOf_publish, if_true,
      releasedOf_append, List.append_assoc]
    rw [hreleased, hsequence]
    by_cases heq : uuid = message.uuid
    · simp [heq]
    · simp [heq]
  · have hne : ¬pubkey = other := fun h => hpubkey h.symm
    simp only [outgoing, pending, outbox_enqueue_ne _ _ _ _ hpubkey]
    simp [enqueue, messagesOf_append, messagesOf_publish, hne, hpubkey]

theorem messagesOf_enqueue :
    messagesOf other uuid (s.enqueue nowSecs tokens pubkey topic message).enqueued =
      if other = pubkey ∧ uuid = message.uuid then
        messagesOf other uuid s.enqueued ++ [message]
      else messagesOf other uuid s.enqueued := by
  simp only [enqueue, messagesOf_append]
  by_cases hsame : other = pubkey ∧ uuid = message.uuid
  · simp [hsame, messagesOf]
  · rw [if_neg hsame]
    have hother : ¬(pubkey = other ∧ message.uuid = uuid) := fun h => hsame ⟨h.1.symm, h.2.symm⟩
    simp [messagesOf, hother]

end Enqueue

variable {s : MakerOutboxes}

section Tick

variable (tokens : String → ℕ) (remembered : String → Bool) (pubkey : String) (uuid : Uuid)

theorem pending_tick : (s.tick tokens remembered).pending pubkey uuid =
      ((s.outbox pubkey).releaseBudgeted (tokens pubkey)).2.pending uuid := by
  simp only [pending, outbox, tick, HashMap.lookup_retain, HashMap.lookup_mapValues]
  cases s.byPubkey.lookup pubkey with
  | none =>
    have hnew : releaseBudgeted (tokens pubkey) PubkeyOutbox.new = ([], PubkeyOutbox.new) := by
      cases tokens pubkey with
      | zero | succ => rfl
    simp [hnew]
  | some outbox =>
    simp only [Option.map_some, Option.getD_some]
    generalize (outbox.releaseBudgeted (tokens pubkey)).2 = advanced
    cases hempty : advanced.entries.entries.isEmpty with
    | false => simp [Option.filter, hempty]
    | true =>
      have hentries : advanced.entries = ∅ := AList.ext (List.isEmpty_iff.mp hempty)
      cases hremembered : remembered pubkey with
      | true => simp [Option.filter]
      | false =>
        simp [Option.filter, PubkeyOutbox.pending, hentries, PubkeyOutbox.new]

theorem messagesOf_tick :
    messagesOf pubkey uuid ((HashMap.toList s.byPubkey).flatMap fun entry =>
        publish entry.1 (entry.2.releaseBudgeted (tokens entry.1)).1) =
      releasedOf uuid ((s.outbox pubkey).releaseBudgeted (tokens pubkey)).1 := by
  have hsplit : ∀ entries : List (String × PubkeyOutbox),
      messagesOf pubkey uuid (entries.flatMap fun entry =>
          publish entry.1 (entry.2.releaseBudgeted (tokens entry.1)).1) =
        entries.flatMap fun entry =>
          if entry.1 = pubkey then
            releasedOf uuid (entry.2.releaseBudgeted (tokens entry.1)).1
          else [] := by
    intro entries
    induction entries with
    | nil => rfl
    | cons entry rest ih =>
      rw [List.flatMap_cons, messagesOf_append, ih, messagesOf_publish, List.flatMap_cons]
  rw [hsplit, HashMap.flatMap_toList_of_key s.byPubkey pubkey]
  · unfold outbox
    cases s.byPubkey.lookup pubkey with
    | none =>
      cases tokens pubkey with
      | zero | succ => rfl
    | some outbox => simp
  · intro entry hne
    exact if_neg hne

theorem outgoing_tick (hwaits : s.Waits) :
    (s.tick tokens remembered).outgoing pubkey uuid = s.outgoing pubkey uuid := by
  have hsequence := releaseBudgeted_sequence (tokens pubkey) (hwaits pubkey).keyed uuid
  unfold outgoing
  rw [pending_tick]
  simp only [tick, messagesOf_append, messagesOf_tick, List.append_assoc]
  rw [hsequence]
  rfl

end Tick

theorem Waits.step (hwaits : s.Waits) {event : OutboxEvent} (hpos : s.EnqueuesPositive event) :
    (s.step event).Waits := by
  cases event with
  | enqueue nowSecs tokens pubkey topic message =>
    have hpushed := (hwaits pubkey).push nowSecs topic hpos
    intro other
    simp only [MakerOutboxes.step]
    by_cases heq : other = pubkey
    · subst other
      rw [outbox_enqueue_self]
      exact forall_pending_releaseBudgeted tokens hpushed
    · rw [outbox_enqueue_ne _ _ _ _ heq]
      exact hwaits other
  | signal => exact hwaits
  | tick tokens remembered =>
    intro pubkey uuid message hmem
    have hreleased := forall_pending_releaseBudgeted (tokens pubkey) (hwaits pubkey)
    have hpend := @pending_tick s tokens remembered pubkey uuid
    unfold pending at hpend
    simp only [MakerOutboxes.step] at hmem
    rw [hpend] at hmem
    exact hreleased uuid message hmem

theorem waits_initial : initial.Waits := fun _ => waits_new

/-! ## What peers see -/

section Peers

variable (guards : Bool) (start : String → Uuid → Receiver)

/-- A peer that starts with `start` and receives what the outboxes let out and
still hold ends where it ends with the original messages. -/
def PeersAgree (s : MakerOutboxes) : Prop :=
  ∀ pubkey uuid, (start pubkey uuid).receiveAll guards pubkey (s.outgoing pubkey uuid) =
      (start pubkey uuid).receiveAll guards pubkey (messagesOf pubkey uuid s.enqueued)

/-- A message of an order whose created message is pending, and not held off by
an earlier cancellation, sets no other confirmation settings. -/
def KeepsConfSettings (s : MakerOutboxes) : OutboxEvent → Prop
  | .enqueue _ _ pubkey _ message =>
    ∀ pending ∈ s.pending pubkey message.uuid,
      ((start pubkey message.uuid).receiveAll guards pubkey
          (messagesOf pubkey message.uuid s.published)).guarded guards =
        true ∨
      pending.KeepsConfSettings message
  | _ => True

end Peers

variable {guards : Bool} {start : String → Uuid → Receiver}

theorem receiveAll_append_singleton (receiver : Receiver) (pubkey : String)
    (messages : List OutboxMessage) (message : OutboxMessage) :
    receiver.receiveAll guards pubkey (messages ++ [message]) =
      (receiver.receiveAll guards pubkey messages).receive guards pubkey
        message := by
  simp [Receiver.receiveAll]

theorem peersAgree_enqueue_iff (hwaits : s.Waits)
    (hstart : ∀ pubkey uuid, (start pubkey uuid).Sound)
    (hagree : s.PeersAgree guards start) {nowSecs tokens : ℕ} {pubkey topic : String}
    {message : OutboxMessage} (hpos : message.Positive) :
    (s.enqueue nowSecs tokens pubkey topic message).PeersAgree guards start ↔
      s.KeepsConfSettings guards start (.enqueue nowSecs tokens pubkey topic message) := by
  have hpublished : ((start pubkey message.uuid).receiveAll guards pubkey
      (messagesOf pubkey message.uuid s.published)).Sound :=
    (hstart pubkey message.uuid).receiveAll _
  have hpre := hagree pubkey message.uuid
  have hown :
      ((start pubkey message.uuid).receiveAll guards pubkey
          (messagesOf pubkey message.uuid s.published ++
            [mergePending nowSecs (s.pending pubkey message.uuid) message]) =
        (start pubkey message.uuid).receiveAll guards pubkey
          (messagesOf pubkey message.uuid s.enqueued ++ [message])) ↔
      s.KeepsConfSettings guards start (.enqueue nowSecs tokens pubkey topic message) := by
    rw [receiveAll_append_singleton, receiveAll_append_singleton, ← hpre]
    unfold outgoing KeepsConfSettings
    cases hpend : s.pending pubkey message.uuid with
    | none => simp [mergePending, hpend]
    | some pending =>
      have hwait := hwaits pubkey message.uuid pending hpend
      simp only [hpend, Option.toList_some, receiveAll_append_singleton,
        Option.mem_def, Option.some.injEq, forall_eq']
      exact Receiver.receive_mergePending_iff hpublished hwait.positive hpos hwait.notCancelled
  rw [← hown]
  constructor
  · intro hafter
    have hafter := hafter pubkey message.uuid
    rw [outgoing_enqueue _ _ _ _ _ _ _ hwaits, messagesOf_enqueue] at hafter
    simpa using hafter
  · intro hafter other uuid
    rw [outgoing_enqueue _ _ _ _ _ _ _ hwaits, messagesOf_enqueue]
    by_cases hsame : other = pubkey ∧ uuid = message.uuid
    · obtain ⟨rfl, rfl⟩ := hsame
      simpa using hafter
    · rw [if_neg hsame, if_neg hsame]
      exact hagree other uuid

theorem peersAgree_step_iff (hstart : ∀ pubkey uuid, (start pubkey uuid).Sound) (s : MakerOutboxes)
    (event : OutboxEvent) (hagree : s.PeersAgree guards start)
    (hguard : s.Waits ∧ s.EnqueuesPositive event) :
    (s.step event).PeersAgree guards start ↔ s.KeepsConfSettings guards start event := by
  cases event with
  | enqueue nowSecs tokens pubkey topic message =>
    exact peersAgree_enqueue_iff hguard.1 hstart hagree hguard.2
  | signal => simp [KeepsConfSettings, step, hagree]
  | tick tokens remembered =>
    simp only [KeepsConfSettings, iff_true]
    intro pubkey uuid
    simp only [step, outgoing_tick _ _ _ _ hguard.1]
    exact hagree pubkey uuid

/-- For messages with positive numbers, peers end with the same order exactly
if no update that carries other confirmation settings is merged into a pending
created message. -/
theorem run_peersAgree_iff (hstart : ∀ pubkey uuid, (start pubkey uuid).Sound)
    {events : List OutboxEvent} (hpositive : EveryStep step EnqueuesPositive initial events) :
    EveryState step (PeersAgree guards start) initial events ↔
      EveryStep step (KeepsConfSettings guards start) initial events := by
  apply everyState_iff_everyStep_of_guard step (peersAgree_step_iff hstart)
  · intro pubkey uuid
    rfl
  · apply everyStep_and_of_invariant step ?_ waits_initial hpositive
    intro s event hwaits hevent
    exact hwaits.step hevent

/-! ## An update of the confirmation settings -/

def settingsOf (confs : ℕ) : OrderConfirmationsSettings :=
  { baseConfs := confs, baseNota := false, relConfs := confs, relNota := false }

def pendingCreated : MakerOrderCreated where
  uuid := 1
  base := "BTC"
  rel := "KMD"
  price := 2
  maxVolume := 1
  minVolume := 0
  createdAt := 0
  confSettings := settingsOf 1
  baseProtocolInfo := []
  relProtocolInfo := []

def priceUpdate : MakerOrderUpdated :=
  (MakerOrderUpdated.new 1 0).withNewPrice 3

def settingsUpdate : MakerOrderUpdated :=
  priceUpdate.withNewConfSettings (settingsOf 2)

def updateEvents (update : MakerOrderUpdated) : List OutboxEvent :=
  [ .enqueue 0 0 "maker" "topic" (.created pendingCreated),
    .enqueue 0 0 "maker" "topic" (.updated update),
    .tick (fun _ => 1) (fun _ => false) ]

def noOrder (_ : String) (_ : Uuid) : Receiver where
  held := none
  cancelled := false

/-- A peer that gets the merged message shows two confirmations, a peer that
gets the created message and the update shows one. -/
theorem merged_settings_differ :
    let s := run step initial (updateEvents settingsUpdate)
    (((noOrder "maker" 1).receiveAll true "maker"
        (s.outgoing "maker" 1)).held.map OrderbookItem.confSettings = some (some (settingsOf 2))) ∧
      (((noOrder "maker" 1).receiveAll true "maker"
        (messagesOf "maker" 1 s.enqueued)).held.map
          OrderbookItem.confSettings = some (some (settingsOf 1))) ∧
      ¬s.PeersAgree true noOrder := by
  intro s
  have hmerged : ((noOrder "maker" 1).receiveAll true "maker"
      (s.outgoing "maker" 1)).held.map OrderbookItem.confSettings =
        some (some (settingsOf 2)) := by decide +kernel
  have horiginal : ((noOrder "maker" 1).receiveAll true "maker"
      (messagesOf "maker" 1 s.enqueued)).held.map
        OrderbookItem.confSettings = some (some (settingsOf 1)) := by
    decide +kernel
  refine ⟨hmerged, horiginal, ?_⟩
  intro hagree
  rw [hagree "maker" 1, horiginal] at hmerged
  revert hmerged
  decide

theorem price_update_keeps_settings :
    EveryStep step EnqueuesPositive initial (updateEvents priceUpdate) ∧
      EveryState step (PeersAgree true noOrder) initial
        (updateEvents priceUpdate) := by
  have hpositive : EveryStep step EnqueuesPositive initial (updateEvents priceUpdate) := by
    refine ⟨⟨by decide, by decide, by decide⟩, ⟨?_, ?_, ?_⟩, trivial, trivial⟩
    · intro price hprice
      cases hprice
      decide
    · intro volume hvolume
      cases hvolume
    · intro volume hvolume
      cases hvolume
  have hkept : EveryStep step (KeepsConfSettings true noOrder) initial
      (updateEvents priceUpdate) := by
    refine ⟨?_, ?_, trivial, trivial⟩
    · intro pending hpending
      cases hpending
    · intro pending hpending
      right
      cases pending with
      | created =>
        intro settings hsettings
        cases hsettings
      | updated | cancelled => trivial
  exact ⟨hpositive, (run_peersAgree_iff (fun _ _ _ hheld => by cases hheld) hpositive).mpr hkept⟩

/-! ## Whole runs -/

/-- The second list is the first with messages merged into the one before them,
never into a cancellation. -/
inductive Coalesced : List OutboxMessage → List OutboxMessage → Prop where
  | nil : Coalesced [] []
  | alone {messages sent : List OutboxMessage} (message : OutboxMessage)
      (hsent : Coalesced messages sent) : Coalesced (messages ++ [message]) (sent ++ [message])
  | merged {messages sent : List OutboxMessage} (nowSecs : ℕ) (pending message : OutboxMessage)
      (hsent : Coalesced messages (sent ++ [pending])) (hopen : pending.isCancelled = false) :
      Coalesced (messages ++ [message]) (sent ++ [mergePending nowSecs (some pending) message])

/-- What was sent for an order and still waits is what was enqueued for it, merged,
and no cancellation waits. -/
def Coalesces (s : MakerOutboxes) : Prop := ∀ pubkey uuid,
  Coalesced (messagesOf pubkey uuid s.enqueued) (s.outgoing pubkey uuid) ∧
    ∀ message ∈ s.pending pubkey uuid, message.isCancelled = false

theorem Coalesces.step (hsent : s.Coalesces) (hwaits : s.Waits) {event : OutboxEvent}
    (hpos : s.EnqueuesPositive event) : (s.step event).Coalesces := by
  intro pubkey uuid
  obtain ⟨hpair, hopen⟩ := hsent pubkey uuid
  refine ⟨?_, fun message hmem => (hwaits.step hpos pubkey uuid message hmem).notCancelled⟩
  cases event with
  | enqueue nowSecs tokens maker topic message =>
    rw [MakerOutboxes.step, outgoing_enqueue _ _ _ _ _ _ _ hwaits, messagesOf_enqueue]
    split
    · rw [outgoing] at hpair
      cases hpend : s.pending pubkey uuid with
      | none => exact .alone message (by simpa [hpend] using hpair)
      | some pending =>
        rw [hpend] at hpair
        exact .merged nowSecs pending message hpair (hopen pending hpend)
    · exact hpair
  | signal => exact hpair
  | tick tokens remembered =>
    rw [MakerOutboxes.step, outgoing_tick _ _ _ _ hwaits]
    exact hpair

theorem run_coalesces {events : List OutboxEvent}
    (hpositive : EveryStep step EnqueuesPositive initial events) :
    EveryState step Coalesces initial events := by
  have hkept : EveryState step (fun s => s.Waits ∧ s.Coalesces) initial events :=
    everyState_of_everyStep step (fun _ _ hs hpos => ⟨hs.1.step hpos, hs.2.step hs.1 hpos⟩)
      ⟨waits_initial, fun _ _ => ⟨.nil, nofun⟩⟩ hpositive
  exact hkept.imp fun _ hs => hs.2

theorem update_coalesces : EveryState step Coalesces initial (updateEvents priceUpdate) :=
  run_coalesces ⟨⟨by decide, by decide, by decide⟩, ⟨by rintro _ ⟨⟩; decide, nofun, nofun⟩,
    trivial, trivial⟩

end MakerOutboxes

end KdfProtocol
