import KdfProtocol.OrderMessages

/-!
# Which orders of other pubkeys a peer's input changes

The index is keyed by the uuid alone.  Every message and every answer amounts
to a list of index calls, and the last call that names a uuid and passes the
cancellation guard decides what the index holds for it.  The orders of other
pubkeys stay exactly when that call puts the same order back.
-/

namespace KdfProtocol

open OrdermatchContext

namespace Orderbook

/-! ## Reachable order books -/

inductive BookCall where
  | index (call : IndexCall)
  | recordCancel (clock : ℕ → Instant) (uuid : Uuid) (pubkey : String)
  | countQueuedBatch
  | setMyP2pPubkeys (pubkeys : HashSet String)

def BookCall.apply (ob : Orderbook) : BookCall → Orderbook
  | .index call => call.apply ob
  | .recordCancel clock uuid pubkey => ob.recordCancel clock uuid pubkey
  | .countQueuedBatch => { ob with trieOpsEnqueued := ob.trieOpsEnqueued + 1 }
  | .setMyP2pPubkeys pubkeys => { ob with myP2pPubkeys := pubkeys }

def Reachable (ob : Orderbook) : Prop :=
  ∃ window maxEntries calls, run BookCall.apply (new window maxEntries) calls = ob

/-- The value may change only by losing an order of one of the named pubkeys. -/
def KeptBy (Named : String → Prop) (before after : Option OrderbookItem) : Prop :=
  after = before ∨ after = none ∧ ∃ order, before = some order ∧ Named order.pubkey

theorem KeptBy.refl (Named : String → Prop) (before : Option OrderbookItem) :
    KeptBy Named before before :=
  Or.inl rfl

variable {Named : String → Prop} {pubkey : String} {ob next : Orderbook}

theorem KeptBy.trans {first second third : Option OrderbookItem} (h₁ : KeptBy Named first second)
    (h₂ : KeptBy Named second third) : KeptBy Named first third := by
  rcases h₁ with rfl | ⟨hnone, howned⟩
  · exact h₂
  · rcases h₂ with rfl | ⟨hthird, -⟩
    · exact Or.inr ⟨hnone, howned⟩
    · exact Or.inr ⟨hthird, howned⟩

theorem KeptBy.some_iff {before after : Option OrderbookItem}
    (hkept : KeptBy Named before after) {held : OrderbookItem} (hother : ¬Named held.pubkey) :
    after = some held ↔ before = some held := by
  rcases hkept with rfl | ⟨hnone, order, hpre, howned⟩
  · rfl
  · constructor
    · intro hafter
      rw [hnone] at hafter
      cases hafter
    · intro hheld
      rw [hpre] at hheld
      cases hheld
      exact absurd howned hother

theorem keptBy_indexRemovePubkeyPairOrders (ob : Orderbook) (hnamed : Named pubkey)
    (albPair : String) (uuid : Uuid) :
    KeptBy Named (ob.orderSet.lookup uuid)
      ((ob.indexRemovePubkeyPairOrders pubkey albPair).orderSet.lookup uuid) := by
  refine indexRemovePubkeyPairOrders_induction (P := fun next =>
    KeptBy Named (ob.orderSet.lookup uuid) (next.orderSet.lookup uuid)) ?_ albPair (KeptBy.refl _ _)
  intro next removed order hheld howned hkept
  refine hkept.trans ?_
  rw [lookup_orderSet_indexRemove]
  by_cases heq : uuid = removed
  · subst heq
    exact Or.inr ⟨if_pos rfl, order, hheld, howned ▸ hnamed⟩
  · exact Or.inl (if_neg heq)

/-- The index files every order under its own uuid and holds no order that an
insertion would have turned into a removal. -/
def WellKept (ob : Orderbook) : Prop :=
  ∀ uuid order, ob.orderSet.lookup uuid = some order → order.uuid = uuid ∧ ¬order.Untradable

theorem WellKept.indexRemove (hkept : ob.WellKept) (uuid : Uuid) :
    (ob.indexRemove uuid).2.WellKept := by
  intro other order hlook
  rw [lookup_orderSet_indexRemove] at hlook
  split at hlook
  · cases hlook
  · exact hkept other order hlook

theorem WellKept.applyIndexCall (hkept : ob.WellKept) (call : IndexCall) :
    (call.apply ob).WellKept := by
  cases call with
  | insertOrUpdate now order =>
    simp only [IndexCall.apply, indexInsertOrUpdate_snd]
    split
    · exact hkept
    · split
      · exact hkept.indexRemove order.uuid
      next htrade =>
        intro uuid held hlook
        rw [lookup_orderSet_inner] at hlook
        split at hlook
        next heq =>
          cases hlook
          exact ⟨heq.symm, htrade⟩
        · exact hkept uuid held hlook
  | remove uuid => exact hkept.indexRemove uuid
  | removePubkeyPairOrders pubkey albPair =>
    exact indexRemovePubkeyPairOrders_induction
      (fun _ uuid _ _ _ hnow => hnow.indexRemove uuid) albPair hkept

theorem Reachable.wellKept (hreach : ob.Reachable) : ob.WellKept := by
  obtain ⟨window, maxEntries, calls, rfl⟩ := hreach
  apply run_induction BookCall.apply WellKept
  · intro ob call hkept
    cases call with
    | index call => exact hkept.applyIndexCall call
    | recordCancel | countQueuedBatch | setMyP2pPubkeys => exact hkept
  · intro uuid order hlook
    simp [new] at hlook

/-! ## The call that decides a uuid -/

namespace IndexCall

/-- The call names the uuid and is not held back by the cancellation guard. -/
def reaches (ob : Orderbook) (uuid : Uuid) : IndexCall → Bool
  | .insertOrUpdate now order => order.uuid = uuid && !ob.cancelGuarded now order
  | .remove removed => removed = uuid
  | .removePubkeyPairOrders _ _ => false

def leaves : IndexCall → Option OrderbookItem
  | .insertOrUpdate _ order => if order.Untradable then none else some order
  | .remove _ | .removePubkeyPairOrders .. => none

/-- The call removes orders by pair of the named pubkeys only. -/
def actsFor (Named : String → Prop) : IndexCall → Prop
  | .removePubkeyPairOrders owner _ => Named owner
  | _ => True

theorem leaves_eq_some_iff {call : IndexCall} {held : OrderbookItem} (htrade : ¬held.Untradable) :
    call.leaves = some held ↔ ∃ now, call = .insertOrUpdate now held := by
  cases call with
  | insertOrUpdate now order =>
    constructor
    · intro hleaves
      simp only [leaves] at hleaves
      split at hleaves
      · cases hleaves
      · cases hleaves
        exact ⟨now, rfl⟩
    · rintro ⟨_, heq⟩
      cases heq
      simp [leaves, htrade]
  | remove | removePubkeyPairOrders => simp [leaves]

end IndexCall

structure KeepsSettings (ob next : Orderbook) : Prop where
  recentlyCancelled : next.recentlyCancelled = ob.recentlyCancelled
  cancelGuardMaxEntries : next.cancelGuardMaxEntries = ob.cancelGuardMaxEntries
  myP2pPubkeys : next.myP2pPubkeys = ob.myP2pPubkeys

theorem KeepsSettings.refl (ob : Orderbook) : KeepsSettings ob ob := ⟨rfl, rfl, rfl⟩

theorem KeepsSettings.trans {first second third : Orderbook} (h₁ : KeepsSettings first second)
    (h₂ : KeepsSettings second third) : KeepsSettings first third :=
  ⟨h₂.recentlyCancelled.trans h₁.recentlyCancelled,
    h₂.cancelGuardMaxEntries.trans h₁.cancelGuardMaxEntries, h₂.myP2pPubkeys.trans h₁.myP2pPubkeys⟩

theorem keepsSettings_indexRemove (ob : Orderbook) (uuid : Uuid) :
    KeepsSettings ob (ob.indexRemove uuid).2 := by
  unfold indexRemove
  split
  · exact .refl ob
  · exact ⟨rfl, rfl, rfl⟩

theorem keepsSettings_apply (ob : Orderbook) (call : IndexCall) :
    KeepsSettings ob (call.apply ob) := by
  cases call with
  | insertOrUpdate now order =>
    simp only [IndexCall.apply, indexInsertOrUpdate_snd]
    split
    · exact .refl ob
    · split
      · exact keepsSettings_indexRemove ob order.uuid
      · exact ⟨rfl, rfl, rfl⟩
  | remove uuid => exact keepsSettings_indexRemove ob uuid
  | removePubkeyPairOrders pubkey albPair =>
    refine indexRemovePubkeyPairOrders_induction ?_ albPair (.refl ob)
    intro next uuid _ _ _ hnext
    exact hnext.trans (keepsSettings_indexRemove next uuid)

theorem keepsSettings_run (ob : Orderbook) (calls : List IndexCall) :
    KeepsSettings ob (run IndexCall.apply ob calls) :=
  run_induction IndexCall.apply (KeepsSettings ob)
    (fun next call hnext => hnext.trans (keepsSettings_apply next call)) calls (.refl ob)

theorem reaches_congr (hsame : next.recentlyCancelled = ob.recentlyCancelled)
    (uuid : Uuid) (call : IndexCall) : call.reaches next uuid = call.reaches ob uuid := by
  cases call with
  | insertOrUpdate now order =>
    simp [IndexCall.reaches, cancelGuarded, hsame]
  | remove | removePubkeyPairOrders => rfl

theorem lookup_apply (ob : Orderbook) {call : IndexCall} (hacts : call.actsFor Named)
    (uuid : Uuid) :
    KeptBy Named (if call.reaches ob uuid then call.leaves else ob.orderSet.lookup uuid)
      ((call.apply ob).orderSet.lookup uuid) := by
  cases call with
  | insertOrUpdate now order =>
    apply Or.inl
    simp only [IndexCall.apply, indexInsertOrUpdate_snd, IndexCall.reaches, IndexCall.leaves]
    by_cases hguard : ob.cancelGuarded now order = true
    · simp [hguard]
    · rw [if_neg hguard]
      by_cases huntradable : order.Untradable
      · rw [if_pos huntradable, lookup_orderSet_indexRemove]
        simp [hguard, huntradable, eq_comm]
      · rw [if_neg huntradable, lookup_orderSet_inner]
        simp [hguard, huntradable, eq_comm]
  | remove removed =>
    apply Or.inl
    simp only [IndexCall.apply, IndexCall.reaches, IndexCall.leaves, lookup_orderSet_indexRemove]
    simp [eq_comm]
  | removePubkeyPairOrders owner albPair =>
    exact keptBy_indexRemovePubkeyPairOrders ob hacts albPair uuid

theorem lookup_run (ob : Orderbook) {calls : List IndexCall}
    (hacts : ∀ call ∈ calls, call.actsFor Named) (uuid : Uuid) :
    KeptBy Named (match (calls.filter (IndexCall.reaches ob uuid)).getLast? with
        | some call => call.leaves
        | none => ob.orderSet.lookup uuid)
      ((run IndexCall.apply ob calls).orderSet.lookup uuid) := by
  induction calls using List.reverseRecOn with
  | nil => exact KeptBy.refl _ _
  | append_singleton calls call ih =>
    have hpre := ih fun other hmem => hacts other (List.mem_append_left [call] hmem)
    have hguard := (keepsSettings_run ob calls).recentlyCancelled
    have hstep := lookup_apply (run IndexCall.apply ob calls) (hacts call (by simp)) uuid
    rw [reaches_congr hguard] at hstep
    rw [run_append, run_cons, run_nil, List.filter_append]
    by_cases hreaches : call.reaches ob uuid = true
    · simpa [hreaches] using hstep
    · simp only [hreaches, Bool.false_eq_true, if_false] at hstep
      simpa [hreaches] using hpre.trans hstep

def OthersKept (pubkey : String) (before after : Orderbook) : Prop :=
  ∀ uuid held, before.orderSet.lookup uuid = some held →
    held.pubkey ≠ pubkey → after.orderSet.lookup uuid = some held

/-- For every order of another pubkey: the last of the calls that names its
uuid and passes the guard, if there is one, inserts that very order. -/
def RespectsOthers (pubkey : String) (ob : Orderbook) (calls : List IndexCall) : Prop :=
  ∀ uuid held, ob.orderSet.lookup uuid = some held → held.pubkey ≠ pubkey →
    ∀ call, (calls.filter (IndexCall.reaches ob uuid)).getLast? = some call →
      ∃ now, call = .insertOrUpdate now held

theorem othersKept_run_iff (hkept : ob.WellKept) {calls : List IndexCall}
    (hacts : ∀ call ∈ calls, call.actsFor (· = pubkey)) :
    OthersKept pubkey ob (run IndexCall.apply ob calls) ↔ RespectsOthers pubkey ob calls := by
  constructor
  · intro hothers uuid held hheld hother call hlast
    have hafter := hothers uuid held hheld hother
    have hdecided := lookup_run ob hacts uuid
    rw [hlast] at hdecided
    have hleaves := (hdecided.some_iff hother).mp hafter
    exact (IndexCall.leaves_eq_some_iff (hkept uuid held hheld).2).mp hleaves
  · intro hrespects uuid held hheld hother
    have hdecided := lookup_run ob hacts uuid
    rw [hdecided.some_iff hother]
    cases hlast : (calls.filter (IndexCall.reaches ob uuid)).getLast? with
    | none => exact hheld
    | some call =>
      exact (IndexCall.leaves_eq_some_iff (hkept uuid held hheld).2).mpr
        (hrespects uuid held hheld hother call hlast)

end Orderbook

/-! ## Messages and answers as index calls -/

open Orderbook

def answerOrderCalls (params : ProcessTrieParams) :
    (ℕ → Instant) → List (Uuid × OrderbookP2PItem) → List IndexCall
  | _, [] => []
  | clock, (uuid, order) :: rest =>
    .insertOrUpdate (clock 0) (params.item uuid order) ::
      answerOrderCalls params (fun n => clock (n + 1)) rest

def deltaCalls (params : ProcessTrieParams) :
    (ℕ → Instant) → List (Uuid × Option OrderbookP2PItem) → List IndexCall
  | _, [] => []
  | clock, (uuid, some order) :: rest =>
    .insertOrUpdate (clock 0) (params.item uuid order) ::
      deltaCalls params (fun n => clock (n + 1)) rest
  | clock, (uuid, none) :: rest => .remove uuid :: deltaCalls params (fun n => clock (n + 1)) rest

def diffCalls (params : ProcessTrieParams) (clock : ℕ → Instant) :
    DeltaOrFullTrie OrderbookP2PItem → List IndexCall
  | .delta orders => deltaCalls params clock orders
  | .fullTrie values =>
    .removePubkeyPairOrders params.pubkey params.albPair :: answerOrderCalls params clock values

def answerCalls (pubkey : String) (response : SyncPubkeyOrderbookStateRes) :
    (ℕ → ℕ → Instant) → List (String × DeltaOrFullTrie OrderbookP2PItem) → List IndexCall
  | _, [] => []
  | clock, (pair, diff) :: rest =>
    diffCalls (response.params pubkey pair) (clock 0) diff ++
      answerCalls pubkey response (fun n => clock (n + 1)) rest

def messageCalls (clock : OrdermatchContext.MsgClock) (pubkey : String)
    (ob : Orderbook) : OrderMessage → List IndexCall
  | .makerOrderCreated msg => [.insertOrUpdate (clock.index 0) (msg.toOrderbookItem pubkey)]
  | .makerOrderUpdated msg =>
    match ob.findOrderByUuidAndPubkey msg.uuid pubkey with
    | some order => [.insertOrUpdate (clock.index 0) (order.applyUpdated msg)]
    | none => []
  | .makerOrderCancelled uuid =>
    match ob.findOrderByUuidAndPubkey uuid pubkey with
    | some _ => [.remove uuid]
    | none => []

inductive PeerInput where
  | message (clock : OrdermatchContext.MsgClock) (banned : Bool) (msg : OrderMessage)
  | syncAnswer (clock : ℕ → ℕ → Instant) (nowSecs : ℕ) (response : SyncPubkeyOrderbookStateRes)

open PeerInput

def PeerInput.indexCalls (pubkey : String) (ob : Orderbook) : PeerInput → List IndexCall
  | .message clock banned msg =>
    if banned then [] else messageCalls clock pubkey ob msg
  | .syncAnswer clock _ response => answerCalls pubkey response clock response.pairOrdersDiff

section Inputs

variable {Root Db : Type}

def PeerInput.process (pubkey : String) (ctx : OrdermatchContext Root Db) :
    PeerInput → OrdermatchContext Root Db
  | .message clock banned msg => (ctx.processMsg clock banned pubkey msg).2
  | .syncAnswer clock nowSecs response => (ctx.applySyncAnswer clock nowSecs pubkey response).2

variable (params : ProcessTrieParams) (clock : ℕ → Instant) (pubkey : String)

theorem insertAnswerOrders_snd (orders : List (Uuid × OrderbookP2PItem)) (ob : Orderbook) :
    (insertAnswerOrders params clock orders ob).2 =
      run IndexCall.apply ob (answerOrderCalls params clock orders) := by
  induction orders generalizing clock ob with
  | nil => rfl
  | cons entry rest ih =>
    simp only [insertAnswerOrders, answerOrderCalls, run_cons]
    exact ih (fun n => clock (n + 1)) _

theorem processTrieDelta_snd (orders : List (Uuid × Option OrderbookP2PItem)) (ob : Orderbook) :
    (processTrieDelta params clock orders ob).2 =
      run IndexCall.apply ob (deltaCalls params clock orders) := by
  induction orders generalizing clock ob with
  | nil => rfl
  | cons entry rest ih =>
    obtain ⟨uuid, maybeOrder⟩ := entry
    cases maybeOrder with
    | some order =>
      simp only [processTrieDelta, deltaCalls, run_cons]
      exact ih (fun n => clock (n + 1)) _
    | none =>
      simp only [processTrieDelta, deltaCalls, run_cons, IndexCall.apply]
      rw [ih]
      rcases ob.indexRemove uuid with ⟨removed, next⟩
      cases removed <;> rfl

theorem processDiff_snd (diff : DeltaOrFullTrie OrderbookP2PItem) (ob : Orderbook) :
    (processDiff params clock diff ob).2 =
      run IndexCall.apply ob (diffCalls params clock diff) := by
  cases diff with
  | delta orders => exact processTrieDelta_snd params clock orders ob
  | fullTrie values => exact insertAnswerOrders_snd params clock values _

theorem syncAnswerLoop_snd (livenessOn : Bool) (pubkey : String)
    (response : SyncPubkeyOrderbookStateRes) (clock : ℕ → ℕ → Instant)
    (diffs : List (String × DeltaOrFullTrie OrderbookP2PItem)) (ob : Orderbook) :
    (syncAnswerLoop livenessOn pubkey response clock diffs ob).2 =
      run IndexCall.apply ob (answerCalls pubkey response clock diffs) := by
  induction diffs generalizing clock ob with
  | nil => rfl
  | cons entry rest ih =>
    simp only [syncAnswerLoop, answerCalls, run_append]
    rw [ih, processDiff_snd]

theorem orderSet_queueTrieOps (ops : List TrieOp) (ctx : OrdermatchContext Root Db) :
    (ctx.queueTrieOps ops).orderbook.orderSet = ctx.orderbook.orderSet := by
  unfold queueTrieOps
  split
  · rfl
  · split
    · rfl
    · rfl

theorem orderbook_refreshLiveness (nowSecs : ℕ) (pubkey : String)
    (ctx : OrdermatchContext Root Db) :
    (ctx.refreshLivenessFromOrderMessage nowSecs pubkey).orderbook = ctx.orderbook := by
  unfold refreshLivenessFromOrderMessage
  split
  · rfl
  · split <;> rfl

theorem orderSet_insertOrUpdateOrder (clock : OrdermatchContext.MsgClock)
    (item : OrderbookItem) (ctx : OrdermatchContext Root Db) :
    (ctx.insertOrUpdateOrder clock item).orderbook.orderSet =
      (ctx.orderbook.indexInsertOrUpdate (clock.index 0) item).2.orderSet := by
  simp only [insertOrUpdateOrder, orderSet_queueTrieOps]
  rfl

theorem orderSet_deleteOrder (clock : OrdermatchContext.MsgClock)
    (pubkey : String) (uuid : Uuid) (ctx : OrdermatchContext Root Db) :
    (ctx.deleteOrder clock pubkey uuid).orderbook.orderSet =
      (run IndexCall.apply ctx.orderbook
        (messageCalls clock pubkey ctx.orderbook (.makerOrderCancelled uuid))).orderSet := by
  have hsame : (ctx.orderbook.recordCancel clock.index uuid pubkey).orderSet =
      ctx.orderbook.orderSet := rfl
  simp only [deleteOrder, messageCalls, findOrderByUuidAndPubkey, hsame]
  cases hheld : ctx.orderbook.orderSet.lookup uuid with
  | none => rfl
  | some order =>
    by_cases howned : order.pubkey = pubkey
    · simp only [howned, if_true, Option.filter, decide_true, run_cons,
        run_nil, IndexCall.apply, indexRemove, hsame, hheld]
      exact orderSet_queueTrieOps _ _
    · simp [howned, Option.filter, hsame]

theorem orderSet_process (input : PeerInput) (ctx : OrdermatchContext Root Db) :
    (input.process pubkey ctx).orderbook.orderSet =
      (run IndexCall.apply ctx.orderbook (input.indexCalls pubkey ctx.orderbook)).orderSet := by
  cases input with
  | syncAnswer clock nowSecs response =>
    simp only [process, indexCalls, applySyncAnswer, orderSet_queueTrieOps,
      updateLiveness, syncAnswerLoop_snd]
  | message clock banned msg =>
    cases banned with
    | true => rfl
    | false =>
      cases msg with
      | makerOrderCreated msg =>
        simp only [process, indexCalls, processMsg, Bool.false_eq_true, if_false,
          orderbook_refreshLiveness, orderSet_insertOrUpdateOrder, messageCalls]
        rfl
      | makerOrderUpdated msg =>
        simp only [process, indexCalls, processMsg, messageCalls, processMakerOrderUpdated]
        cases ctx.orderbook.findOrderByUuidAndPubkey msg.uuid pubkey with
        | none => rfl
        | some order =>
          simp only [Bool.false_eq_true, if_false,
            orderbook_refreshLiveness, orderSet_insertOrUpdateOrder]
          rfl
      | makerOrderCancelled uuid =>
        simp only [process, indexCalls, processMsg, Bool.false_eq_true, if_false,
          orderbook_refreshLiveness, orderSet_deleteOrder]

variable (Named : String → Prop)

theorem answerOrderCalls_actsFor (orders : List (Uuid × OrderbookP2PItem)) :
    ∀ call ∈ answerOrderCalls params clock orders, call.actsFor Named := by
  induction orders generalizing clock with
  | nil => simp [answerOrderCalls]
  | cons entry rest ih =>
    intro call hmem
    rcases List.mem_cons.mp hmem with rfl | hrest
    · trivial
    · exact ih _ call hrest

theorem deltaCalls_actsFor (orders : List (Uuid × Option OrderbookP2PItem)) :
    ∀ call ∈ deltaCalls params clock orders, call.actsFor Named := by
  induction orders generalizing clock with
  | nil => simp [deltaCalls]
  | cons entry rest ih =>
    obtain ⟨uuid, maybeOrder⟩ := entry
    intro call hmem
    cases maybeOrder with
    | some order | none =>
      rcases List.mem_cons.mp hmem with rfl | hrest
      · trivial
      · exact ih _ call hrest

theorem answerCalls_actsFor (response : SyncPubkeyOrderbookStateRes)
    (clock : ℕ → ℕ → Instant) (diffs : List (String × DeltaOrFullTrie OrderbookP2PItem)) :
    ∀ call ∈ answerCalls pubkey response clock diffs, call.actsFor (· = pubkey) := by
  induction diffs generalizing clock with
  | nil => simp [answerCalls]
  | cons entry rest ih =>
    obtain ⟨pair, diff⟩ := entry
    intro call hmem
    rcases List.mem_append.mp hmem with hdiff | hrest
    · cases diff with
      | delta orders =>
        exact deltaCalls_actsFor (response.params pubkey pair) _ _ orders call hdiff
      | fullTrie values =>
        rcases List.mem_cons.mp hdiff with rfl | hvals
        · rfl
        · exact answerOrderCalls_actsFor (response.params pubkey pair) _ _ values call hvals
    · exact ih _ call hrest

theorem PeerInput.indexCalls_actsFor (ob : Orderbook) (input : PeerInput) :
    ∀ call ∈ input.indexCalls pubkey ob, call.actsFor (· = pubkey) := by
  cases input with
  | syncAnswer clock nowSecs response =>
    exact answerCalls_actsFor pubkey response clock response.pairOrdersDiff
  | message clock banned msg =>
    intro call hmem
    cases call with
    | insertOrUpdate | remove => trivial
    | removePubkeyPairOrders owner albPair =>
      cases banned with
      | true => simp [indexCalls] at hmem
      | false =>
        cases msg with
        | makerOrderCreated msg =>
          simp [indexCalls, messageCalls] at hmem
        | makerOrderUpdated msg | makerOrderCancelled uuid =>
          simp only [indexCalls, messageCalls, Bool.false_eq_true, if_false] at hmem
          split at hmem <;> simp at hmem

/-- An input for a pubkey leaves the orders of all other pubkeys in place and
unchanged exactly when it respects them. -/
theorem process_keeps_others_iff (ctx : OrdermatchContext Root Db)
    (hreachable : ctx.orderbook.Reachable) (pubkey : String) (input : PeerInput) :
    OthersKept pubkey ctx.orderbook (input.process pubkey ctx).orderbook ↔
      RespectsOthers pubkey ctx.orderbook
        (input.indexCalls pubkey ctx.orderbook) := by
  rw [← othersKept_run_iff hreachable.wellKept (input.indexCalls_actsFor pubkey ctx.orderbook)]
  unfold OthersKept
  rw [orderSet_process]

end Inputs

def createdOne : MakerOrderCreated where
  uuid := 1
  base := "KMD"
  rel := "BTC"
  price := 1
  maxVolume := 1
  minVolume := 0
  createdAt := 0
  confSettings := ⟨1, false, 1, false⟩
  baseProtocolInfo := []
  relProtocolInfo := []

def epochClock : OrdermatchContext.MsgClock where
  index := fun _ => 0
  livenessSecs := 0
  refreshSecs := 0

/-- A node that has received the created message of the pubkey `02aa`. -/
def oneOrderContext : OrdermatchContext Unit Unit :=
  (OrdermatchContext.new (durationFromSecs 120) 100000 true true ()).processMsg
    epochClock false "02aa" (.makerOrderCreated createdOne) |>.2

theorem oneOrderContext_reachable : oneOrderContext.orderbook.Reachable :=
  ⟨durationFromSecs 120, 100000,
    [.index (.insertOrUpdate 0 (createdOne.toOrderbookItem "02aa")), .countQueuedBatch], rfl⟩

/-- The same created message from another pubkey, and an answer for another
pubkey whose delta removes the uuid. -/
def foreignInputs : List PeerInput :=
  [.message epochClock false (.makerOrderCreated createdOne),
    .syncAnswer (fun _ _ => 0) 0
      { pairOrdersDiff := [("BTC:KMD", .delta [(1, none)])]
        protocolInfos := ∅
        confInfos := ∅ }]

/-- Both inputs for the pubkey `03bb` take the order of `02aa` away. -/
theorem foreign_inputs_take_order :
    oneOrderContext.orderbook.Reachable ∧
      ∀ input ∈ foreignInputs,
        ¬ OthersKept "03bb" oneOrderContext.orderbook
          (input.process "03bb" oneOrderContext).orderbook := by
  refine ⟨oneOrderContext_reachable, ?_⟩
  intro input hmem hkept
  have hafter := hkept 1 (createdOne.toOrderbookItem "02aa") (by decide +kernel) (by decide)
  revert hafter
  simp only [foreignInputs, List.mem_cons, List.not_mem_nil, or_false] at hmem
  rcases hmem with rfl | rfl
  · decide +kernel
  · decide +kernel

/-- A cancellation by `03bb` respects the order of `02aa`. -/
theorem process_keeps_others_of_cancel :
    OthersKept "03bb" oneOrderContext.orderbook
      ((PeerInput.message epochClock false (.makerOrderCancelled 1)).process
        "03bb" oneOrderContext).orderbook := by
  refine (process_keeps_others_iff oneOrderContext oneOrderContext_reachable
    "03bb" (.message epochClock false (.makerOrderCancelled 1))).mpr ?_
  have hcalls :
      (message epochClock false (.makerOrderCancelled 1)).indexCalls
        "03bb" oneOrderContext.orderbook = [] := rfl
  intro uuid held _ _ call hlast
  rw [hcalls] at hlast
  cases hlast

end KdfProtocol
