import KdfProtocol.TakerNode

/-!
# Pending reservations

Whoever files the first reservation of a list leads it: the later handlers
rely on the leader to take the list out.  A leader that wakes while a coin of
its order is not active ends without doing so, and nobody leads the list
afterwards.
-/

namespace KdfProtocol

open HashMap TakerNode

namespace TakerNode

/-! ## Leaders -/

def Leads (s : TakerNode) (id : ℕ) (uuid : Uuid) : Prop :=
  s.handlers.lookup id = some (.sleeping uuid) ∨
    ∃ node, s.handlers.lookup id = some (.selecting uuid node)

/-- Every list of an order that is still there has a handler that is to take
it out. -/
def Attended (s : TakerNode) : Prop :=
  ∀ uuid, uuid ∈ s.myTakerOrders → uuid ∈ s.pendingMakerReserved → ∃ id, s.Leads id uuid

/-- A leader that finds its order finds both coins of the order active. -/
def WakesWithCoins (s : TakerNode) : TakerNodeEvent → Prop
  | .wake id node =>
    ∀ uuid order, s.handlers.lookup id = some (.sleeping uuid) →
      s.ordersLocked = false → s.myTakerOrders.lookup uuid = some order →
      (node.coins order.makerCoinTicker).isSome ∧ (node.coins order.takerCoinTicker).isSome
  | _ => True

structure LeaderInv (s : TakerNode) : Prop where
  leader_unique : ∀ {first second : ℕ} {uuid : Uuid},
    s.Leads first uuid → s.Leads second uuid → first = second
  leader_pending : ∀ {id : ℕ} {uuid : Uuid}, s.Leads id uuid → uuid ∈ s.pendingMakerReserved
  pending_nonempty : ∀ {uuid : Uuid}, s.pendingMakerReserved.lookup uuid ≠ some []
  pending_created : ∀ {uuid : Uuid}, uuid ∈ s.pendingMakerReserved → uuid ∈ s.createdUuids
  filing_created : ∀ {id : ℕ} {reserved : MakerReserved},
    s.handlers.lookup id = some (.filing reserved) → reserved.takerOrderUuid ∈ s.createdUuids
  order_created : ∀ {uuid : Uuid}, uuid ∈ s.myTakerOrders → uuid ∈ s.createdUuids

variable {s : TakerNode} {uuid : Uuid}

theorem Leads.uuid_eq {id : ℕ} {other : Uuid} (hleads : s.Leads id uuid)
    (hother : s.Leads id other) : uuid = other := by
  unfold Leads at hleads hother
  grind

theorem not_leads_of_filing {id : ℕ} {reserved : MakerReserved}
    (hhand : s.handlers.lookup id = some (.filing reserved)) : ¬s.Leads id uuid := by
  simp [Leads, hhand]

section Handlers

variable {s s' : TakerNode} {id other : ℕ} {uuid : Uuid}

theorem leads_congr (hhandlers : s'.handlers = s.handlers) :
    s'.Leads id uuid ↔ s.Leads id uuid := by
  simp only [Leads, hhandlers]

theorem leads_erase (hhandlers : s'.handlers = s.handlers.erase id) :
    s'.Leads other uuid ↔ other ≠ id ∧ s.Leads other uuid := by
  simp only [Leads, hhandlers, lookup_erase_if]
  by_cases heq : other = id
  · simp [heq]
  · simp [heq]

theorem leads_insert {handler : ReservedHandler}
    (hhandlers : s'.handlers = s.handlers.insert id handler) :
    s'.Leads other uuid ↔
      (other = id ∧ (handler = .sleeping uuid ∨ ∃ node, handler = .selecting uuid node)) ∨
      (other ≠ id ∧ s.Leads other uuid) := by
  simp only [Leads, hhandlers, lookup_insert_if]
  by_cases heq : other = id
  · simp [heq]
  · simp [heq]

end Handlers

/-! ## Steps of a handler -/

section Steps

variable {s : TakerNode} {id : ℕ} {uuid : Uuid} {reserved : MakerReserved}

variable {leaderOf : Uuid} {other : ℕ} {s' : TakerNode}

theorem leads_start (hleads : (s.setHandler id (.filing reserved)).Leads other leaderOf) :
    s.Leads other leaderOf := by
  rw [leads_insert rfl] at hleads
  simp only [reduceCtorEq, exists_false, or_self, and_false, false_or] at hleads
  exact hleads.2

theorem leads_lock (hhand : s.handlers.lookup id = some (.sleeping uuid)) (node : TradingNode) :
    (s.setHandler id (.selecting uuid node)).Leads other leaderOf ↔ s.Leads other leaderOf := by
  rw [leads_insert rfl]
  by_cases heq : other = id
  · subst other
    simp [Leads, hhand]
  · simp [heq]

theorem leads_fileReserved :
    (s.fileReserved reserved).Leads other leaderOf ↔ s.Leads other leaderOf :=
  leads_congr rfl

variable {order : TakerOrder}

section

variable (hinv : s.LeaderInv)

include hinv

theorem LeaderInv.of_leads {s' : TakerNode}
    (hleads : ∀ {id uuid}, s'.Leads id uuid → s.Leads id uuid)
    (hfiling : ∀ {id reserved}, s'.handlers.lookup id = some (.filing reserved) →
      reserved.takerOrderUuid ∈ s.createdUuids)
    (hpend : s'.pendingMakerReserved = s.pendingMakerReserved)
    (hcreate : s'.createdUuids = s.createdUuids)
    (horders : ∀ {uuid}, uuid ∈ s'.myTakerOrders → uuid ∈ s.myTakerOrders) : s'.LeaderInv where
  leader_unique hfirst hsnd := hinv.leader_unique (hleads hfirst) (hleads hsnd)
  leader_pending hleader := hpend ▸ hinv.leader_pending (hleads hleader)
  pending_nonempty := hpend ▸ hinv.pending_nonempty
  pending_created hlist := hcreate ▸ hinv.pending_created (hpend ▸ hlist)
  filing_created hhand := hcreate ▸ hfiling hhand
  order_created horder := hcreate ▸ hinv.order_created (horders horder)

theorem LeaderInv.filing_setHandler {handler : ReservedHandler} {other : ℕ}
    (hcreate : ∀ filing, handler = .filing filing → filing.takerOrderUuid ∈ s.createdUuids)
    (hhand : (s.setHandler id handler).handlers.lookup other = some (.filing reserved)) :
    reserved.takerOrderUuid ∈ s.createdUuids := by
  simp only [setHandler, lookup_insert_if] at hhand
  split at hhand
  · exact hcreate reserved (Option.some.inj hhand)
  · exact hinv.filing_created hhand

theorem LeaderInv.filing_erase {other : ℕ}
    (hhand : (s.handlers.erase id).lookup other = some (.filing reserved)) :
    reserved.takerOrderUuid ∈ s.createdUuids := by
  rw [lookup_erase_if] at hhand
  split at hhand
  · cases hhand
  · exact hinv.filing_created hhand

theorem LeaderInv.endHandler (id : ℕ) : (s.endHandler id).LeaderInv :=
  hinv.of_leads (fun hleads => ((leads_erase rfl).mp hleads).2) hinv.filing_erase rfl rfl
    fun horder => horder

theorem LeaderInv.start (hcreate : reserved.takerOrderUuid ∈ s.createdUuids) (id : ℕ) :
    (s.setHandler id (.filing reserved)).LeaderInv := by
  refine hinv.of_leads leads_start (hinv.filing_setHandler ?_) rfl rfl fun horder => horder
  intro filing hfiling
  cases hfiling
  exact hcreate

theorem LeaderInv.lock (hhand : s.handlers.lookup id = some (.sleeping uuid)) (node : TradingNode) :
    (s.setHandler id (.selecting uuid node)).LeaderInv :=
  hinv.of_leads (leads_lock hhand node).mp (hinv.filing_setHandler nofun) rfl rfl
    fun horder => horder

theorem filed_length_le_one :
    (s.filed reserved).length ≤ 1 ↔ reserved.takerOrderUuid ∉ s.pendingMakerReserved := by
  have hnonempty : s.pendingMakerReserved.lookup reserved.takerOrderUuid ≠
      some [] := hinv.pending_nonempty
  rw [mem_iff_lookup]
  unfold filed
  cases hlook : s.pendingMakerReserved.lookup reserved.takerOrderUuid with
  | none => simp
  | some reservations =>
    rw [hlook] at hnonempty
    have hlen : reservations.length ≠ 0 := by
      intro hzero
      exact hnonempty (congrArg some (List.length_eq_zero_iff.mp hzero))
    simp [hlen]

theorem LeaderInv.fileReserved (hcreate : reserved.takerOrderUuid ∈ s.createdUuids) :
    (s.fileReserved reserved).LeaderInv where
  leader_unique := hinv.leader_unique
  leader_pending hleads := (AList.mem_insert _).mpr (Or.inr (hinv.leader_pending hleads))
  pending_nonempty := by
    intro uuid hlook
    simp only [TakerNode.fileReserved, HashMap.lookup_insert_if] at hlook
    split at hlook
    · simp [filed] at hlook
    · exact hinv.pending_nonempty hlook
  pending_created hpend := by
    rcases (AList.mem_insert _).mp hpend with heq | hpend
    · rw [heq]
      exact hcreate
    · exact hinv.pending_created hpend
  filing_created := hinv.filing_created
  order_created := hinv.order_created

theorem LeaderInv.lead (hhand : s.handlers.lookup id = some (.filing reserved))
    (hfirst : (s.filed reserved).length ≤ 1) :
    ((s.fileReserved reserved).setHandler id (.sleeping reserved.takerOrderUuid)).LeaderInv := by
  have hfiled := hinv.fileReserved (hinv.filing_created hhand)
  have hnobody : ∀ other, ¬s.Leads other reserved.takerOrderUuid := by
    intro other hleads
    exact (filed_length_le_one hinv).mp hfirst (hinv.leader_pending hleads)
  have hleads : ∀ {other : ℕ} {uuid : Uuid},
      ((s.fileReserved reserved).setHandler id
        (.sleeping reserved.takerOrderUuid)).Leads other uuid ↔
      (other = id ∧ reserved.takerOrderUuid = uuid) ∨ (other ≠ id ∧ s.Leads other uuid) := by
    intro other uuid
    rw [leads_insert rfl, leads_fileReserved]
    simp
  exact
    { leader_unique := by
        intro first second uuid hone htwo
        rw [hleads] at hone htwo
        rcases hone with ⟨hone, heq⟩ | ⟨-, hone⟩
        · rcases htwo with ⟨htwo, -⟩ | ⟨-, htwo⟩
          · rw [hone, htwo]
          · rw [← heq] at htwo
            exact absurd htwo (hnobody second)
        · rcases htwo with ⟨-, heq⟩ | ⟨-, htwo⟩
          · rw [← heq] at hone
            exact absurd hone (hnobody first)
          · exact hinv.leader_unique hone htwo
      leader_pending := by
        intro other uuid hlead
        rw [hleads] at hlead
        rcases hlead with ⟨-, rfl⟩ | ⟨-, hlead⟩
        · exact (AList.mem_insert _).mpr (Or.inl rfl)
        · exact hfiled.leader_pending hlead
      pending_nonempty := hfiled.pending_nonempty
      pending_created := hfiled.pending_created
      filing_created := hfiled.filing_setHandler nofun
      order_created := hfiled.order_created }

theorem LeaderInv.takeList (hleads : s.Leads id uuid) : (s.takeList id uuid).LeaderInv where
  leader_unique hfirst hsnd := by
    rw [leads_erase rfl] at hfirst hsnd
    exact hinv.leader_unique hfirst.2 hsnd.2
  leader_pending hother := by
    rw [leads_erase rfl] at hother
    refine AList.mem_erase.mpr ⟨?_, hinv.leader_pending hother.2⟩
    intro heq
    rw [heq] at hother
    exact hother.1 (hinv.leader_unique hother.2 hleads)
  pending_nonempty := by
    intro other hlook
    simp only [TakerNode.takeList, HashMap.lookup_erase_if] at hlook
    split at hlook
    · cases hlook
    · exact hinv.pending_nonempty hlook
  pending_created hpend := hinv.pending_created (AList.mem_erase.mp hpend).2
  filing_created := hinv.filing_erase
  order_created := hinv.order_created

theorem LeaderInv.create :
    LeaderInv
      { s with
        myTakerOrders := s.myTakerOrders.insert order.request.uuid order
        createdUuids := s.createdUuids.insert order.request.uuid () } where
  leader_unique := hinv.leader_unique
  leader_pending := hinv.leader_pending
  pending_nonempty := hinv.pending_nonempty
  pending_created hpend := (AList.mem_insert _).mpr (Or.inr (hinv.pending_created hpend))
  filing_created hhand := (AList.mem_insert _).mpr (Or.inr (hinv.filing_created hhand))
  order_created horder := by
    apply (AList.mem_insert _).mpr
    rcases (AList.mem_insert _).mp horder with heq | horder
    · exact Or.inl heq
    · exact Or.inr (hinv.order_created horder)

end

/-- The lists, the handlers and the uuids of the orders are what the results
below are about. -/
structure SameLists (s s' : TakerNode) : Prop where
  handlers_eq : s'.handlers = s.handlers
  pending_eq : s'.pendingMakerReserved = s.pendingMakerReserved
  created_eq : s'.createdUuids = s.createdUuids
  order_mem : ∀ {uuid : Uuid}, uuid ∈ s'.myTakerOrders → uuid ∈ s.myTakerOrders

theorem SameLists.leaderInv (hsame : SameLists s s') (hinv : s.LeaderInv) : s'.LeaderInv := by
  refine hinv.of_leads (leads_congr hsame.handlers_eq).mp ?_ hsame.pending_eq hsame.created_eq
    hsame.order_mem
  intro id reserved hhand
  exact hinv.filing_created (hsame.handlers_eq ▸ hhand)

theorem SameLists.attended (hsame : SameLists s s') (hattended : s.Attended) : s'.Attended := by
  intro uuid horder hpend
  rw [hsame.pending_eq] at hpend
  obtain ⟨id, hleads⟩ := hattended uuid (hsame.order_mem horder) hpend
  exact ⟨id, (leads_congr hsame.handlers_eq).mpr hleads⟩

theorem sameLists_connectBest (s : TakerNode) (uuid : Uuid) (node : TradingNode) (nowMs : ℕ)
    (sorted : List MakerReserved) : SameLists s (s.connectBest uuid node nowMs sorted) := by
  unfold connectBest
  split
  · exact ⟨rfl, rfl, rfl, id⟩
  next order horder =>
    split
    · exact ⟨rfl, rfl, rfl, id⟩
    · refine ⟨rfl, rfl, rfl, ?_⟩
      intro other hmem
      rcases (AList.mem_insert _).mp hmem with heq | hmem
      · rw [heq, mem_iff_lookup]
        exact ⟨order, horder⟩
      · exact hmem

theorem sameLists_panicked (s : TakerNode) : SameLists s s.panicked :=
  ⟨rfl, rfl, rfl, id⟩

theorem sameLists_removeOrder (s : TakerNode) (uuid : Uuid) : SameLists s (s.removeOrder uuid) := by
  unfold removeOrder
  split
  · exact ⟨rfl, rfl, rfl, id⟩
  · exact ⟨rfl, rfl, rfl, fun hmem => (AList.mem_erase.mp hmem).2⟩

/-! ## What a step does -/

inductive Move (s : TakerNode) : TakerNodeEvent → TakerNode → Prop where
  | keeps (event : TakerNodeEvent) (s' : TakerNode) (hsame : SameLists s s')
      (hwakes : s.WakesWithCoins event) : Move s event s'
  | creates (order : TakerOrder) (hnew : order.request.uuid ∉ s.createdUuids) :
      Move s (.createOrder order)
        { s with
          myTakerOrders := s.myTakerOrders.insert order.request.uuid order
          createdUuids := s.createdUuids.insert order.request.uuid () }
  | starts (id : ℕ) (publicId fromPubkey : H256) (reserved : MakerReserved)
      (hnew : id ∉ s.handlers) (horder : reserved.takerOrderUuid ∈ s.myTakerOrders) :
      Move s (.makerReserved id publicId fromPubkey reserved) (s.setHandler id (.filing reserved))
  | follows (id : ℕ) (reserved : MakerReserved)
      (hhandler : s.handlers.lookup id = some (.filing reserved))
      (hlater : 1 < (s.filed reserved).length) :
      Move s (.file id) ((s.fileReserved reserved).endHandler id)
  | leads (id : ℕ) (reserved : MakerReserved)
      (hhandler : s.handlers.lookup id = some (.filing reserved))
      (hfirst : (s.filed reserved).length ≤ 1) :
      Move s (.file id)
        ((s.fileReserved reserved).setHandler id (.sleeping reserved.takerOrderUuid))
  | ends (id : ℕ) (node : TradingNode) (uuid : Uuid)
      (hhandler : s.handlers.lookup id = some (.sleeping uuid))
      (hwakes : s.WakesWithCoins (.wake id node) ↔ uuid ∉ s.myTakerOrders) :
      Move s (.wake id node) (s.endHandler id)
  | locks (id : ℕ) (node : TradingNode) (uuid : Uuid)
      (hhandler : s.handlers.lookup id = some (.sleeping uuid))
      (hwakes : s.WakesWithCoins (.wake id node)) :
      Move s (.wake id node) (s.setHandler id (.selecting uuid node))
  | takes (id nowMs : ℕ) (arranged : List MakerReserved) (uuid : Uuid) (s' : TakerNode)
      (hleads : s.Leads id uuid) (hsame : SameLists (s.takeList id uuid) s') :
      Move s (.select id nowMs arranged) s'

theorem SameLists.refl (s : TakerNode) : SameLists s s :=
  ⟨rfl, rfl, rfl, id⟩

theorem select_move (hinv : s.LeaderInv) (id nowMs : ℕ) (arranged : List MakerReserved) :
    Move s (.select id nowMs arranged) (s.select id nowMs arranged) := by
  have hkeeps : Move s (.select id nowMs arranged) s := .keeps _ s (.refl s) trivial
  unfold select
  split
  next uuid node hhand =>
    have hleads : s.Leads id uuid := Or.inr ⟨node, hhand⟩
    split
    next hnone => exact absurd (hinv.leader_pending hleads) (AList.lookup_eq_none.mp hnone)
    · split
      · split
        · exact .takes id nowMs arranged uuid _ hleads (sameLists_panicked _)
        · exact .takes id nowMs arranged uuid _ hleads (sameLists_connectBest _ _ _ _ _)
      · exact hkeeps
  · exact hkeeps

theorem findPair_isSome (node : TradingNode) (base rel : String) :
    (node.findPair base rel).isSome ↔ (node.coins base).isSome ∧ (node.coins rel).isSome := by
  unfold TradingNode.findPair
  cases node.coins base with
  | none | some coin => simp

theorem wakesWithCoins_iff (hhand : s.handlers.lookup id = some (.sleeping uuid))
    (hunlocked : s.ordersLocked = false)
    (horder : s.myTakerOrders.lookup uuid = some order) (node : TradingNode) :
    s.WakesWithCoins (.wake id node) ↔
      (node.findPair order.makerCoinTicker order.takerCoinTicker).isSome := by
  rw [findPair_isSome]
  constructor
  · intro hall
    exact hall uuid order hhand hunlocked horder
  · intro hactive other held hother _ hheld
    rw [hhand] at hother
    cases hother
    rw [horder] at hheld
    cases hheld
    exact hactive

theorem wake_move (s : TakerNode) (id : ℕ) (node : TradingNode) :
    Move s (.wake id node) (s.wake id node) := by
  unfold wake
  split
  next uuid hhand =>
    split
    next hlocked => exact .keeps _ s (.refl s) (by simp [WakesWithCoins, hlocked])
    next hunlocked =>
      rw [Bool.not_eq_true] at hunlocked
      split
      next hnone =>
        refine .ends id node uuid hhand (iff_of_true ?_ (AList.lookup_eq_none.mp hnone))
        intro other order hother _ horder
        rw [hhand] at hother
        cases hother
        rw [hnone] at horder
        cases horder
      next order horder =>
        have hwakes := wakesWithCoins_iff hhand hunlocked horder node
        split
        next hpair =>
          have hlive : uuid ∈ s.myTakerOrders := (mem_iff_lookup _ _).mpr ⟨order, horder⟩
          exact .ends id node uuid hhand (by simp [hwakes, hpair, hlive])
        next coins hpair => exact .locks id node uuid hhand (by simp [hwakes, hpair])
  next hhand =>
    refine .keeps _ s (.refl s) ?_
    intro other order hother
    exact absurd hother (hhand other)

theorem step_move (hinv : s.LeaderInv) (event : TakerNodeEvent) : Move s event (s.step event) := by
  cases event with
  | createOrder order =>
    simp only [step, createOrder]
    split
    · exact .keeps _ s (.refl s) trivial
    next hnew => exact .creates order (not_or.mp hnew).2
  | removeOrder uuid => exact .keeps _ _ (sameLists_removeOrder s uuid) trivial
  | makerReserved id publicId fromPubkey reserved =>
    have hkeeps : Move s (.makerReserved id publicId fromPubkey reserved) s :=
      .keeps _ s (.refl s) trivial
    simp only [step, makerReserved]
    split
    · exact hkeeps
    next hnew =>
      split
      · exact hkeeps
      next horder =>
        split
        · exact hkeeps
        · exact .starts id publicId fromPubkey reserved (not_or.mp hnew).2 (not_not.mp horder)
  | file id =>
    simp only [step, file]
    split
    next reserved hhand =>
      split
      next hlater => exact .follows id reserved hhand hlater
      next hfirst => exact .leads id reserved hhand (not_lt.mp hfirst)
    · exact .keeps _ s (.refl s) trivial
  | wake id node => exact wake_move s id node
  | select id nowMs arranged => exact select_move hinv id nowMs arranged

theorem LeaderInv.step (hinv : s.LeaderInv) (event : TakerNodeEvent) :
    (s.step event).LeaderInv := by
  have hmove := step_move hinv event
  generalize s.step event = s' at hmove ⊢
  cases hmove with
  | keeps _ _ hsame => exact hsame.leaderInv hinv
  | creates => exact hinv.create
  | starts id _ _ _ _ horder => exact hinv.start (hinv.order_created horder) id
  | follows id _ hhand =>
    exact (hinv.fileReserved (hinv.filing_created hhand)).endHandler id
  | leads _ _ hhand hfirst => exact hinv.lead hhand hfirst
  | ends id => exact hinv.endHandler id
  | locks _ node _ hhand => exact hinv.lock hhand node
  | takes _ _ _ _ _ hleads hsame => exact hsame.leaderInv (hinv.takeList hleads)

theorem leaderInv_initial : initial.LeaderInv where
  leader_unique hfirst := by simp [Leads, initial] at hfirst
  leader_pending hleads := by simp [Leads, initial] at hleads
  pending_nonempty := by simp [initial]
  pending_created hpend := by simp [initial] at hpend
  filing_created hhand := by simp [initial] at hhand
  order_created horder := by simp [initial] at horder

/-! ## Lists without a leader -/

section

variable (hattended : s.Attended)

include hattended

theorem Attended.create (hinv : s.LeaderInv) (hnew : order.request.uuid ∉ s.createdUuids) :
    Attended
      { s with
        myTakerOrders := s.myTakerOrders.insert order.request.uuid order
        createdUuids := s.createdUuids.insert order.request.uuid () } := by
  intro uuid horder hpend
  rcases (AList.mem_insert _).mp horder with heq | horder
  · rw [heq] at hpend
    exact absurd (hinv.pending_created hpend) hnew
  · exact hattended uuid horder hpend

theorem Attended.start (hnew : id ∉ s.handlers) :
    (s.setHandler id (.filing reserved)).Attended := by
  intro uuid horder hpend
  obtain ⟨leader, hleads⟩ := hattended uuid horder hpend
  refine ⟨leader, (leads_insert rfl).mpr (Or.inr ⟨?_, hleads⟩)⟩
  intro heq
  rw [heq] at hleads
  simp [Leads, AList.lookup_eq_none.mpr hnew] at hleads

theorem Attended.follow (hinv : s.LeaderInv)
    (hhand : s.handlers.lookup id = some (.filing reserved))
    (hlater : 1 < (s.filed reserved).length) :
    ((s.fileReserved reserved).endHandler id).Attended := by
  intro uuid horder hpend
  have hpre : uuid ∈ s.pendingMakerReserved := by
    rcases (AList.mem_insert _).mp hpend with heq | hpend
    · rw [heq]
      by_contra habs
      have hle : (s.filed reserved).length ≤ 1 := (filed_length_le_one hinv).mpr habs
      omega
    · exact hpend
  obtain ⟨leader, hleads⟩ := hattended uuid horder hpre
  refine ⟨leader, (leads_erase rfl).mpr ⟨?_, leads_fileReserved.mpr hleads⟩⟩
  intro heq
  rw [heq] at hleads
  exact not_leads_of_filing hhand hleads

theorem Attended.lead (hhand : s.handlers.lookup id = some (.filing reserved)) :
    ((s.fileReserved reserved).setHandler id (.sleeping reserved.takerOrderUuid)).Attended := by
  intro uuid horder hpend
  rcases (AList.mem_insert _).mp hpend with heq | hpend
  · exact ⟨id, (leads_insert rfl).mpr (Or.inl ⟨rfl, Or.inl (by rw [heq])⟩)⟩
  · obtain ⟨leader, hleads⟩ := hattended uuid horder hpend
    refine ⟨leader, (leads_insert rfl).mpr (Or.inr ⟨?_, leads_fileReserved.mpr hleads⟩)⟩
    intro heq
    rw [heq] at hleads
    exact not_leads_of_filing hhand hleads

theorem Attended.lock (hhand : s.handlers.lookup id = some (.sleeping uuid)) (node : TradingNode) :
    (s.setHandler id (.selecting uuid node)).Attended := by
  intro other horder hpend
  obtain ⟨leader, hleads⟩ := hattended other horder hpend
  exact ⟨leader, (leads_lock hhand node).mpr hleads⟩

theorem Attended.leader_ne (hleads : s.Leads id uuid) {other : Uuid} (hne : other ≠ uuid)
    (horder : other ∈ s.myTakerOrders) (hpend : other ∈ s.pendingMakerReserved) :
    ∃ leader, leader ≠ id ∧ s.Leads leader other := by
  obtain ⟨leader, hother⟩ := hattended other horder hpend
  refine ⟨leader, ?_, hother⟩
  intro heq
  rw [heq] at hother
  exact hne (hother.uuid_eq hleads)

theorem Attended.takeList (hleads : s.Leads id uuid) : (s.takeList id uuid).Attended := by
  intro other horder hpend
  obtain ⟨hne, hpend⟩ := AList.mem_erase.mp hpend
  obtain ⟨leader, hother⟩ := hattended.leader_ne hleads hne horder hpend
  exact ⟨leader, (leads_erase rfl).mpr hother⟩

end

theorem attended_endHandler_iff (hinv : s.LeaderInv) (hattended : s.Attended)
    (hleads : s.Leads id uuid) : (s.endHandler id).Attended ↔ uuid ∉ s.myTakerOrders := by
  constructor
  · intro hafter horder
    obtain ⟨leader, hother⟩ := hafter uuid horder (hinv.leader_pending hleads)
    obtain ⟨hne, hother⟩ := (leads_erase rfl).mp hother
    exact hne (hinv.leader_unique hother hleads)
  · intro hgone other horder hpend
    have hne : other ≠ uuid := by
      intro heq
      rw [heq] at horder
      exact hgone horder
    obtain ⟨leader, hother⟩ := hattended.leader_ne hleads hne horder hpend
    exact ⟨leader, (leads_erase rfl).mpr hother⟩

theorem attended_step_iff (s : TakerNode) (event : TakerNodeEvent) (hattended : s.Attended)
    (hinv : s.LeaderInv) : (s.step event).Attended ↔ s.WakesWithCoins event := by
  have hmove := step_move hinv event
  generalize s.step event = s' at hmove ⊢
  cases hmove with
  | keeps _ _ hsame hwakes => exact iff_of_true (hsame.attended hattended) hwakes
  | creates _ hnew => exact iff_of_true (hattended.create hinv hnew) trivial
  | starts _ _ _ _ hnew => exact iff_of_true (hattended.start hnew) trivial
  | follows _ _ hhand hlater =>
    exact iff_of_true (hattended.follow hinv hhand hlater) trivial
  | leads _ _ hhand => exact iff_of_true (hattended.lead hhand) trivial
  | ends _ _ _ hhand hwakes =>
    rw [attended_endHandler_iff hinv hattended (Or.inl hhand), hwakes]
  | locks _ node _ hhand hwakes => exact iff_of_true (hattended.lock hhand node) hwakes
  | takes _ _ _ _ _ hleads hsame =>
    exact iff_of_true (hsame.attended (hattended.takeList hleads)) trivial

end Steps

structure Stranded (s : TakerNode) (uuid : Uuid) : Prop where
  pending : uuid ∈ s.pendingMakerReserved
  leaderless : ∀ id, ¬s.Leads id uuid

theorem SameLists.stranded {s' : TakerNode} (hsame : SameLists s s') (hstranded : s.Stranded uuid) :
    s'.Stranded uuid where
  pending := by
    rw [hsame.pending_eq]
    exact hstranded.pending
  leaderless id hleads := hstranded.leaderless id ((leads_congr hsame.handlers_eq).mp hleads)

section

variable (hstranded : s.Stranded uuid)

include hstranded

theorem Stranded.endHandler (id : ℕ) : (s.endHandler id).Stranded uuid where
  pending := hstranded.pending
  leaderless leader hleads := hstranded.leaderless leader ((leads_erase rfl).mp hleads).2

theorem Stranded.fileReserved (reserved : MakerReserved) :
    (s.fileReserved reserved).Stranded uuid where
  pending := (AList.mem_insert _).mpr (Or.inr hstranded.pending)
  leaderless leader hleads := hstranded.leaderless leader (leads_fileReserved.mp hleads)

theorem Stranded.setHandler (id : ℕ) {handler : ReservedHandler}
    (hhand : handler ≠ .sleeping uuid ∧ ∀ node, handler ≠ .selecting uuid node) :
    (s.setHandler id handler).Stranded uuid where
  pending := hstranded.pending
  leaderless leader hleads := by
    rcases (leads_insert rfl).mp hleads with
      ⟨-, heq | ⟨node, heq⟩⟩ | ⟨-, hleads⟩
    · exact hhand.1 heq
    · exact hhand.2 node heq
    · exact hstranded.leaderless leader hleads

theorem Stranded.step (hinv : s.LeaderInv) (event : TakerNodeEvent) :
    (s.step event).Stranded uuid := by
  have hmove := step_move hinv event
  generalize s.step event = s' at hmove ⊢
  cases hmove with
  | keeps _ _ hsame => exact hsame.stranded hstranded
  | creates => exact ⟨hstranded.pending, hstranded.leaderless⟩
  | starts id => exact hstranded.setHandler id (by simp)
  | follows id reserved => exact (hstranded.fileReserved reserved).endHandler id
  | leads id reserved hhand hfirst =>
    apply (hstranded.fileReserved reserved).setHandler id
    have hne : reserved.takerOrderUuid ≠ uuid := by
      rintro rfl
      exact (filed_length_le_one hinv).mp hfirst hstranded.pending
    simp [hne]
  | ends id => exact hstranded.endHandler id
  | locks id node other hhand =>
    apply hstranded.setHandler id
    have hne : other ≠ uuid := by
      rintro rfl
      exact hstranded.leaderless id (Or.inl hhand)
    simp [hne]
  | takes id _ _ other _ hleads hsame =>
    have hne : uuid ≠ other := by
      rintro rfl
      exact hstranded.leaderless id hleads
    refine hsame.stranded ⟨AList.mem_erase.mpr ⟨hne, hstranded.pending⟩, ?_⟩
    intro leader hleader
    exact hstranded.leaderless leader ((leads_erase rfl).mp hleader).2

theorem Stranded.forever (hinv : s.LeaderInv)
    (events : List TakerNodeEvent) : (run TakerNode.step s events).Stranded uuid := by
  have hboth : (run TakerNode.step s events).LeaderInv ∧
      (run TakerNode.step s events).Stranded uuid := by
    apply run_induction TakerNode.step (fun next => next.LeaderInv ∧ next.Stranded uuid)
    · intro next event hnext
      exact ⟨hnext.1.step event, hnext.2.step hnext.1 event⟩
    · exact ⟨hinv, hstranded⟩
  exact hboth.2

end

theorem attended_initial : initial.Attended := by
  intro uuid horder
  simp [initial] at horder

/-- Every reservation of a live order stays in the charge of a handler exactly
if every leader that wakes for a live order finds the coins of the order
active. -/
theorem run_attended_iff (events : List TakerNodeEvent) :
    EveryState step Attended initial events ↔ EveryStep step WakesWithCoins initial events :=
  everyState_iff_everyStep_of_guard step attended_step_iff attended_initial
    (everyStep_of_invariant step (fun _ event hinv => hinv.step event) events leaderInv_initial)

/-- A buyer of BTC whose node knows BTC only from time to time. -/
def strandingEvents : List TakerNodeEvent :=
  [ .createOrder (plainTaker "BTC"),
    .makerReserved 0 (.repeat 2) (.repeat 1) (segwitReceived "BTC"),
    .file 0,
    .wake 0 (listedNode (.repeat 2) ["KMD"]),
    .makerReserved 1 (.repeat 2) (.repeat 1) (segwitReceived "BTC"),
    .file 1 ]

/-- BTC is not active when the first handler wakes.  The second reservation
joins the list that the first handler left behind, and no later event has the
list taken out, although the order would accept a reservation of it. -/
theorem reservations_stranded :
    let s := run step initial strandingEvents
    s.pendingMakerReserved.lookup 2 =
        some [segwitReceived "BTC", segwitReceived "BTC"] ∧
      ¬s.Attended ∧
      (∀ events, 2 ∈ (run step s events).pendingMakerReserved) ∧
      (s.myTakerOrders.lookup 2).map (fun order =>
        (order.answerReserved (listedNode (.repeat 2) ["BTC", "KMD"]) 0
          (segwitReceived "BTC")).isSome) = some true := by
  intro s
  have hinv : s.LeaderInv :=
    run_induction step LeaderInv (fun _ event hinv => hinv.step event)
      strandingEvents leaderInv_initial
  have hpending : s.pendingMakerReserved.lookup 2 =
      some [segwitReceived "BTC", segwitReceived "BTC"] := by decide +kernel
  have hidle : s.handlers.keys = [] := by decide +kernel
  have hstranded : s.Stranded 2 :=
    { pending := (mem_iff_lookup _ _).mpr ⟨_, hpending⟩
      leaderless := by
        intro id hleads
        have habsent : id ∉ s.handlers := by
          rw [AList.mem_keys, hidle]
          exact List.not_mem_nil
        simp [Leads, AList.lookup_eq_none.mpr habsent] at hleads }
  refine ⟨hpending, ?_, ?_, by decide +kernel⟩
  · intro hattended
    have hlive : 2 ∈ s.myTakerOrders := by decide +kernel
    obtain ⟨id, hleads⟩ := hattended 2 hlive hstranded.pending
    exact hstranded.leaderless id hleads
  · intro events
    exact (hstranded.forever hinv events).pending

end TakerNode

end KdfProtocol
