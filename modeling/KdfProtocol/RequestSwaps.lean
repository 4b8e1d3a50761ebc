import KdfProtocol.MakerNode

/-!
# Swaps of one request

The duplicate check of a request looks at the matches of the order that
answers it.  A swap is known by the uuid of the request on the whole node, so
two orders that reserve for one uuid start two swaps of that uuid, one after
the other.  What may become a swap of a uuid is followed here through the
node: an unanswered reservation, the task that starts the swap, and the swap
itself.
-/

namespace KdfProtocol

def NodeTask.isAnswering : NodeTask → Bool
  | .answering _ _ => true
  | _ => false

inductive SwapClaim where
  | order (uuid : Uuid)
  | starting (id : ℕ)
  | started (position : ℕ)
  deriving DecidableEq

namespace MakerNode

def Reachable (s : MakerNode) (uuid swap : Uuid) : Prop :=
  uuid ∈ s.listed ∨ ∃ id sender connect, s.Connecting id sender connect ∧
      connect.makerOrderUuid = uuid ∧ connect.takerOrderUuid = swap

def Claims (s : MakerNode) (swap : Uuid) : SwapClaim → Prop
  | .order uuid => (∃ request, s.OpenMatch uuid swap request) ∧ s.Reachable uuid swap
  | .starting id => s.Starting id swap
  | .started position => s.startedSwaps[position]? = some swap

/-- A reservation that can be connected, and an order that is loaded with
one, are for uuids that nothing else on the node claims. -/
def ReservesUnclaimed (s : MakerNode) : NodeEvent → Prop
  | .answerNext id node nowMs =>
    ∀ request uuid order reserved order', s.Asks id request uuid →
      s.orders.lookup uuid = some order →
      order.answerRequest node nowMs uuid request = .ok (.reserved reserved order') →
      s.Reachable uuid request.uuid → ∀ claim, ¬s.Claims request.uuid claim
  | .addOrder order _ =>
    order.uuid ∉ s.orders → ∀ swap request, order.Awaits swap request →
      ∀ claim, ¬s.Claims swap claim
  | _ => True

structure ClaimInv (s : MakerNode) : Prop where
  keyed : ∀ uuid swap request, s.OpenMatch uuid swap request → request.uuid = swap
  unique : ∀ swap claim claim', s.Claims swap claim → s.Claims swap claim' → claim = claim'

variable {s s' : MakerNode} {swap : Uuid} {claim : SwapClaim} {id : ℕ}

theorem ClaimInv.unique_of_passed (hinv : s.ClaimInv) (old new : SwapClaim)
    (hpassed : s'.Claims swap new → s.Claims swap old)
    (hothers : ∀ claim, claim ≠ new → s'.Claims swap claim → s.Claims swap claim)
    (hgone : s'.Claims swap new → ¬s'.Claims swap old) {claim' : SwapClaim}
    (hclaim : s'.Claims swap claim) (hclaim' : s'.Claims swap claim') : claim = claim' := by
  have hnew : ∀ other, other ≠ new → s'.Claims swap new → ¬s'.Claims swap other := by
    intro other hne hfirst hsnd
    have hsame : old = other := hinv.unique swap old other (hpassed hfirst) (hothers other hne hsnd)
    rw [← hsame] at hsnd
    exact hgone hfirst hsnd
  by_cases heq : claim = new
  · subst claim
    by_contra hne
    exact hnew claim' (fun h => hne h.symm) hclaim hclaim'
  · by_cases heq' : claim' = new
    · subst claim'
      exact absurd hclaim (hnew claim heq hclaim')
    · exact hinv.unique swap claim claim' (hothers claim heq hclaim) (hothers claim' heq' hclaim')

theorem Narrows.reachable (hnarr : Narrows s s') {uuid : Uuid}
    (hreach : s'.Reachable uuid swap) : s.Reachable uuid swap := by
  obtain hlist | ⟨id, sender, connect, hconn, hsame⟩ := hreach
  · exact .inl (hnarr.listed uuid hlist)
  · exact .inr ⟨id, sender, connect, hnarr.connecting id sender connect hconn, hsame⟩

theorem Narrows.claims (hnarr : Narrows s s') (hclaim : s'.Claims swap claim) :
    s.Claims swap claim := by
  cases claim with
  | order uuid =>
    obtain ⟨⟨request, hopen⟩, hreach⟩ := hclaim
    exact ⟨⟨request, hnarr.openMatch _ _ _ hopen⟩, hnarr.reachable hreach⟩
  | starting id => exact hnarr.starting id swap hclaim
  | started position =>
    unfold Claims at hclaim ⊢
    rwa [hnarr.startedSwaps] at hclaim

theorem ClaimInv.of_claims (hinv : s.ClaimInv)
    (hopen : ∀ uuid swap request, s'.OpenMatch uuid swap request → s.OpenMatch uuid swap request)
    (hclaims : ∀ swap claim, s'.Claims swap claim → s.Claims swap claim) : s'.ClaimInv where
  keyed := fun uuid swap request hview =>
    hinv.keyed uuid swap request (hopen uuid swap request hview)
  unique := fun swap claim claim' hclaim hclaim' =>
    hinv.unique swap claim claim' (hclaims swap claim hclaim) (hclaims swap claim' hclaim')

theorem ClaimInv.of_narrows (hinv : s.ClaimInv) (hnarr : Narrows s s') : s'.ClaimInv :=
  hinv.of_claims hnarr.openMatch fun _ _ => hnarr.claims

theorem ClaimInv.unique_of_new (hinv : s.ClaimInv) (new : SwapClaim)
    (hclaims : ∀ claim, s'.Claims swap claim →
      (claim = new ∧ ∀ other, ¬s.Claims swap other) ∨ s.Claims swap claim)
    {claim' : SwapClaim} (hclaim : s'.Claims swap claim)
    (hclaim' : s'.Claims swap claim') : claim = claim' := by
  rcases hclaims claim hclaim with ⟨heq, hnone⟩ | hold
  · rcases hclaims claim' hclaim' with ⟨heq', -⟩ | hold'
    · rw [heq, heq']
    · exact absurd hold' (hnone claim')
  · rcases hclaims claim' hclaim' with ⟨-, hnone⟩ | hold'
    · exact absurd hold (hnone claim)
    · exact hinv.unique swap claim claim' hold hold'

theorem ClaimInv.added (hinv : s.ClaimInv) {order : MakerOrder} (hkeyed : order.MatchesKeyed)
    (hfree : ∀ swap request, order.Awaits swap request → ∀ claim, ¬s.Claims swap claim) :
    ClaimInv { s.setOrder order.uuid order with
        listed := s.listed.insert order.uuid () } := by
  have hopen : ∀ {uuid swap request}, OpenMatch { s.setOrder order.uuid order with
          listed := s.listed.insert order.uuid () } uuid swap request →
        (uuid = order.uuid ∧ order.Awaits swap request) ∨
          (uuid ≠ order.uuid ∧ s.OpenMatch uuid swap request) := by
    intro uuid swap request hview
    obtain ⟨found, hfound, hawaits⟩ := hview
    simp only [setOrder, HashMap.lookup_insert_if] at hfound
    split at hfound
    next heq =>
      cases hfound
      exact .inl ⟨heq, hawaits⟩
    next hne => exact .inr ⟨hne, found, hfound, hawaits⟩
  -- A claim of the new state is the new order's, or was there before.
  have hclaims : ∀ {swap claim}, Claims { s.setOrder order.uuid order with
          listed := s.listed.insert order.uuid () } swap claim →
        (claim = .order order.uuid ∧ ∀ other, ¬s.Claims swap other) ∨ s.Claims swap claim := by
    intro swap claim hclaim
    cases claim with
    | order uuid =>
      obtain ⟨⟨request, hview⟩, hreach⟩ := hclaim
      obtain ⟨rfl, hawaits⟩ | ⟨hne, hpre⟩ := hopen hview
      · exact .inl ⟨rfl, hfree swap request hawaits⟩
      · right
        refine ⟨⟨request, hpre⟩, ?_⟩
        obtain hlist | hconn := hreach
        · exact .inl (((AList.mem_insert _).mp hlist).resolve_left hne)
        · exact .inr hconn
    | starting id | started position => exact .inr hclaim
  constructor
  case keyed =>
    intro uuid swap request hview
    obtain ⟨-, orderMatch, hmatch, -, rfl⟩ | ⟨-, hpre⟩ := hopen hview
    · exact hkeyed swap orderMatch hmatch
    · exact hinv.keyed uuid swap request hpre
  case unique =>
    intro swap claim claim' hclaim hclaim'
    exact hinv.unique_of_new _ (fun _ => hclaims) hclaim hclaim'

theorem claims_setTask {task : NodeTask}
    (hstart : ∀ orderMatch base rel, task ≠ .starting orderMatch base rel)
    (hlocking : ∀ swap attempts, task ≠ .locking swap attempts)
    (hlist : ∀ sender connect locked,
      task = .connecting sender connect locked → connect.makerOrderUuid ∈ s.listed)
    (hclaim : (s.setTask id task).Claims swap claim) : s.Claims swap claim := by
  cases claim with
  | order uuid =>
    obtain ⟨hopen, hreach⟩ := hclaim
    refine ⟨hopen, ?_⟩
    obtain hin | ⟨other, sender, connect, hview, hsame⟩ := hreach
    · exact .inl hin
    · obtain ⟨-, locked, htask⟩ | hpre := connecting_setTask hview
      · exact .inl (hsame.1 ▸ hlist sender connect locked htask)
      · exact .inr ⟨other, sender, connect, hpre, hsame⟩
  | starting other =>
    obtain ⟨-, ⟨orderMatch, base, rel, htask, -⟩ | ⟨attempts, htask⟩⟩ |
      ⟨-, hpre⟩ := starting_setTask hclaim
    · exact absurd htask (hstart orderMatch base rel)
    · exact absurd htask (hlocking swap attempts)
    · exact hpre
  | started position => exact hclaim

theorem ClaimInv.asked (hinv : s.ClaimInv) {request : TakerRequest} {remaining : List Uuid} :
    (s.setTask id (.answering request remaining)).ClaimInv :=
  hinv.of_claims (fun _ _ _ hopen => hopen) fun _ _ => claims_setTask (by simp) (by simp) (by simp)

theorem ClaimInv.fetched (hinv : s.ClaimInv) {sender : H256} {connect : TakerConnect}
    (hlist : connect.makerOrderUuid ∈ s.listed) :
    (s.setTask id (.connecting sender connect false)).ClaimInv := by
  have hconnects : ∀ found asked locked,
      NodeTask.connecting sender connect false = .connecting found asked locked →
        asked.makerOrderUuid ∈ s.listed := by
    intro found asked locked heq
    cases heq
    exact hlist
  exact hinv.of_claims (fun _ _ _ hopen => hopen)
    fun _ _ => claims_setTask (by simp) (by simp) hconnects

theorem ClaimInv.reserved (hinv : s.ClaimInv) {node : TradingNode} {nowMs : ℕ}
    {request : TakerRequest} {uuid : Uuid} {order order' : MakerOrder} {reserved : MakerReserved}
    (horder : s.orders.lookup uuid = some order)
    (hans : order.answerRequest node nowMs uuid request = .ok (.reserved reserved order'))
    (hfree : s.Reachable uuid request.uuid → ∀ claim, ¬s.Claims request.uuid claim) :
    ((s.setOrder uuid order').endTask id).ClaimInv := by
  have hends := narrows_endTask (s.setOrder uuid order') id
  have hopen : ∀ {other swap asked},
      ((s.setOrder uuid order').endTask id).OpenMatch other swap asked →
        (other = uuid ∧ swap = request.uuid ∧ asked = request) ∨ s.OpenMatch other swap asked := by
    intro other swap asked hview
    obtain ⟨found, hfound, hawaits⟩ := hends.openMatch _ _ _ hview
    simp only [setOrder, HashMap.lookup_insert_if] at hfound
    split at hfound
    next heq =>
      cases hfound
      obtain ⟨hswap, hasked⟩ | hold := awaits_of_reserved hans hawaits
      · exact .inl ⟨heq, hswap, hasked⟩
      · exact .inr ⟨order, heq ▸ horder, hold⟩
    · exact .inr ⟨found, hfound, hawaits⟩
  have hclaims : ∀ {swap claim}, ((s.setOrder uuid order').endTask id).Claims swap claim →
        (claim = .order uuid ∧ ∀ other, ¬s.Claims swap other) ∨ s.Claims swap claim := by
    intro swap claim hclaim
    have hpre := hends.claims hclaim
    cases claim with
    | order other =>
      obtain ⟨⟨asked, hview⟩, -⟩ := hclaim
      have hreach : s.Reachable other swap := hpre.2
      obtain ⟨rfl, rfl, -⟩ | hold := hopen hview
      · exact .inl ⟨rfl, hfree hreach⟩
      · exact .inr ⟨⟨asked, hold⟩, hreach⟩
    | starting other | started position => exact .inr hpre
  constructor
  case keyed =>
    intro other swap asked hview
    obtain ⟨-, rfl, rfl⟩ | hold := hopen hview
    · rfl
    · exact hinv.keyed other swap asked hold
  case unique =>
    intro swap claim claim' hclaim hclaim'
    exact hinv.unique_of_new _ (fun _ => hclaims) hclaim hclaim'

section Connected

variable {s : MakerNode} {id : ℕ} {node : TradingNode} {sender : H256} {connect : TakerConnect}
  {order order' : MakerOrder} {orderMatch : MakerMatch} {announced : Option ℚ}

theorem reachable_startBob {uuid uuid' swap : Uuid}
    (hview : (s.startBob id uuid' orderMatch order').Reachable uuid swap) :
    s.Reachable uuid swap := by
  obtain hlist | ⟨other, from_, found, hconn, hsame⟩ := hview
  · exact .inl hlist
  · have hset : ((s.setOrder uuid' order').setTask id
        (.starting orderMatch order'.base order'.rel)).Connecting other from_
          found := hconn
    obtain ⟨-, locked, htask⟩ | hpre := connecting_setTask hset
    · cases htask
    · exact .inr ⟨other, from_, found, hpre, hsame⟩

theorem starting_startBob {other : ℕ} {uuid swap : Uuid}
    (hview : (s.startBob id uuid orderMatch order').Starting other swap) :
    (other = id ∧ swap = orderMatch.request.uuid) ∨ (other ≠ id ∧ s.Starting other swap) := by
  have hset : ((s.setOrder uuid order').setTask id
      (.starting orderMatch order'.base order'.rel)).Starting other swap := hview
  obtain ⟨heq, ⟨found, base, rel, htask, rfl⟩ | ⟨attempts, htask⟩⟩ | hpre := starting_setTask hset
  · cases htask
    exact .inl ⟨heq, rfl⟩
  · cases htask
  · exact .inr hpre

theorem ClaimInv.connected (hinv : s.ClaimInv) (hconn : s.Connecting id sender connect)
    (horder : s.orders.lookup connect.makerOrderUuid = some order)
    (hans : order.processTakerConnect node sender connect =
      .connected orderMatch order' announced) :
    (s.startBob id connect.makerOrderUuid orderMatch order').ClaimInv := by
  obtain ⟨⟨hawaited, -⟩, -⟩ := awaits_of_connected hans
  have hswap : orderMatch.request.uuid = connect.takerOrderUuid :=
    hinv.keyed _ _ _ ⟨order, horder, hawaited⟩
  constructor
  case keyed =>
    intro uuid swap request hview
    exact hinv.keyed uuid swap request (openMatch_startBob horder hans hview).1
  case unique =>
    intro swap claim claim' hclaim hclaim'
    have hpassed :
        (s.startBob id connect.makerOrderUuid orderMatch order').Claims swap
          (.starting id) → swap = connect.takerOrderUuid := by
      intro hview
      obtain ⟨-, heq⟩ | ⟨hne, -⟩ := starting_startBob hview
      · rw [heq, hswap]
      · exact absurd rfl hne
    have hothers : ∀ claim, claim ≠ .starting id →
        (s.startBob id connect.makerOrderUuid orderMatch order').Claims swap
          claim → s.Claims swap claim := by
      intro claim hne hview
      cases claim with
      | order uuid =>
        obtain ⟨⟨request, hmatch⟩, hreach⟩ := hview
        exact ⟨⟨request, (openMatch_startBob horder hans hmatch).1⟩, reachable_startBob hreach⟩
      | starting other =>
        obtain ⟨rfl, -⟩ | ⟨-, hpre⟩ := starting_startBob hview
        · exact absurd rfl hne
        · exact hpre
      | started position => exact hview
    refine hinv.unique_of_passed (.order connect.makerOrderUuid) (.starting id)
      ?_ hothers ?_ hclaim hclaim'
    · intro hview
      cases hpassed hview
      exact ⟨⟨_, order, horder, hawaited⟩, .inr ⟨id, sender, connect, hconn, rfl, rfl⟩⟩
    · intro hview horderClaim
      obtain ⟨⟨request, hmatch⟩, -⟩ := horderClaim
      exact (openMatch_startBob horder hans hmatch).2 rfl (hpassed hview)

end Connected

theorem getElem?_concat_eq_some {α : Type} {list : List α} {last a : α}
    {position : ℕ} (hpos : (list ++ [last])[position]? = some a) :
    list[position]? = some a ∨ (position = list.length ∧ a = last) := by
  rw [List.getElem?_append] at hpos
  split at hpos
  · exact .inl hpos
  next hge =>
    rw [List.getElem?_singleton] at hpos
    split at hpos
    next hzero =>
      cases hpos
      exact .inr ⟨by omega, rfl⟩
    · cases hpos

theorem ClaimInv.started (hinv : s.ClaimInv) (hstart : s.Starting id swap) :
    ClaimInv { s.setTask id (.running swap) with
        swapLocks := s.swapLocks.insert swap ()
        startedSwaps := s.startedSwaps ++ [swap] } := by
  have hnarr := narrows_setRunning s id swap
  constructor
  case keyed =>
    intro uuid other request hopen
    exact hinv.keyed uuid other request (hnarr.openMatch _ _ _ hopen)
  case unique =>
    intro other claim claim' hclaim hclaim'
    have hend : s.startedSwaps[s.startedSwaps.length]? ≠ some other := by simp
    apply hinv.unique_of_passed (.starting id) (.started s.startedSwaps.length) _ _ _ hclaim hclaim'
    · intro hview
      obtain hold | ⟨-, rfl⟩ := getElem?_concat_eq_some hview
      · exact absurd hold hend
      · exact hstart
    · intro claim hne hview
      cases claim with
      | order uuid =>
        have hpre : (s.setTask id (.running swap)).Claims other (.order uuid) := hview
        exact hnarr.claims hpre
      | starting task => exact hnarr.starting task other hview
      | started position =>
        obtain hold | ⟨rfl, -⟩ := getElem?_concat_eq_some hview
        · exact hold
        · exact absurd rfl hne
    · intro _ hview
      obtain ⟨task, htask, hkind⟩ := hview
      simp only [lookup_setTask, if_true, Option.some.injEq] at htask
      simp [← htask] at hkind

theorem ClaimInv.step {event : NodeEvent} (hinv : s.ClaimInv)
    (hfree : s.ReservesUnclaimed event) : (s.step event).ClaimInv := by
  have heff := step_effect s event
  generalize s.step event = next at heff
  cases heff with
  | narrows hnarr => exact hinv.of_narrows hnarr
  | @added order keyed hnew => exact hinv.added keyed (hfree hnew)
  | asked hnew hlist => exact hinv.asked
  | reserved hasks horder hans =>
    exact hinv.reserved horder hans (hfree _ _ _ _ _ hasks horder hans)
  | fetched hnew hlist => exact hinv.fetched hlist
  | connected hconn horder hans =>
    exact hinv.connected hconn horder hans
  | started hstart => exact hinv.started hstart

theorem claimInv_initial : initial.ClaimInv where
  keyed := by
    intro uuid swap request hopen
    obtain ⟨order, horder, -⟩ := hopen
    cases horder
  unique := by
    intro swap claim claim' hclaim
    cases claim with
    | order uuid =>
      obtain ⟨⟨request, order, horder, -⟩, -⟩ := hclaim
      cases horder
    | starting id =>
      obtain ⟨task, htask, -⟩ := hclaim
      cases htask
    | started position => cases hclaim

theorem ClaimInv.nodup_startedSwaps (hinv : s.ClaimInv) : s.startedSwaps.Nodup := by
  rw [List.nodup_iff_getElem?_ne_getElem?]
  intro i j hlt hlen heq
  have hsome : s.startedSwaps[j]? = some s.startedSwaps[j] := List.getElem?_eq_getElem hlen
  have hsame : SwapClaim.started i = .started j := hinv.unique _ _ _ (heq.trans hsome) hsome
  cases hsame
  exact lt_irrefl i hlt

/-- If reservations are made for unclaimed uuids only, no uuid is swapped
twice. -/
theorem run_startedSwaps_nodup {events : List NodeEvent}
    (hunclaimed : EveryStep step ReservesUnclaimed initial events) :
    EveryState step (fun s => s.startedSwaps.Nodup) initial events :=
  (everyState_of_everyStep step (fun _ _ hinv hcond => hinv.step hcond)
    claimInv_initial hunclaimed).imp fun _ hinv => hinv.nodup_startedSwaps

/-! ## One request and two orders -/

def smallMaker : MakerOrderBuilder := { segwitMaker with maxBaseVol := 1 }

def smallMakerOrder (uuid : Uuid) : MakerOrder :=
  smallMaker.order 0 uuid (1 / 10000)

theorem smallMakerOrder_keyed (uuid : Uuid) : (smallMakerOrder uuid).MatchesKeyed := by
  intro swap orderMatch hmatch
  cases hmatch

def addOrders : List NodeEvent :=
  [.addOrder (smallMakerOrder 1) (smallMakerOrder_keyed 1),
    .addOrder (smallMakerOrder 3) (smallMakerOrder_keyed 3)]

def request (snapshot : List Uuid) : NodeEvent :=
  .takerRequest 0 segwitMakerNode (.repeat 2) (plainTaker "BTC").request snapshot

def answer : NodeEvent := .answerNext 0 segwitMakerNode 0

def connectAndSwap (id : ℕ) (uuid : Uuid) : List NodeEvent :=
  [.takerConnect id segwitMakerNode (.repeat 2)
      { takerOrderUuid := 2
        makerOrderUuid := uuid
        senderPubkey := .repeat 2
        destPubKey := .repeat 1 },
    .lockOrder id,
    .connectOrder id segwitMakerNode,
    .findSwapCoins id segwitMakerNode,
    .lockSwap id,
    .finishSwap id]

/-- The request is sent twice.  The first order has no volume left for the
second copy, so the second order reserves for it. -/
theorem replayed_request_starts_two_swaps :
    smallMaker.build 0 1 = .ok (smallMakerOrder 1) ∧
      smallMaker.build 0 3 = .ok (smallMakerOrder 3) ∧
      (run step initial
        (addOrders ++ [request [1, 3], answer, request [1, 3], answer, answer] ++
          connectAndSwap 1 1 ++ connectAndSwap 2 3)).startedSwaps = [2, 2] := by
  decide +kernel

theorem unclaimed_of_fresh (horders : ∀ order ∈ HashMap.values s.orders, order.orderMatches = ∅)
    (htasks : ∀ task ∈ HashMap.values s.tasks, task.isAnswering = true)
    (hstart : s.startedSwaps = []) (swap : Uuid) (claim : SwapClaim) : ¬s.Claims swap claim := by
  intro hclaim
  cases claim with
  | order uuid =>
    obtain ⟨⟨asked, order, horder, orderMatch, hmatch, -⟩, -⟩ := hclaim
    rw [horders order (HashMap.mem_values_of_lookup horder)] at hmatch
    cases hmatch
  | starting id =>
    obtain ⟨task, htask, hkind⟩ := hclaim
    have hanswering := htasks task (HashMap.mem_values_of_lookup htask)
    obtain ⟨orderMatch, base, rel, rfl, -⟩ | ⟨attempts, rfl⟩ := hkind
    · cases hanswering
    · cases hanswering
  | started position =>
    unfold Claims at hclaim
    rw [hstart] at hclaim
    cases hclaim

theorem single_request_starts_one_swap :
    (run step initial
      (addOrders ++ [request [1, 3], answer] ++
        connectAndSwap 1 1)).startedSwaps.Nodup := by
  have hnone : ∀ uuid, ∀ swap asked, ¬(smallMakerOrder uuid).Awaits swap asked := by
    intro uuid swap asked hawaits
    obtain ⟨orderMatch, hmatch, -⟩ := hawaits
    cases hmatch
  have hunclaimed : EveryStep step ReservesUnclaimed initial
      (addOrders ++ [request [1, 3], answer] ++ connectAndSwap 1 1) := by
    refine ⟨?_, ?_, trivial, ?_, trivial, trivial, trivial, trivial, trivial, trivial, trivial⟩
    · intro _ swap asked hawaits
      exact absurd hawaits (hnone 1 swap asked)
    · intro _ swap asked hawaits
      exact absurd hawaits (hnone 3 swap asked)
    · intro asked uuid order reserved order' _ _ _ _
      exact unclaimed_of_fresh (by decide +kernel) (by decide +kernel) rfl _
  exact everyState_last step (run_startedSwaps_nodup hunclaimed)

end MakerNode

end KdfProtocol
