import KdfProtocol.MakerNode

/-!
# Swaps of withdrawn orders

`process_taker_connect` fetches the order from the container and locks it
later, without looking at the container again.  An order that is withdrawn in
between still starts a swap if the connection finds an unanswered reservation
in it.
-/

namespace KdfProtocol

def NodeTask.isConnecting : NodeTask → Bool
  | .connecting _ _ _ => true
  | _ => false

namespace MakerNode

/-- The connection finds an unanswered reservation in its order, or a request
that was put to the order before may still make one. -/
def Answerable (s : MakerNode) (sender : H256) (connect : TakerConnect) : Prop :=
  ∃ request, request.senderPubkey = sender ∧
    (s.OpenMatch connect.makerOrderUuid connect.takerOrderUuid request ∨
      ∃ id, s.Answering id request connect.makerOrderUuid ∧ request.uuid = connect.takerOrderUuid)

/-- A step that takes an order out of the container finds no connection that
has fetched the order and is answerable. -/
def WithdrawsQuietly (s : MakerNode) (event : NodeEvent) : Prop :=
  ∀ id sender connect, s.Connecting id sender connect → connect.makerOrderUuid ∈ s.listed →
    connect.makerOrderUuid ∉ (s.step event).listed → ¬s.Answerable sender connect

def StartsListed (s : MakerNode) : Prop :=
  ∀ start ∈ s.bobStarts, start.listed = true

structure WithdrawnInv (s : MakerNode) : Prop where
  quiet : ∀ id sender connect, s.Connecting id sender connect →
    connect.makerOrderUuid ∉ s.listed → ¬s.Answerable sender connect
  starts : s.StartsListed

variable {s : MakerNode} {sender : H256} {connect : TakerConnect} {event : NodeEvent} {id : ℕ}

theorem Answerable.of_views {s' : MakerNode}
    (hable : s'.Answerable sender connect) (hopen : ∀ request,
      s'.OpenMatch connect.makerOrderUuid connect.takerOrderUuid request →
        s.OpenMatch connect.makerOrderUuid connect.takerOrderUuid request)
    (hanswering : ∀ id request, s'.Answering id request connect.makerOrderUuid →
        s.Answering id request connect.makerOrderUuid) : s.Answerable sender connect := by
  obtain ⟨request, hsender, hview | ⟨id, hasked, hsame⟩⟩ := hable
  · exact ⟨request, hsender, .inl (hopen request hview)⟩
  · exact ⟨request, hsender, .inr ⟨id, hanswering id request hasked, hsame⟩⟩

theorem Narrows.answerable {s' : MakerNode} (hnarr : Narrows s s')
    (hable : s'.Answerable sender connect) : s.Answerable sender connect :=
  hable.of_views (fun _ => hnarr.openMatch _ _ _) fun _ _ => hnarr.answering _ _ _

section

variable (hinv : s.WithdrawnInv)

include hinv

theorem WithdrawnInv.of_narrows (hquiet : s.WithdrawsQuietly event)
    (hnarr : Narrows s (s.step event)) : (s.step event).WithdrawnInv where
  quiet := by
    intro id sender connect hconn hunlist hable
    have hpre := hnarr.connecting id sender connect hconn
    have hopen := hnarr.answerable hable
    by_cases hlist : connect.makerOrderUuid ∈ s.listed
    · exact hquiet id sender connect hpre hlist hunlist hopen
    · exact hinv.quiet id sender connect hpre hlist hopen
  starts := by
    unfold StartsListed
    rw [hnarr.bobStarts]
    exact hinv.starts

theorem WithdrawnInv.added (order : MakerOrder) :
    WithdrawnInv { s.setOrder order.uuid order with
        listed := s.listed.insert order.uuid () } where
  quiet := by
    intro id sender connect hconn hunlist hable
    rw [AList.mem_insert, not_or] at hunlist
    apply hinv.quiet id sender connect hconn hunlist.2
    obtain ⟨request, hsender, ⟨found, hfound, hawaits⟩ | hasked⟩ := hable
    · simp only [setOrder, HashMap.lookup_insert_if, hunlist.1, if_false] at hfound
      exact ⟨request, hsender, .inl ⟨found, hfound, hawaits⟩⟩
    · exact ⟨request, hsender, .inr hasked⟩
  starts := hinv.starts

variable {order order' : MakerOrder} {request : TakerRequest} {node : TradingNode}

theorem WithdrawnInv.asked {remaining : List Uuid} (hlist : ∀ uuid ∈ remaining, uuid ∈ s.listed) :
    (s.setTask id (.answering request remaining)).WithdrawnInv where
  quiet := by
    intro other sender connect hconn hunlist hable
    obtain ⟨-, locked, htask⟩ | hpre := connecting_setTask hconn
    · cases htask
    · apply hinv.quiet other sender connect hpre hunlist
      refine hable.of_views (fun _ hopen => hopen) ?_
      intro asking asked hview
      obtain ⟨-, rest, htask, hmem⟩ | hold := answering_setTask hview
      · -- The snapshot of the new task holds listed orders only.
        cases htask
        exact absurd (hlist _ hmem) hunlist
      · exact hold
  starts := hinv.starts

theorem WithdrawnInv.reserved {nowMs : ℕ} {uuid : Uuid} {reserved : MakerReserved}
    (hasked : s.Answering id request uuid) (horder : s.orders.lookup uuid = some order)
    (hans : order.answerRequest node nowMs uuid request = .ok (.reserved reserved order')) :
    ((s.setOrder uuid order').endTask id).WithdrawnInv where
  quiet := by
    intro other sender connect hconn hunlist hable
    have hends := narrows_endTask (s.setOrder uuid order') id
    apply hinv.quiet other sender connect (hends.connecting other sender connect hconn) hunlist
    obtain ⟨asked, hsender, ⟨found, hfound, hawaits⟩ | ⟨asking, hview, hsame⟩⟩ := hable
    · refine ⟨asked, hsender, ?_⟩
      simp only [endTask, setOrder, HashMap.lookup_insert_if] at hfound
      split at hfound
      next heq =>
        cases hfound
        obtain ⟨hswap, rfl⟩ | hold := awaits_of_reserved hans hawaits
        · exact .inr ⟨id, heq ▸ hasked, hswap.symm⟩
        · exact .inl ⟨order, heq ▸ horder, hold⟩
      · exact .inl ⟨found, hfound, hawaits⟩
    · exact ⟨asked, hsender, .inr ⟨asking, hends.answering _ _ _ hview, hsame⟩⟩
  starts := hinv.starts

theorem WithdrawnInv.fetched (hlist : connect.makerOrderUuid ∈ s.listed) :
    (s.setTask id (.connecting sender connect false)).WithdrawnInv where
  quiet := by
    intro other from_ found hconn hunlist hable
    obtain ⟨-, locked, htask⟩ | hpre := connecting_setTask hconn
    · cases htask
      exact hunlist hlist
    · apply hinv.quiet other from_ found hpre hunlist
      refine hable.of_views (fun _ hopen => hopen) ?_
      intro asking asked hview
      obtain ⟨-, rest, htask, -⟩ | hold := answering_setTask hview
      · cases htask
      · exact hold
  starts := hinv.starts

theorem WithdrawnInv.connected {orderMatch : MakerMatch} {announced : Option ℚ}
    (hconn : s.Connecting id sender connect)
    (horder : s.orders.lookup connect.makerOrderUuid = some order)
    (hans : order.processTakerConnect node sender connect =
      .connected orderMatch order' announced) :
    (s.startBob id connect.makerOrderUuid orderMatch order').WithdrawnInv := by
  obtain ⟨⟨hawaited, hfrom⟩, -⟩ := awaits_of_connected hans
  have hlist : connect.makerOrderUuid ∈ s.listed := by
    by_contra hunlist
    exact hinv.quiet id sender connect hconn hunlist
      ⟨orderMatch.request, hfrom, .inl ⟨order, horder, hawaited⟩⟩
  constructor
  case quiet =>
    intro other from_ found hview hunlist hable
    obtain ⟨-, locked, htask⟩ | hpre := connecting_setTask (s := s.setOrder _ order') hview
    · cases htask
    · apply hinv.quiet other from_ found hpre hunlist
      apply hable.of_views (fun _ hopen => (openMatch_startBob horder hans hopen).1)
      intro asking asked hasks
      obtain ⟨-, rest, htask, -⟩ | hold := answering_setTask (s := s.setOrder _ order') hasks
      · cases htask
      · exact hold
  case starts =>
    intro start hstart
    simp only [startBob, List.mem_append, List.mem_singleton] at hstart
    cases hstart with
    | inl hold => exact hinv.starts start hold
    | inr hnew =>
      rw [hnew]
      exact decide_eq_true hlist

theorem WithdrawnInv.started (id : ℕ) (swap : Uuid) :
    WithdrawnInv { s.setTask id (.running swap) with
        swapLocks := s.swapLocks.insert swap ()
        startedSwaps := s.startedSwaps ++ [swap] } where
  quiet := by
    intro other sender connect hconn hunlist hable
    have hnarr := narrows_setRunning s id swap
    exact hinv.quiet other sender connect (hnarr.connecting other sender connect hconn) hunlist
      (hnarr.answerable hable)
  starts := hinv.starts

theorem WithdrawnInv.step (hquiet : s.WithdrawsQuietly event) : (s.step event).WithdrawnInv := by
  have heff := step_effect s event
  generalize hnext : s.step event = next at heff
  cases heff with
  | narrows hnarr =>
    rw [← hnext] at hnarr ⊢
    exact hinv.of_narrows hquiet hnarr
  | added hnew => exact hinv.added _
  | asked hnew hlist => exact hinv.asked hlist
  | reserved hasks horder hans =>
    exact hinv.reserved hasks.answering horder hans
  | fetched hnew hlist => exact hinv.fetched hlist
  | connected hconn horder hans =>
    exact hinv.connected hconn horder hans
  | started hstart => exact hinv.started _ _

end

theorem withdrawnInv_initial : initial.WithdrawnInv where
  quiet := by
    intro id sender connect hconn
    obtain ⟨locked, hfound⟩ := hconn
    cases hfound
  starts := by simp [StartsListed, initial]

/-- A run that withdraws orders quietly starts swaps of listed orders only. -/
theorem run_startsListed {events : List NodeEvent}
    (hquiet : EveryStep step WithdrawsQuietly initial events) :
    EveryState step StartsListed initial events :=
  (everyState_of_everyStep step (fun _ _ hinv hcond => hinv.step hcond)
    withdrawnInv_initial hquiet).imp fun _ hinv => hinv.starts

/-! ## A connection and a withdrawal -/

theorem WithdrawsQuietly.of_listed (hlist : (s.step event).listed = s.listed) :
    s.WithdrawsQuietly event := by
  intro id sender connect _ hpre hafter
  rw [hlist] at hafter
  exact absurd hpre hafter

theorem WithdrawsQuietly.of_idle
    (hidle : ∀ task ∈ HashMap.values s.tasks, task.isConnecting = false) :
    s.WithdrawsQuietly event := by
  intro id sender connect hconn
  obtain ⟨locked, hfound⟩ := hconn
  have hnot := hidle _ (HashMap.mem_values_of_lookup hfound)
  cases hnot

def connectMessage : TakerConnect where
  takerOrderUuid := 2
  makerOrderUuid := 1
  senderPubkey := .repeat 2
  destPubKey := .repeat 1

theorem segwitMakerOrder_keyed : segwitMakerOrder.MatchesKeyed := by
  intro swap orderMatch hmatch
  cases hmatch

def reserveAndFetch : List NodeEvent :=
  [.addOrder segwitMakerOrder segwitMakerOrder_keyed,
    .takerRequest 0 segwitMakerNode (.repeat 2) (plainTaker "BTC").request [1],
    .answerNext 0 segwitMakerNode 0,
    .takerConnect 1 segwitMakerNode (.repeat 2) connectMessage]

def lockAndConnect : List NodeEvent :=
  [.lockOrder 1, .connectOrder 1 segwitMakerNode]

/-- The user replaces the order, after the connection or before it. -/
def replaceOrder : NodeEvent := .cancelPrevious 1 "BTC-segwit" "KMD"

theorem connected_before_replacement :
    StartsListed (run step initial (reserveAndFetch ++ lockAndConnect ++ [replaceOrder])) := by
  apply everyState_last
  apply run_startsListed
  exact ⟨WithdrawsQuietly.of_idle (by decide +kernel),
    WithdrawsQuietly.of_listed (by decide +kernel), WithdrawsQuietly.of_listed (by decide +kernel),
    WithdrawsQuietly.of_listed (by decide +kernel), WithdrawsQuietly.of_listed (by decide +kernel),
    WithdrawsQuietly.of_listed (by decide +kernel),
    WithdrawsQuietly.of_idle (by decide +kernel), trivial⟩

theorem withdrawn_order_starts_swap :
    (run step initial
        (reserveAndFetch ++ [replaceOrder] ++ lockAndConnect)).bobStarts =
        [{ order := 1, swap := 2, listed := false }] ∧
      ¬StartsListed
        (run step initial (reserveAndFetch ++ [replaceOrder] ++ lockAndConnect)) := by
  have hstarts :
      (run step initial (reserveAndFetch ++ [replaceOrder] ++ lockAndConnect)).bobStarts =
        [{ order := 1, swap := 2, listed := false }] := by
    decide +kernel
  refine ⟨hstarts, ?_⟩
  intro hlisted
  unfold StartsListed at hlisted
  rw [hstarts] at hlisted
  simp at hlisted

end MakerNode

end KdfProtocol
