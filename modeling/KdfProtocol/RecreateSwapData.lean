import KdfProtocol.SwapResume

/-!
# Recreating the journal of the other side of a legacy swap

A node that lost its journal gets one made from the journal of its counterparty.  The
first two events are rebuilt field by field; the others are converted one by one, and
the conversion ends at the first event that settles the swap.
-/

namespace KdfProtocol

/-! ## Saved swaps -/

structure SavedEvent (ε : Type) where
  timestamp : UInt64
  event : ε

open SavedEvent

structure SavedSwap (ε : Type) where
  uuid : Uuid
  myOrderUuid : Option Uuid
  events : List (SavedEvent ε)
  makerAmount : Option ℚ
  makerCoin : Option String
  takerAmount : Option ℚ
  takerCoin : Option String

def SavedSwap.journal {ε : Type} (swap : SavedSwap ε) : List ε :=
  swap.events.map SavedEvent.event

abbrev TakerSavedSwap := SavedSwap TakerSwapEvent

abbrev MakerSavedSwap := SavedSwap MakerSwapEvent

inductive RecreateSwapError where
  | swapIsNotStarted
  | swapIsNotNegotiated
  | unexpectedEvent (expected found : String)
  | noSuchCoin (coin : String)
  | noSecretHash
  | internal (err : String)
  deriving DecidableEq

def TakerSwapEvent.statusStr : TakerSwapEvent → String
  | .started _ => "Started..."
  | .startFailed _ => "Start failed..."
  | .negotiated _ => "Negotiated..."
  | .negotiateFailed _ => "Negotiate failed..."
  | .takerFeeSent _ => "Taker fee sent..."
  | .takerFeeSendFailed _ => "Taker fee send failed..."
  | .takerPaymentInstructionsReceived => "Taker payment instructions obtained..."
  | .makerPaymentReceived _ => "Maker payment received..."
  | .makerPaymentWaitConfirmStarted => "Maker payment wait confirm started..."
  | .makerPaymentValidatedAndConfirmed => "Maker payment validated and confirmed..."
  | .makerPaymentValidateFailed _ => "Maker payment validate failed..."
  | .makerPaymentWaitConfirmFailed _ => "Maker payment wait for confirmation failed..."
  | .takerPaymentSent _ => "Taker payment sent..."
  | .watcherMessageSent => "Watcher message sent..."
  | .takerPaymentTransactionFailed _ => "Taker payment transaction failed..."
  | .takerPaymentDataSendFailed _ => "Taker payment data send failed..."
  | .takerPaymentWaitConfirmFailed _ => "Taker payment wait for confirmation failed..."
  | .takerPaymentSpent _ => "Taker payment spent..."
  | .takerPaymentWaitForSpendFailed _ => "Taker payment wait for spend failed..."
  | .makerPaymentSpent _ => "Maker payment spent..."
  | .makerPaymentSpendConfirmed => "Maker payment spend confirmed..."
  | .makerPaymentSpendConfirmFailed _ => "Maker payment spend confirm failed..."
  | .makerPaymentSpentByWatcher _ => "Maker payment spent by watcher..."
  | .makerPaymentSpendFailed _ => "Maker payment spend failed..."
  | .takerPaymentWaitRefundStarted waitUntil =>
    s!"Taker payment wait refund till {waitUntil} started..."
  | .takerPaymentRefundStarted => "Taker payment refund started..."
  | .takerPaymentRefunded _ => "Taker payment refunded..."
  | .takerPaymentRefundFinished => "Taker payment refund finished..."
  | .takerPaymentRefundedByWatcher _ => "Taker payment refunded by watcher..."
  | .takerPaymentRefundFailed _ => "Taker payment refund failed..."
  | .finished => "Finished"

def MakerSwapEvent.statusStr : MakerSwapEvent → String
  | .started _ => "Started..."
  | .startFailed _ => "Start failed..."
  | .negotiated _ => "Negotiated..."
  | .negotiateFailed _ => "Negotiate failed..."
  | .makerPaymentInstructionsReceived => "Maker payment instructions obtained..."
  | .takerFeeValidated _ => "Taker fee validated..."
  | .takerFeeValidateFailed _ => "Taker fee validate failed..."
  | .makerPaymentSent _ => "Maker payment sent..."
  | .makerPaymentTransactionFailed _ | .makerPaymentDataSendFailed _ => "Maker payment failed..."
  | .makerPaymentWaitConfirmFailed _ => "Maker payment wait for confirmation failed..."
  | .takerPaymentReceived _ => "Taker payment received..."
  | .takerPaymentWaitConfirmStarted => "Taker payment wait confirm started..."
  | .takerPaymentValidatedAndConfirmed => "Taker payment validated and confirmed..."
  | .takerPaymentValidateFailed _ => "Taker payment validate failed..."
  | .takerPaymentWaitConfirmFailed _ => "Taker payment wait for confirmation failed..."
  | .takerPaymentSpent _ => "Taker payment spent..."
  | .takerPaymentSpendFailed _ => "Taker payment spend failed..."
  | .takerPaymentSpendConfirmStarted => "Taker payment send wait confirm started..."
  | .takerPaymentSpendConfirmed => "Taker payment spend confirmed..."
  | .takerPaymentSpendConfirmFailed _ => "Taker payment spend confirm failed..."
  | .makerPaymentWaitRefundStarted waitUntil =>
    s!"Maker payment wait refund till {waitUntil} started..."
  | .makerPaymentRefundStarted => "Maker payment refund started..."
  | .makerPaymentRefunded _ => "Maker payment refunded..."
  | .makerPaymentRefundFailed _ => "Maker payment refund failed..."
  | .makerPaymentRefundFinished => "Maker payment refund finished..."
  | .finished => "Finished"

/-! ## Converting events -/

/-- What one event is converted to, and whether the conversion goes on. -/
inductive Conversion (σ ε : Type) where
  | goOn (state : σ) (events : List ε)
  | done (events : List ε)

/-- Every new event gets the time of the event it is made from. -/
def convertEvents {σ ε φ : Type} (convert : σ → ε → Conversion σ φ) :
    σ → List (SavedEvent ε) → List (SavedEvent φ)
  | _, [] => []
  | state, saved :: rest =>
    match convert state saved.event with
    | .goOn next events =>
      events.map (SavedEvent.mk saved.timestamp) ++ convertEvents convert next rest
    | .done events => events.map (SavedEvent.mk saved.timestamp)

section ConvertEvents

variable {σ ε φ : Type} {convert : σ → ε → Conversion σ φ} {stops : ε → Bool} {final : ε → List φ}

theorem map_event_mk (timestamp : UInt64) (events : List φ) :
    (events.map (mk timestamp)).map event = events := by
  rw [List.map_map]
  exact List.map_id events

theorem mem_convertEvents (hdone : ∀ state event, stops event = true →
      convert state event = .done (final event))
    (hgoOn : ∀ state event, stops event = false →
      ∃ next events, convert state event = .goOn next events)
    {saved : List (SavedEvent ε)} {event : ε}
    (hfind : (saved.map SavedEvent.event).find? stops = some event)
    (state : σ) {converted : φ} (hmem : converted ∈ final event) :
    converted ∈ (convertEvents convert state saved).map SavedEvent.event := by
  induction saved generalizing state with
  | nil => cases hfind
  | cons first rest ih =>
    rw [List.map_cons, List.find?_cons] at hfind
    cases hstops : stops first.event with
    | true =>
      simp only [hstops, Option.some.injEq] at hfind
      simp only [convertEvents, hdone state first.event hstops, map_event_mk]
      rw [hfind]
      exact hmem
    | false =>
      simp only [hstops] at hfind
      obtain ⟨next, events, hconv⟩ := hgoOn state first.event hstops
      simp only [convertEvents, hconv, List.map_append]
      exact List.mem_append_right _ (ih hfind next)

theorem passing_or_final_of_mem (hdone : ∀ state event, stops event = true →
      convert state event = .done (final event)) {passing : φ → Prop}
    (hgoOn : ∀ state event, stops event = false →
      ∃ next events, convert state event = .goOn next events ∧
        ∀ converted ∈ events, passing converted)
    {saved : List (SavedEvent ε)} {state : σ} {converted : φ}
    (hmem : converted ∈ (convertEvents convert state saved).map event) :
    passing converted ∨ ∃ event,
      (saved.map SavedEvent.event).find? stops = some event ∧ converted ∈ final event := by
  induction saved generalizing state with
  | nil => cases hmem
  | cons first rest ih =>
    rw [List.map_cons, List.find?_cons]
    cases hstops : stops first.event with
    | true =>
      simp only [convertEvents, hdone state first.event hstops, map_event_mk] at hmem
      exact Or.inr ⟨first.event, rfl, hmem⟩
    | false =>
      obtain ⟨next, events, hconv, hpassing⟩ := hgoOn state first.event hstops
      simp only [convertEvents, hconv, List.map_append, map_event_mk, List.mem_append] at hmem
      rcases hmem with hnow | hlater
      · exact Or.inl (hpassing converted hnow)
      · exact ih hlater

end ConvertEvents

section TakerToMaker

-- `debug` prints an event.
variable (debug : TakerSwapEvent → String) (waitRefundUntil : UInt64)

def makerRefund (failed : MakerSwapEvent) :
    Conversion (Option TransactionIdentifier) MakerSwapEvent :=
  .done [failed, .makerPaymentWaitRefundStarted waitRefundUntil]

def convertTakerEvent (takerFeeIdent : Option TransactionIdentifier) (event : TakerSwapEvent) :
    Conversion (Option TransactionIdentifier) MakerSwapEvent :=
  let swapError := "Origin Taker error event: " ++ debug event
  match event with
  | .takerFeeSent tx => .goOn (some tx) []
  | .takerFeeSendFailed _ => .done [.takerFeeValidateFailed swapError, .finished]
  | .makerPaymentReceived tx =>
    .goOn none (takerFeeIdent.toList.map .takerFeeValidated ++ [.makerPaymentSent tx])
  | .makerPaymentValidateFailed _ | .makerPaymentWaitConfirmFailed _
  | .takerPaymentTransactionFailed _ | .takerPaymentDataSendFailed _
  | .takerPaymentWaitConfirmFailed _ =>
    makerRefund waitRefundUntil (.takerPaymentValidateFailed swapError)
  | .takerPaymentSent tx =>
    .goOn takerFeeIdent [.takerPaymentReceived tx, .takerPaymentWaitConfirmStarted]
  | .takerPaymentSpent data =>
    .done
      [.takerPaymentValidatedAndConfirmed, .takerPaymentSpent data.transaction,
        .takerPaymentSpendConfirmStarted, .takerPaymentSpendConfirmed, .finished]
  | .takerPaymentWaitForSpendFailed _ =>
    makerRefund waitRefundUntil (.takerPaymentSpendFailed swapError)
  | .started _ | .startFailed _ | .negotiated _ | .negotiateFailed _
  | .makerPaymentWaitConfirmStarted | .makerPaymentValidatedAndConfirmed | .makerPaymentSpent _
  | .makerPaymentSpendConfirmed | .makerPaymentSpendConfirmFailed _
  | .makerPaymentSpentByWatcher _ | .makerPaymentSpendFailed _ | .takerPaymentWaitRefundStarted _
  | .takerPaymentRefundStarted | .takerPaymentRefunded _ | .takerPaymentRefundFinished
  | .takerPaymentRefundedByWatcher _ | .takerPaymentRefundFailed _
  | .takerPaymentInstructionsReceived | .watcherMessageSent | .finished => .goOn takerFeeIdent []

def convertTakerToMakerEvents (events : List (SavedEvent TakerSwapEvent)) :
    List (SavedEvent MakerSwapEvent) :=
  convertEvents (convertTakerEvent debug waitRefundUntil) none events

end TakerToMaker

abbrev ExtractSecret := Bytes → Bytes → Except String Bytes

section MakerToTaker

variable (debug : MakerSwapEvent → String) (makerCoin : ExtractSecret)
  (secretHash : Bytes) (waitRefundUntil : UInt64)

def takerRefund (failed : TakerSwapEvent) : Conversion Unit TakerSwapEvent :=
  .done [failed, .takerPaymentWaitRefundStarted waitRefundUntil]

/-- The secret is read by the maker coin, whose chain does not hold the spend. -/
def convertMakerEvent (_ : Unit) (event : MakerSwapEvent) : Conversion Unit TakerSwapEvent :=
  let swapError := "Origin Maker error event: " ++ debug event
  match event with
  | .takerFeeValidated tx => .goOn () [.takerFeeSent tx]
  | .takerFeeValidateFailed _ => .done [.makerPaymentValidateFailed swapError, .finished]
  | .makerPaymentSent tx => .goOn () [.makerPaymentReceived tx, .makerPaymentWaitConfirmStarted]
  | .makerPaymentTransactionFailed _ | .makerPaymentDataSendFailed _
  | .makerPaymentWaitConfirmFailed _ => .done [.makerPaymentValidateFailed swapError, .finished]
  | .takerPaymentReceived tx => .goOn () [.makerPaymentValidatedAndConfirmed, .takerPaymentSent tx]
  | .takerPaymentValidateFailed _ | .takerPaymentSpendFailed _ | .takerPaymentWaitConfirmFailed _ =>
    takerRefund waitRefundUntil (.takerPaymentWaitForSpendFailed swapError)
  | .takerPaymentSpent tx =>
    match makerCoin secretHash tx.txHex with
    | .ok secret => .done [.takerPaymentSpent ⟨tx, secret⟩]
    | .error err => takerRefund waitRefundUntil (.takerPaymentWaitForSpendFailed err)
  | .started _ | .startFailed _ | .negotiated _ | .negotiateFailed _
  | .takerPaymentWaitConfirmStarted | .takerPaymentValidatedAndConfirmed
  | .takerPaymentSpendConfirmStarted | .takerPaymentSpendConfirmed
  | .takerPaymentSpendConfirmFailed _ | .makerPaymentWaitRefundStarted _
  | .makerPaymentRefundStarted | .makerPaymentRefunded _ | .makerPaymentRefundFailed _
  | .makerPaymentRefundFinished | .makerPaymentInstructionsReceived | .finished => .goOn () []

def convertMakerToTakerEvents (events : List (SavedEvent MakerSwapEvent)) :
    List (SavedEvent TakerSwapEvent) :=
  convertEvents (convertMakerEvent debug makerCoin secretHash waitRefundUntil) () events

end MakerToTaker

/-! ## Recreating a journal -/

def p2pPubkey (persistentPub : Bytes) : Bytes :=
  (persistentPub.drop 1).take 32

def expectEvent {ε δ : Type} (kind : ε → Option δ) (statusStr : ε → String)
    (missing : RecreateSwapError) (expected : String) :
    List (SavedEvent ε) → Except RecreateSwapError (UInt64 × δ × List (SavedEvent ε))
  | [] => .error missing
  | saved :: rest =>
    match kind saved.event with
    | some data => .ok (saved.timestamp, data, rest)
    | none => .error (.unexpectedEvent expected (statusStr saved.event))

def TakerSwapEvent.started? : TakerSwapEvent → Option TakerSwapData
  | .started data => some data
  | _ => none

def TakerSwapEvent.negotiated? : TakerSwapEvent → Option MakerNegotiationData
  | .negotiated data => some data
  | _ => none

def MakerSwapEvent.started? : MakerSwapEvent → Option MakerSwapData
  | .started data => some data
  | _ => none

def MakerSwapEvent.negotiated? : MakerSwapEvent → Option TakerNegotiationData
  | .negotiated data => some data
  | _ => none

def takerStarted (events : List (SavedEvent TakerSwapEvent)) :
    Except RecreateSwapError (UInt64 × TakerSwapData × List (SavedEvent TakerSwapEvent)) :=
  expectEvent TakerSwapEvent.started? TakerSwapEvent.statusStr .swapIsNotStarted "Started" events

def takerNegotiated (events : List (SavedEvent TakerSwapEvent)) :
    Except RecreateSwapError (UInt64 × MakerNegotiationData × List (SavedEvent TakerSwapEvent)) :=
  expectEvent TakerSwapEvent.negotiated? TakerSwapEvent.statusStr
    .swapIsNotNegotiated "Negotiated" events

def makerStarted (events : List (SavedEvent MakerSwapEvent)) :
    Except RecreateSwapError (UInt64 × MakerSwapData × List (SavedEvent MakerSwapEvent)) :=
  expectEvent MakerSwapEvent.started? MakerSwapEvent.statusStr .swapIsNotStarted "Started" events

def makerNegotiated (events : List (SavedEvent MakerSwapEvent)) :
    Except RecreateSwapError (UInt64 × TakerNegotiationData × List (SavedEvent MakerSwapEvent)) :=
  expectEvent MakerSwapEvent.negotiated? MakerSwapEvent.statusStr
    .swapIsNotNegotiated "Negotiated" events

def recreatedMakerData (started : TakerSwapData)
    (negotiated : MakerNegotiationData) : MakerSwapData where
  takerCoin := started.takerCoin
  makerCoin := started.makerCoin
  taker := p2pPubkey started.myPersistentPub
  terms := started.terms
  secret := List.replicate 32 0
  secretHash := some negotiated.secretHash
  myPersistentPub := negotiated.makerPubkey
  lockDuration := started.lockDuration
  makerPaymentLock := negotiated.makerPaymentLocktime
  startedAt := started.startedAt
  makerCoinSwapContractAddress := negotiated.makerCoinSwapContractAddr
  takerCoinSwapContractAddress := negotiated.takerCoinSwapContractAddr
  makerCoinHtlcPubkey := negotiated.makerCoinHtlcPubkey
  takerCoinHtlcPubkey := negotiated.takerCoinHtlcPubkey

def recreatedTakerNegotiation (started : TakerSwapData)
    (negotiated : MakerNegotiationData) : TakerNegotiationData where
  takerPaymentLocktime := started.takerPaymentLock
  takerPubkey := started.myPersistentPub
  makerCoinSwapContractAddr := negotiated.makerCoinSwapContractAddr
  takerCoinSwapContractAddr := negotiated.takerCoinSwapContractAddr
  makerCoinHtlcPubkey := started.makerCoinHtlcPubkey
  takerCoinHtlcPubkey := started.takerCoinHtlcPubkey

def recreateMakerSwap (debug : TakerSwapEvent → String)
    (takerSwap : TakerSavedSwap) : Except RecreateSwapError MakerSavedSwap := do
  let (startedAt, started, events) ← takerStarted takerSwap.events
  let (negotiatedAt, negotiated, events) ← takerNegotiated events
  let waitRefundUntil := negotiated.makerPaymentLocktime + 3700
  pure
    { uuid := takerSwap.uuid
      myOrderUuid := takerSwap.myOrderUuid
      events :=
        ⟨startedAt, .started (recreatedMakerData started negotiated)⟩ ::
        ⟨negotiatedAt, .negotiated (recreatedTakerNegotiation started negotiated)⟩ ::
        convertTakerToMakerEvents debug waitRefundUntil events
      makerAmount := takerSwap.makerAmount
      makerCoin := takerSwap.makerCoin
      takerAmount := takerSwap.takerAmount
      takerCoin := takerSwap.takerCoin }

def recreatedTakerData (started : MakerSwapData)
    (negotiated : TakerNegotiationData) : TakerSwapData where
  takerCoin := started.takerCoin
  makerCoin := started.makerCoin
  maker := p2pPubkey started.myPersistentPub
  terms := started.terms
  myPersistentPub := negotiated.takerPubkey
  lockDuration := started.lockDuration
  takerPaymentLock := negotiated.takerPaymentLocktime
  startedAt := started.startedAt
  makerPaymentWait := makerPaymentWait started.startedAt started.lockDuration
  makerCoinSwapContractAddress := negotiated.makerCoinSwapContractAddr
  takerCoinSwapContractAddress := negotiated.takerCoinSwapContractAddr
  makerCoinHtlcPubkey := negotiated.makerCoinHtlcPubkey
  takerCoinHtlcPubkey := negotiated.takerCoinHtlcPubkey

def recreatedMakerNegotiation (started : MakerSwapData)
    (negotiated : TakerNegotiationData) (secretHash : Bytes) : MakerNegotiationData where
  makerPaymentLocktime := started.makerPaymentLock
  makerPubkey := started.myPersistentPub
  secretHash := secretHash
  makerCoinSwapContractAddr := negotiated.makerCoinSwapContractAddr
  takerCoinSwapContractAddr := negotiated.takerCoinSwapContractAddr
  makerCoinHtlcPubkey := started.makerCoinHtlcPubkey
  takerCoinHtlcPubkey := started.takerCoinHtlcPubkey

abbrev CoinFind := String → Except String (Option ExtractSecret)

def findMakerCoin (coinFind : CoinFind) (ticker : String) :
    Except RecreateSwapError ExtractSecret :=
  match coinFind ticker with
  | .error err => .error (.internal err)
  | .ok none => .error (.noSuchCoin ticker)
  | .ok (some coin) => .ok coin

def startedSecretHash (started : MakerSwapData) : Except RecreateSwapError Bytes :=
  match started.secretHash with
  | none => .error .noSecretHash
  | some secretHash => .ok secretHash

def recreateTakerSwap (debug : MakerSwapEvent → String) (coinFind : CoinFind)
    (makerSwap : MakerSavedSwap) : Except RecreateSwapError TakerSavedSwap := do
  let (startedAt, started, events) ← makerStarted makerSwap.events
  let (negotiatedAt, negotiated, events) ← makerNegotiated events
  let secretHash ← startedSecretHash started
  let makerCoin ← findMakerCoin coinFind started.makerCoin
  let waitRefundUntil := negotiated.takerPaymentLocktime + 3700
  pure
    { uuid := makerSwap.uuid
      myOrderUuid := some makerSwap.uuid
      events :=
        ⟨startedAt, .started (recreatedTakerData started negotiated)⟩ ::
        ⟨negotiatedAt, .negotiated (recreatedMakerNegotiation started negotiated secretHash)⟩ ::
        convertMakerToTakerEvents debug makerCoin secretHash waitRefundUntil events
      makerAmount := makerSwap.makerAmount
      makerCoin := makerSwap.makerCoin
      takerAmount := makerSwap.takerAmount
      takerCoin := makerSwap.takerCoin }

/-! ## Which journals are recreated -/

theorem SavedSwap.events_of_journal {ε : Type} {swap : SavedSwap ε}
    {first second : ε} {rest : List ε} (hjournal : swap.journal = first :: second :: rest) :
    ∃ firstAt secondAt events,
      swap.events = ⟨firstAt, first⟩ :: ⟨secondAt, second⟩ :: events ∧ events.map event = rest := by
  obtain ⟨a, tail, hevents, hfirst, htail⟩ := List.map_eq_cons_iff.mp hjournal
  obtain ⟨b, events, htail, hsnd, hrest⟩ := List.map_eq_cons_iff.mp htail
  refine ⟨a.timestamp, b.timestamp, events, ?_, hrest⟩
  rw [hevents, htail, ← hfirst, ← hsnd]

variable {timestamp : UInt64} {events : List (SavedEvent TakerSwapEvent)} {coinFind : CoinFind}

theorem expectEvent_eq_ok {ε δ : Type} {kind : ε → Option δ} {statusStr : ε → String}
    {missing : RecreateSwapError} {expected : String} {event : δ → ε}
    (hkind : ∀ e data, kind e = some data → e = event data) {events rest : List (SavedEvent ε)}
    {data : δ}
    (hok : expectEvent kind statusStr missing expected events = .ok (timestamp, data, rest)) :
    events = ⟨timestamp, event data⟩ :: rest := by
  cases events with
  | nil => cases hok
  | cons saved tail =>
    cases hfound : kind saved.event with
    | none => simp [expectEvent, hfound] at hok
    | some found =>
      simp only [expectEvent, hfound, Except.ok.injEq, Prod.mk.injEq] at hok
      obtain ⟨rfl, rfl, rfl⟩ := hok
      rw [← hkind saved.event found hfound]

theorem TakerSwapEvent.eq_started (event : TakerSwapEvent) (data : TakerSwapData)
    (hkind : event.started? = some data) : event = .started data := by
  cases event <;> cases hkind
  rfl

theorem TakerSwapEvent.eq_negotiated (event : TakerSwapEvent) (data : MakerNegotiationData)
    (hkind : event.negotiated? = some data) : event = .negotiated data := by
  cases event <;> cases hkind
  rfl

theorem MakerSwapEvent.eq_started (event : MakerSwapEvent) (data : MakerSwapData)
    (hkind : event.started? = some data) : event = .started data := by
  cases event <;> cases hkind
  rfl

theorem MakerSwapEvent.eq_negotiated (event : MakerSwapEvent) (data : TakerNegotiationData)
    (hkind : event.negotiated? = some data) : event = .negotiated data := by
  cases event <;> cases hkind
  rfl

theorem recreateMakerSwap_journal {debug : TakerSwapEvent → String} {takerSwap : TakerSavedSwap}
    {maker : MakerSavedSwap} (hok : recreateMakerSwap debug takerSwap = .ok maker) :
    ∃ startedAt started negotiatedAt negotiated events,
      takerSwap.events = ⟨startedAt, .started started⟩ ::
        ⟨negotiatedAt, .negotiated negotiated⟩ :: events ∧
      maker.journal = .started (recreatedMakerData started negotiated) ::
        .negotiated (recreatedTakerNegotiation started negotiated) ::
        (convertTakerToMakerEvents debug
          (negotiated.makerPaymentLocktime + 3700) events).map
            event := by
  obtain ⟨⟨startedAt, started, tail⟩, hstart, hrest⟩ := except_bind_eq_ok.mp hok
  obtain ⟨⟨negotiatedAt, negotiated, events⟩, hneg, hmaker⟩ := except_bind_eq_ok.mp hrest
  cases hmaker
  refine ⟨startedAt, started, negotiatedAt, negotiated, events, ?_, rfl⟩
  rw [expectEvent_eq_ok TakerSwapEvent.eq_started hstart,
    expectEvent_eq_ok TakerSwapEvent.eq_negotiated hneg]

theorem findMakerCoin_eq_ok {ticker : String} {coin : ExtractSecret} :
    findMakerCoin coinFind ticker = .ok coin ↔ coinFind ticker = .ok (some coin) := by
  unfold findMakerCoin
  split
  next herr => simp [herr]
  next hnone => simp [hnone]
  next found hfound => simp [hfound]

theorem startedSecretHash_eq_ok {started : MakerSwapData} {secretHash : Bytes} :
    startedSecretHash started = .ok secretHash ↔ started.secretHash = some secretHash := by
  unfold startedSecretHash
  split
  next hnone => simp [hnone]
  next hash hsome => simp [hsome]

theorem recreateTakerSwap_journal {debug : MakerSwapEvent → String} {makerSwap : MakerSavedSwap}
    {taker : TakerSavedSwap} (hok : recreateTakerSwap debug coinFind makerSwap = .ok taker) :
    ∃ startedAt started negotiatedAt negotiated events secretHash makerCoin,
      makerSwap.events = ⟨startedAt, .started started⟩ ::
        ⟨negotiatedAt, .negotiated negotiated⟩ :: events ∧
      started.secretHash = some secretHash ∧
      coinFind started.makerCoin = .ok (some makerCoin) ∧
      taker.journal = .started (recreatedTakerData started negotiated) ::
        .negotiated (recreatedMakerNegotiation started negotiated secretHash) ::
        (convertMakerToTakerEvents debug makerCoin secretHash
          (negotiated.takerPaymentLocktime + 3700) events).map
            event := by
  obtain ⟨⟨startedAt, started, tail⟩, hstart, hrest⟩ := except_bind_eq_ok.mp hok
  obtain ⟨⟨negotiatedAt, negotiated, events⟩, hneg, hrest⟩ := except_bind_eq_ok.mp hrest
  obtain ⟨secretHash, hhash, hrest⟩ := except_bind_eq_ok.mp hrest
  obtain ⟨makerCoin, hcoin, htaker⟩ := except_bind_eq_ok.mp hrest
  cases htaker
  refine ⟨startedAt, started, negotiatedAt, negotiated, events, secretHash,
    makerCoin, ?_, startedSecretHash_eq_ok.mp hhash, findMakerCoin_eq_ok.mp hcoin, rfl⟩
  rw [expectEvent_eq_ok MakerSwapEvent.eq_started hstart,
    expectEvent_eq_ok MakerSwapEvent.eq_negotiated hneg]

theorem recreateTakerSwap_isOk {debug : MakerSwapEvent → String}
    {makerSwap : MakerSavedSwap} {startedAt negotiatedAt : UInt64}
    {started : MakerSwapData} {negotiated : TakerNegotiationData}
    {events : List (SavedEvent MakerSwapEvent)} {secretHash : Bytes} {makerCoin : ExtractSecret}
    (hevents : makerSwap.events = ⟨startedAt, .started started⟩ ::
      ⟨negotiatedAt, .negotiated negotiated⟩ :: events)
    (hhash : started.secretHash = some secretHash)
    (hcoin : coinFind started.makerCoin = .ok (some makerCoin)) :
    ∃ taker, recreateTakerSwap debug coinFind makerSwap = .ok taker := by
  unfold recreateTakerSwap
  rw [hevents]
  simp only [except_bind_eq_ok]
  exact ⟨_, _, rfl, _, rfl, _, startedSecretHash_eq_ok.mpr hhash, _,
    findMakerCoin_eq_ok.mpr hcoin, rfl⟩

end KdfProtocol
