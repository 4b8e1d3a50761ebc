import KdfProtocol.RecreateSwapData

/-!
# What a recreated journal tells of the taker payment

The conversion ends at the first event that settles the swap for it.  A journal in
which a failure comes before the spend of the taker payment is recreated as one that
has failed, and the secret is read by the coin of the other payment.
-/

namespace KdfProtocol

open SavedEvent

/-! ## The maker's journal -/

/-- The conversion to the events of a maker ends with this event. -/
def TakerSwapEvent.endsConversion : TakerSwapEvent → Bool
  | .takerFeeSendFailed _ | .makerPaymentValidateFailed _ | .makerPaymentWaitConfirmFailed _
  | .takerPaymentTransactionFailed _ | .takerPaymentDataSendFailed _
  | .takerPaymentWaitConfirmFailed _ | .takerPaymentSpent _ | .takerPaymentWaitForSpendFailed _ =>
    true
  | _ => false

def MakerSwapEvent.requiresRefund (event : MakerSwapEvent) : Prop :=
  event.getCommand = some .refundMakerPayment

open MakerSwapEvent

/-- If the taker recorded the spend of its payment, so does the maker, with the
transaction, and nothing asks for a refund. -/
def TellsSpend (takerJournal : List TakerSwapEvent) (makerJournal : List MakerSwapEvent) : Prop :=
  (∃ data, .takerPaymentSpent data ∈ takerJournal) →
    (∃ data, .takerPaymentSpent data ∈ takerJournal ∧
      .takerPaymentSpent data.transaction ∈ makerJournal) ∧
    ∀ event ∈ makerJournal, ¬event.requiresRefund

/-- No failure that ends the conversion is recorded before the spend. -/
def SpendComesFirst (takerJournal : List TakerSwapEvent) : Prop :=
  (∃ data, .takerPaymentSpent data ∈ takerJournal) →
    ∃ data, takerJournal.find? TakerSwapEvent.endsConversion = some (.takerPaymentSpent data)

section Maker

variable {debug : TakerSwapEvent → String} {waitRefundUntil : UInt64}

def finalMakerEvents (debug : TakerSwapEvent → String) (waitRefundUntil : UInt64)
    (event : TakerSwapEvent) : List MakerSwapEvent :=
  match convertTakerEvent debug waitRefundUntil none event with
  | .done events => events
  | .goOn _ _ => []

theorem convertTakerEvent_done (takerFeeIdent : Option TransactionIdentifier)
    (event : TakerSwapEvent) (hends : event.endsConversion = true) :
    convertTakerEvent debug waitRefundUntil takerFeeIdent event =
      .done (finalMakerEvents debug waitRefundUntil event) := by
  cases event <;> first | rfl | cases hends

theorem convertTakerEvent_goOn (takerFeeIdent : Option TransactionIdentifier)
    (event : TakerSwapEvent) (hgoes : event.endsConversion = false) :
    ∃ next events, convertTakerEvent debug waitRefundUntil takerFeeIdent event = .goOn next events ∧
      ∀ converted ∈ events, ¬converted.requiresRefund ∧
        ∀ tx, converted ≠ .takerPaymentSpent tx := by
  cases event with
  | makerPaymentReceived tx =>
    refine ⟨_, _, rfl, ?_⟩
    intro converted hmem
    rcases List.mem_append.mp hmem with hfee | hpay
    · obtain ⟨fee, -, rfl⟩ := List.mem_map.mp hfee
      exact ⟨by simp [requiresRefund, getCommand], by simp⟩
    · rw [List.mem_singleton.mp hpay]
      exact ⟨by simp [requiresRefund, getCommand], by simp⟩
  | takerPaymentSent tx =>
    refine ⟨_, _, rfl, ?_⟩
    simp [requiresRefund, getCommand]
  | _ =>
    first
      | exact ⟨_, _, rfl, by simp⟩
      | cases hgoes

theorem finalMakerEvents_spent {event : TakerSwapEvent} {tx : TransactionIdentifier}
    (hmem : .takerPaymentSpent tx ∈ finalMakerEvents debug waitRefundUntil event) :
    ∃ data, event = .takerPaymentSpent data ∧ data.transaction = tx := by
  cases event with
  | takerPaymentSpent data =>
    refine ⟨data, rfl, ?_⟩
    simpa [finalMakerEvents, convertTakerEvent, eq_comm] using hmem
  | _ =>
    simp [finalMakerEvents, convertTakerEvent, makerRefund] at hmem

theorem tellsSpend_convert_iff (events : List (SavedEvent TakerSwapEvent)) :
    TellsSpend (events.map event)
        ((convertTakerToMakerEvents debug waitRefundUntil events).map event) ↔
      SpendComesFirst (events.map event) := by
  have hpassing : ∀ {converted},
      converted ∈ (convertTakerToMakerEvents debug waitRefundUntil events).map event →
      _ := fun hmem => passing_or_final_of_mem convertTakerEvent_done convertTakerEvent_goOn hmem
  constructor
  · intro htells hrec
    obtain ⟨⟨data, -, hmem⟩, -⟩ := htells hrec
    rcases hpassing hmem with hpasses | ⟨event, hfind, hfinal⟩
    · exact absurd rfl (hpasses.2 data.transaction)
    · obtain ⟨spent, rfl, -⟩ := finalMakerEvents_spent hfinal
      exact ⟨spent, hfind⟩
  · intro hfirst hrec
    obtain ⟨data, hfind⟩ := hfirst hrec
    refine ⟨⟨data, List.mem_of_find?_eq_some hfind, ?_⟩, ?_⟩
    · refine mem_convertEvents convertTakerEvent_done ?_ hfind none ?_
      · intro takerFeeIdent event hgoes
        obtain ⟨next, converted, hconv, -⟩ := convertTakerEvent_goOn takerFeeIdent event hgoes
        exact ⟨next, converted, hconv⟩
      · simp [finalMakerEvents, convertTakerEvent]
    · intro converted hmem
      rcases hpassing hmem with hpasses | ⟨event, hfound, hfinal⟩
      · exact hpasses.1
      · rw [hfind, Option.some.injEq] at hfound
        subst hfound
        simp only [finalMakerEvents, convertTakerEvent, List.mem_cons,
          List.not_mem_nil, or_false] at hfinal
        rcases hfinal with rfl | rfl | rfl | rfl | rfl <;> simp [requiresRefund, getCommand]

end Maker

/-! ## The taker's journal -/

def MakerSwapEvent.endsConversion : MakerSwapEvent → Bool
  | .takerFeeValidateFailed _ | .makerPaymentTransactionFailed _ | .makerPaymentDataSendFailed _
  | .makerPaymentWaitConfirmFailed _ | .takerPaymentValidateFailed _ | .takerPaymentSpendFailed _
  | .takerPaymentWaitConfirmFailed _ | .takerPaymentSpent _ => true
  | _ => false

/-- The taker's journal has a recorded spend with the secret that the taker coin
reads from it. -/
def TellsSecret (takerCoin : ExtractSecret) (secretHash : Bytes)
    (makerJournal : List MakerSwapEvent) (takerJournal : List TakerSwapEvent) : Prop :=
  ∃ tx secret, .takerPaymentSpent tx ∈ makerJournal ∧ takerCoin secretHash tx.txHex = .ok secret ∧
    .takerPaymentSpent ⟨tx, secret⟩ ∈ takerJournal

/-- No failure is recorded before the spend, and both coins read one secret from
it. -/
def CoinsAgree (makerCoin takerCoin : ExtractSecret) (secretHash : Bytes)
    (makerJournal : List MakerSwapEvent) : Prop :=
  ∃ tx secret, makerJournal.find? MakerSwapEvent.endsConversion = some (.takerPaymentSpent tx) ∧
    makerCoin secretHash tx.txHex = .ok secret ∧
    takerCoin secretHash tx.txHex = .ok secret

section Taker

variable {debug : MakerSwapEvent → String} {makerCoin takerCoin : ExtractSecret}
  {secretHash : Bytes} {waitRefundUntil : UInt64}

def finalTakerEvents (debug : MakerSwapEvent → String) (makerCoin : ExtractSecret)
    (secretHash : Bytes) (waitRefundUntil : UInt64) (event : MakerSwapEvent) :
    List TakerSwapEvent :=
  match convertMakerEvent debug makerCoin secretHash waitRefundUntil () event with
  | .done events => events
  | .goOn _ _ => []

theorem convertMakerEvent_done (state : Unit) (event : MakerSwapEvent)
    (hends : event.endsConversion = true) :
    convertMakerEvent debug makerCoin secretHash waitRefundUntil state event =
      .done (finalTakerEvents debug makerCoin secretHash waitRefundUntil event) := by
  cases event with
  | takerPaymentSpent tx =>
    cases hsec : makerCoin secretHash tx.txHex with
    | ok secret => simp [finalTakerEvents, convertMakerEvent, hsec]
    | error err =>
      simp [finalTakerEvents, convertMakerEvent, hsec, takerRefund]
  | _ => first | rfl | cases hends

theorem convertMakerEvent_goOn (state : Unit) (event : MakerSwapEvent)
    (hgoes : event.endsConversion = false) :
    ∃ next events,
      convertMakerEvent debug makerCoin secretHash waitRefundUntil state event = .goOn next events ∧
      ∀ converted ∈ events, ∀ data, converted ≠ .takerPaymentSpent data := by
  cases event with
  | _ =>
    first
      | exact ⟨_, _, rfl, by simp⟩
      | cases hgoes

theorem finalTakerEvents_spent {event : MakerSwapEvent} {data : TakerPaymentSpentData}
    (hmem : .takerPaymentSpent data ∈ finalTakerEvents debug makerCoin secretHash
      waitRefundUntil event) :
    event = .takerPaymentSpent data.transaction ∧
      makerCoin secretHash data.transaction.txHex = .ok data.secret := by
  cases event with
  | takerPaymentSpent tx =>
    cases hsec : makerCoin secretHash tx.txHex with
    | ok secret =>
      simp only [finalTakerEvents, convertMakerEvent, hsec,
        List.mem_singleton, TakerSwapEvent.takerPaymentSpent.injEq] at hmem
      rw [hmem]
      exact ⟨rfl, hsec⟩
    | error err =>
      simp [finalTakerEvents, convertMakerEvent, hsec, takerRefund] at hmem
  | _ => simp [finalTakerEvents, convertMakerEvent, takerRefund] at hmem

theorem tellsSecret_convert_iff (events : List (SavedEvent MakerSwapEvent)) :
    TellsSecret takerCoin secretHash (events.map event)
        ((convertMakerToTakerEvents debug makerCoin secretHash waitRefundUntil
          events).map event) ↔
      CoinsAgree makerCoin takerCoin secretHash (events.map event) := by
  constructor
  · rintro ⟨tx, secret, -, htaker, hmem⟩
    rcases passing_or_final_of_mem convertMakerEvent_done convertMakerEvent_goOn
      hmem with hpasses | ⟨event, hfind, hfinal⟩
    · exact absurd rfl (hpasses ⟨tx, secret⟩)
    · obtain ⟨rfl, hmaker⟩ := finalTakerEvents_spent hfinal
      exact ⟨tx, secret, hfind, hmaker, htaker⟩
  · rintro ⟨tx, secret, hfind, hmaker, htaker⟩
    refine ⟨tx, secret, List.mem_of_find?_eq_some hfind, htaker, ?_⟩
    refine mem_convertEvents convertMakerEvent_done ?_ hfind () ?_
    · intro state event hgoes
      obtain ⟨next, converted, hconv, -⟩ := convertMakerEvent_goOn state event hgoes
      exact ⟨next, converted, hconv⟩
    · simp [finalTakerEvents, convertMakerEvent, hmaker]

end Taker

/-! ## Both journals -/

variable {takerJournal : List TakerSwapEvent} {makerJournal : List MakerSwapEvent}

variable {negotiated : MakerNegotiationData} {started : TakerSwapData} {secretHash : Bytes}

theorem tellsSecret_cons_cons {takerCoin : ExtractSecret}
    {started : MakerSwapData} {negotiated : TakerNegotiationData}
    {takerStarted : TakerSwapData} {makerNegotiated : MakerNegotiationData} :
    TellsSecret takerCoin secretHash (.started started :: .negotiated negotiated :: makerJournal)
        (.started takerStarted :: .negotiated makerNegotiated :: takerJournal) ↔
      TellsSecret takerCoin secretHash makerJournal takerJournal := by
  simp [TellsSecret]

theorem coinsAgree_cons_cons {makerCoin takerCoin : ExtractSecret}
    {started : MakerSwapData} {negotiated : TakerNegotiationData} :
    CoinsAgree makerCoin takerCoin secretHash
        (.started started :: .negotiated negotiated :: makerJournal) ↔
      CoinsAgree makerCoin takerCoin secretHash makerJournal := by
  simp [CoinsAgree, endsConversion]

/-- The recreated journal of a maker tells the spend that the taker recorded exactly
if the taker recorded no failure before it.  The recreated journal of a taker has the
secret exactly if the maker coin, which reads it, is active and reads what the taker
coin reads. -/
theorem recreated_events_true_iff (takerDebug : TakerSwapEvent → String)
    (makerDebug : MakerSwapEvent → String) (coinFind : CoinFind) :
    (∀ takerSwap maker, recreateMakerSwap takerDebug takerSwap = .ok maker →
      (TellsSpend takerSwap.journal maker.journal ↔
        SpendComesFirst takerSwap.journal)) ∧
    (∀ makerSwap started negotiated rest secretHash takerCoin,
      makerSwap.journal = .started started :: .negotiated negotiated :: rest →
      started.secretHash = some secretHash →
      coinFind started.takerCoin = .ok (some takerCoin) →
      ((∃ taker, recreateTakerSwap makerDebug coinFind makerSwap = .ok taker ∧
          TellsSecret takerCoin secretHash makerSwap.journal taker.journal) ↔
        ∃ makerCoin, coinFind started.makerCoin = .ok (some makerCoin) ∧
          CoinsAgree makerCoin takerCoin secretHash makerSwap.journal)) := by
  constructor
  · intro takerSwap maker hok
    obtain ⟨startedAt, started, negotiatedAt, negotiated, events, hevents,
      hmaker⟩ := recreateMakerSwap_journal hok
    rw [hmaker, SavedSwap.journal, hevents]
    simpa [TellsSpend, SpendComesFirst, requiresRefund,
      getCommand, TakerSwapEvent.endsConversion] using tellsSpend_convert_iff events
  · intro makerSwap started negotiated rest secretHash takerCoin hjournal hhash hfound
    constructor
    · rintro ⟨taker, hok, htells⟩
      obtain ⟨startedAt, started', negotiatedAt, negotiated', events, secretHash',
        makerCoin, hevents, hhash', hcoin, htaker⟩ := recreateTakerSwap_journal hok
      rw [SavedSwap.journal, hevents] at hjournal htells
      cases hjournal
      rw [hhash, Option.some.injEq] at hhash'
      subst hhash'
      refine ⟨makerCoin, hcoin, ?_⟩
      rw [htaker, List.map_cons, List.map_cons, tellsSecret_cons_cons] at htells
      rw [SavedSwap.journal, hevents, List.map_cons, List.map_cons, coinsAgree_cons_cons]
      exact (tellsSecret_convert_iff events).mp htells
    · rintro ⟨makerCoin, hcoin, hagree⟩
      obtain ⟨startedAt, negotiatedAt, events, hevents, rfl⟩ := SavedSwap.events_of_journal hjournal
      obtain ⟨taker, hok⟩ : ∃ taker, recreateTakerSwap makerDebug coinFind makerSwap = .ok taker :=
        recreateTakerSwap_isOk hevents hhash hcoin
      obtain ⟨_, _, _, _, events', secretHash', makerCoin', hevents', hhash',
        hcoin', htaker⟩ := recreateTakerSwap_journal hok
      rw [hevents] at hevents'
      cases hevents'
      rw [hhash, Option.some.injEq] at hhash'
      subst hhash'
      rw [hcoin, Except.ok.injEq, Option.some.injEq] at hcoin'
      subst hcoin'
      refine ⟨taker, hok, ?_⟩
      rw [hjournal, coinsAgree_cons_cons] at hagree
      rw [hjournal, htaker, tellsSecret_cons_cons]
      exact (tellsSecret_convert_iff events).mpr hagree

/-! ## Swaps that are recreated wrongly -/

def savedAt {ε : Type} (timestamp : UInt64) (journal : List ε) : SavedSwap ε where
  uuid := 7
  myOrderUuid := none
  events := journal.map (SavedEvent.mk timestamp)
  makerAmount := some 2
  makerCoin := some "RICK"
  takerAmount := some 1
  takerCoin := some "MORTY"

theorem journal_savedAt {ε : Type} (timestamp : UInt64) (journal : List ε) :
    (savedAt timestamp journal).journal = journal := by
  simp [savedAt, SavedSwap.journal, Function.comp_def]

def spentTakerRun : LiveRun TakerSwap TakerSwapCommand TakerSwapEvent :=
  sampleTakerRun (List.replicate 7 takerSucceeds)

def lateSpentTakerRun : LiveRun TakerSwap TakerSwapCommand TakerSwapEvent :=
  sampleTakerRun (List.replicate 6 takerSucceeds ++
    [{ takerSucceeds with takerPaymentSpend := .error "timeout" },
      { takerSucceeds with
        refundSearch := .spent (sampleTx 4) (.ok (List.replicate 32 7)) }])

def spentMakerRun : LiveRun MakerSwap MakerSwapCommand MakerSwapEvent :=
  sampleMakerRun (List.replicate 7 makerSucceeds)

/-- The maker coin cannot read the transactions of the taker coin. -/
def sampleCoinFind : CoinFind := fun ticker =>
  if ticker = "MORTY" then .ok (some fun _ _ => .ok (List.replicate 32 7))
  else .ok (some fun _ _ => .error "not a transaction of this coin")

/-- Both coins read the transactions of either. -/
def readingCoinFind : CoinFind := fun _ => .ok (some fun _ _ => .ok (List.replicate 32 7))

theorem spent_swap_recreated :
    (∃ maker,
      recreateMakerSwap (fun _ => "") (savedAt 0 spentTakerRun.journal) = .ok maker ∧
      TellsSpend spentTakerRun.journal maker.journal) ∧
    ∃ taker,
      recreateTakerSwap (fun _ => "") readingCoinFind (savedAt 0 spentMakerRun.journal) =
        .ok taker ∧
      TellsSecret (fun _ _ => .ok (List.replicate 32 7)) (List.replicate 20 1)
        (savedAt 0 spentMakerRun.journal).journal taker.journal := by
  have htrue := recreated_events_true_iff (fun _ => "") (fun _ => "") readingCoinFind
  constructor
  · obtain ⟨maker, hok⟩ : ∃ maker, recreateMakerSwap (fun _ => "")
        (savedAt 0 spentTakerRun.journal) = .ok maker := ⟨_, rfl⟩
    refine ⟨maker, hok, (htrue.1 _ _ hok).mpr fun _ => ?_⟩
    exact ⟨⟨sampleTx 4, List.replicate 32 7⟩, by decide +kernel⟩
  · exact (htrue.2 (savedAt 0 spentMakerRun.journal) _ _ _ _ _ rfl rfl rfl).mpr
      ⟨_, rfl, sampleTx 4, _, by decide +kernel, rfl, rfl⟩

/-- The maker is told to refund a payment whose counterpart it has spent, and the
taker to refund a payment that the maker has spent. -/
theorem spent_swap_recreated_as_refund :
    (.takerPaymentSpent ⟨sampleTx 4, List.replicate 32 7⟩ ∈
        lateSpentTakerRun.journal ∧
      (recreateMakerSwap (fun _ => "")
          (savedAt 0 lateSpentTakerRun.journal)).toOption.map
            (fun maker => maker.journal.drop 2) =
        some
          [.takerFeeValidated (sampleTx 1), .makerPaymentSent (sampleTx 2),
            .takerPaymentReceived (sampleTx 3), .takerPaymentWaitConfirmStarted,
            .takerPaymentSpendFailed "Origin Taker error event: ",
            .makerPaymentWaitRefundStarted 1700019300]) ∧
    (.takerPaymentSpent (sampleTx 4) ∈ spentMakerRun.journal ∧
      (recreateTakerSwap (fun _ => "") sampleCoinFind
          (savedAt 0 spentMakerRun.journal)).toOption.map
            (fun taker => taker.journal.drop 2) =
        some
          [.takerFeeSent (sampleTx 1), .makerPaymentReceived (sampleTx 2),
            .makerPaymentWaitConfirmStarted, .makerPaymentValidatedAndConfirmed,
            .takerPaymentSent (sampleTx 3),
            .takerPaymentWaitForSpendFailed "not a transaction of this coin",
            .takerPaymentWaitRefundStarted 1700011500]) := by
  decide +kernel

end KdfProtocol
