import KdfProtocol.RecreatedEvents
import KdfProtocol.SwapPayments

/-!
# Whether a recreated swap is the counterparty's

The journal of one side is compared with what that side negotiated: the keys, lock
times, amounts and secret hash of the other.  The live negotiation leaves the
persistent key of the other side empty, and the recreated swap takes it from there.
-/

namespace KdfProtocol

def emptyPubkey : Bytes := List.replicate 33 0

/-! ## Journals of a taker -/

namespace TakerSwap

structure AgreedOn (message : NegotiationDataMsg) (negotiation : MakerNegotiationData) : Prop where
  makerPaymentLocktime : negotiation.makerPaymentLocktime = message.paymentLocktime
  makerPubkey : negotiation.makerPubkey = emptyPubkey
  secretHash : negotiation.secretHash = message.secretHash
  makerCoinHtlcPubkey : negotiation.makerCoinHtlcPubkey = message.makerCoinHtlcPub
  takerCoinHtlcPubkey : negotiation.takerCoinHtlcPubkey = message.takerCoinHtlcPub

variable {coins : SwapCoins} {swap : TakerSwap} {answers : TakerAnswers}
  {command : TakerSwapCommand} {e : TakerExit}

theorem agreedOn_of_checkMakerData {negotiation : MakerNegotiationData}
    (hok : swap.checkMakerData coins answers = .ok negotiation) :
    ∃ message, answers.negotiation = .ok message ∧ AgreedOn message negotiation := by
  simp only [checkMakerData, except_bind_eq_ok, answered_eq_ok] at hok
  obtain ⟨message, hmsg, _, -, _, -, _, -, _, -, _, -, _, -, _, -, _, -,
    _, -, _, -, _, -, hdata⟩ := hok
  cases hdata
  exact ⟨message, hmsg, rfl, rfl, rfl, rfl, rfl⟩

theorem Ends.pastOpening (hends : Ends coins swap answers command e)
    (hpast : PastOpening .start .negotiate (some command)) :
    PastOpening .start .negotiate e.next ∧ ∀ event ∈ e.events,
      PastOpening .start .negotiate event.getCommand := by
  cases hends with
  | startFailed err hans | started data hans hdata => exact absurd rfl hpast.1
  | negotiateFailed err | negotiated data => exact absurd rfl hpast.2
  | _ =>
    simp [PastOpening, finishWith, TakerSwap.takerPaymentSent, refundAfter,
      TakerSwapEvent.getCommand]

/-- The swap can only finish. -/
def Dead (next : Option TakerSwapCommand) : Prop :=
  next = some .finish ∨ next = none

theorem Ends.dead (hends : Ends coins swap answers command e) (hdead : Dead (some command)) :
    Dead e.next ∧ ∀ event ∈ e.events,
      (¬∃ data, event = .negotiated data) ∧ Dead event.getCommand := by
  have hfinish : command = .finish := by simpa [Dead] using hdead
  rw [hfinish] at hends
  cases hends
  simp [Dead, TakerSwapEvent.getCommand]

theorem opens (keys : NodeKeys) (coins : SwapCoins) (paymentLocktime : UInt64)
    (heard : TakerAnswers → Prop) :
    Opens (program keys coins) (startNew keys paymentLocktime) .start .negotiate heard
      (fun event => ∃ data, event = .started data ∧ StartedBy coins keys.node paymentLocktime data)
      (fun event => ∃ data answers message, event = .negotiated data ∧
        heard answers ∧ answers.negotiation = .ok message ∧ AgreedOn message data)
      (fun event => ∃ data, event = .negotiated data) Dead where
  events_ne_nil _ _ _ _ hexit := (ends_of_handle hexit).events_ne_nil
  load_command _ _ _ hload := (loadsFromFirst keys coins).load_command hload
  not_settled := by
    rintro event ⟨data, rfl, -⟩ ⟨negotiation, heq⟩
    cases heq
  begins answers exit hexit := by
    cases ends_of_handle hexit with
    | startFailed err hans => exact ⟨_, rfl, Or.inr ⟨by simp, Or.inl rfl, Or.inl rfl⟩⟩
    | started data hans hdata => exact ⟨_, rfl, Or.inl ⟨⟨data, rfl, hdata⟩, rfl, rfl⟩⟩
  agrees swap answers exit hheard hexit := by
    have hnegotiate : swap.negotiate coins answers = .exited exit := hexit
    rcases exitOr_eq_exited hnegotiate with ⟨data, hdata, rfl⟩ | ⟨err, -, rfl⟩
    · obtain ⟨message, hmsg, hagreed⟩ := agreedOn_of_checkMakerData hdata
      refine ⟨_, rfl, Or.inl ⟨⟨data, answers, message, rfl, hheard, hmsg, hagreed⟩, ?_, ?_⟩⟩
      · simp [PastOpening]
      · simp [PastOpening, program, TakerSwapEvent.getCommand]
    · exact ⟨_, rfl, Or.inr ⟨by simp, Or.inl rfl, Or.inl rfl⟩⟩
  goesOn _ _ _ _ hpast hexit := (ends_of_handle hexit).pastOpening hpast
  staysDead _ _ _ _ hdead hexit := (ends_of_handle hexit).dead hdead

end TakerSwap

/-- The journal opens with what the taker started with and what it took from the
message of the maker, which it heard during the run. -/
def TakerSwap.Negotiated (events : List (CrashEvent TakerAnswers)) (journal : List TakerSwapEvent)
    (started : TakerSwapData) (message : NegotiationDataMsg) : Prop :=
  ∃ negotiation rest answers, journal = .started started :: .negotiated negotiation :: rest ∧
    .execute answers ∈ events ∧ answers.negotiation = .ok message ∧
    AgreedOn message negotiation

variable {coins : SwapCoins} {takerPub makerPub : Bytes} {lockDuration : UInt64}
  {message : NegotiationDataMsg} {started : TakerSwapData}

theorem TakerSwap.negotiated_of_mem {keys : NodeKeys} {paymentLocktime : UInt64}
    {events : List (CrashEvent TakerAnswers)} {journal : List TakerSwapEvent}
    (hjournal : (run (CrashRun.step (program keys coins))
      (takerCrashRun keys paymentLocktime) events).journal = journal)
    (hmem : ∃ data, .negotiated data ∈ journal) :
    ∃ started message, Negotiated events journal started message ∧
      StartedBy coins keys.node paymentLocktime started := by
  obtain ⟨data, hmem⟩ := hmem
  obtain ⟨_, _, rest, heq, ⟨started, rfl, hstart⟩,
      negotiation, answers, message, rfl, hheard, hmsg, hagreed⟩ :=
    (opens keys coins paymentLocktime (.execute · ∈ events)).journal_of_settled
      (fun _ hmem => hmem) hjournal hmem ⟨data, rfl⟩
  exact ⟨started, message, ⟨negotiation, rest, answers, heq, hheard, hmsg, hagreed⟩, hstart⟩

/-! ## The maker side of a taker's swap -/

/-- What the two opening events of a maker's journal fix of the swap. -/
structure MakerSide where
  myPersistentPub : Bytes
  taker : Bytes
  takerPubkey : Bytes
  makerCoinHtlcPubkey : Bytes
  takerCoinHtlcPubkey : Bytes
  otherMakerCoinHtlcPubkey : Bytes
  otherTakerCoinHtlcPubkey : Bytes
  lockDuration : UInt64
  makerPaymentLock : UInt64
  takerPaymentLock : UInt64
  makerAmount : ℚ
  takerAmount : ℚ
  secretHash : Option Bytes

def makerSide? : List MakerSwapEvent → Option MakerSide
  | .started data :: .negotiated negotiation :: _ => some
      { myPersistentPub := data.myPersistentPub
        taker := data.taker
        takerPubkey := negotiation.takerPubkey
        makerCoinHtlcPubkey := data.makerCoinHtlcPubkey
        takerCoinHtlcPubkey := data.takerCoinHtlcPubkey
        otherMakerCoinHtlcPubkey := negotiation.makerCoinHtlcPubkey
        otherTakerCoinHtlcPubkey := negotiation.takerCoinHtlcPubkey
        lockDuration := data.lockDuration
        makerPaymentLock := data.makerPaymentLock
        takerPaymentLock := negotiation.takerPaymentLocktime
        makerAmount := data.terms.makerAmount
        takerAmount := data.terms.takerAmount
        secretHash := data.secretHash }
  | _ => none

def makerSideOf (makerPub takerPub : Bytes) (terms : MatchedTerms) (lockDuration : UInt64)
    (message : NegotiationDataMsg) (started : TakerSwapData) : MakerSide where
  myPersistentPub := makerPub
  taker := p2pPubkey takerPub
  takerPubkey := takerPub
  makerCoinHtlcPubkey := message.makerCoinHtlcPub
  takerCoinHtlcPubkey := message.takerCoinHtlcPub
  otherMakerCoinHtlcPubkey := started.makerCoinHtlcPubkey
  otherTakerCoinHtlcPubkey := started.takerCoinHtlcPubkey
  lockDuration := lockDuration
  makerPaymentLock := message.paymentLocktime
  takerPaymentLock := started.takerPaymentLock
  makerAmount := terms.makerAmount
  takerAmount := terms.takerAmount
  secretHash := some message.secretHash

theorem makerSideOf_eq_iff {terms : MatchedTerms} :
    makerSideOf emptyPubkey takerPub terms lockDuration message started =
        makerSideOf makerPub takerPub terms lockDuration message started ↔
      makerPub = emptyPubkey := by
  simp [makerSideOf, eq_comm]

def RecreatesMaker (debug : TakerSwapEvent → String) (saved : TakerSavedSwap)
    (side : MakerSide) : Prop :=
  ∃ maker, recreateMakerSwap debug saved = .ok maker ∧ makerSide? maker.journal = some side

theorem recreatesMaker_iff {debug : TakerSwapEvent → String}
    {events : List (CrashEvent TakerAnswers)} {saved : TakerSavedSwap}
    (hneg : TakerSwap.Negotiated events saved.journal started message)
    (hstart : TakerSwap.StartedBy coins takerPub lockDuration started) :
    RecreatesMaker debug saved
        (makerSideOf makerPub takerPub coins.terms lockDuration message started) ↔
      makerPub = emptyPubkey := by
  obtain ⟨negotiation, rest, answers, hjournal, -, -, hagreed⟩ := hneg
  obtain ⟨startedAt, negotiatedAt, events, hevents, -⟩ := SavedSwap.events_of_journal hjournal
  obtain ⟨maker, hok⟩ : ∃ maker, recreateMakerSwap debug saved = .ok maker := by
    rw [recreateMakerSwap, hevents]
    exact ⟨_, rfl⟩
  have hside : makerSide? maker.journal =
      some (makerSideOf emptyPubkey takerPub coins.terms lockDuration message started) := by
    obtain ⟨_, _, _, _, _, hevents', hmaker⟩ := recreateMakerSwap_journal hok
    rw [hevents] at hevents'
    cases hevents'
    rw [hmaker]
    simp only [makerSide?, recreatedMakerData, recreatedTakerNegotiation,
      makerSideOf, hagreed.makerPubkey, hagreed.secretHash,
      hagreed.makerPaymentLocktime, hagreed.makerCoinHtlcPubkey,
      hagreed.takerCoinHtlcPubkey, hstart.myPersistentPub, hstart.lockDuration, hstart.terms]
  simp [RecreatesMaker, hok, hside, makerSideOf_eq_iff]

/-! ## Journals of a maker -/

namespace MakerSwap

structure AgreedOn (message : NegotiationDataMsg) (negotiation : TakerNegotiationData) : Prop where
  takerPaymentLocktime : negotiation.takerPaymentLocktime = message.paymentLocktime
  takerPubkey : negotiation.takerPubkey = emptyPubkey
  makerCoinHtlcPubkey : negotiation.makerCoinHtlcPubkey = message.makerCoinHtlcPub
  takerCoinHtlcPubkey : negotiation.takerCoinHtlcPubkey = message.takerCoinHtlcPub

variable {coins : SwapCoins} {swap : MakerSwap} {answers : MakerAnswers}
  {command : MakerSwapCommand} {e : MakerExit}

theorem agreedOn_of_checkTakerData {negotiation : TakerNegotiationData}
    (hok : swap.checkTakerData coins answers = .ok negotiation) :
    ∃ message, answers.negotiationReply = .ok message ∧ AgreedOn message negotiation := by
  simp only [checkTakerData, except_bind_eq_ok, answered_eq_ok] at hok
  obtain ⟨message, hmsg, _, -, _, -, _, -, _, -, _, -, _, -, _, -, _, -, hdata⟩ := hok
  cases hdata
  exact ⟨message, hmsg, rfl, rfl, rfl, rfl⟩

theorem Ends.pastOpening (hends : Ends coins swap answers command e)
    (hpast : PastOpening .start .negotiate (some command)) :
    PastOpening .start .negotiate e.next ∧ ∀ event ∈ e.events,
      PastOpening .start .negotiate event.getCommand := by
  cases hends with
  | startFailed err hans | started data hans hdata => exact absurd rfl hpast.1
  | negotiateFailed err | negotiated data => exact absurd rfl hpast.2
  | waitFailed failed hfail | validateFailed failed hfail
  | spendFailed failed sent hfail hsent | confirmFailed failed hfail =>
    have hrefund : PastOpening .start .negotiate (some MakerSwapCommand.refundMakerPayment) := by
      simp [PastOpening]
    exact ⟨hrefund, forall_refundAfter hrefund hfail⟩
  | _ =>
    simp [PastOpening, finishWith, MakerSwap.takerFeeValidated,
      MakerSwap.makerPaymentSent, MakerSwapEvent.getCommand]

def Dead (next : Option MakerSwapCommand) : Prop :=
  next = some .finish ∨ next = none

theorem Ends.dead (hends : Ends coins swap answers command e) (hdead : Dead (some command)) :
    Dead e.next ∧ ∀ event ∈ e.events,
      (¬∃ data, event = .negotiated data) ∧ Dead event.getCommand := by
  have hfinish : command = .finish := by simpa [Dead] using hdead
  rw [hfinish] at hends
  cases hends
  simp [Dead, MakerSwapEvent.getCommand]

theorem opens (keys : NodeKeys) (coins : SwapCoins) (paymentLocktime : UInt64)
    (heard : MakerAnswers → Prop) :
    Opens (program keys coins) (startNew keys paymentLocktime) .start .negotiate heard
      (fun event => ∃ data, event = .started data ∧ StartedBy coins keys.node paymentLocktime data)
      (fun event => ∃ data answers message, event = .negotiated data ∧
        heard answers ∧ answers.negotiationReply = .ok message ∧ AgreedOn message data)
      (fun event => ∃ data, event = .negotiated data) Dead where
  events_ne_nil _ _ _ _ hexit := (ends_of_handle hexit).events_ne_nil
  load_command _ _ _ hload := (loadsFromFirst keys coins).load_command hload
  not_settled := by
    rintro event ⟨data, rfl, -⟩ ⟨negotiation, heq⟩
    cases heq
  begins answers exit hexit := by
    cases ends_of_handle hexit with
    | startFailed err hans => exact ⟨_, rfl, Or.inr ⟨by simp, Or.inl rfl, Or.inl rfl⟩⟩
    | started data hans hdata => exact ⟨_, rfl, Or.inl ⟨⟨data, rfl, hdata⟩, rfl, rfl⟩⟩
  agrees swap answers exit hheard hexit := by
    have hnegotiate : swap.negotiate coins answers = .exited exit := hexit
    rcases exitOr_eq_exited hnegotiate with ⟨data, hdata, rfl⟩ | ⟨err, -, rfl⟩
    · obtain ⟨message, hmsg, hagreed⟩ := agreedOn_of_checkTakerData hdata
      refine ⟨_, rfl, Or.inl ⟨⟨data, answers, message, rfl, hheard, hmsg, hagreed⟩, ?_, ?_⟩⟩
      · simp [PastOpening]
      · simp [PastOpening, program, MakerSwapEvent.getCommand]
    · exact ⟨_, rfl, Or.inr ⟨by simp, Or.inl rfl, Or.inl rfl⟩⟩
  goesOn _ _ _ _ hpast hexit := (ends_of_handle hexit).pastOpening hpast
  staysDead _ _ _ _ hdead hexit := (ends_of_handle hexit).dead hdead

end MakerSwap

def MakerSwap.Negotiated (events : List (CrashEvent MakerAnswers)) (journal : List MakerSwapEvent)
    (started : MakerSwapData) (message : NegotiationDataMsg) : Prop :=
  ∃ negotiation rest answers, journal = .started started :: .negotiated negotiation :: rest ∧
    .execute answers ∈ events ∧ answers.negotiationReply = .ok message ∧
    AgreedOn message negotiation

theorem MakerSwap.negotiated_of_mem {keys : NodeKeys} {paymentLocktime : UInt64}
    {events : List (CrashEvent MakerAnswers)} {journal : List MakerSwapEvent}
    (hjournal : (run (CrashRun.step (program keys coins))
      (makerCrashRun keys paymentLocktime) events).journal = journal)
    (hmem : ∃ data, .negotiated data ∈ journal) :
    ∃ started message, Negotiated events journal started message ∧
      StartedBy coins keys.node paymentLocktime started := by
  obtain ⟨data, hmem⟩ := hmem
  obtain ⟨_, _, rest, heq, ⟨started, rfl, hstart⟩,
      negotiation, answers, message, rfl, hheard, hmsg, hagreed⟩ :=
    (opens keys coins paymentLocktime (.execute · ∈ events)).journal_of_settled
      (fun _ hmem => hmem) hjournal hmem ⟨data, rfl⟩
  exact ⟨started, message, ⟨negotiation, rest, answers, heq, hheard, hmsg, hagreed⟩, hstart⟩

/-! ## The taker side of a maker's swap -/

structure TakerSide where
  myPersistentPub : Bytes
  maker : Bytes
  makerPubkey : Bytes
  makerCoinHtlcPubkey : Bytes
  takerCoinHtlcPubkey : Bytes
  otherMakerCoinHtlcPubkey : Bytes
  otherTakerCoinHtlcPubkey : Bytes
  lockDuration : UInt64
  makerPaymentLock : UInt64
  takerPaymentLock : UInt64
  makerAmount : ℚ
  takerAmount : ℚ
  secretHash : Bytes

def takerSide? : List TakerSwapEvent → Option TakerSide
  | .started data :: .negotiated negotiation :: _ => some
      { myPersistentPub := data.myPersistentPub
        maker := data.maker
        makerPubkey := negotiation.makerPubkey
        makerCoinHtlcPubkey := data.makerCoinHtlcPubkey
        takerCoinHtlcPubkey := data.takerCoinHtlcPubkey
        otherMakerCoinHtlcPubkey := negotiation.makerCoinHtlcPubkey
        otherTakerCoinHtlcPubkey := negotiation.takerCoinHtlcPubkey
        lockDuration := data.lockDuration
        makerPaymentLock := negotiation.makerPaymentLocktime
        takerPaymentLock := data.takerPaymentLock
        makerAmount := data.terms.makerAmount
        takerAmount := data.terms.takerAmount
        secretHash := negotiation.secretHash }
  | _ => none

def takerSideOf (takerPub makerPub : Bytes) (terms : MatchedTerms) (lockDuration : UInt64)
    (message : NegotiationDataMsg) (started : MakerSwapData) (secretHash : Bytes) : TakerSide where
  myPersistentPub := takerPub
  maker := p2pPubkey makerPub
  makerPubkey := makerPub
  makerCoinHtlcPubkey := message.makerCoinHtlcPub
  takerCoinHtlcPubkey := message.takerCoinHtlcPub
  otherMakerCoinHtlcPubkey := started.makerCoinHtlcPubkey
  otherTakerCoinHtlcPubkey := started.takerCoinHtlcPubkey
  lockDuration := lockDuration
  makerPaymentLock := started.makerPaymentLock
  takerPaymentLock := message.paymentLocktime
  makerAmount := terms.makerAmount
  takerAmount := terms.takerAmount
  secretHash := secretHash

theorem takerSideOf_eq_iff {terms : MatchedTerms} {started : MakerSwapData} {secretHash : Bytes} :
    takerSideOf emptyPubkey makerPub terms lockDuration message started secretHash =
        takerSideOf takerPub makerPub terms lockDuration message started secretHash ↔
      takerPub = emptyPubkey := by
  simp [takerSideOf, eq_comm]

def RecreatesTaker (debug : MakerSwapEvent → String) (coinFind : CoinFind)
    (saved : MakerSavedSwap) (side : TakerSide) : Prop :=
  ∃ taker, recreateTakerSwap debug coinFind saved = .ok taker ∧ takerSide? taker.journal = some side

theorem recreatesTaker_iff {debug : MakerSwapEvent → String} {coinFind : CoinFind}
    {events : List (CrashEvent MakerAnswers)} {saved : MakerSavedSwap} {started : MakerSwapData}
    {secretHash : Bytes} (hneg : MakerSwap.Negotiated events saved.journal started message)
    (hstart : MakerSwap.StartedBy coins makerPub lockDuration started)
    (hhash : started.secretHash = some secretHash) :
    RecreatesTaker debug coinFind saved
        (takerSideOf takerPub makerPub coins.terms lockDuration message started secretHash) ↔
      takerPub = emptyPubkey ∧ ∃ coin, coinFind coins.makerTicker = .ok (some coin) := by
  obtain ⟨negotiation, rest, answers, hjournal, -, -, hagreed⟩ := hneg
  obtain ⟨startedAt, negotiatedAt, events, hevents, -⟩ := SavedSwap.events_of_journal hjournal
  -- A recreated journal always shows the empty key, and only an active maker coin
  -- lets it be recreated.
  have hside : ∀ taker, recreateTakerSwap debug coinFind saved = .ok taker →
      (∃ coin, coinFind coins.makerTicker = .ok (some coin)) ∧ takerSide? taker.journal =
          some (takerSideOf emptyPubkey makerPub coins.terms lockDuration message
            started secretHash) := by
    intro taker hok
    obtain ⟨_, _, _, _, _, _, coin, hevents', hhash', hcoin, htaker⟩ :=
      recreateTakerSwap_journal hok
    rw [hevents] at hevents'
    cases hevents'
    rw [hhash] at hhash'
    cases hhash'
    rw [hstart.makerCoin] at hcoin
    refine ⟨⟨coin, hcoin⟩, ?_⟩
    rw [htaker]
    simp only [takerSide?, recreatedTakerData, recreatedMakerNegotiation,
      takerSideOf, hagreed.takerPubkey, hagreed.takerPaymentLocktime,
      hagreed.makerCoinHtlcPubkey, hagreed.takerCoinHtlcPubkey,
      hstart.myPersistentPub, hstart.lockDuration, hstart.terms]
  constructor
  · rintro ⟨taker, hok, hsame⟩
    obtain ⟨hcoin, hempty⟩ := hside taker hok
    rw [hempty] at hsame
    exact ⟨takerSideOf_eq_iff.mp (Option.some.inj hsame), hcoin⟩
  · rintro ⟨hpub, coin, hcoin⟩
    rw [← hstart.makerCoin] at hcoin
    obtain ⟨taker, hok⟩ : ∃ taker, recreateTakerSwap debug coinFind saved = .ok taker :=
      recreateTakerSwap_isOk hevents hhash hcoin
    refine ⟨taker, hok, (hside taker hok).2.trans ?_⟩
    exact congrArg some (takerSideOf_eq_iff.mpr hpub)

/-! ## Both sides -/

/-- Whatever crashes, a journal with a negotiation is recreated as the swap of the
counterparty, except for its persistent key: that one is right only if it is the
empty key.  The taker swap also needs the maker coin. -/
theorem recreated_counterpart_iff (keys : NodeKeys) (coins : SwapCoins) (paymentLocktime : UInt64)
    (otherPub : Bytes) (debugTaker : TakerSwapEvent → String) (debugMaker : MakerSwapEvent → String)
    (coinFind : CoinFind) :
    (∀ (events : List (CrashEvent TakerAnswers)) (saved : TakerSavedSwap),
      (run (CrashRun.step (TakerSwap.program keys coins))
        (takerCrashRun keys paymentLocktime) events).journal = saved.journal →
      (∃ data, .negotiated data ∈ saved.journal) →
      ∃ started message,
        TakerSwap.Negotiated events saved.journal started message ∧
        (RecreatesMaker debugTaker saved
            (makerSideOf otherPub keys.node coins.terms paymentLocktime message
              started) ↔
          otherPub = emptyPubkey)) ∧
    (∀ (events : List (CrashEvent MakerAnswers)) (saved : MakerSavedSwap),
      (run (CrashRun.step (MakerSwap.program keys coins))
        (makerCrashRun keys paymentLocktime) events).journal = saved.journal →
      (∃ data, .negotiated data ∈ saved.journal) →
      ∃ started message secretHash,
        MakerSwap.Negotiated events saved.journal started message ∧
        started.secretHash = some secretHash ∧
        (RecreatesTaker debugMaker coinFind saved
            (takerSideOf otherPub keys.node coins.terms paymentLocktime message
              started secretHash) ↔
          otherPub = emptyPubkey ∧
            ∃ coin, coinFind coins.makerTicker = .ok (some coin))) := by
  constructor
  · intro events saved hjournal hmem
    obtain ⟨started, message, hnegotiated, hstarted⟩ := TakerSwap.negotiated_of_mem hjournal hmem
    exact ⟨started, message, hnegotiated, recreatesMaker_iff hnegotiated hstarted⟩
  · intro events saved hjournal hmem
    obtain ⟨started, message, hnegotiated, hstarted⟩ := MakerSwap.negotiated_of_mem hjournal hmem
    obtain ⟨secretHash, hhash⟩ := hstarted.secretHash
    exact ⟨started, message, secretHash, hnegotiated, hhash,
      recreatesTaker_iff hnegotiated hstarted hhash⟩

def negotiatedTakerRun : List (CrashEvent TakerAnswers) :=
  executeAndSave takerSucceeds ++ executeAndSave takerSucceeds

def negotiatedMakerRun : List (CrashEvent MakerAnswers) :=
  executeAndSave makerSucceeds ++ executeAndSave makerSucceeds

def savedTakerNegotiation : TakerSavedSwap :=
  savedAt 0 (run (CrashRun.step (TakerSwap.program sampleKeys sampleCoins))
    (takerCrashRun sampleKeys 7800) negotiatedTakerRun).journal

def savedMakerNegotiation : MakerSavedSwap :=
  savedAt 0 (run (CrashRun.step (MakerSwap.program sampleKeys sampleCoins))
    (makerCrashRun sampleKeys 7800) negotiatedMakerRun).journal

theorem sample_counterpart_recreated :
    ∃ started message,
      TakerSwap.Negotiated negotiatedTakerRun savedTakerNegotiation.journal
        started message ∧
      RecreatesMaker (fun _ => "") savedTakerNegotiation
        (makerSideOf emptyPubkey sampleKeys.node sampleTerms 7800 message
          started) := by
  obtain ⟨started, message, hnegotiated, hiff⟩ :=
    (recreated_counterpart_iff sampleKeys sampleCoins 7800 emptyPubkey
      (fun _ => "") (fun _ => "") sampleCoinFind).1 negotiatedTakerRun
      savedTakerNegotiation rfl ⟨_, List.mem_cons_of_mem _ List.mem_cons_self⟩
  exact ⟨started, message, hnegotiated, hiff.mpr rfl⟩

/-- The recreated swaps take the empty key for the own one, whatever the key of
the counterparty is. -/
theorem recreated_with_empty_key :
    ((recreateMakerSwap (fun _ => "") savedTakerNegotiation).toOption.bind
        (fun maker => makerSide? maker.journal)).map
          MakerSide.myPersistentPub = some (List.replicate 33 0) ∧
    ((recreateTakerSwap (fun _ => "") sampleCoinFind
        savedMakerNegotiation).toOption.bind
        (fun taker => takerSide? taker.journal)).map
          TakerSide.myPersistentPub = some (List.replicate 33 0) := by
  decide +kernel

end KdfProtocol
