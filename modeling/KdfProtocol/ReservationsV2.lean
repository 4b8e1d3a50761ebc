import KdfProtocol.LockedAmountsV2

/-!
# What a V2 swap reserves

The entries of a swap are changed by its own events only, however many other
swaps use the ledger at the same time.  The volume and the fee of sending it are
filed under one kind, so the fee is left out if both belong in one bucket.
-/

namespace KdfProtocol

namespace V2

open BucketLedger

abbrev LockedAmountsOp := LedgerOp String Uuid LockedAmountV2Kind LockedAmount

inductive LedgerEffect where
  | reserves
  | pays
  | spends
  | keeps
  deriving DecidableEq

def LedgerEffect.isPays : LedgerEffect → Bool
  | .pays => true
  | _ => false

def LedgerEffect.isSpends : LedgerEffect → Bool
  | .spends => true
  | _ => false

namespace SwapReservation

def ops (swap : SwapReservation) : LedgerEffect → List LockedAmountsOp
  | .reserves =>
    [.reserve swap.uuid .volume swap.volumeCoin ⟨swap.volumeCoin, swap.volume, none⟩,
      .reserve swap.uuid .volume swap.sendFeeCoin ⟨swap.sendFeeCoin, swap.sendFee, none⟩,
      .reserve swap.uuid .spendHeadroom swap.spendFeeCoin ⟨swap.spendFeeCoin, swap.headroom, none⟩]
  | .pays =>
    [.release swap.uuid .volume swap.volumeCoin, .release swap.uuid .volume swap.sendFeeCoin]
  | .spends => [.release swap.uuid .spendHeadroom swap.spendFeeCoin]
  | .keeps => []

theorem owner_of_mem_ops {swap : SwapReservation} {effect : LedgerEffect}
    {op : LockedAmountsOp} (hop : op ∈ swap.ops effect) : op.owner = swap.uuid := by
  have hall : ∀ op ∈ swap.ops effect, op.owner = swap.uuid := by
    cases effect <;> simp [ops, LedgerOp.owner]
  exact hall op hop

/-! ## What a swap holds -/

/-- The entries of kind `volume`: in one bucket the volume keeps out the fee. -/
def volumeEntries (swap : SwapReservation) (coin : String) : List LockedAmount :=
  if coin = swap.volumeCoin then [⟨coin, swap.volume, none⟩]
  else if coin = swap.sendFeeCoin then [⟨coin, swap.sendFee, none⟩]
  else []

def headroomEntries (swap : SwapReservation) (coin : String) : List LockedAmount :=
  if coin = swap.spendFeeCoin then [⟨coin, swap.headroom, none⟩] else []

structure Holds (swap : SwapReservation) (volume headroom : Bool)
    (ledger : LockedAmountsV2) : Prop where
  volume : ∀ coin, held ledger swap.uuid .volume coin =
    if volume then swap.volumeEntries coin else []
  headroom : ∀ coin, held ledger swap.uuid .spendHeadroom coin =
    if headroom then swap.headroomEntries coin else []

variable {swap : SwapReservation} {ledger : LockedAmountsV2}

variable {volume headroom : Bool}

theorem Holds.reserveHeadroom (hholds : swap.Holds volume false ledger) :
    swap.Holds volume true (swap.reserveHeadroom ledger) where
  volume := by
    intro coin
    rw [SwapReservation.reserveHeadroom, reserveV2SpendHeadroom, reserveV2Amount,
      held_reserve, hholds.volume]
    simp
  headroom := by
    intro coin
    have hroom := hholds.headroom
    simp only [Bool.false_eq_true, if_false] at hroom
    rw [SwapReservation.reserveHeadroom, reserveV2SpendHeadroom, reserveV2Amount,
      held_reserve, hroom, hroom]
    by_cases hcoin : coin = swap.spendFeeCoin
    · simp [headroomEntries, hcoin]
    · simp [headroomEntries, hcoin]

theorem Holds.reserveVolume (hholds : swap.Holds false headroom ledger) :
    swap.Holds true headroom (swap.reserveVolume ledger) where
  volume := by
    intro coin
    have hvol := hholds.volume
    simp only [Bool.false_eq_true, if_false] at hvol
    simp only [SwapReservation.reserveVolume, reserveV2Amount, held_reserve, hvol, volumeEntries]
    by_cases hcoin : coin = swap.volumeCoin
    · subst hcoin
      by_cases hfee : swap.volumeCoin = swap.sendFeeCoin
      · simp [hfee]
      · simp [hfee]
    · by_cases hfee : coin = swap.sendFeeCoin
      · subst hfee
        simp [hcoin]
      · simp [hcoin, hfee]
  headroom := by
    intro coin
    simp only [SwapReservation.reserveVolume, reserveV2Amount, held_reserve, hholds.headroom]
    simp

theorem Holds.reserves (hholds : swap.Holds false false ledger) :
    swap.Holds true true ((swap.ops .reserves).foldl apply ledger) :=
  hholds.reserveVolume.reserveHeadroom

theorem Holds.pays (hholds : swap.Holds volume headroom ledger) :
    swap.Holds false headroom ((swap.ops .pays).foldl apply ledger) where
  volume := by
    intro coin
    simp only [ops, List.foldl_cons, List.foldl_nil, apply, held_release,
      hholds.volume, volumeEntries]
    by_cases hcoin : coin = swap.volumeCoin
    · simp [hcoin]
    · by_cases hfee : coin = swap.sendFeeCoin
      · simp [hfee]
      · simp [hcoin, hfee]
  headroom := by
    intro coin
    simp only [ops, List.foldl_cons, List.foldl_nil, apply, held_release, hholds.headroom]
    simp

theorem Holds.spends (hholds : swap.Holds volume headroom ledger) :
    swap.Holds volume false ((swap.ops .spends).foldl apply ledger) where
  volume := by
    intro coin
    simp only [ops, List.foldl_cons, List.foldl_nil, apply, held_release, hholds.volume]
    simp
  headroom := by
    intro coin
    simp only [ops, List.foldl_cons, List.foldl_nil, apply, held_release,
      hholds.headroom, headroomEntries]
    by_cases hcoin : coin = swap.spendFeeCoin
    · simp [hcoin]
    · simp [hcoin]

theorem settled_ops (swap : SwapReservation) (effect : LedgerEffect) (ledger : LockedAmountsV2) :
    ∀ op ∈ swap.ops effect, Settled ((swap.ops effect).foldl apply ledger) op := by
  cases effect with
  | reserves =>
    have hfilled : ∀ (ledger : LockedAmountsV2) kind coin payload,
        held (ledger.reserve swap.uuid kind coin payload) swap.uuid kind coin ≠ [] := by
      intro ledger kind coin payload
      rw [held_reserve]
      by_cases hnone : held ledger swap.uuid kind coin = []
      · simp [hnone]
      · simp [hnone]
    have hkept : ∀ {ledger : LockedAmountsV2} {kind coin} (kind' coin' payload),
        held ledger swap.uuid kind coin ≠ [] →
          held (ledger.reserve swap.uuid kind' coin' payload) swap.uuid kind coin ≠ [] := by
      intro ledger kind coin kind' coin' payload hsome
      rw [held_reserve]
      split
      · exact List.cons_ne_nil _ _
      · exact hsome
    intro op hop
    simp only [ops, List.mem_cons, List.not_mem_nil, or_false] at hop
    rcases hop with rfl | rfl | rfl
    · exact hkept _ _ _ (hkept _ _ _ (hfilled _ _ _ _))
    · exact hkept _ _ _ (hfilled _ _ _ _)
    · exact hfilled _ _ _ _
  | pays | spends | keeps => simp [ops, apply, Settled, held_release]

def filed (swap : SwapReservation) (volume headroom : Bool) (coin : String) : ℚ :=
  (if volume then
      if coin = swap.volumeCoin then swap.volume
      else if coin = swap.sendFeeCoin then swap.sendFee else 0
    else 0) +
  (if headroom then
      if coin = swap.spendFeeCoin then swap.headroom else 0
    else 0)

theorem Holds.sum_eq_filed (hholds : swap.Holds volume headroom ledger) (coin : String) :
    ∑ kind, ((held ledger swap.uuid kind coin).map fun locked =>
      locked.amount + locked.feeIn coin).sum = swap.filed volume headroom coin := by
  have hkinds : (Finset.univ : Finset LockedAmountV2Kind) = {.volume, .spendHeadroom} := rfl
  rw [hkinds, Finset.sum_pair (by decide), hholds.volume, hholds.headroom, filed]
  congr 1
  · cases volume with
    | false => rfl
    | true =>
      simp only [if_true, volumeEntries]
      split
      · simp [LockedAmount.feeIn]
      · split
        · simp [LockedAmount.feeIn]
        · rfl
  · cases headroom with
    | false => rfl
    | true =>
      simp only [if_true, headroomEntries]
      split
      · simp [LockedAmount.feeIn]
      · rfl

theorem filed_eq_owed_iff (swap : SwapReservation) :
    (∀ coin, swap.filed true true coin = swap.owed coin) ↔
      swap.sendFee = 0 ∨ swap.volumeCoin ≠ swap.sendFeeCoin := by
  constructor
  · intro hall
    by_cases hsame : swap.volumeCoin = swap.sendFeeCoin
    · have hcoin := hall swap.volumeCoin
      simp only [filed, owed, if_true, if_pos hsame] at hcoin
      left
      linarith
    · exact Or.inr hsame
  · rintro (hfee | hcoins) coin
    · simp [filed, owed, hfee]
    · simp only [filed, owed, if_true]
      by_cases hcoin : coin = swap.volumeCoin
      · subst hcoin
        simp [hcoins]
      · simp [hcoin]

end SwapReservation

/-! ## One swap among others -/

/-- The part of a machine that files its entries: the maker's and the taker's
are alike. -/
structure LedgerRole (μ ε : Type) where
  reservation : μ → SwapReservation
  onEvent : μ → ε → μ
  onEventLedger : μ → ε → LockedAmountsV2 → LockedAmountsV2
  cleanUpContext : μ → LockedAmountsV2 → LockedAmountsV2
  effect : ε → LedgerEffect
  onEvent_eq_self : ∀ machine event, effect event ≠ .reserves → onEvent machine event = machine
  onEvent_again : ∀ machine event, onEvent (onEvent machine event) event = onEvent machine event
  uuid_onEvent : ∀ machine event,
    (reservation (onEvent machine event)).uuid = (reservation machine).uuid
  onEventLedger_eq : ∀ machine event ledger,
    onEventLedger machine event ledger =
      ((reservation (onEvent machine event)).ops (effect event)).foldl apply ledger
  cleanUpContext_eq : ∀ machine ledger,
    cleanUpContext machine ledger = ledger.releaseAll (reservation machine).uuid

/-- An event of the swap, or an operation on the ledger that is not its own. -/
inductive LedgerInput (ε : Type) where
  | event (event : ε)
  | other (op : LockedAmountsOp)

structure LedgerRun (μ : Type) where
  machine : μ
  ledger : LockedAmountsV2

def LedgerInput.isOther {ε : Type} : LedgerInput ε → Bool
  | .event _ => false
  | .other _ => true

/-- The operations that are not the swap's own are those of other swaps. -/
def LedgerInput.Foreign {ε : Type} (uuid : Uuid) : LedgerInput ε → Prop
  | .event _ => True
  | .other op => op.owner ≠ uuid

namespace LedgerRole

variable {μ ε : Type} (role : LedgerRole μ ε)

def step (run : LedgerRun μ) : LedgerInput ε → LedgerRun μ
  | .event event =>
    { machine := role.onEvent run.machine event
      ledger := role.onEventLedger run.machine event run.ledger }
  | .other op => { run with ledger := run.ledger.apply op }

def uuid (machine : μ) : Uuid :=
  (role.reservation machine).uuid

def Quiet (uuid : Uuid) : LedgerInput ε → Prop
  | .event event => role.effect event = .keeps
  | .other op => op.owner ≠ uuid

structure Files (swap : SwapReservation) (volume headroom : Bool) (run : LedgerRun μ) : Prop where
  reservation : role.reservation run.machine = swap
  holds : swap.Holds volume headroom run.ledger

def Fresh (start : LedgerRun μ) : Prop :=
  (role.reservation start.machine).Holds false false start.ledger

/-- The bucket of a coin without the events of the swap. -/
def bucketWithout (start : LedgerRun μ) (inputs : List (LedgerInput ε))
    (coin : String) : List (LedgerEntry Uuid LockedAmountV2Kind LockedAmount) :=
  (run role.step start (inputs.filter LedgerInput.isOther)).ledger.bucket coin

def growth (runningSwaps : List LockedAmount) (start : LedgerRun μ)
    (inputs : List (LedgerInput ε)) (coin : String) : ℚ :=
  getLockedAmount runningSwaps (run role.step start inputs).ledger coin -
    getLockedAmount runningSwaps
      (run role.step start (inputs.filter LedgerInput.isOther)).ledger coin

variable {role} {start : LedgerRun μ}

variable {uuid : Uuid} {event initialized : ε} {inputs : List (LedgerInput ε)}
  {volume headroom : Bool} {swap : SwapReservation}

theorem Quiet.foreign {input : LedgerInput ε} (hquiet : role.Quiet uuid input) :
    input.Foreign uuid := by
  cases input with
  | event event => trivial
  | other op => exact hquiet

theorem uuid_step (start : LedgerRun μ) (input : LedgerInput ε) :
    role.uuid (role.step start input).machine = role.uuid start.machine := by
  cases input with
  | event event => exact role.uuid_onEvent start.machine event
  | other op => rfl

theorem uuid_run (start : LedgerRun μ) (inputs : List (LedgerInput ε)) :
    role.uuid (run role.step start inputs).machine = role.uuid start.machine := by
  induction inputs generalizing start with
  | nil => rfl
  | cons input rest ih => rw [run_cons, ih, uuid_step]

theorem step_eq_of_keeps (hevent : role.effect event = .keeps) (start : LedgerRun μ) :
    role.step start (.event event) = start := by
  have hmach : role.onEvent start.machine event = start.machine :=
    role.onEvent_eq_self _ _ (by rw [hevent]; exact nofun)
  simp only [step, role.onEventLedger_eq, hmach, hevent]
  rfl

theorem others_run {start start' : LedgerRun μ}
    (hsame : ∀ coin, others start.ledger (role.uuid start.machine) coin =
      others start'.ledger (role.uuid start.machine) coin)
    (hforeign : ∀ input ∈ inputs, input.Foreign (role.uuid start.machine)) (coin : String) :
    others (run role.step start inputs).ledger (role.uuid start.machine) coin =
      others (run role.step start' (inputs.filter LedgerInput.isOther)).ledger
        (role.uuid start.machine) coin := by
  induction inputs generalizing start start' with
  | nil => exact hsame coin
  | cons input rest ih =>
    have hrest := fun input hinput => hforeign input (List.mem_cons_of_mem _ hinput)
    cases input with
    | event event =>
      have huuid : role.uuid (role.step start (.event event)).machine =
          role.uuid start.machine := role.uuid_onEvent start.machine event
      have hevent : ∀ coin,
          others (role.step start (.event event)).ledger (role.uuid start.machine) coin =
            others start.ledger (role.uuid start.machine) coin := by
        intro coin
        rw [step, role.onEventLedger_eq]
        refine others_foldl_self _ _ _ ?_
        intro op hop
        exact (SwapReservation.owner_of_mem_ops hop).trans huuid
      rw [run_cons, List.filter_cons_of_neg (by simp [LedgerInput.isOther]), ← huuid]
      refine ih ?_ ?_
      · intro coin
        rw [huuid, hevent, hsame]
      · rw [huuid]
        exact hrest
    | other op =>
      have hop : op.owner ≠ role.uuid start.machine := hforeign _ List.mem_cons_self
      rw [run_cons, List.filter_cons_of_pos rfl, run_cons]
      have hsame' : ∀ coin,
          others (role.step start (.other op)).ledger
              (role.uuid (role.step start (.other op)).machine) coin =
            others (role.step start' (.other op)).ledger
              (role.uuid (role.step start (.other op)).machine) coin :=
        others_apply_congr hop hsame
      exact ih hsame' hrest

theorem run_quiet (start : LedgerRun μ) (hquiet : ∀ input ∈ inputs, role.Quiet uuid input) :
    (run role.step start inputs).machine = start.machine ∧
      ∀ kind coin, held (run role.step start inputs).ledger uuid kind coin =
        held start.ledger uuid kind coin := by
  induction inputs generalizing start with
  | nil => exact ⟨rfl, fun _ _ => rfl⟩
  | cons input rest ih =>
    obtain ⟨hinput, hrest⟩ := List.forall_mem_cons.mp hquiet
    rw [run_cons]
    cases input with
    | event event =>
      rw [step_eq_of_keeps hinput]
      exact ih start hrest
    | other op =>
      obtain ⟨hmach, hheld⟩ := ih (role.step start (.other op)) hrest
      refine ⟨hmach, ?_⟩
      intro kind coin
      rw [hheld]
      exact held_apply_of_ne start.ledger uuid kind coin hinput

theorem Files.run_quiet (hfiles : role.Files swap volume headroom start)
    (hquiet : ∀ input ∈ inputs, role.Quiet swap.uuid input) :
    role.Files swap volume headroom (run role.step start inputs) := by
  obtain ⟨hmach, hheld⟩ := LedgerRole.run_quiet start hquiet
  refine ⟨hmach ▸ hfiles.reservation, ?_, ?_⟩
  · intro coin
    rw [hheld, hfiles.holds.volume]
  · intro coin
    rw [hheld, hfiles.holds.headroom]

theorem Fresh.reserves (hfresh : role.Fresh start) (hevent : role.effect event = .reserves) :
    role.Files (role.reservation (role.onEvent start.machine event)) true true
      (role.step start (.event event)) where
  reservation := rfl
  holds := by
    have huuid := role.uuid_onEvent start.machine event
    rw [step, role.onEventLedger_eq, hevent]
    refine SwapReservation.Holds.reserves ⟨?_, ?_⟩
    · intro coin
      rw [huuid]
      exact hfresh.volume coin
    · intro coin
      rw [huuid]
      exact hfresh.headroom coin

theorem Files.pays (hfiles : role.Files swap volume headroom start)
    (hevent : role.effect event = .pays) :
    role.Files swap false headroom (role.step start (.event event)) := by
  have hmach : role.onEvent start.machine event = start.machine :=
    role.onEvent_eq_self _ _ (by rw [hevent]; exact nofun)
  rw [step, role.onEventLedger_eq, hmach, hevent, hfiles.reservation]
  exact ⟨hfiles.reservation, hfiles.holds.pays⟩

theorem Files.spends (hfiles : role.Files swap volume headroom start)
    (hevent : role.effect event = .spends) :
    role.Files swap volume false (role.step start (.event event)) := by
  have hmach : role.onEvent start.machine event = start.machine :=
    role.onEvent_eq_self _ _ (by rw [hevent]; exact nofun)
  rw [step, role.onEventLedger_eq, hmach, hevent, hfiles.reservation]
  exact ⟨hfiles.reservation, hfiles.holds.spends⟩

theorem quiet_of_isOther (hforeign : ∀ input ∈ inputs, input.Foreign uuid) :
    ∀ input ∈ inputs.filter LedgerInput.isOther, role.Quiet uuid input := by
  intro input hinput
  obtain ⟨hmem, hother⟩ := List.mem_filter.mp hinput
  cases input with
  | event event => cases hother
  | other op => exact hforeign _ hmem

theorem bucket_again (start : LedgerRun μ) (event : ε) {between : List (LedgerInput ε)}
    (hbetween : ∀ input ∈ between, role.Quiet (role.uuid start.machine) input) (coin : String) :
    (run role.step start (.event event :: between ++ [.event event])).ledger.bucket coin =
      (run role.step start (.event event :: between)).ledger.bucket coin := by
  let swap := role.reservation (role.onEvent start.machine event)
  have huuid : swap.uuid = role.uuid start.machine := role.uuid_onEvent start.machine event
  rw [run_append, run_cons]
  obtain ⟨hmach, hheld⟩ := run_quiet (role.step start (.event event)) hbetween
  have hops : (role.step (run role.step (role.step start (.event event)) between)
      (.event event)).ledger = (swap.ops (role.effect event)).foldl apply
        (run role.step (role.step start (.event event)) between).ledger := by
    rw [step, role.onEventLedger_eq, hmach]
    simp only [step, role.onEvent_again]
    rfl
  rw [run_cons, run_nil, hops]
  refine bucket_foldl_of_settled _ _ ?_
  intro op hop
  refine (swap.settled_ops (role.effect event) start.ledger op hop).congr ?_
  intro kind name
  rw [SwapReservation.owner_of_mem_ops hop, huuid, hheld, step, role.onEventLedger_eq]

section

variable (hfresh : role.Fresh start)

include hfresh

section

variable (hforeign : ∀ input ∈ inputs, input.Foreign (role.uuid start.machine))

include hforeign

theorem bucketWithout_eq (coin : String) : role.bucketWithout start inputs coin =
      others (run role.step start inputs).ledger (role.uuid start.machine)
        coin := by
  rw [others_run (fun _ => rfl) hforeign, bucketWithout]
  have hfiles : role.Files (role.reservation start.machine) false false start := ⟨rfl, hfresh⟩
  have hholds := (hfiles.run_quiet (quiet_of_isOther hforeign)).holds
  refine bucket_eq_others _ _ _ ?_
  intro kind
  cases kind with
  | volume => exact hholds.volume coin
  | spendHeadroom => exact hholds.headroom coin

theorem growth_eq_filed (huuid : swap.uuid = role.uuid start.machine)
    (hholds : swap.Holds volume headroom (run role.step start inputs).ledger)
    (runningSwaps : List LockedAmount) (coin : String) :
    role.growth runningSwaps start inputs coin = swap.filed volume headroom coin := by
  have hwithout := bucketWithout_eq hfresh hforeign coin
  rw [bucketWithout] at hwithout
  rw [growth, getLockedAmount, getLockedAmount, hwithout,
    sum_bucket_eq _ swap.uuid coin fun locked : LockedAmount =>
      locked.amount + locked.feeIn coin, hholds.sum_eq_filed, huuid]
  ring

theorem bucket_cleanUpContext (coin : String) :
    (role.cleanUpContext (run role.step start inputs).machine
        (run role.step start inputs).ledger).bucket coin =
      role.bucketWithout start inputs coin := by
  have huuid : (role.reservation (run role.step start inputs).machine).uuid =
      role.uuid start.machine := uuid_run start inputs
  rw [role.cleanUpContext_eq, bucket_releaseAll, huuid, bucketWithout_eq hfresh hforeign coin]

end

/-! ## The account of a swap -/

/-- After the swap is initialized, and while its payment is not sent, every total
has grown by what the swap owes. -/
def ReservesAll (role : LedgerRole μ ε) (start : LedgerRun μ) (initialized : ε) : Prop :=
  ∀ runningSwaps quiet coin, (∀ input ∈ quiet, role.Quiet (role.uuid start.machine) input) →
      role.growth runningSwaps start (.event initialized :: quiet) coin =
        (role.reservation (role.onEvent start.machine initialized)).owed coin

structure KeepsAccount (role : LedgerRole μ ε) (start : LedgerRun μ) (initialized : ε) : Prop where
  paid : ∀ runningSwaps quiet payment later coin,
    role.effect payment = .pays →
    (∀ input ∈ quiet ++ later,
      role.Quiet (role.uuid start.machine) input) →
      role.growth runningSwaps start
          (.event initialized :: quiet ++ .event payment :: later) coin =
        (role.reservation
          (role.onEvent start.machine initialized)).owedAfterPayment coin
  again : ∀ before event between coin,
    (∀ input ∈ before, input.Foreign (role.uuid start.machine)) →
    (∀ input ∈ between, role.Quiet (role.uuid start.machine) input) →
      (run role.step start
          (before ++ .event event :: between ++ [.event event])).ledger.bucket coin =
        (run role.step start (before ++ .event event :: between)).ledger.bucket coin
  cleaned : ∀ inputs coin,
    (∀ input ∈ inputs, input.Foreign (role.uuid start.machine)) →
      (role.cleanUpContext (run role.step start inputs).machine
          (run role.step start inputs).ledger).bucket coin =
        role.bucketWithout start inputs coin

section

variable (hinit : role.effect initialized = .reserves)

include hinit

theorem reservesAll_iff : role.ReservesAll start initialized ↔
      (role.reservation (role.onEvent start.machine initialized)).sendFee = 0 ∨
        (role.reservation (role.onEvent start.machine initialized)).volumeCoin ≠
          (role.reservation (role.onEvent start.machine initialized)).sendFeeCoin := by
  have huuid := role.uuid_onEvent start.machine initialized
  have hgrowth : ∀ runningSwaps quiet coin,
      (∀ input ∈ quiet, role.Quiet (role.uuid start.machine) input) →
        role.growth runningSwaps start (.event initialized :: quiet) coin =
          (role.reservation (role.onEvent start.machine initialized)).filed true true coin := by
    intro runningSwaps quiet coin hquiet
    have hforeign : ∀ input ∈ .event initialized :: quiet,
        input.Foreign (role.uuid start.machine) := by
      rw [List.forall_mem_cons]
      exact ⟨trivial, fun input hinput => (hquiet input hinput).foreign⟩
    rw [uuid, ← huuid] at hquiet
    exact growth_eq_filed hfresh hforeign huuid
      ((hfresh.reserves hinit).run_quiet hquiet).holds runningSwaps coin
  rw [← SwapReservation.filed_eq_owed_iff]
  constructor
  · intro hall coin
    rw [← hgrowth [] [] coin (by simp), hall [] [] coin (by simp)]
  · intro hall runningSwaps quiet coin hquiet
    rw [hgrowth runningSwaps quiet coin hquiet, hall coin]

theorem growth_of_paid {payment : ε} (hpay : role.effect payment = .pays) {quiet later : List (LedgerInput ε)}
    (hquiet : ∀ input ∈ quiet ++ later, role.Quiet (role.uuid start.machine) input)
    (runningSwaps : List LockedAmount) (coin : String) :
    role.growth runningSwaps start (.event initialized :: quiet ++ .event payment :: later) coin =
      (role.reservation (role.onEvent start.machine initialized)).owedAfterPayment coin := by
  have huuid := role.uuid_onEvent start.machine initialized
  have hforeign : ∀ input ∈
      .event initialized :: quiet ++ .event payment :: later,
        input.Foreign (role.uuid start.machine) := by
    intro input hinput
    rw [List.cons_append, List.mem_cons, List.mem_append, List.mem_cons] at hinput
    rcases hinput with rfl | hpre | rfl | hlater
    · trivial
    · exact (hquiet input (List.mem_append_left _ hpre)).foreign
    · trivial
    · exact (hquiet input (List.mem_append_right _ hlater)).foreign
  rw [uuid, ← huuid] at hquiet
  obtain ⟨hpre, hlater⟩ := List.forall_mem_append.mp hquiet
  have hresv := (hfresh.reserves hinit).run_quiet hpre
  have hend := ((hresv.pays hpay).run_quiet hlater).holds
  rw [← run_cons, ← run_append, ← run_cons] at hend
  rw [growth_eq_filed hfresh hforeign huuid hend]
  simp [SwapReservation.filed, SwapReservation.owedAfterPayment]

theorem keepsAccount : role.KeepsAccount start initialized where
  paid := by
    intro runningSwaps quiet payment later coin hpay hquiet
    exact growth_of_paid hfresh hinit hpay hquiet runningSwaps coin
  again := by
    intro before event between coin _ hbetween
    rw [List.append_assoc, run_append role.step start before, run_append role.step start before]
    refine bucket_again _ event ?_ coin
    rw [uuid_run]
    exact hbetween
  cleaned := by
    intro inputs coin hforeign
    exact bucket_cleanUpContext hfresh hforeign coin

end

end

end LedgerRole

/-! ## Both machines -/

def MakerSwapEvent.ledgerEffect : MakerSwapEvent → LedgerEffect
  | .initialized _ _ => .reserves
  | .makerPaymentSentFundingSpendGenerated _ _ _ _ _ => .pays
  | .takerPaymentSpent _ _ _ _ _ => .spends
  | _ => .keeps

def TakerSwapEvent.ledgerEffect : TakerSwapEvent → LedgerEffect
  | .initialized _ _ => .reserves
  | .takerFundingSent _ _ _ => .pays
  | .makerPaymentSpent _ _ _ _ => .spends
  | _ => .keeps

def makerRole (coins : SwapCoins) : LedgerRole MakerSwapStateMachine MakerSwapEvent where
  reservation := MakerSwapStateMachine.reservation coins
  onEvent := MakerSwapStateMachine.onEvent
  onEventLedger := MakerSwapStateMachine.onEventLedger coins
  cleanUpContext := MakerSwapStateMachine.cleanUpContext
  effect := MakerSwapEvent.ledgerEffect
  onEvent_eq_self := by
    intro machine event heffect
    cases event with
    | initialized blocks fees => exact absurd rfl heffect
    | _ => rfl
  onEvent_again := by
    intro machine event
    cases event <;> rfl
  uuid_onEvent := by
    intro machine event
    cases event <;> rfl
  onEventLedger_eq := by
    intro machine event ledger
    cases event <;> rfl
  cleanUpContext_eq := by
    intro machine ledger
    rfl

def takerRole (coins : SwapCoins) : LedgerRole TakerSwapStateMachine TakerSwapEvent where
  reservation := TakerSwapStateMachine.reservation coins
  onEvent := TakerSwapStateMachine.onEvent
  onEventLedger := TakerSwapStateMachine.onEventLedger coins
  cleanUpContext := TakerSwapStateMachine.cleanUpContext
  effect := TakerSwapEvent.ledgerEffect
  onEvent_eq_self := by
    intro machine event heffect
    cases event with
    | initialized blocks fees => exact absurd rfl heffect
    | _ => rfl
  onEvent_again := by
    intro machine event
    cases event <;> rfl
  uuid_onEvent := by
    intro machine event
    cases event <;> rfl
  onEventLedger_eq := by
    intro machine event ledger
    cases event <;> rfl
  cleanUpContext_eq := by
    intro machine ledger
    rfl

def MakerFees.reservable (fees : MakerFees) : ℚ :=
  fees.makerPaymentTradeFeeReservable.getD fees.makerPaymentTradeFee

def TakerFees.reservable (fees : TakerFees) : ℚ :=
  fees.takerPaymentFeeReservable.getD fees.takerPaymentFee

/-- For every machine of either role, all tickers and platform tickers, and any
use of the ledger by other swaps: once the swap is initialized the totals have
grown by all it owes exactly if it has no fee to reserve or the fee is paid by
another coin than the one it sends.  After its payment only the headroom is left,
an event that is applied again changes nothing, and the clean-up leaves the
entries of the other swaps. -/
theorem reserves_all_iff (coins : SwapCoins) (maker : MakerSwapStateMachine)
    (taker : TakerSwapStateMachine) (makerLedger takerLedger : LockedAmountsV2)
    (blocks : StartBlocks) (makerFees : MakerFees) (takerFees : TakerFees)
    (hmaker : (makerRole coins).Fresh ⟨maker, makerLedger⟩)
    (htaker : (takerRole coins).Fresh ⟨taker, takerLedger⟩) :
    (((makerRole coins).ReservesAll ⟨maker, makerLedger⟩
          (.initialized blocks makerFees) ↔
        makerFees.reservable = 0 ∨
          coins.makerTicker ≠ coins.makerPlatformTicker) ∧
      (makerRole coins).KeepsAccount ⟨maker, makerLedger⟩
        (.initialized blocks makerFees)) ∧
    (((takerRole coins).ReservesAll ⟨taker, takerLedger⟩
          (.initialized blocks takerFees) ↔
        takerFees.reservable = 0 ∨
          coins.takerTicker ≠ coins.takerPlatformTicker) ∧
      (takerRole coins).KeepsAccount ⟨taker, takerLedger⟩
        (.initialized blocks takerFees)) :=
  ⟨⟨LedgerRole.reservesAll_iff hmaker rfl, LedgerRole.keepsAccount hmaker rfl⟩,
    ⟨LedgerRole.reservesAll_iff htaker rfl, LedgerRole.keepsAccount htaker rfl⟩⟩

def tokenCoins : SwapCoins :=
  { sampleCoins with
    makerTicker := "JST-ERC20"
    takerTicker := "QRC20"
    makerPlatformTicker := "ETH"
    takerPlatformTicker := "QTUM" }

theorem token_swaps_reserve_all :
    (makerRole tokenCoins).ReservesAll ⟨sampleMaker 0, ∅⟩
      (.initialized ⟨100, 200⟩ ⟨3, 2, 2, some 3⟩) ∧
    (takerRole tokenCoins).ReservesAll ⟨sampleTaker 0, ∅⟩
      (.initialized ⟨100, 200⟩ ⟨3, 2, 2, some 3⟩) := by
  have hboth := reserves_all_iff tokenCoins (sampleMaker 0) (sampleTaker 0) ∅ ∅
    ⟨100, 200⟩ ⟨3, 2, 2, some 3⟩ ⟨3, 2, 2, some 3⟩
    ⟨fun _ => rfl, fun _ => rfl⟩ ⟨fun _ => rfl, fun _ => rfl⟩
  exact ⟨hboth.1.1.mpr (Or.inr (by decide)), hboth.2.1.mpr (Or.inr (by decide))⟩

/-- Coins that pay their own fees: the fee of three is not reserved. -/
theorem own_fee_not_reserved :
    (makerRole sampleCoins).growth [] ⟨sampleMaker 0, ∅⟩
        [.event (.initialized ⟨100, 200⟩ ⟨3, 2, 2, some 3⟩)] "RICK" = 1 ∧
    ((makerRole sampleCoins).reservation ((sampleMaker 0).onEvent
      (.initialized ⟨100, 200⟩ ⟨3, 2, 2, some 3⟩))).owed "RICK" = 4 ∧
    (takerRole sampleCoins).growth [] ⟨sampleTaker 0, ∅⟩
        [.event (.initialized ⟨100, 200⟩ ⟨3, 2, 2, some 3⟩)] "MORTY" = 1 ∧
    ((takerRole sampleCoins).reservation ((sampleTaker 0).onEvent
      (.initialized ⟨100, 200⟩ ⟨3, 2, 2, some 3⟩))).owed "MORTY" = 4 := by
  decide +kernel

end V2

end KdfProtocol
