import KdfProtocol.GuardedRun
import KdfProtocol.OrderbookIndex

/-!
# Agreement of the three indexes

`IndexAgrees` says that the price index and the pair index hold exactly what
the order set says they hold.  Removals always keep it.  An insertion searches
for the previous entry of its uuid only under the new pair, so it keeps it
exactly when the uuid does not move to another pair.
-/

namespace KdfProtocol

open HashMap SortedSet

namespace Orderbook

structure IndexAgrees (ob : Orderbook) : Prop where
  unordered : ∀ pair uuid, uuid ∈ ob.unorderedAt pair ↔
    ∃ order, ob.orderSet.lookup uuid = some order ∧ order.pair = pair
  ordered : ∀ pair entry, entry ∈ ob.orderedAt pair ↔
    ∃ order, ob.orderSet.lookup entry.uuid = some order ∧
      order.pair = pair ∧ order.price = entry.price

theorem indexAgrees_new (window : Duration) (maxEntries : ℕ) :
    (new window maxEntries).IndexAgrees where
  unordered := by
    intro pair uuid
    simp [new, unorderedAt]
  ordered := by
    intro pair entry
    simp [new, orderedAt]

/-! ## What one operation leaves at each pair -/

section Frames

variable (order : OrderbookItem) (ob : Orderbook)

@[simp] theorem lookup_orderSet_inner (uuid : Uuid) :
    (ob.indexInsertOrUpdateInner order).orderSet.lookup uuid =
      if uuid = order.uuid then some order else ob.orderSet.lookup uuid :=
  lookup_insert_if ob.orderSet order.uuid order uuid

theorem unorderedAt_inner (pair : Pair) : (ob.indexInsertOrUpdateInner order).unorderedAt pair =
      if pair = order.pair then (ob.unorderedAt pair).insert order.uuid ()
      else ob.unorderedAt pair := by
  simp only [unorderedAt, indexInsertOrUpdateInner, lookup_insert_if]
  by_cases heq : pair = order.pair
  · subst heq
    simp
  · simp [heq]

theorem orderedAt_inner (pair : Pair) : (ob.indexInsertOrUpdateInner order).orderedAt pair =
      if pair = order.pair then replacePriceEntry order (ob.orderedAt pair)
      else ob.orderedAt pair := by
  simp only [orderedAt, indexInsertOrUpdateInner, lookup_insert_if]
  by_cases heq : pair = order.pair
  · subst heq
    simp
  · simp [heq]

end Frames

section Removal

variable {ob : Orderbook} {uuid : Uuid} {order : OrderbookItem}

theorem indexRemove_of_absent (habs : ob.orderSet.lookup uuid = none) :
    ob.indexRemove uuid = (none, ob) := by
  simp [indexRemove, habs]

theorem lookup_orderSet_indexRemove (other : Uuid) : (ob.indexRemove uuid).2.orderSet.lookup other =
      if other = uuid then none else ob.orderSet.lookup other := by
  cases hheld : ob.orderSet.lookup uuid with
  | none =>
    rw [indexRemove_of_absent hheld]
    by_cases heq : other = uuid
    · subst heq
      simp [hheld]
    · simp [heq]
  | some order =>
    simp [indexRemove, hheld, lookup_erase_if]

theorem unorderedAt_indexRemove (hheld : ob.orderSet.lookup uuid = some order) (pair : Pair) :
    (ob.indexRemove uuid).2.unorderedAt pair =
      if pair = order.pair then (ob.unorderedAt pair).erase uuid
      else ob.unorderedAt pair := by
  simp only [indexRemove, hheld, unorderedAt]
  rw [getD_updateOrDrop order.pair (fun orders => HashSet.eq_empty_of_isEmpty) rfl]
  by_cases heq : pair = order.pair
  · subst heq
    simp
  · simp [heq]

theorem orderedAt_indexRemove (hheld : ob.orderSet.lookup uuid = some order) (pair : Pair) :
    (ob.indexRemove uuid).2.orderedAt pair =
      if pair = order.pair then (ob.orderedAt pair).erase ⟨order.price, uuid⟩
      else ob.orderedAt pair := by
  simp only [indexRemove, hheld, orderedAt]
  rw [getD_updateOrDrop order.pair (fun orders => eq_empty_of_isEmpty) rfl]
  by_cases heq : pair = order.pair
  · subst heq
    simp
  · simp [heq]

theorem indexRemovePubkeyPairOrders_induction {pubkey : String} {P : Orderbook → Prop}
    (hremove : ∀ ob uuid order, ob.orderSet.lookup uuid = some order → order.pubkey = pubkey →
      P ob → P (ob.indexRemove uuid).2) (albPair : String) (hob : P ob) :
    P (ob.indexRemovePubkeyPairOrders pubkey albPair) := by
  have hifOwned : ∀ ob uuid, P ob → P (ob.indexRemoveIfOwned pubkey uuid) := by
    intro ob uuid hob
    unfold indexRemoveIfOwned
    split
    · exact hob
    next order hheld =>
      split
      next howned => exact hremove ob uuid order hheld howned hob
      · exact hob
  unfold indexRemovePubkeyPairOrders
  split
  · exact hob
  next base rel _ =>
    refine run_induction (indexRemovePubkeyDirection pubkey) P ?_ [(base, rel), (rel, base)] hob
    intro ob pair hob
    exact run_induction (indexRemoveIfOwned pubkey) P hifOwned _ hob

end Removal

/-! ## Removals keep the agreement -/

variable {ob : Orderbook} {uuid : Uuid} {order : OrderbookItem}

section

variable (hagrees : ob.IndexAgrees)

include hagrees

theorem IndexAgrees.entry_of_held (hheld : ob.orderSet.lookup uuid = some order) {pair : Pair}
    {entry : OrderedByPriceOrder} (hmem : entry ∈ ob.orderedAt pair) (huuid : entry.uuid = uuid) :
    pair = order.pair ∧ entry = ⟨order.price, uuid⟩ := by
  obtain ⟨held, hlook, hpair, hprice⟩ := (hagrees.ordered pair entry).mp hmem
  rw [huuid, hheld] at hlook
  cases hlook
  cases entry
  simp_all

theorem IndexAgrees.mem_unorderedAt_indexRemove
    (hheld : ob.orderSet.lookup uuid = some order) (pair : Pair) (other : Uuid) :
    other ∈ (ob.indexRemove uuid).2.unorderedAt pair ↔
      other ≠ uuid ∧ other ∈ ob.unorderedAt pair := by
  rw [unorderedAt_indexRemove hheld]
  by_cases hpair : pair = order.pair
  · simp [hpair]
  · -- Under another pair the uuid is not listed, so nothing has to go.
    have hnot : uuid ∉ ob.unorderedAt pair := by
      rw [hagrees.unordered, hheld]
      simp [Ne.symm hpair]
    rw [if_neg hpair]
    constructor
    · intro hmem
      exact ⟨fun heq => hnot (heq ▸ hmem), hmem⟩
    · exact And.right

theorem IndexAgrees.mem_orderedAt_indexRemove
    (hheld : ob.orderSet.lookup uuid = some order) (pair : Pair) (entry : OrderedByPriceOrder) :
    entry ∈ (ob.indexRemove uuid).2.orderedAt pair ↔
      entry.uuid ≠ uuid ∧ entry ∈ ob.orderedAt pair := by
  rw [orderedAt_indexRemove hheld]
  by_cases hpair : pair = order.pair
  · rw [if_pos hpair, mem_erase]
    apply and_congr_left
    intro hmem
    rw [not_iff_not]
    constructor
    · intro heq
      rw [heq]
    · intro huuid
      exact (hagrees.entry_of_held hheld hmem huuid).2
  · rw [if_neg hpair]
    constructor
    · intro hmem
      exact ⟨fun huuid => hpair (hagrees.entry_of_held hheld hmem huuid).1, hmem⟩
    · exact And.right

theorem IndexAgrees.indexRemove (uuid : Uuid) : (ob.indexRemove uuid).2.IndexAgrees := by
  cases hheld : ob.orderSet.lookup uuid with
  | none =>
    rw [indexRemove_of_absent hheld]
    exact hagrees
  | some order =>
    constructor
    case unordered =>
      intro pair other
      rw [hagrees.mem_unorderedAt_indexRemove hheld, lookup_orderSet_indexRemove, hagrees.unordered]
      by_cases huuid : other = uuid
      · simp [huuid]
      · simp [huuid]
    case ordered =>
      intro pair entry
      rw [hagrees.mem_orderedAt_indexRemove hheld, lookup_orderSet_indexRemove, hagrees.ordered]
      by_cases huuid : entry.uuid = uuid
      · simp [huuid]
      · simp [huuid]

theorem IndexAgrees.indexRemovePubkeyPairOrders
    (pubkey albPair : String) : (ob.indexRemovePubkeyPairOrders pubkey albPair).IndexAgrees :=
  indexRemovePubkeyPairOrders_induction (fun _ uuid _ _ _ h => h.indexRemove uuid) albPair hagrees

end

/-! ## Insertions -/

theorem mem_replacePriceEntry {ordered : SortedSet OrderedByPriceOrder}
    (hunique : ∀ first ∈ ordered, ∀ second ∈ ordered,
      first.uuid = order.uuid → second.uuid = order.uuid → first = second)
    (entry : OrderedByPriceOrder) :
    entry ∈ replacePriceEntry order ordered ↔
      entry = order.priceEntry ∨ entry ∈ ordered ∧ entry.uuid ≠ order.uuid := by
  unfold replacePriceEntry
  simp only [mem_insert]
  apply or_congr_right
  split
  next existing hfind =>
    obtain ⟨huuid, hmem⟩ := find_some hfind
    simp only [decide_eq_true_eq] at huuid
    rw [mem_erase]
    constructor
    · rintro ⟨hne, hentry⟩
      refine ⟨hentry, ?_⟩
      intro hsame
      exact hne (hunique entry hentry existing hmem hsame huuid)
    · rintro ⟨hentry, hother⟩
      refine ⟨?_, hentry⟩
      rintro rfl
      exact hother huuid
  next hfind =>
    constructor
    · intro hentry
      exact ⟨hentry, by simpa using find_none hfind entry hentry⟩
    · exact And.left

theorem IndexAgrees.entry_unique (hagrees : ob.IndexAgrees) {pair : Pair}
    {first second : OrderedByPriceOrder} (hfirst : first ∈ ob.orderedAt pair)
    (hsnd : second ∈ ob.orderedAt pair) (huuid : first.uuid = second.uuid) : first = second := by
  obtain ⟨order, hlook, -, hprice⟩ := (hagrees.ordered pair first).mp hfirst
  obtain ⟨other, hother, -, hotherPrice⟩ := (hagrees.ordered pair second).mp hsnd
  rw [huuid, hother] at hlook
  cases hlook
  cases first
  cases second
  simp_all

def SamePair (ob : Orderbook) (order : OrderbookItem) : Prop :=
  ∀ held, ob.orderSet.lookup order.uuid = some held → held.pair = order.pair

theorem IndexAgrees.indexInsertOrUpdateInner (hagrees : ob.IndexAgrees)
    (hsame : ob.SamePair order) : (ob.indexInsertOrUpdateInner order).IndexAgrees := by
  constructor
  · intro pair uuid
    rw [unorderedAt_inner, lookup_orderSet_inner]
    have hmem := hagrees.unordered pair uuid
    by_cases huuid : uuid = order.uuid
    · subst huuid
      by_cases hpair : pair = order.pair
      · simp [hpair]
      · have hnot : order.uuid ∉ ob.unorderedAt pair := by
          intro hin
          obtain ⟨held, hlook, hheldPair⟩ := hmem.mp hin
          exact hpair (hheldPair.symm.trans (hsame held hlook))
        simp [hpair, hnot, Ne.symm hpair]
    · rw [if_neg huuid, ← hmem]
      by_cases hpair : pair = order.pair
      · simp [hpair, huuid]
      · simp [hpair]
  · intro pair entry
    rw [orderedAt_inner, lookup_orderSet_inner]
    have hmem := hagrees.ordered pair entry
    have hentryEq : entry = order.priceEntry ↔
        entry.uuid = order.uuid ∧ order.price = entry.price := by
      cases entry
      simp [OrderbookItem.priceEntry, and_comm, eq_comm]
    by_cases hpair : pair = order.pair
    · rw [if_pos hpair, mem_replacePriceEntry]
      · by_cases huuid : entry.uuid = order.uuid
        · simp [huuid, hentryEq, hpair]
        · rw [if_neg huuid, ← hmem, hentryEq]
          simp [huuid]
      · intro first hfirst second hsnd huuid huuid'
        exact hagrees.entry_unique hfirst hsnd (huuid.trans huuid'.symm)
    · rw [if_neg hpair]
      by_cases huuid : entry.uuid = order.uuid
      · have hnot : entry ∉ ob.orderedAt pair := by
          intro hin
          obtain ⟨held, hlook, hheldPair, -⟩ := hmem.mp hin
          rw [huuid] at hlook
          exact hpair (hheldPair.symm.trans (hsame held hlook))
        simp [huuid, hnot, Ne.symm hpair]
      · rw [if_neg huuid, hmem]

theorem IndexAgrees.samePair_of_inner (hagrees : ob.IndexAgrees)
    (hnext : (ob.indexInsertOrUpdateInner order).IndexAgrees) : ob.SamePair order := by
  intro held hlook
  by_contra hpair
  have hin : order.uuid ∈ ob.unorderedAt held.pair :=
    (hagrees.unordered held.pair order.uuid).mpr ⟨held, hlook, rfl⟩
  have hstale : order.uuid ∈ (ob.indexInsertOrUpdateInner order).unorderedAt held.pair := by
    rw [unorderedAt_inner, if_neg hpair]
    exact hin
  obtain ⟨now, hnow, hnowPair⟩ := (hnext.unordered held.pair order.uuid).mp hstale
  rw [lookup_orderSet_inner, if_pos rfl] at hnow
  cases hnow
  exact hpair hnowPair.symm

/-! ## The reading loop -/

theorem getPubkeysOrders_isSome (hagrees : ob.IndexAgrees) (base rel : String) :
    (ob.getPubkeysOrders base rel).isSome := by
  have hheld : ∀ pair, ∀ uuid ∈ (ob.unorderedAt pair).keys, (ob.orderSet.lookup uuid).isSome := by
    intro pair uuid hmem
    obtain ⟨order, hlook, -⟩ := (hagrees.unordered pair uuid).mp (AList.mem_keys.mpr hmem)
    simp [hlook]
  have hloop : ∀ (uuids : List Uuid) (res : GetPubkeysOrdersRes),
      (∀ uuid ∈ uuids, (ob.orderSet.lookup uuid).isSome) →
      (uuids.foldlM ob.collectPubkeyOrder res).isSome := by
    intro uuids
    induction uuids with
    | nil => simp
    | cons uuid rest ih =>
      intro res hall
      obtain ⟨order, hlook⟩ := Option.isSome_iff_exists.mp (hall uuid List.mem_cons_self)
      rw [List.foldlM_cons]
      simp only [collectPubkeyOrder, hlook]
      exact ih _ fun other hmem => hall other (List.mem_cons_of_mem _ hmem)
  apply hloop
  intro uuid hmem
  rcases List.mem_append.mp hmem with hask | hbid
  · exact hheld (base, rel) uuid hask
  · exact hheld (rel, base) uuid hbid

/-! ## Runs of index calls -/

inductive IndexCall where
  | insertOrUpdate (now : Instant) (order : OrderbookItem)
  | remove (uuid : Uuid)
  | removePubkeyPairOrders (pubkey albPair : String)

def IndexCall.apply (ob : Orderbook) : IndexCall → Orderbook
  | .insertOrUpdate now order => (ob.indexInsertOrUpdate now order).2
  | .remove uuid => (ob.indexRemove uuid).2
  | .removePubkeyPairOrders pubkey albPair => ob.indexRemovePubkeyPairOrders pubkey albPair

/-- An insertion that reaches the index does not move a held uuid to another
pair. -/
def KeepsPair (ob : Orderbook) : IndexCall → Prop
  | .insertOrUpdate now order =>
    ob.cancelGuarded now order = false → ¬order.Untradable → ob.SamePair order
  | .remove _ | .removePubkeyPairOrders .. => True

theorem indexAgrees_apply_iff (hagrees : ob.IndexAgrees) (call : IndexCall) :
    (call.apply ob).IndexAgrees ↔ ob.KeepsPair call := by
  cases call with
  | insertOrUpdate now order =>
    simp only [IndexCall.apply, indexInsertOrUpdate_snd, KeepsPair]
    split
    next hguard => simp [hagrees, hguard]
    next hguard =>
      split
      next huntradable => simp [hagrees.indexRemove, huntradable]
      next htrade =>
        constructor
        · intro hnext _ _
          exact hagrees.samePair_of_inner hnext
        · intro hkeeps
          exact hagrees.indexInsertOrUpdateInner (hkeeps (by simpa using hguard) htrade)
  | remove uuid =>
    simp [IndexCall.apply, KeepsPair, hagrees.indexRemove]
  | removePubkeyPairOrders pubkey albPair =>
    simp [IndexCall.apply, KeepsPair, hagrees.indexRemovePubkeyPairOrders]

/-- The three indexes agree, and reading any pair does not panic. -/
def Consistent (ob : Orderbook) : Prop :=
  ob.IndexAgrees ∧ ∀ base rel, (ob.getPubkeysOrders base rel).isSome

theorem consistent_iff_indexAgrees (ob : Orderbook) : ob.Consistent ↔ ob.IndexAgrees :=
  ⟨And.left, fun hagrees => ⟨hagrees, getPubkeysOrders_isSome hagrees⟩⟩

/-- A run from the empty order book is consistent after every call exactly
when no insertion moves a held uuid to another pair. -/
theorem consistent_run_iff_keepsPair (window : Duration) (maxEntries : ℕ) (calls : List IndexCall) :
    EveryState IndexCall.apply Consistent (new window maxEntries) calls ↔
      EveryStep IndexCall.apply KeepsPair (new window maxEntries) calls := by
  apply everyState_iff_everyStep
  · intro ob call hconsistent
    rw [consistent_iff_indexAgrees]
    exact indexAgrees_apply_iff hconsistent.1 call
  · rw [consistent_iff_indexAgrees]
    exact indexAgrees_new window maxEntries

/-- One order of the uuid `1`, offered for the base coin `KMD`. -/
def movedOrder (rel : String) : OrderbookItem where
  pubkey := "02aa"
  base := "KMD"
  rel := rel
  price := 1
  maxVolume := 1
  minVolume := 0
  uuid := 1
  createdAt := 0
  baseProtocolInfo := []
  relProtocolInfo := []
  confSettings := none

/-- The uuid moves from one pair to another and is removed there: the first
pair still lists it, and reading that pair panics. -/
theorem moved_uuid_breaks_index :
    ¬ EveryState IndexCall.apply Consistent (new 120 100000)
      [.insertOrUpdate 0 (movedOrder "BTC"),
        .insertOrUpdate 1 (movedOrder "LTC"), .remove 1] := by
  intro hstates
  have hlast := everyState_last IndexCall.apply hstates
  exact absurd (hlast.2 "KMD" "BTC") (by decide +kernel)

end Orderbook

end KdfProtocol
