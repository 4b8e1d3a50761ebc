import KdfProtocol.OrderOwnership

/-!
# How long a cancel keeps an order out

The guard keeps the entry of a cancel for the configured window, unless it holds too
many entries, and for 120 s in any case.  A cancel whose entry is still there does not
renew it, so the window of a repeated cancel runs from the first one.
-/

namespace KdfProtocol

open TimeCache

/-- A value outside the bounds is moved to the nearer one. -/
def cancelFinalWindowSecs : Option ℤ → ℕ
  | none => 3600
  | some configured => (max 120 (min configured 86400)).toNat

namespace Orderbook

/-! ## The times of a run -/

def BookCall.readings : BookCall → Set Instant
  | .index (.insertOrUpdate now _) => {now}
  | .recordCancel clock _ _ => Set.range clock
  | _ => ∅

open BookCall

/-- No call reads an earlier time than a call before it. -/
def MonotoneTime (calls : List BookCall) : Prop :=
  calls.Pairwise fun earlier later => ∀ t ∈ earlier.readings, ∀ now ∈ later.readings, t ≤ now

/-- The guard holds no more entries than it may, also before it drops any. -/
def BookCall.FitsGuard (ob : Orderbook) : BookCall → Prop
  | .recordCancel clock uuid pubkey =>
    (ob.recentlyCancelled.insert (clock 0) (uuid, pubkey) ()).2.len ≤ ob.cancelGuardMaxEntries
  | _ => True

/-! ## The guard in a run -/

section Guard

abbrev CancelGuard := TimeCache (Uuid × String) Unit

variable {clock : ℕ → Instant} {maxEntries fuel turn : ℕ} {guarded : CancelGuard}
  {ob : Orderbook} {key : Uuid × String} {entry : ExpiringElement Unit}

theorem enforceCancelGuardCapLoop_induction {P : CancelGuard → Prop}
    (hpop : ∀ now guarded, now ∈ Set.range clock → P guarded →
      P (guarded.popOldestAtLeast now recentlyCancelledTimeout).2) (hguard : P guarded) :
    P (enforceCancelGuardCapLoop clock maxEntries fuel turn guarded) := by
  induction fuel generalizing turn guarded with
  | zero => exact hguard
  | succ fuel ih =>
    have hnext := hpop (clock turn) guarded ⟨turn, rfl⟩ hguard
    simp only [enforceCancelGuardCapLoop]
    split_ifs with hfull
    · revert hnext
      rcases guarded.popOldestAtLeast (clock turn) recentlyCancelledTimeout with
        ⟨popped, next⟩
      intro hnext
      cases popped with
      | none => exact hnext
      | some popped => exact ih hnext
    · exact hguard

theorem enforceCancelGuardCapLoop_of_le (hfits : guarded.len ≤ maxEntries) :
    enforceCancelGuardCapLoop clock maxEntries fuel turn guarded = guarded := by
  cases fuel with
  | zero => rfl
  | succ fuel => simp only [enforceCancelGuardCapLoop, Nat.not_lt.mpr hfits, if_false]

theorem lookup_recordCancel {uuid : Uuid} {pubkey : String}
    (hins : (ob.recentlyCancelled.insert (clock 0) (uuid, pubkey) ()).2.map.lookup key = some entry)
    (hkept : BookCall.FitsGuard ob (.recordCancel clock uuid pubkey) ∨ ∀ now ∈ Set.range clock,
        now + ob.recentlyCancelled.ttl < entry.expires + recentlyCancelledTimeout) :
    (ob.recordCancel clock uuid pubkey).recentlyCancelled.map.lookup key = some entry := by
  simp only [recordCancel, enforceCancelGuardCap]
  rcases hkept with hfits | hyoung
  · rw [enforceCancelGuardCapLoop_of_le hfits]
    exact hins
  · refine (enforceCancelGuardCapLoop_induction
      (P := fun guarded => guarded.ttl = ob.recentlyCancelled.ttl ∧
        guarded.map.lookup key = some entry) ?_ ⟨ttl_insert _ _ _ _, hins⟩).2
    · rintro now guarded ⟨turn, rfl⟩ ⟨httl, hentry⟩
      refine ⟨httl, lookup_popOldestLoop_of_not hentry ?_⟩
      have hlater := hyoung (clock (turn + 1)) ⟨turn + 1, rfl⟩
      rw [decide_eq_false_iff_not, httl]
      exact Nat.not_le.mpr hlater

/-- An entry stays through a call that reads no time after its end, if the guard drops
nothing or the entry is younger than 120 s. -/
theorem BookCall.lookup_apply {call : BookCall}
    (hlook : ob.recentlyCancelled.map.lookup key = some entry)
    (hlive : ∀ now ∈ call.readings, now < entry.expires)
    (hkept : call.FitsGuard ob ∨ ∀ now ∈ call.readings,
      now + ob.recentlyCancelled.ttl < entry.expires + recentlyCancelledTimeout) :
    (call.apply ob).recentlyCancelled.map.lookup key = some entry := by
  cases call with
  | index call =>
    rw [apply, (keepsSettings_apply ob call).recentlyCancelled]
    exact hlook
  | countQueuedBatch | setMyP2pPubkeys => exact hlook
  | recordCancel clock uuid pubkey =>
    exact lookup_recordCancel (lookup_insert_of_lt hlook (hlive _ ⟨0, rfl⟩)) hkept

theorem ttl_apply (ob : Orderbook) (call : BookCall) :
    (call.apply ob).recentlyCancelled.ttl = ob.recentlyCancelled.ttl := by
  cases call with
  | index call => rw [apply, (keepsSettings_apply ob call).recentlyCancelled]
  | countQueuedBatch | setMyP2pPubkeys => rfl
  | recordCancel clock uuid pubkey =>
    exact enforceCancelGuardCapLoop_induction
      (P := fun guarded => guarded.ttl = ob.recentlyCancelled.ttl)
      (fun _ _ _ httl => httl) (ttl_insert _ _ _ _)

theorem lookup_run_of_lt {calls : List BookCall}
    (hlook : ob.recentlyCancelled.map.lookup key = some entry)
    (hlive : ∀ call ∈ calls, ∀ now ∈ call.readings, now < entry.expires)
    (hkept : EveryStep apply BookCall.FitsGuard ob calls ∨ ∀ call ∈ calls, ∀ now ∈ call.readings,
        now + ob.recentlyCancelled.ttl < entry.expires + recentlyCancelledTimeout) :
    (run apply ob calls).recentlyCancelled.map.lookup key = some entry := by
  induction calls generalizing ob with
  | nil => exact hlook
  | cons call calls ih =>
    have hcall := hlive call List.mem_cons_self
    have hcalls := fun other hmem => hlive other (List.mem_cons_of_mem call hmem)
    rw [run_cons]
    rcases hkept with ⟨hfits, hrest⟩ | hyoung
    · exact ih (BookCall.lookup_apply hlook hcall (Or.inl hfits)) hcalls (Or.inl hrest)
    · refine ih (BookCall.lookup_apply hlook hcall
        (Or.inr (hyoung call List.mem_cons_self))) hcalls (Or.inr ?_)
      rw [ttl_apply]
      exact fun other hmem => hyoung other (List.mem_cons_of_mem call hmem)

theorem tracked_recordCancel {uuid : Uuid} {pubkey : String}
    (htracked : ob.recentlyCancelled.Tracked (clock 0 + ob.recentlyCancelled.ttl)) :
    (ob.recordCancel clock uuid pubkey).recentlyCancelled.Tracked
      (clock 0 + ob.recentlyCancelled.ttl) :=
  enforceCancelGuardCapLoop_induction (fun _ _ _ hguard => hguard.popOldestAtLeast _)
    (htracked.insert (uuid, pubkey) ())

end Guard

/-! ## What enters the index -/

variable {ob : Orderbook}

theorem BookCall.enters {call : BookCall} {uuid : Uuid} {held : OrderbookItem}
    (hafter : (call.apply ob).orderSet.lookup uuid = some held)
    (hpre : ob.orderSet.lookup uuid ≠ some held) :
    ∃ now, call = .index (.insertOrUpdate now held) ∧ held.uuid = uuid ∧
      ob.cancelGuarded now held = false := by
  cases call with
  | recordCancel | countQueuedBatch | setMyP2pPubkeys => exact absurd hafter hpre
  | index call =>
    have hacts : call.actsFor fun _ => True := by cases call <;> trivial
    rcases Orderbook.lookup_apply ob hacts uuid with hsame | ⟨hnone, -⟩
    · rw [apply, hsame] at hafter
      split_ifs at hafter with hreaches
      · cases call with
        | remove | removePubkeyPairOrders => cases hafter
        | insertOrUpdate now order =>
          simp only [IndexCall.leaves] at hafter
          split_ifs at hafter
          cases hafter
          simp only [IndexCall.reaches, Bool.and_eq_true, decide_eq_true_eq,
            Bool.not_eq_true'] at hreaches
          exact ⟨now, rfl, hreaches⟩
      · exact absurd hafter hpre
    · rw [apply, hnone] at hafter
      cases hafter

/-! ## The window of a cancel -/

def cancelRun (configured : Option ℤ) (maxEntries : ℕ) (calls : List BookCall) : Orderbook :=
  run BookCall.apply (new (durationFromSecs (cancelFinalWindowSecs configured)) maxEntries) calls

theorem timeout_le_window (configured : Option ℤ) :
    recentlyCancelledTimeout ≤ durationFromSecs (cancelFinalWindowSecs configured) := by
  apply Nat.mul_le_mul_right
  cases configured with
  | none => decide
  | some configured =>
    simp only [cancelFinalWindowSecs]
    omega

theorem ttl_cancelRun (configured : Option ℤ) (maxEntries : ℕ) (calls : List BookCall) :
    (cancelRun configured maxEntries calls).recentlyCancelled.ttl =
      durationFromSecs (cancelFinalWindowSecs configured) :=
  run_induction apply (fun ob => ob.recentlyCancelled.ttl = _)
    (fun ob call httl => (ttl_apply ob call).trans httl) calls rfl

theorem tracked_cancelRun (configured : Option ℤ) (maxEntries : ℕ) {calls : List BookCall}
    (htime : MonotoneTime calls) {now : Instant}
    (hpast : ∀ call ∈ calls, ∀ t ∈ call.readings, t ≤ now) :
    (cancelRun configured maxEntries calls).recentlyCancelled.Tracked
      (now + durationFromSecs (cancelFinalWindowSecs configured)) := by
  induction calls using List.reverseRecOn generalizing now with
  | nil => exact ⟨List.Pairwise.nil, nofun, nofun, nofun⟩
  | append_singleton calls call ih =>
    obtain ⟨htimes, -, hlast⟩ := List.pairwise_append.mp htime
    have hcalls : ∀ earlier ∈ calls, ∀ t ∈ earlier.readings, t ≤ now :=
      fun earlier hmem => hpast earlier (List.mem_append_left _ hmem)
    rw [cancelRun, run_append, run_cons, run_nil, ← cancelRun]
    cases call with
    | index call =>
      rw [apply, (keepsSettings_apply _ call).recentlyCancelled]
      exact ih htimes hcalls
    | countQueuedBatch | setMyP2pPubkeys => exact ih htimes hcalls
    | recordCancel clock uuid pubkey =>
      have hguard := ih htimes fun earlier hmem t ht =>
        hlast earlier hmem _ (List.mem_singleton_self _) t ht (clock 0) ⟨0, rfl⟩
      rw [← ttl_cancelRun configured maxEntries calls] at hguard ⊢
      exact (tracked_recordCancel hguard).mono (Nat.add_le_add_right
        (hpast _ (List.mem_append_right _ (List.mem_singleton_self _)) _ ⟨0, rfl⟩) _)

section Window

variable (configured : Option ℤ) (maxEntries : ℕ) (before middle : List BookCall)
  (clock : ℕ → Instant) (uuid : Uuid) (pubkey : String) (call : BookCall)

/-- The guard never holds too many entries from the cancel on. -/
def StaysWithin : Prop :=
  EveryStep BookCall.apply BookCall.FitsGuard (cancelRun configured maxEntries before)
    (.recordCancel clock uuid pubkey :: middle)

variable (htime : MonotoneTime (before ++ .recordCancel clock uuid pubkey :: (middle ++ [call])))
  (hnew : (cancelRun configured maxEntries before).recentlyCancelled.getUnexpired (clock 0)
    (uuid, pubkey) = none)

include htime hnew

theorem getUnexpired_after_cancel {now : Instant} (hnow : now ∈ call.readings)
    (hlive : now < clock 0 + durationFromSecs (cancelFinalWindowSecs configured))
    (hkept : StaysWithin configured maxEntries before middle clock uuid pubkey ∨
      now < clock 0 + recentlyCancelledTimeout) :
    ((cancelRun configured maxEntries (before ++ .recordCancel clock uuid pubkey ::
      middle)).recentlyCancelled.getUnexpired now (uuid, pubkey)).isSome = true := by
  have httl := ttl_cancelRun configured maxEntries before
  have hle : ∀ other ∈ BookCall.recordCancel clock uuid pubkey :: middle,
      ∀ t ∈ other.readings, t ≤ now := by
    intro other hother t ht
    rw [← List.cons_append, ← List.append_assoc] at htime
    exact (List.pairwise_append.mp htime).2.2 other (List.mem_append_right _ hother) call
      (List.mem_singleton_self _) t ht now hnow
  obtain ⟨htimes, -, hpast⟩ := List.pairwise_append.mp htime
  have htracked := tracked_cancelRun configured maxEntries htimes fun earlier hmem t ht =>
    hpast earlier hmem _ List.mem_cons_self t ht (clock 0) ⟨0, rfl⟩
  have hentry := htracked.lookup_insert_self hnew ()
  rw [httl] at hentry
  have hyoung : now < clock 0 + recentlyCancelledTimeout →
      ∀ other ∈ BookCall.recordCancel clock uuid pubkey :: middle, ∀ t ∈ other.readings,
        t + durationFromSecs (cancelFinalWindowSecs configured) <
          clock 0 + durationFromSecs (cancelFinalWindowSecs configured) +
            recentlyCancelledTimeout := by
    intro hyoung other hother t ht
    rw [Nat.add_right_comm]
    exact Nat.add_lt_add_right ((hle other hother t ht).trans_lt hyoung) _
  have hrec := lookup_recordCancel hentry
    (hkept.imp And.left fun hnow => httl.symm ▸ hyoung hnow _ List.mem_cons_self)
  have hlast := lookup_run_of_lt hrec
    (fun other hother t ht => (hle other (List.mem_cons_of_mem _ hother) t ht).trans_lt hlive)
    (hkept.imp And.right fun hnow other hother =>
      ((ttl_apply _ (.recordCancel clock uuid pubkey)).trans httl).symm ▸
        hyoung hnow other (List.mem_cons_of_mem _ hother))
  have hrun : cancelRun configured maxEntries (before ++ .recordCancel clock uuid pubkey ::
      middle) = run apply ((cancelRun configured maxEntries before).recordCancel
        clock uuid pubkey) middle := run_append ..
  rw [hrun, getUnexpired, hlast]
  simp [Option.filter, hlive]

/-- If the guard holds no live entry of the cancelled order, the order does not enter the
index before 120 s have passed, and not before the window has if the guard never holds
too many entries. -/
theorem cancel_keeps_order_out (held : OrderbookItem) (howner : held.pubkey = pubkey)
    (hbefore : (cancelRun configured maxEntries
      (before ++ .recordCancel clock uuid pubkey :: middle)).orderSet.lookup uuid ≠ some held)
    (hafter : (cancelRun configured maxEntries (before ++ .recordCancel clock uuid pubkey ::
      (middle ++ [call]))).orderSet.lookup uuid = some held) :
    ∃ now, call = .index (.insertOrUpdate now held) ∧
      clock 0 + recentlyCancelledTimeout ≤ now ∧
      (StaysWithin configured maxEntries before middle clock uuid pubkey →
        clock 0 + durationFromSecs (cancelFinalWindowSecs configured) ≤ now) := by
  rw [← List.cons_append, ← List.append_assoc, cancelRun, run_append, run_cons, run_nil] at hafter
  obtain ⟨now, rfl, rfl, hopen⟩ := enters hafter hbefore
  subst howner
  have hlapsed : ∀ hlive hkept, False := fun hlive hkept =>
    Bool.false_ne_true (hopen.symm.trans (getUnexpired_after_cancel configured maxEntries
      before middle clock held.uuid held.pubkey _ htime hnew rfl hlive hkept))
  refine ⟨now, rfl, ?_, ?_⟩
  · by_contra hlt
    have hyoung := Nat.not_le.mp hlt
    exact hlapsed (hyoung.trans_le (Nat.add_le_add_left (timeout_le_window configured) _))
      (Or.inr hyoung)
  · intro hfits
    by_contra hlt
    exact hlapsed (Nat.not_le.mp hlt) (Or.inl hfits)

end Window

/-- A cancel of the order of `createdOne` by its owner. -/
def cancelAt (secs : ℕ) : BookCall := .recordCancel (fun _ => durationFromSecs secs) 1 "02aa"

def createAt (secs : ℕ) : BookCall :=
  .index (.insertOrUpdate (durationFromSecs secs) (createdOne.toOrderbookItem "02aa"))

/-- With the smallest window, an order that was cancelled at 0 s and, with that entry
expired, at 120 s enters at 240 s. -/
theorem cancelled_order_enters :
    ∃ now, createAt 240 = .index (.insertOrUpdate now (createdOne.toOrderbookItem "02aa")) ∧
      durationFromSecs 120 + recentlyCancelledTimeout ≤ now ∧
      (StaysWithin (some 120) 1 [cancelAt 0] [] (fun _ => durationFromSecs 120) 1 "02aa" →
        durationFromSecs 120 + durationFromSecs (cancelFinalWindowSecs (some 120)) ≤ now) := by
  refine cancel_keeps_order_out (some 120) 1 [cancelAt 0] [] (fun _ => durationFromSecs 120) 1
    "02aa" (createAt 240) ?_ ?_ (createdOne.toOrderbookItem "02aa") rfl ?_ ?_
  · simp [MonotoneTime, cancelAt, createAt, readings, durationFromSecs]
  · decide +kernel
  · decide +kernel
  · decide +kernel

/-- The order is cancelled at 0 s and again at 119 s, and enters at 120 s. -/
theorem repeated_cancel_lapses :
    MonotoneTime [cancelAt 0, cancelAt 119, createAt 120] ∧
      (cancelRun (some 120) 100000 [cancelAt 0, cancelAt 119]).orderSet.lookup 1 = none ∧
      (cancelRun (some 120) 100000
        [cancelAt 0, cancelAt 119, createAt 120]).orderSet.lookup 1 =
          some (createdOne.toOrderbookItem "02aa") ∧
      durationFromSecs 120 < durationFromSecs 119 + recentlyCancelledTimeout := by
  refine ⟨?_, by decide +kernel, by decide +kernel, by decide⟩
  simp [MonotoneTime, cancelAt, createAt, readings, durationFromSecs]

end Orderbook

end KdfProtocol
