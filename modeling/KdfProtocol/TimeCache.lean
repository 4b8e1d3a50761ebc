import KdfProtocol.HashMap

/-!
# The time cache

A map whose entries expire.  Next to the map the cache keeps a list of keys
ordered by expire time, one element per live entry, plus leftovers of removed
entries.  The list element of an entry that was refreshed trails the expire
time in the map and is queued again when it reaches the front.

Every operation that reads the clock takes the instant as an argument.
-/

namespace KdfProtocol

open HashMap

/-- A point of the monotonic clock, in nanoseconds. -/
abbrev Instant := ℕ

abbrev Duration := ℕ

def durationFromSecs (secs : ℕ) : Duration := secs * 10 ^ 9

structure ExpiringElement (V : Type) where
  element : V
  expires : Instant
  serial : ℕ

structure QueuedKey (K : Type) where
  key : K
  expires : Instant
  serial : ℕ

structure TimeCache (K V : Type) where
  map : HashMap K (ExpiringElement V)
  list : List (QueuedKey K)
  nextSerial : ℕ
  ttl : Duration

namespace TimeCache

variable {K V : Type}

def new (ttl : Duration) : TimeCache K V where
  map := ∅
  list := []
  nextSerial := 0
  ttl := ttl

/-- Insertion at the partition point of `other.expires ≤ queued.expires`. -/
def queue (queued : QueuedKey K) (list : List (QueuedKey K)) : List (QueuedKey K) :=
  list.takeWhile (fun other => other.expires ≤ queued.expires) ++
    queued :: list.dropWhile (fun other => other.expires ≤ queued.expires)

theorem queue_perm (queued : QueuedKey K) (list : List (QueuedKey K)) :
    (queue queued list).Perm (queued :: list) := by
  unfold queue
  refine List.perm_middle.trans ?_
  rw [List.takeWhile_append_dropWhile]

variable [DecidableEq K]

/-- The list elements that `removeExpiredKeys` may still pop. -/
def dueCount (now : Instant) (list : List (QueuedKey K)) : ℕ :=
  list.countP fun queued => queued.expires ≤ now

variable {map : HashMap K (ExpiringElement V)} {now : Instant} {list : List (QueuedKey K)}
  {entry : ExpiringElement V} {cache : TimeCache K V} {key : K} {other : K} {found : V}

omit [DecidableEq K] in
theorem dueCount_queue_of_lt {queued : QueuedKey K} (hlater : now < queued.expires)
    (list : List (QueuedKey K)) : dueCount now (queue queued list) = dueCount now list := by
  unfold dueCount
  rw [(queue_perm queued list).countP_eq]
  simp [hlater]

def removeExpiredLoop (now : Instant) (map : HashMap K (ExpiringElement V)) :
    List (QueuedKey K) → HashMap K (ExpiringElement V) × List (QueuedKey K)
  | [] => (map, [])
  | queued :: rest =>
    if now < queued.expires then (map, queued :: rest)
    else
      match map.lookup queued.key with
      | none => removeExpiredLoop now map rest
      | some entry =>
        -- A leftover of an entry that was removed and inserted again.
        if entry.serial ≠ queued.serial then removeExpiredLoop now map rest
        else if entry.expires ≤ now then
          removeExpiredLoop now (map.erase queued.key) rest
        else
          removeExpiredLoop now map (queue { queued with expires := entry.expires } rest)
termination_by list => dueCount now list
decreasing_by
  · simp_all [dueCount]
  · simp_all [dueCount]
  · simp_all [dueCount]
  · rw [dueCount_queue_of_lt (Nat.lt_of_not_le ‹¬entry.expires ≤ now›)]
    simp_all [dueCount]

section

variable (now : Instant) (key : K) (cache : TimeCache K V)

def removeExpiredKeys : TimeCache K V :=
  let (map, list) := removeExpiredLoop now cache.map cache.list
  { cache with map, list }

def removeExpired : TimeCache K V :=
  cache.removeExpiredKeys now

def trailingCount (map : HashMap K (ExpiringElement V)) (list : List (QueuedKey K)) : ℕ :=
  list.countP fun queued =>
    match map.lookup queued.key with
    | none => false
    | some entry => queued.expires < entry.expires

def popOldestLoop (eligible : Instant → Bool) (map : HashMap K (ExpiringElement V)) :
    List (QueuedKey K) → Option (K × V) × HashMap K (ExpiringElement V) × List (QueuedKey K)
  | [] => (none, map, [])
  | queued :: rest =>
    match _hentry : map.lookup queued.key with
    | none => popOldestLoop eligible map rest
    | some entry =>
      if entry.serial ≠ queued.serial then popOldestLoop eligible map rest
      else if queued.expires < entry.expires then
        popOldestLoop eligible map (queue { queued with expires := entry.expires } rest)
      else if !eligible entry.expires then
        (none, map, queued :: rest)
      else
        (some (queued.key, entry.element), map.erase queued.key, rest)
termination_by list => list.length + trailingCount map list
decreasing_by
  · simp [trailingCount, _hentry]
  · simp only [trailingCount, List.length_cons, List.countP_cons]
    omega
  · have hlength := (queue_perm { queued with expires := entry.expires } rest).length_eq
    have hcount : trailingCount map (queue { queued with expires := entry.expires } rest) =
        trailingCount map rest := by
      unfold trailingCount
      rw [(queue_perm _ rest).countP_eq]
      simp [_hentry]
    have htrailing : trailingCount map (queued :: rest) = trailingCount map rest + 1 := by
      simp_all [trailingCount]
    rw [hlength, hcount, htrailing]
    simp

def popOldestIf (eligible : Instant → Bool) (cache : TimeCache K V) :
    Option (K × V) × TimeCache K V :=
  let (popped, map, list) := popOldestLoop eligible cache.map cache.list
  (popped, { cache with map, list })

def popOldest : Option (K × V) × TimeCache K V :=
  cache.popOldestIf fun _ => true

/-- An entry inserted `age` ago expires at `inserted + ttl`. -/
def popOldestAtLeast (minAge : Duration) (cache : TimeCache K V) : Option (K × V) × TimeCache K V :=
  cache.popOldestIf fun expires => expires + minAge ≤ now + cache.ttl

/-- The vacant branch of `entry`: the key is queued and the value stored. -/
def insertVacant (value : V) (cache : TimeCache K V) : TimeCache K V :=
  { cache with
    map := cache.map.insert key
      { element := value, expires := now + cache.ttl
        serial := cache.nextSerial }
    list := cache.list ++ [{ key, expires := now + cache.ttl, serial := cache.nextSerial }]
    nextSerial := cache.nextSerial + 1 }

/-- `insert` never overwrites: the flag is `false` for a present key. -/
def insert (value : V) (cache : TimeCache K V) : Bool × TimeCache K V :=
  let cache := cache.removeExpiredKeys now
  match cache.map.lookup key with
  | none => (true, cache.insertVacant now key value)
  | some _ => (false, cache)

/-- `entry(key).or_insert_with_update_expiration(default)`. -/
def orInsertWithUpdateExpiration (default : V) (cache : TimeCache K V) : TimeCache K V :=
  let cache := cache.removeExpiredKeys now
  match cache.map.lookup key with
  | none => cache.insertVacant now key default
  | some entry =>
    { cache with
      map := cache.map.insert key { entry with expires := now + cache.ttl } }

def modify (f : V → V) (cache : TimeCache K V) : TimeCache K V :=
  match cache.map.lookup key with
  | none => cache
  | some entry =>
    { cache with
      map := cache.map.insert key { entry with element := f entry.element } }

def remove : Option V × TimeCache K V :=
  ((cache.map.lookup key).map ExpiringElement.element,
    ({ cache with map := cache.map.erase key }).removeExpiredKeys now)

def get : Option V :=
  (cache.map.lookup key).map ExpiringElement.element

def getUnexpired : Option V :=
  ((cache.map.lookup key).filter fun entry => now < entry.expires).map ExpiringElement.element

omit [DecidableEq K] in
def len : ℕ := cache.map.keys.length

omit [DecidableEq K] in
def valuesMut (f : K → V → V) (cache : TimeCache K V) : TimeCache K V :=
  { cache with
    map := HashMap.mapValues (fun key entry => { entry with element := f key entry.element })
      cache.map }

end

/-! ## What the operations leave in the map -/

theorem lookup_removeExpiredLoop
    (hlook : (removeExpiredLoop now map list).1.lookup key = some entry) :
    map.lookup key = some entry := by
  fun_induction removeExpiredLoop now map list with
  | case1 | case2 => exact hlook
  | case3 _ _ _ _ _ ih | case4 _ _ _ _ _ _ _ ih | case6 _ _ _ _ _ _ _ _ ih => exact ih hlook
  | case5 _ _ _ _ _ _ _ _ ih =>
    have herased := ih hlook
    rw [lookup_erase_if] at herased
    split at herased
    · cases herased
    · exact herased

theorem lookup_popOldestLoop {eligible : Instant → Bool}
    (hlook : (popOldestLoop eligible map list).2.1.lookup key = some entry) :
    map.lookup key = some entry := by
  fun_induction popOldestLoop eligible map list with
  | case1 => exact hlook
  | case2 _ _ _ ih | case3 _ _ _ _ _ ih | case4 _ _ _ _ _ _ ih => exact ih hlook
  | case5 => exact hlook
  | case6 =>
    simp only at hlook
    rw [lookup_erase_if] at hlook
    split at hlook
    · cases hlook
    · exact hlook

def Shrinks (before after : TimeCache K V) : Prop :=
  ∀ key value, after.get key = some value → before.get key = some value

theorem Shrinks.refl (cache : TimeCache K V) : cache.Shrinks cache :=
  fun _ _ hget => hget

theorem Shrinks.trans {first second third : TimeCache K V}
    (h₁ : first.Shrinks second) (h₂ : second.Shrinks third) : first.Shrinks third :=
  fun key value hget => h₁ key value (h₂ key value hget)

theorem shrinks_of_lookup {before after : TimeCache K V}
    (hlook : ∀ key entry, after.map.lookup key = some entry →
      before.map.lookup key = some entry) : before.Shrinks after := by
  intro key value hget
  obtain ⟨entry, hentry, hvalue⟩ := Option.map_eq_some_iff.mp hget
  exact Option.map_eq_some_iff.mpr ⟨entry, hlook key entry hentry, hvalue⟩

theorem shrinks_removeExpiredKeys (now : Instant) (cache : TimeCache K V) :
    cache.Shrinks (cache.removeExpiredKeys now) :=
  shrinks_of_lookup fun _ _ => lookup_removeExpiredLoop

theorem shrinks_popOldest (cache : TimeCache K V) : cache.Shrinks cache.popOldest.2 :=
  shrinks_of_lookup fun _ _ => lookup_popOldestLoop

theorem shrinks_remove (now : Instant) (key : K) (cache : TimeCache K V) :
    cache.Shrinks (cache.remove now key).2 := by
  refine Shrinks.trans (shrinks_of_lookup ?_)
    (shrinks_removeExpiredKeys now { cache with map := cache.map.erase key })
  intro other entry hlook
  simp only [lookup_erase_if] at hlook
  split at hlook
  · cases hlook
  · exact hlook

theorem get_remove_self (now : Instant) (key : K) (cache : TimeCache K V) :
    (cache.remove now key).2.get key = none := by
  cases hget : (cache.remove now key).2.get key with
  | none => rfl
  | some value =>
    have herased := shrinks_removeExpiredKeys now
      { cache with map := cache.map.erase key } key value hget
    simp [get] at herased

theorem get_insertVacant (now : Instant) (key : K) (value : V) (cache : TimeCache K V) (other : K) :
    (cache.insertVacant now key value).get other =
      if other = key then some value else cache.get other := by
  simp only [get, insertVacant, lookup_insert_if]
  split <;> rfl

theorem get_insert {value : V} (hget : (cache.insert now key value).2.get other = some found) :
    cache.get other = some found ∨ other = key ∧ found = value := by
  simp only [insert] at hget
  split at hget
  · rw [get_insertVacant] at hget
    split at hget
    next heq =>
      cases hget
      exact Or.inr ⟨heq, rfl⟩
    · exact Or.inl (shrinks_removeExpiredKeys now cache other found hget)
  · exact Or.inl (shrinks_removeExpiredKeys now cache other found hget)

theorem get_orInsertWithUpdateExpiration {default : V}
    (hget : (cache.orInsertWithUpdateExpiration now key default).get other = some found) :
    cache.get other = some found ∨ other = key ∧ found = default := by
  simp only [orInsertWithUpdateExpiration] at hget
  split at hget
  · rw [get_insertVacant] at hget
    split at hget
    next heq =>
      cases hget
      exact Or.inr ⟨heq, rfl⟩
    · exact Or.inl (shrinks_removeExpiredKeys now cache other found hget)
  next entry hentry =>
    left
    apply shrinks_removeExpiredKeys now cache
    simp only [get, lookup_insert_if] at hget ⊢
    split at hget
    next heq =>
      rw [heq, hentry]
      simpa using hget
    · exact hget

theorem get_modify (key : K) (f : V → V) (cache : TimeCache K V) (other : K) :
    (cache.modify key f).get other =
      if other = key then (cache.get key).map f else cache.get other := by
  unfold modify
  cases hlook : cache.map.lookup key with
  | none =>
    by_cases heq : other = key
    · subst heq
      simp [get, hlook]
    · simp [heq]
  | some entry =>
    simp only [get, lookup_insert_if]
    by_cases heq : other = key
    · simp [heq, hlook]
    · simp [heq]

theorem get_valuesMut (f : K → V → V) (cache : TimeCache K V) (key : K) :
    (cache.valuesMut f).get key = (cache.get key).map (f key) := by
  simp [get, valuesMut, lookup_mapValues, Function.comp_def]

/-! ## Which entries stay -/

section Stays

variable {now : Instant} {eligible : Instant → Bool} {map : HashMap K (ExpiringElement V)}
  {list : List (QueuedKey K)} {key other : K} {entry : ExpiringElement V} {value : V}

theorem lookup_removeExpiredLoop_of_lt (hlook : map.lookup key = some entry)
    (hlater : now < entry.expires) :
    (removeExpiredLoop now map list).1.lookup key = some entry := by
  fun_induction removeExpiredLoop now map list with
  | case1 | case2 => exact hlook
  | case3 _ _ _ _ _ ih | case4 _ _ _ _ _ _ _ ih | case6 _ _ _ _ _ _ _ _ ih =>
    exact ih hlook
  | case5 map queued rest hdue found hfound hserial hexpired ih =>
    apply ih
    rw [lookup_erase_if, if_neg]
    · exact hlook
    · rintro rfl
      rw [hfound] at hlook
      cases hlook
      exact absurd hlater (Nat.not_lt.mpr hexpired)

theorem lookup_popOldestLoop_of_not (hlook : map.lookup key = some entry)
    (hyoung : eligible entry.expires = false) :
    (popOldestLoop eligible map list).2.1.lookup key = some entry := by
  fun_induction popOldestLoop eligible map list with
  | case1 | case5 => exact hlook
  | case2 _ _ _ ih | case3 _ _ _ _ _ ih | case4 _ _ _ _ _ _ ih => exact ih
  | case6 queued rest found hfound hserial hcurrent heligible =>
    simp only
    rw [lookup_erase_if, if_neg]
    · exact hlook
    · rintro rfl
      rw [hfound] at hlook
      cases hlook
      simp [hyoung] at heligible

theorem lookup_insert_of_lt {cache : TimeCache K V}
    (hlook : cache.map.lookup key = some entry) (hlater : now < entry.expires) :
    (cache.insert now other value).2.map.lookup key = some entry := by
  have hkept : (cache.removeExpiredKeys now).map.lookup key = some entry :=
    lookup_removeExpiredLoop_of_lt hlook hlater
  simp only [insert]
  split
  next hvacant =>
    simp only [insertVacant, lookup_insert_if]
    rw [if_neg]
    · exact hkept
    · rintro rfl
      rw [hvacant] at hkept
      cases hkept
  · exact hkept

theorem ttl_insert (cache : TimeCache K V) (now : Instant) (key : K) (value : V) :
    (cache.insert now key value).2.ttl = cache.ttl := by
  simp only [insert]
  split
  · rfl
  · rfl

end Stays

/-! ## Caches whose entries are never refreshed -/

/-- Nothing in the list expires after `bound`, and each entry has the element that was
queued with it. -/
structure Tracks (bound next : ℕ) (map : HashMap K (ExpiringElement V))
    (list : List (QueuedKey K)) : Prop where
  sorted : list.Pairwise fun queued later => queued.expires ≤ later.expires
  within : ∀ queued ∈ list, queued.expires ≤ bound ∧ queued.serial < next
  agrees : ∀ queued ∈ list, ∀ entry, map.lookup queued.key = some entry →
    entry.serial = queued.serial → entry.expires = queued.expires
  queued : ∀ key entry, map.lookup key = some entry →
    ∃ queued ∈ list, queued.key = key ∧ queued.serial = entry.serial

/-- The entries of the cache are tracked, and none of them outlives `bound`. -/
def Tracked (bound : Instant) (cache : TimeCache K V) : Prop :=
  Tracks bound cache.nextSerial cache.map cache.list

section Tracks

variable {bound next : ℕ} {map after : HashMap K (ExpiringElement V)} {first : QueuedKey K}
  {rest list : List (QueuedKey K)} {cache : TimeCache K V} {now : Instant}

theorem Tracks.tail (htracks : Tracks bound next map (first :: rest))
    (hafter : ∀ key entry, after.lookup key = some entry →
      map.lookup key = some entry ∧ ¬(first.key = key ∧ first.serial = entry.serial)) :
    Tracks bound next after rest where
  sorted := htracks.sorted.of_cons
  within queued hmem := htracks.within queued (List.mem_cons_of_mem _ hmem)
  agrees queued hmem entry hlook :=
    htracks.agrees queued (List.mem_cons_of_mem _ hmem) entry (hafter _ _ hlook).1
  queued key entry hlook := by
    obtain ⟨hpre, hother⟩ := hafter key entry hlook
    obtain ⟨queued, hmem, hsame⟩ := htracks.queued key entry hpre
    rcases List.mem_cons.mp hmem with rfl | hrest
    · exact absurd hsame hother
    · exact ⟨queued, hrest, hsame⟩

/-- Only entries that have not expired are left. -/
theorem Tracks.removeExpiredLoop (htracks : Tracks bound next map list) :
    Tracks bound next (TimeCache.removeExpiredLoop now map list).1
        (TimeCache.removeExpiredLoop now map list).2 ∧
      ∀ key entry, (TimeCache.removeExpiredLoop now map list).1.lookup key = some entry →
        now < entry.expires := by
  fun_induction TimeCache.removeExpiredLoop now map list with
  | case1 =>
    refine ⟨htracks, fun key entry hlook => ?_⟩
    obtain ⟨queued, hmem, -⟩ := htracks.queued key entry hlook
    cases hmem
  | case2 map first rest hlater =>
    refine ⟨htracks, fun key entry hlook => ?_⟩
    obtain ⟨queued, hmem, rfl, hserial⟩ := htracks.queued key entry hlook
    rw [htracks.agrees queued hmem entry hlook hserial.symm]
    rcases List.mem_cons.mp hmem with rfl | hrest
    · exact hlater
    · exact hlater.trans_le ((List.pairwise_cons.mp htracks.sorted).1 queued hrest)
  | case3 | case4 | case5 => grind [Tracks.tail, lookup_erase_if]
  | case6 map first rest hdue entry hlook hserial hlive =>
    -- Nothing is queued again: the entry expires with its element.
    have hexpires := htracks.agrees first List.mem_cons_self entry hlook (not_not.mp hserial)
    exact absurd (hexpires ▸ Nat.not_lt.mp hdue) hlive

theorem Tracks.popOldestLoop {eligible : Instant → Bool} (htracks : Tracks bound next map list) :
    Tracks bound next (TimeCache.popOldestLoop eligible map list).2.1
      (TimeCache.popOldestLoop eligible map list).2.2 := by
  fun_induction TimeCache.popOldestLoop eligible map list with
  | case1 | case5 => exact htracks
  | case2 | case3 | case6 => grind [Tracks.tail, lookup_erase_if]
  | case4 first rest entry hlook hserial hlater =>
    have hexpires := htracks.agrees first List.mem_cons_self entry hlook (not_not.mp hserial)
    exact absurd hexpires hlater.ne'

theorem Tracked.mono {later : Instant} (htracked : cache.Tracked now) (hle : now ≤ later) :
    cache.Tracked later :=
  { htracked with within := fun queued hmem => (htracked.within queued hmem).imp_left hle.trans' }

theorem Tracked.insert (htracked : cache.Tracked (now + cache.ttl)) (key : K) (value : V) :
    (cache.insert now key value).2.Tracked (now + cache.ttl) := by
  have hkept : (cache.removeExpiredKeys now).Tracked (now + cache.ttl) :=
    htracked.removeExpiredLoop.1
  simp only [TimeCache.insert]
  split
  · have httl : (cache.removeExpiredKeys now).ttl = cache.ttl := rfl
    obtain ⟨hsorted, hwithin, hagrees, hqueued⟩ := hkept
    refine ⟨?_, ?_, ?_, fun other entry hlook => ?_⟩
    · grind [insertVacant]
    · grind [insertVacant]
    · grind [insertVacant, lookup_insert_if]
    · simp only [insertVacant, lookup_insert_if, List.mem_append, List.mem_singleton] at hlook ⊢
      split_ifs at hlook with hother
      · cases hlook
        exact ⟨_, Or.inr rfl, hother.symm, rfl⟩
      · obtain ⟨queued, hmem, hsame⟩ := hqueued other entry hlook
        exact ⟨queued, Or.inl hmem, hsame⟩
  · exact hkept

theorem Tracked.popOldestAtLeast (htracked : cache.Tracked bound) (minAge : Duration) :
    (cache.popOldestAtLeast now minAge).2.Tracked bound :=
  htracked.popOldestLoop

/-- An entry that has expired is as good as none. -/
theorem Tracked.lookup_insert_self (htracked : cache.Tracked bound)
    (hdead : cache.getUnexpired now key = none) (value : V) :
    (cache.insert now key value).2.map.lookup key =
      some ⟨value, now + cache.ttl, cache.nextSerial⟩ := by
  have hkept : (cache.removeExpiredKeys now).map.lookup key = none := by
    by_contra hsome
    obtain ⟨entry, hentry⟩ := Option.ne_none_iff_exists'.mp hsome
    have hlater := htracked.removeExpiredLoop.2 key entry hentry
    rw [getUnexpired, lookup_removeExpiredLoop hentry] at hdead
    simp [Option.filter, hlater] at hdead
  simp only [TimeCache.insert, hkept, insertVacant, lookup_insert_if, if_true]
  rfl

end Tracks

end TimeCache

end KdfProtocol
