import Mathlib.Algebra.Order.Field.Rat
import Mathlib.Data.List.Perm.Subperm
import Mathlib.Tactic.Linarith

/-!
# The time of an Electrum call

A call asks the maintained connections one after the other, and then every usable server,
as many at a time as the ceiling allows.  Each round gets a share of what the rounds before
it have left over.  Times and durations are exact.
-/

namespace KdfProtocol.Electrum

structure ElectrumPoolTimings where
  establishment : ℚ
  request : ℚ
  budgetReserve : ℚ
  roundFloor : ℚ
  reserve_nonneg : 0 ≤ budgetReserve
  floor_pos : 0 < roundFloor

def ElectrumPoolTimings.default : ElectrumPoolTimings where
  establishment := 20
  request := 20
  budgetReserve := 5
  roundFloor := 5
  reserve_nonneg := by norm_num
  floor_pos := by norm_num

structure ServerSlot where
  id : ℕ
  label : String
  establishTimeout : ℚ
  removed : Bool
  maintained : Bool
  hasSession : Bool

/-- The servers are in priority order. -/
structure ElectrumPool where
  ticker : String
  slots : List ServerSlot
  maxConnected : Option ℕ
  ids_nodup : (slots.map ServerSlot.id).Nodup

namespace ElectrumPool

variable (pool : ElectrumPool)

def usableSlots : List ServerSlot := pool.slots.filter fun slot => !slot.removed

def maintainedSlots : List ServerSlot :=
  pool.slots.filter fun slot => !slot.removed && slot.maintained && slot.hasSession

def ceiling : ℕ :=
  let listed := max pool.slots.length 1
  max 1 (min (pool.maxConnected.getD listed) listed)

def retryRounds (servers : ℕ) : ℕ := (servers + pool.ceiling - 1) / pool.ceiling

end ElectrumPool

/-! ## One attempt -/

def roundBudget (timings : ElectrumPoolTimings) (remaining : ℚ) (roundsLeft : ℕ)
    (attemptCap : ℚ) : ℚ :=
  let share := max (remaining - timings.budgetReserve) 0 / (max roundsLeft 1 : ℕ)
  max (min share attemptCap) timings.roundFloor

def secsLeft (deadline now : ℚ) : ℚ := max (deadline - now) 0

inductive AttemptError where
  | noAnswer (timeout : ℚ)
  | noConnection (round : ℚ)
  | noTimeLeft
  | failed (text : String)
  deriving DecidableEq

/-- What a future results in and after how long, if it ever ends. -/
abbrev Pending (α : Type) := Option (ℚ × Except AttemptError α)

def timeout {α : Type} (limit : ℚ) (late : AttemptError) : Pending α → ℚ × Except AttemptError α
  | some (delay, result) => if delay ≤ limit then (delay, result) else (limit, .error late)
  | none => (limit, .error late)

variable {Response : Type}

def requestOn (limit : ℚ) : Pending Response → ℚ × Except AttemptError Response :=
  timeout limit (.noAnswer limit)

def attemptWithConnect (timings : ElectrumPoolTimings) (round : ℚ) (connection : Pending Unit)
    (reply : Pending Response) : ℚ × Except AttemptError Response :=
  match timeout round (.noConnection round) connection with
  | (spent, .error err) => (spent, .error err)
  | (spent, .ok ()) =>
    let left := max (round - spent) 0
    if left = 0 then (spent, .error .noTimeLeft)
    else
      let (more, result) := requestOn (min left timings.request) reply
      (spent + more, result)

/-! ## The call -/

/-- What the servers do during a call: when its turn comes a maintained connection may be
closed, and it may answer; later a server may be connected to, and may answer. -/
structure Servers (Response : Type) where
  live : ℕ → Bool
  reply : ℕ → Pending Response
  connection : ℕ → Pending Unit
  retryReply : ℕ → Pending Response

/-- The failures by server, and the servers attempted with the times. -/
structure Call where
  now : ℚ
  failures : List (String × AttemptError)
  attempts : List (ℕ × ℚ)

def recordFailure (failures : List (String × AttemptError)) (label : String)
    (err : AttemptError) : List (String × AttemptError) :=
  if failures.any fun entry => entry.1 = label then
    failures.replaceF fun entry => if entry.1 = label then some (label, err) else none
  else failures ++ [(label, err)]

def Call.fail (call : Call) (slot : ServerSlot) (err : AttemptError) : Call :=
  { call with failures := recordFailure call.failures slot.label err }

def Call.attempt (call : Call) (slots : List ServerSlot) : Call :=
  { call with attempts := call.attempts ++ slots.map fun slot => (slot.id, call.now) }

abbrev Answered (Response : Type) := Call × Option (String × Response)

section Loops

variable (timings : ElectrumPoolTimings) (servers : Servers Response) (deadline : ℚ)

/-- `rounds` is the number of rounds after the maintained connections. -/
def tryMaintained (rounds : ℕ) (next : Call → Answered Response) :
    Call → List ServerSlot → Answered Response
  | call, [] => next call
  | call, slot :: rest =>
    let remaining := secsLeft deadline call.now
    if remaining = 0 then (call, none)
    else if !servers.live slot.id then tryMaintained rounds next call rest
    else
      let round := roundBudget timings remaining (rest.length + 1 + rounds)
        (slot.establishTimeout + timings.request)
      let (spent, result) :=
        requestOn (min (min round timings.request) remaining) (servers.reply slot.id)
      let call := { call.attempt [slot] with now := call.now + spent }
      match result with
      | .ok response => (call, some (slot.label, response))
      | .error err => tryMaintained rounds next (call.fail slot err) rest

/-- The attempts of a group as they end, with the time that each took. -/
def drain (started : ℚ) :
    Call → List (ServerSlot × ℚ × Except AttemptError Response) → Answered Response
  | call, [] => (call, none)
  | call, (slot, spent, .ok response) :: _ =>
    ({ call with now := started + spent }, some (slot.label, response))
  | call, (slot, spent, .error err) :: rest =>
    drain started ({ call with now := started + spent }.fail slot err) rest

def tryGroups : Call → List (List ServerSlot) → Answered Response
  | call, [] => (call, none)
  | call, group :: rest =>
    let remaining := secsLeft deadline call.now
    if remaining = 0 then (call, none)
    else
      let cap := (group.map ServerSlot.establishTimeout).max?.getD timings.establishment +
        timings.request
      let round := min (roundBudget timings remaining (rest.length + 1) cap) remaining
      let ended := (group.map fun slot => (slot, attemptWithConnect timings round
        (servers.connection slot.id) (servers.retryReply slot.id))).mergeSort
          fun a b => a.2.1 ≤ b.2.1
      match drain call.now (call.attempt group) ended with
      | (call, some answer) => (call, some answer)
      | (call, none) => tryGroups call rest

def chunks {α : Type} (width : ℕ) (items : List α) : List (List α) :=
  (List.range ((items.length + width - 1) / width)).map fun i =>
    (items.drop (i * width)).take width

def untriedFirst (tried : List ℕ) (usable : List ServerSlot) : List ServerSlot :=
  let (untried, retried) := usable.partition fun slot => !tried.contains slot.id
  untried ++ retried

/-- The pool is read when the call starts and again after the maintained connections,
which are tried in the order `turn`. -/
def routeInner (start later : ElectrumPool) (turn : List ServerSlot) (call : Call) :
    Answered Response :=
  tryMaintained timings servers deadline (start.retryRounds start.usableSlots.length)
    (fun call => tryGroups timings servers deadline call
      (chunks start.ceiling (untriedFirst (call.attempts.map Prod.fst) later.usableSlots)))
    call turn

end Loops

structure RouteError where
  ticker : String
  failures : List (String × AttemptError)
  budgetUsedUp : Option ℚ

def route (timings : ElectrumPoolTimings) (servers : Servers Response) (start later : ElectrumPool)
    (turn : List ServerSlot) (now budget : ℚ) : Call × Except RouteError (String × Response) :=
  let deadline := now + budget
  let (call, result) := routeInner timings servers deadline start later turn ⟨now, [], []⟩
  (call, match result with
    | some answer => .ok answer
    | none => .error ⟨start.ticker, call.failures,
        if secsLeft deadline call.now = 0 then some budget else none⟩)

/-! ## What an attempt takes -/

theorem timeout_le {α : Type} (limit : ℚ) (late : AttemptError) (pending : Pending α) :
    (timeout limit late pending).1 ≤ limit := by
  unfold timeout
  split
  · split
    next hdelay => exact hdelay
    · exact le_rfl
  · exact le_rfl

theorem requestOn_le (limit : ℚ) (reply : Pending Response) : (requestOn limit reply).1 ≤ limit :=
  timeout_le limit _ reply

theorem attemptWithConnect_le (timings : ElectrumPoolTimings) (round : ℚ)
    (connection : Pending Unit) (reply : Pending Response) :
    (attemptWithConnect timings round connection reply).1 ≤ round := by
  have hconnected := timeout_le round (.noConnection round) connection
  unfold attemptWithConnect
  split
  next hfailed => rwa [hfailed] at hconnected
  next spent hok =>
    rw [hok] at hconnected
    dsimp only at hconnected ⊢
    split
    · exact hconnected
    · have hleft : max (round - spent) 0 = round - spent := max_eq_left (by linarith)
      rw [hleft]
      have hreply := requestOn_le (min (round - spent) timings.request) reply
      have hmore := hreply.trans (min_le_left _ _)
      dsimp only
      linarith

/-! ## The time that is left -/

section Time

variable {timings : ElectrumPoolTimings} {deadline : ℚ} {enough : Prop}

/-- The deadline is not over and, if the budget is large enough, each of the rounds left can
have the floor. -/
structure Fits (timings : ElectrumPoolTimings) (deadline : ℚ) (enough : Prop) (rounds : ℕ)
    (now : ℚ) : Prop where
  le_deadline : now ≤ deadline
  floors : enough → timings.budgetReserve + rounds * timings.roundFloor ≤ deadline - now

variable {rounds fewer : ℕ} {now later cap : ℚ}

theorem Fits.mono (hfits : Fits timings deadline enough rounds now) (hfewer : fewer ≤ rounds) :
    Fits timings deadline enough fewer now where
  le_deadline := hfits.le_deadline
  floors := by
    intro henough
    have hfloors := hfits.floors henough
    have hrounds : (fewer : ℚ) * timings.roundFloor ≤ rounds * timings.roundFloor :=
      mul_le_mul_of_nonneg_right (Nat.cast_le.mpr hfewer) timings.floor_pos.le
    linarith

theorem Fits.secsLeft_eq (hfits : Fits timings deadline enough rounds now) :
    secsLeft deadline now = deadline - now :=
  max_eq_left (by linarith [hfits.le_deadline])

theorem Fits.lt_deadline (hfits : Fits timings deadline enough (rounds + 1) now)
    (henough : enough) : now < deadline := by
  have hfloors := hfits.floors henough
  have hreserve := timings.reserve_nonneg
  have hround : 0 < ((rounds + 1 : ℕ) : ℚ) * timings.roundFloor :=
    mul_pos (by positivity) timings.floor_pos
  linarith

theorem Fits.not_enough (hfits : Fits timings deadline enough (rounds + 1) now)
    (hzero : secsLeft deadline now = 0) : ¬enough := by
  intro henough
  rw [hfits.secsLeft_eq] at hzero
  linarith [hfits.lt_deadline henough]

/-- A round that keeps to its budget leaves the floors of the others. -/
theorem Fits.attempt (hfits : Fits timings deadline enough (rounds + 1) now)
    (hlater : later ≤ now + min (roundBudget timings (secsLeft deadline now) (rounds + 1) cap)
      (secsLeft deadline now)) : Fits timings deadline enough rounds later := by
  obtain ⟨hround, hleft⟩ := le_min_iff.mp (sub_le_iff_le_add'.mpr hlater)
  rw [hfits.secsLeft_eq] at hround hleft
  refine ⟨by linarith, ?_⟩
  intro henough
  have hfloors := hfits.floors henough
  have hpos : (0 : ℚ) < (rounds + 1 : ℕ) := by positivity
  have hrest : max (deadline - now - timings.budgetReserve) 0 =
      deadline - now - timings.budgetReserve := by
    have hnonneg := mul_pos hpos timings.floor_pos
    exact max_eq_left (by linarith)
  rw [roundBudget, max_eq_left (Nat.le_add_left 1 rounds), hrest] at hround
  generalize hshare : (deadline - now - timings.budgetReserve) / (rounds + 1 : ℕ) = share at hround
  rw [div_eq_iff hpos.ne'] at hshare
  -- The share is at least the floor, so the round is at most the share.
  have hfloor : timings.roundFloor ≤ share := by
    refine le_of_mul_le_mul_right ?_ hpos
    linarith
  have hspent := hround.trans (max_le (min_le_left share cap) hfloor)
  have hothers : (rounds : ℚ) * timings.roundFloor ≤ rounds * share :=
    mul_le_mul_of_nonneg_left hfloor (Nat.cast_nonneg rounds)
  push_cast at hshare
  linarith

end Time

/-! ## The two loops -/

section Runs

variable {timings : ElectrumPoolTimings} {servers : Servers Response} {deadline : ℚ}
  {enough : Prop} {call : Call} {slots : List ServerSlot}

/-- The call has ended in time, and unless there is an answer the servers were attempted. -/
structure InTime (deadline : ℚ) (enough : Prop) (slots : List ServerSlot)
    (result : Answered Response) : Prop where
  le_deadline : result.1.now ≤ deadline
  attempted : enough → result.2 = none → ∀ slot ∈ slots,
    ∃ at_ < deadline, (slot.id, at_) ∈ result.1.attempts

theorem drain_le {started bound : ℚ} {ended : List (ServerSlot × ℚ × Except AttemptError Response)}
    (hended : ∀ attempt ∈ ended, attempt.2.1 ≤ bound) (hnow : call.now ≤ started + bound) :
    (drain started call ended).1.now ≤ started + bound ∧
      (drain started call ended).1.attempts = call.attempts := by
  induction ended generalizing call with
  | nil => exact ⟨hnow, rfl⟩
  | cons attempt rest ih =>
    obtain ⟨slot, spent, result⟩ := attempt
    have hspent : started + spent ≤ started + bound :=
      add_le_add_right (hended _ List.mem_cons_self) started
    cases result with
    | ok response => exact ⟨hspent, rfl⟩
    | error err =>
      exact ih (fun attempt hmem => hended attempt (List.mem_cons_of_mem _ hmem)) hspent

theorem tryGroups_inTime {groups : List (List ServerSlot)}
    (hfits : Fits timings deadline enough groups.length call.now)
    (hcall : ∀ slot ∈ slots, ∃ at_ < deadline, (slot.id, at_) ∈ call.attempts) :
    InTime deadline enough (slots ++ groups.flatten)
      (tryGroups timings servers deadline call groups) := by
  induction groups generalizing call slots with
  | nil =>
    rw [List.flatten_nil, List.append_nil]
    exact ⟨hfits.le_deadline, fun _ _ => hcall⟩
  | cons group rest ih =>
    rw [tryGroups]
    dsimp only
    split
    next hzero =>
      exact ⟨hfits.le_deadline, fun henough => absurd henough (hfits.not_enough hzero)⟩
    next hleft =>
      generalize Option.getD _ _ + timings.request = cap
      generalize hround : min (roundBudget timings _ _ cap) _ = round
      generalize hended : List.mergeSort _ _ = ended
      have hbound : ∀ attempt ∈ ended, attempt.2.1 ≤ round := by
        intro attempt hmem
        rw [← hended, List.mem_mergeSort, List.mem_map] at hmem
        obtain ⟨slot, -, rfl⟩ := hmem
        exact attemptWithConnect_le timings round _ _
      have hnonneg : 0 ≤ round := by
        rw [← hround]
        exact le_min (timings.floor_pos.le.trans (le_max_right _ _)) (le_max_right _ _)
      obtain ⟨hnow, hattempts⟩ := @drain_le _ (call.attempt group) call.now round ended hbound
        (le_add_of_nonneg_right hnonneg)
      generalize drain call.now (call.attempt group) ended = drained at hnow hattempts
      rw [← hround] at hnow
      have hlater := hfits.attempt hnow
      have hlt : call.now < deadline := by
        refine lt_of_le_of_ne hfits.le_deadline ?_
        rintro rfl
        exact hleft (max_eq_right (sub_self call.now).le)
      obtain ⟨later, answer⟩ := drained
      cases answer with
      | some answer => exact ⟨hlater.le_deadline, nofun⟩
      | none =>
        rw [List.flatten_cons, ← List.append_assoc]
        refine ih hlater ?_
        rw [hattempts]
        intro slot hslot
        rcases List.mem_append.mp hslot with hbefore | hgroup
        · obtain ⟨at_, hin, hmem⟩ := hcall slot hbefore
          exact ⟨at_, hin, List.mem_append_left _ hmem⟩
        · exact ⟨call.now, hlt, List.mem_append_right _ (List.mem_map_of_mem hgroup)⟩

theorem tryMaintained_inTime {rounds : ℕ} {next : Call → Answered Response} {turn : List ServerSlot}
    (hnext : ∀ call, Fits timings deadline enough rounds call.now →
      InTime deadline enough slots (next call))
    (hfits : Fits timings deadline enough (turn.length + rounds) call.now) :
    InTime deadline enough slots
      (tryMaintained timings servers deadline rounds next call turn) := by
  induction turn generalizing call with
  | nil =>
    rw [List.length_nil, Nat.zero_add] at hfits
    exact hnext call hfits
  | cons slot rest ih =>
    rw [List.length_cons, Nat.add_right_comm] at hfits
    rw [tryMaintained]
    dsimp only
    split
    next hzero =>
      exact ⟨hfits.le_deadline, fun henough => absurd henough (hfits.not_enough hzero)⟩
    split
    · exact ih (hfits.mono (Nat.le_succ _))
    · generalize hround : roundBudget timings _ _ _ = round
      have hspent := requestOn_le (min (min round timings.request) (secsLeft deadline call.now))
        (servers.reply slot.id)
      generalize requestOn _ (servers.reply slot.id) = replied at hspent
      obtain ⟨spent, result⟩ := replied
      have hbudget : spent ≤ min round (secsLeft deadline call.now) :=
        hspent.trans (min_le_min_right _ (min_le_left _ _))
      rw [← hround, Nat.add_right_comm] at hbudget
      have hlater := hfits.attempt (add_le_add_right hbudget call.now)
      cases result with
      | ok response => exact ⟨hlater.le_deadline, nofun⟩
      | error err => exact ih hlater

end Runs

/-! ## The whole call -/

theorem mem_flatten_chunks {α : Type} {width : ℕ} {items : List α} {item : α} (hwidth : 0 < width)
    (hmem : item ∈ items) : item ∈ (chunks width items).flatten := by
  obtain ⟨i, hi, rfl⟩ := List.getElem_of_mem hmem
  have hsplit := Nat.div_add_mod' i width
  have hmod := Nat.mod_lt i hwidth
  have hgroup : i / width < (items.length + width - 1) / width := by
    rw [Nat.lt_iff_add_one_le, Nat.le_div_iff_mul_le hwidth, Nat.succ_mul]
    omega
  refine List.mem_flatten.mpr ⟨_, List.mem_map_of_mem (List.mem_range.mpr hgroup), ?_⟩
  refine List.mem_iff_getElem?.mpr ⟨i % width, ?_⟩
  rw [List.getElem?_take_of_lt hmod, List.getElem?_drop, hsplit, List.getElem?_eq_getElem hi]

theorem untriedFirst_perm (tried : List ℕ) (usable : List ServerSlot) :
    (untriedFirst tried usable).Perm usable := by
  rw [untriedFirst, List.partition_eq_filter_filter]
  exact List.filter_append_perm _ usable

/-- No server was added between two readings of the pool. -/
def NoServerAdded (start later : ElectrumPool) : Prop :=
  later.usableSlots.map ServerSlot.id ⊆ start.usableSlots.map ServerSlot.id

theorem NoServerAdded.length_le {start later : ElectrumPool} (hnone : NoServerAdded start later) :
    later.usableSlots.length ≤ start.usableSlots.length := by
  have hnodup : (later.usableSlots.map ServerSlot.id).Nodup :=
    later.ids_nodup.sublist (List.filter_sublist.map _)
  simpa using (hnodup.subperm hnone).length_le

/-- A call ends within its budget.  If the budget less the reserve has a floor for every
maintained connection and every group of servers, then a call that nobody answers has
attempted every usable server before its deadline. -/
theorem call_attempts_all_in_time (timings : ElectrumPoolTimings) (servers : Servers Response)
    (start later : ElectrumPool) (turn : List ServerSlot) (now budget : ℚ) (hbudget : 0 ≤ budget)
    (hturn : turn.Perm start.maintainedSlots) (hadded : NoServerAdded start later) :
    (route timings servers start later turn now budget).1.now ≤ now + budget ∧
    ((start.maintainedSlots.length + start.retryRounds start.usableSlots.length : ℕ) *
        timings.roundFloor ≤ budget - timings.budgetReserve →
      (route timings servers start later turn now budget).2.toOption = none →
      ∀ slot ∈ later.usableSlots, ∃ at_ < now + budget,
        (slot.id, at_) ∈ (route timings servers start later turn now budget).1.attempts) := by
  have hwidth : 0 < start.ceiling := Nat.lt_of_lt_of_le Nat.one_pos (le_max_left _ _)
  rw [← hturn.length_eq]
  generalize henough : ((_ + _ : ℕ) * timings.roundFloor ≤ _) = enough
  have hinTime : InTime (now + budget) enough later.usableSlots
      (routeInner timings servers (now + budget) start later turn ⟨now, [], []⟩) := by
    refine tryMaintained_inTime ?_ ⟨by dsimp only; linarith, ?_⟩
    · intro call hfits
      have horder := untriedFirst_perm (call.attempts.map Prod.fst) later.usableSlots
      generalize untriedFirst _ _ = order at horder
      have hlength := horder.length_eq.trans_le hadded.length_le
      have hgroups : (chunks start.ceiling order).length ≤
          start.retryRounds start.usableSlots.length := by
        rw [chunks, List.length_map, List.length_range]
        exact Nat.div_le_div_right (by omega)
      have hall := @tryGroups_inTime _ timings servers _ _ call [] _ (hfits.mono hgroups) nofun
      refine ⟨hall.le_deadline, ?_⟩
      intro hfloors hnone slot hslot
      exact hall.attempted hfloors hnone slot
        (mem_flatten_chunks hwidth (horder.mem_iff.mpr hslot))
    · subst henough
      intro hfloors
      dsimp only
      linarith
  refine ⟨hinTime.le_deadline, ?_⟩
  intro hfloors hfailed
  refine hinTime.attempted hfloors ?_
  unfold route at hfailed
  dsimp only at hfailed
  split at hfailed
  · cases hfailed
  next hnone => exact hnone

def silentPool : ElectrumPool where
  ticker := "KMD"
  slots := [⟨0, "electrum1:10001", 20, false, true, true⟩,
    ⟨1, "electrum2:10001", 20, false, false, false⟩]
  maxConnected := some 1
  ids_nodup := by decide

def silentServers : Servers Unit := ⟨fun _ => true, fun _ => none, fun _ => none, fun _ => none⟩

/-- Two servers that never answer are both attempted. -/
theorem silent_servers_attempted :
    (route .default silentServers silentPool silentPool silentPool.maintainedSlots 0 60).1.now ≤
      0 + 60 ∧
    ∀ slot ∈ silentPool.usableSlots, ∃ at_ < (0 + 60 : ℚ), (slot.id, at_) ∈ (route .default
      silentServers silentPool silentPool silentPool.maintainedSlots 0 60).1.attempts := by
  obtain ⟨hend, hall⟩ := call_attempts_all_in_time .default silentServers silentPool silentPool
    silentPool.maintainedSlots 0 60 (by norm_num) (.refl _) (List.Subset.refl _)
  refine ⟨hend, hall ?_ ?_⟩
  · decide +kernel
  · decide +kernel

end KdfProtocol.Electrum
