import KdfProtocol.GuardedRun

/-!
# The lock file of a swap

A lock is a file at a path that holds the time of its last touch.  Taking the lock,
touching it and dropping it are several steps on the file system each, and any
number of processes take them in any order.
-/

namespace KdfProtocol

/-! ## The file system -/

/-- The file at the path of the lock, if any, and what the files hold.  A file
lives on without its path while a process has it open. -/
structure LockFiles where
  path : Option ℕ
  /-- The number a file holds, none if it is empty or holds something else. -/
  contents : ℕ → Option ℕ
  next : ℕ

open LockFiles

namespace LockFiles

variable (files : LockFiles)

def setContents (file : ℕ) (text : Option ℕ) : LockFiles :=
  { files with contents := Function.update files.contents file text }

def create : LockFiles :=
  { (files.setContents files.next none) with
    path := some files.next, next := files.next + 1 }

/-- The first half of `std::fs::write`: the file is made or emptied. -/
def openTruncate : LockFiles × ℕ :=
  match files.path with
  | some file => (files.setContents file none, file)
  | none => (files.create, files.next)

/-- The second half of `std::fs::write`. -/
def write (file timestamp : ℕ) : LockFiles :=
  files.setContents file (some timestamp)

def removeFile : LockFiles :=
  { files with path := none }

def current : Option (Option ℕ) :=
  files.path.map files.contents

end LockFiles

/-! ## One process -/

inductive TouchOrigin where
  | created
  | tookOver
  | renewing
  deriving DecidableEq

inductive LockPhase where
  | idle
  /-- Called `lock`, will create the file. -/
  | creating
  /-- The file exists, will open it to read. -/
  | opening
  | reading (file : ℕ)
  /-- Read the timestamp, will look at the clock. -/
  | deciding (timestamp : Option ℕ)
  /-- Has a `FileLock`, will look at the clock. -/
  | touching (origin : TouchOrigin)
  | truncating (origin : TouchOrigin) (timestamp : ℕ)
  | writing (origin : TouchOrigin) (timestamp file : ℕ)
  | holding
  /-- The `FileLock` is dropped, will remove the file. -/
  | dropping
  deriving DecidableEq

open LockPhase

namespace LockPhase

def hasLock : LockPhase → Bool
  | touching _ | truncating _ _ | writing _ _ _ | holding | dropping => true
  | idle | creating | opening | reading _ | deciding _ => false

/-- The process has been given its lock and has not dropped it. -/
def holds : LockPhase → Bool
  | holding => true
  | touching origin | truncating origin _ | writing origin _ _ => origin = .renewing
  | _ => false

/-- The process has a `FileLock` though there may be no file. -/
def lacksFile : LockPhase → Bool
  | touching origin | truncating origin _ => origin = .tookOver
  | dropping => true
  | _ => false

end LockPhase

def outdated (ttl now : ℕ) (timestamp : Option ℕ) : Bool :=
  timestamp.all fun timestamp => 1000 * timestamp + ttl < now

/-- The next step of a process on the file system at a time in milliseconds, and
whether the file system lets it succeed. -/
def lockStep (ttl now : ℕ) (files : LockFiles) (ok : Bool) : LockPhase → LockFiles × LockPhase
  | .idle => (files, .idle)
  | .creating =>
    match ok, files.path with
    | true, none => (files.create, .touching .created)
    | true, some _ => (files, .opening)
    | false, _ => (files, .idle)
  | .opening =>
    match ok, files.path with
    | true, some file => (files, .reading file)
    | _, _ => (files, .idle)
  | .reading file =>
    if ok then (files, .deciding (files.contents file)) else (files, .idle)
  | .deciding timestamp =>
    if outdated ttl now timestamp then (files, .touching .tookOver)
    else (files, .idle)
  | .touching origin => (files, .truncating origin (now / 1000))
  | .truncating origin timestamp =>
    if ok then
      (files.openTruncate.1, .writing origin timestamp files.openTruncate.2)
    else (files, .dropping)
  | .writing _ timestamp file =>
    if ok then (files.write file timestamp, .holding) else (files, .dropping)
  | .holding => (files, .holding)
  | .dropping => (files.removeFile, .idle)

/-! ## All processes -/

structure LockState (P : Type) where
  files : LockFiles
  phase : P → LockPhase
  /-- The clock of all processes, in milliseconds. -/
  now : ℕ
  /-- When a process last finished a touch. -/
  renewed : P → ℕ

inductive LockAction (P : Type) where
  | lock (p : P)
  | advance (p : P) (ok : Bool)
  | renew (p : P)
  | drop (p : P)
  /-- The process ends and drops nothing. -/
  | crash (p : P)
  | tick (elapsed : ℕ)

namespace LockState

variable {P : Type}

section Actions

variable [DecidableEq P]

def setPhase (s : LockState P) (p : P) (phase : LockPhase) : LockState P :=
  { s with phase := Function.update s.phase p phase }

def move (s : LockState P) (p : P) (source target : LockPhase) : LockState P :=
  if s.phase p = source then s.setPhase p target else s

def advance (ttl : ℕ) (s : LockState P) (p : P) (ok : Bool) : LockState P :=
  let (files, phase) := lockStep ttl s.now s.files ok (s.phase p)
  let renewed :=
    if phase = .holding ∧ s.phase p ≠ .holding then
      Function.update s.renewed p s.now
    else s.renewed
  { s.setPhase p phase with files, renewed }

def step (ttl : ℕ) (s : LockState P) : LockAction P → LockState P
  | .lock p => s.move p .idle .creating
  | .advance p ok => s.advance ttl p ok
  | .renew p => s.move p .holding (.touching .renewing)
  | .drop p => s.move p .holding .dropping
  | .crash p => s.setPhase p .idle
  | .tick elapsed => { s with now := s.now + elapsed }

end Actions

/-- Every holder has rewritten its timestamp within the last `ttl`. -/
def Renewed (ttl : ℕ) (s : LockState P) : Prop :=
  ∀ p, (s.phase p).holds = true → s.now ≤ s.renewed p + ttl

def OneHolder (s : LockState P) : Prop :=
  ∀ p q, (s.phase p).holds = true → (s.phase q).holds = true → p = q

def OneLock (s : LockState P) : Prop :=
  ∀ p q, (s.phase p).hasLock = true → (s.phase q).hasLock = true → p = q

/-- A take-over meets no other process inside a touch or a drop.  If another
process holds the lock, what was read is in the file still, and whole seconds do not
make a touch of the last `ttl` look older. -/
def FairTakeOver (ttl : ℕ) (s : LockState P) (p : P) (timestamp : Option ℕ) : Prop :=
  ∀ q, q ≠ p → (s.phase q).hasLock = true →
    s.phase q = .holding ∧ s.files.current = some timestamp ∧
      ∀ seconds ∈ timestamp, s.now ≤ s.renewed q + ttl → s.now ≤ 1000 * seconds + ttl

/-- A take-over is fair, and nobody creates the file between a take-over and its
touch or during a drop. -/
def Undisturbed (ttl : ℕ) (s : LockState P) : LockAction P → Prop
  | .advance p ok =>
    match s.phase p with
    | .creating => ok = true → s.files.path = none →
        ∀ q, q ≠ p → (s.phase q).lacksFile = false
    | .deciding timestamp => outdated ttl s.now timestamp = true →
        s.FairTakeOver ttl p timestamp
    | _ => True
  | _ => True

section Decidable

variable [Fintype P] (ttl : ℕ) (s : LockState P)

instance : Decidable (s.Renewed ttl) :=
  inferInstanceAs (Decidable (∀ p, (s.phase p).holds = true → _))

variable [DecidableEq P]

instance : Decidable s.OneHolder :=
  inferInstanceAs (Decidable (∀ p q, (s.phase p).holds = true → (s.phase q).holds = true → p = q))

instance (p : P) (timestamp : Option ℕ) : Decidable (s.FairTakeOver ttl p timestamp) :=
  inferInstanceAs (Decidable (∀ q, q ≠ p → (s.phase q).hasLock = true → _))

instance (action : LockAction P) : Decidable (s.Undisturbed ttl action) := by
  unfold Undisturbed
  split
  · split <;> infer_instance
  · infer_instance

end Decidable

/-! ## One process with a lock -/

/-- What the file system looks like to a process that has a `FileLock`. -/
def Backed (files : LockFiles) : LockPhase → Prop
  | .touching origin | .truncating origin _ => origin ≠ .tookOver → files.path ≠ none
  | .writing _ _ file => files.path = some file
  | .holding => ∃ timestamp, files.current = some (some timestamp)
  | _ => True

section Process

variable {ttl now : ℕ} {files : LockFiles} {ok : Bool} {phase : LockPhase}

theorem path_openTruncate (files : LockFiles) :
    files.openTruncate.1.path = some files.openTruncate.2 := by
  unfold openTruncate
  cases hpath : files.path with
  | none => rfl
  | some file => exact hpath

theorem current_write {file : ℕ} (hpath : files.path = some file) (timestamp : ℕ) :
    (files.write file timestamp).current = some (some timestamp) := by
  have hkept : (files.write file timestamp).path = some file := hpath
  rw [current, hkept, Option.map_some]
  exact congrArg some (Function.update_self ..)

theorem lockStep_unlocked (hpre : phase.hasLock = false) :
    ((lockStep ttl now files ok phase).2.hasLock = false →
        (lockStep ttl now files ok phase).1 = files) ∧
      ((lockStep ttl now files ok phase).2.hasLock = true →
        (phase = .creating ∧ ok = true ∧ files.path = none) ∨
          ∃ timestamp, phase = .deciding timestamp ∧ outdated ttl now timestamp = true) := by
  cases phase with
  | idle => simp [lockStep, hasLock]
  | creating | opening =>
    cases ok <;> cases hpath : files.path <;> simp [lockStep, hpath, hasLock]
  | reading file => cases ok <;> simp [lockStep, hasLock]
  | deciding timestamp =>
    cases houtdated : outdated ttl now timestamp <;> simp [lockStep, houtdated, hasLock]
  | touching origin | truncating origin timestamp | writing origin timestamp file
  | holding | dropping => cases hpre

theorem backed_lockStep (hback : phase.hasLock = true → Backed files phase) :
    Backed (lockStep ttl now files ok phase).1 (lockStep ttl now files ok phase).2 := by
  cases phase with
  | idle => trivial
  | creating =>
    cases ok with
    | false => trivial
    | true =>
      cases hpath : files.path with
      | none => simp [lockStep, hpath, Backed, create]
      | some file => simp [lockStep, hpath, Backed]
  | opening =>
    cases ok <;> cases hpath : files.path <;> simp [lockStep, hpath, Backed]
  | reading file => cases ok <;> trivial
  | deciding timestamp =>
    rw [lockStep]
    split
    · intro hother
      exact absurd rfl hother
    · trivial
  | touching origin => exact hback rfl
  | truncating origin timestamp =>
    cases ok with
    | false => trivial
    | true => exact path_openTruncate files
  | writing origin timestamp file =>
    cases ok with
    | false => trivial
    | true => exact ⟨timestamp, current_write (hback rfl) timestamp⟩
  | holding => exact hback rfl
  | dropping => trivial

end Process

/-! ## One step -/

/-- The one process that has a `FileLock` has its file. -/
structure Owned (s : LockState P) : Prop where
  one : s.OneLock
  backed : ∀ p, (s.phase p).hasLock = true → Backed s.files (s.phase p)

section Step

variable {ttl : ℕ} {s : LockState P} {p : P}

theorem Owned.alone_of_creates (howned : s.Owned) (hpath : s.files.path = none)
    (hcalm : ∀ q, q ≠ p → (s.phase q).lacksFile = false) {q : P} (hq : q ≠ p) :
    (s.phase q).hasLock = false := by
  have hlacks := hcalm q hq
  by_contra hlocked
  have hback := howned.backed q (by simpa using hlocked)
  cases hphase : s.phase q with
  | touching origin | truncating origin timestamp =>
    rw [hphase] at hlacks hback
    exact hback (by simpa [lacksFile] using hlacks) hpath
  | writing origin timestamp file =>
    rw [hphase] at hback
    rw [Backed, hpath] at hback
    cases hback
  | holding =>
    rw [hphase] at hback
    obtain ⟨timestamp, hcurrent⟩ := hback
    rw [current, hpath] at hcurrent
    cases hcurrent
  | dropping =>
    rw [hphase] at hlacks
    cases hlacks
  | idle | creating | opening | reading file | deciding timestamp =>
    exact hlocked (by rw [hphase]; rfl)

theorem Owned.alone_of_takesOver (howned : s.Owned) (hrenewed : s.Renewed ttl)
    {timestamp : Option ℕ} (houtdated : outdated ttl s.now timestamp = true)
    (hfair : s.FairTakeOver ttl p timestamp) {q : P} (hq : q ≠ p) :
    (s.phase q).hasLock = false := by
  by_contra hlocked
  have hlock : (s.phase q).hasLock = true := by simpa using hlocked
  obtain ⟨hholding, hcurrent, hseconds⟩ := hfair q hq hlock
  have hback := howned.backed q hlock
  rw [hholding] at hback
  obtain ⟨seconds, hwrote⟩ := hback
  rw [hcurrent] at hwrote
  cases hwrote
  have hon : s.now ≤ s.renewed q + ttl := hrenewed q (by rw [hholding]; rfl)
  have hfresh := hseconds seconds rfl hon
  simp only [outdated, Option.all_some, decide_eq_true_eq] at houtdated
  omega

variable [DecidableEq P]

theorem Owned.update (howned : s.Owned) {t : LockState P} {phase : LockPhase}
    (hphase : t.phase = Function.update s.phase p phase) (hback : Backed t.files phase)
    (hfiles : (s.phase p).hasLock = false → phase.hasLock = false → t.files = s.files)
    (halone : (s.phase p).hasLock = false → phase.hasLock = true →
      ∀ q, q ≠ p → (s.phase q).hasLock = false) :
    t.Owned := by
  have hself : t.phase p = phase := by
    rw [hphase, Function.update_self]
  have hother : ∀ q, q ≠ p → t.phase q = s.phase q := by
    intro q hq
    rw [hphase, Function.update_of_ne hq]
  have hfree : ∀ q, q ≠ p → (s.phase q).hasLock = true →
      (s.phase p).hasLock = false ∧ phase.hasLock = false := by
    intro q hq hlock
    have hpre : (s.phase p).hasLock = false := by
      by_contra hlocked
      exact hq (howned.one q p hlock (by simpa using hlocked))
    refine ⟨hpre, ?_⟩
    by_contra hlocked
    have hnone := halone hpre (by simpa using hlocked) q hq
    rw [hnone] at hlock
    cases hlock
  constructor
  · intro a b ha hb
    by_cases hap : a = p
    · by_cases hbp : b = p
      · rw [hap, hbp]
      · rw [hother b hbp] at hb
        rw [hap, hself, (hfree b hbp hb).2] at ha
        cases ha
    · rw [hother a hap] at ha
      by_cases hbp : b = p
      · rw [hbp, hself, (hfree a hap ha).2] at hb
        cases hb
      · rw [hother b hbp] at hb
        exact howned.one a b ha hb
  · intro q hq
    by_cases hqp : q = p
    · rw [hqp, hself]
      exact hback
    · rw [hother q hqp] at hq ⊢
      obtain ⟨hpre, hafter⟩ := hfree q hqp hq
      rw [hfiles hpre hafter]
      exact howned.backed q hq

theorem Owned.move (howned : s.Owned) {source target : LockPhase}
    (hlock : target.hasLock = source.hasLock)
    (hback : ∀ files, (source.hasLock = true → Backed files source) → Backed files target) :
    (s.move p source target).Owned := by
  unfold LockState.move
  split
  · next hsource =>
      refine howned.update rfl (hback s.files ?_) (fun _ _ => rfl) ?_
      · intro hhas
        rw [← hsource] at hhas ⊢
        exact howned.backed p hhas
      · intro hpre hafter
        rw [hsource, ← hlock, hafter] at hpre
        cases hpre
  · exact howned

theorem Owned.advance (howned : s.Owned) (hrenewed : s.Renewed ttl) (ok : Bool)
    (hcalm : s.Undisturbed ttl (.advance p ok)) : (s.advance ttl p ok).Owned := by
  refine howned.update rfl (backed_lockStep (howned.backed p))
    (fun hpre => (lockStep_unlocked hpre).1) ?_
  intro hpre hafter q hq
  rcases (lockStep_unlocked hpre).2 hafter with
    ⟨hphase, hok, hpath⟩ | ⟨timestamp, hphase, houtdated⟩
  · simp only [Undisturbed, hphase] at hcalm
    exact howned.alone_of_creates hpath (hcalm hok hpath) hq
  · simp only [Undisturbed, hphase] at hcalm
    exact howned.alone_of_takesOver hrenewed houtdated (hcalm houtdated) hq

theorem Owned.step (howned : s.Owned) (hrenewed : s.Renewed ttl)
    (action : LockAction P) (hcalm : s.Undisturbed ttl action) : (s.step ttl action).Owned := by
  cases action with
  | lock p | drop p => exact howned.move rfl fun _ _ => trivial
  | advance p ok => exact howned.advance hrenewed ok hcalm
  | renew p =>
    refine howned.move rfl fun files hback _ hnone => ?_
    obtain ⟨timestamp, hcurrent⟩ := hback rfl
    rw [current, hnone] at hcurrent
    cases hcurrent
  | crash p =>
    refine howned.update rfl trivial (fun _ _ => rfl) ?_
    intro _ hidle
    cases hidle
  | tick elapsed => exact ⟨howned.one, howned.backed⟩

theorem OneLock.alone {ok : Bool} (hone : (s.step ttl (.advance p ok)).OneLock)
    (hafter : (lockStep ttl s.now s.files ok (s.phase p)).2.hasLock = true) {q : P} (hq : q ≠ p) :
    (s.phase q).hasLock = false := by
  by_contra hlocked
  refine hq (hone q p ?_ ?_)
  · change (Function.update s.phase p _ q).hasLock = true
    rw [Function.update_of_ne hq]
    simpa using hlocked
  · change (Function.update s.phase p _ p).hasLock = true
    rw [Function.update_self]
    exact hafter

theorem hasLock_of_lacksFile {phase : LockPhase}
    (hlacks : phase.lacksFile = true) : phase.hasLock = true := by
  cases phase with
  | touching origin | truncating origin timestamp | dropping => rfl
  | _ => cases hlacks

theorem undisturbed_of_oneLock (action : LockAction P)
    (hone : (s.step ttl action).OneLock) : s.Undisturbed ttl action := by
  cases action with
  | advance p ok =>
    cases hphase : s.phase p with
    | creating =>
      simp only [Undisturbed, hphase]
      intro hok hpath q hq
      by_contra hlacks
      have hnone := hone.alone (by simp [hphase, hok, hpath, lockStep, hasLock]) hq
      rw [hasLock_of_lacksFile (by simpa using hlacks)] at hnone
      cases hnone
    | deciding timestamp =>
      simp only [Undisturbed, hphase]
      intro houtdated q hq hlock
      have hnone := hone.alone (by simp [hphase, houtdated, lockStep, hasLock]) hq
      rw [hlock] at hnone
      cases hnone
    | _ => simp only [Undisturbed, hphase]
  | _ => trivial

end Step

/-! ## Every run -/

theorem hasLock_of_holds {phase : LockPhase} (hholds : phase.holds = true) :
    phase.hasLock = true := by
  cases phase with
  | touching origin | truncating origin timestamp | writing origin timestamp file
  | holding => rfl
  | _ => cases hholds

theorem OneLock.oneHolder {s : LockState P} (hone : s.OneLock) : s.OneHolder :=
  fun p q hp hq => hone p q (hasLock_of_holds hp) (hasLock_of_holds hq)

theorem owned_of_idle {s : LockState P} (hidle : ∀ p, s.phase p = .idle) : s.Owned := by
  constructor
  · intro p q hp
    rw [hidle p] at hp
    cases hp
  · intro p hp
    rw [hidle p] at hp
    cases hp

/-- While all holders renew their timestamps, there is one `FileLock` at most
exactly if no take-over and no creation is disturbed, and no two processes hold the
lock then. -/
theorem lock_exclusive_iff [DecidableEq P] (ttl : ℕ) (s : LockState P)
    (hidle : ∀ p, s.phase p = .idle) (actions : List (LockAction P))
    (hrenewed : EveryStep (step ttl) (fun s _ => s.Renewed ttl) s actions) :
    (EveryState (step ttl) OneLock s actions ↔
        EveryStep (step ttl) (Undisturbed ttl) s actions) ∧
      (EveryStep (step ttl) (Undisturbed ttl) s actions →
        EveryState (step ttl) OneHolder s actions) := by
  have hiff := everyState_iff_everyStep_of_invariant (step ttl)
    (fun s (howned : s.Owned) => howned.one)
    (fun s action howned hrenewed hundisturbed => Owned.step howned hrenewed action hundisturbed)
    (fun s action _ _ hone => undisturbed_of_oneLock action hone) (owned_of_idle hidle) hrenewed
  refine ⟨hiff, fun hundisturbed => ?_⟩
  exact (hiff.mpr hundisturbed).imp fun s hone => hone.oneHolder

section Sample

def sampleLocks : LockState Bool where
  files := { path := none, contents := fun _ => none, next := 0 }
  phase := fun _ => .idle
  now := 1700000000500
  renewed := fun _ => 0

def advances (p : Bool) (steps : ℕ) : List (LockAction Bool) :=
  List.replicate steps (.advance p true)

/-- The first process locks and renews, the second is refused, the first crashes and
the second takes over. -/
def sampleLockActions : List (LockAction Bool) :=
  [.lock false] ++ advances false 4 ++ [.tick 30000, .renew false] ++
    advances false 3 ++ [.lock true] ++ advances true 4 ++
    [.crash false, .tick 121000, .lock true] ++ advances true 7

theorem sample_lock_exclusive :
    EveryStep (step 120000) (fun s _ => s.Renewed 120000) sampleLocks
        sampleLockActions ∧
      ((run (step 120000) sampleLocks sampleLockActions).phase true).holds =
        true ∧
      EveryState (step 120000) OneHolder sampleLocks sampleLockActions :=
  ⟨by decide +kernel, by decide +kernel,
    (lock_exclusive_iff 120000 sampleLocks (fun _ => rfl) sampleLockActions
      (by decide +kernel)).2 (by decide +kernel)⟩

/-- The second process reads the file that the first has made and not yet
written. -/
def readBeforeWrite : List (LockAction Bool) :=
  [.lock false] ++ advances false 1 ++ [.lock true] ++ advances true 7 ++ advances false 3

def readDuringRenewal : List (LockAction Bool) :=
  [.lock false] ++ advances false 4 ++ [.tick 30000, .renew false] ++
    advances false 2 ++ [.lock true] ++ advances true 7 ++ advances false 1

theorem empty_file_taken_over :
    (EveryState (step 120000) (Renewed 120000) sampleLocks readBeforeWrite ∧
      ∀ p, ((run (step 120000) sampleLocks readBeforeWrite).phase p).holds =
        true) ∧
    (EveryState (step 120000) (Renewed 120000) sampleLocks readDuringRenewal ∧
      ∀ p, ((run (step 120000) sampleLocks readDuringRenewal).phase p).holds =
        true) := by
  decide +kernel

end Sample

end LockState

end KdfProtocol
