import KdfProtocol.HashMap
import Mathlib.Algebra.BigOperators.Fin

/-!
# Ledgers with buckets

Entries of many owners are kept in buckets.  An owner has at most one entry of a
kind in a bucket: a second one is not entered.  What an owner holds is changed
by its own operations only, and what a bucket holds is the sum of what its
owners hold in it.
-/

namespace KdfProtocol

structure LedgerEntry (ω κ α : Type) where
  owner : ω
  kind : κ
  payload : α
  deriving DecidableEq

open LedgerEntry

def LedgerEntry.isOf {ω κ α : Type} [DecidableEq ω] [DecidableEq κ] (owner : ω)
    (kind : κ) (entry : LedgerEntry ω κ α) : Bool :=
  entry.owner = owner ∧ entry.kind = kind

abbrev BucketLedger (β ω κ α : Type) := HashMap β (List (LedgerEntry ω κ α))

inductive LedgerOp (β ω κ α : Type) where
  | reserve (owner : ω) (kind : κ) (name : β) (payload : α)
  | release (owner : ω) (kind : κ) (name : β)
  | releaseAll (owner : ω)

def LedgerOp.owner {β ω κ α : Type} : LedgerOp β ω κ α → ω
  | .reserve owner _ _ _ | .release owner _ _ | .releaseAll owner => owner

namespace BucketLedger

section Operations

variable {β ω κ α : Type} [DecidableEq β] [DecidableEq ω] [DecidableEq κ]

variable (ledger : BucketLedger β ω κ α) (owner : ω)

def bucket (name : β) : List (LedgerEntry ω κ α) :=
  (ledger.lookup name).getD []

def reserve (kind : κ) (name : β) (payload : α) : BucketLedger β ω κ α :=
  let entries := bucket ledger name
  ledger.insert name <|
    if entries.any (LedgerEntry.isOf owner kind) then entries
    else entries ++ [⟨owner, kind, payload⟩]

def release (kind : κ) (name : β) : BucketLedger β ω κ α :=
  match ledger.lookup name with
  | none => ledger
  | some entries =>
    ledger.insert name (entries.filter fun entry => !LedgerEntry.isOf owner kind entry)

def releaseAll : BucketLedger β ω κ α :=
  ledger.mapValues fun _ entries => entries.filter fun entry => entry.owner ≠ owner

def apply : LedgerOp β ω κ α → BucketLedger β ω κ α
  | .reserve owner kind name payload => reserve ledger owner kind name payload
  | .release owner kind name => release ledger owner kind name
  | .releaseAll owner => releaseAll ledger owner

def held (kind : κ) (name : β) : List α :=
  ((bucket ledger name).filter (LedgerEntry.isOf owner kind)).map LedgerEntry.payload

def others (name : β) : List (LedgerEntry ω κ α) :=
  (bucket ledger name).filter fun entry => entry.owner ≠ owner

end Operations

/-! ## The buckets after an operation -/

section Buckets

variable {β ω κ α : Type} [DecidableEq β] [DecidableEq ω] [DecidableEq κ]
  (ledger : BucketLedger β ω κ α) (owner : ω) (kind : κ) (name : β)

theorem bucket_reserve (payload : α) (other : β) :
    bucket (reserve ledger owner kind name payload) other =
      if other = name then
        if (bucket ledger name).any (isOf owner kind) then
          bucket ledger name
        else bucket ledger name ++ [⟨owner, kind, payload⟩]
      else bucket ledger other := by
  unfold reserve
  rw [bucket, HashMap.lookup_insert_if]
  split
  · rfl
  · rfl

theorem bucket_release (other : β) : bucket (release ledger owner kind name) other =
      if other = name then
        (bucket ledger name).filter fun entry =>
          !isOf owner kind entry
      else bucket ledger other := by
  unfold release bucket
  cases hlook : ledger.lookup name with
  | none =>
    by_cases heq : other = name
    · subst heq
      simp [hlook]
    · simp [heq]
  | some entries =>
    rw [HashMap.lookup_insert_if]
    by_cases heq : other = name
    · simp [heq]
    · simp [heq]

omit [DecidableEq κ] in
theorem bucket_releaseAll (other : β) :
    bucket (releaseAll ledger owner) other = others ledger owner other := by
  unfold releaseAll others bucket
  rw [HashMap.lookup_mapValues]
  cases ledger.lookup other <;> rfl

theorem any_isOf_iff :
    (bucket ledger name).any (isOf owner kind) = true ↔ held ledger owner kind name ≠ [] := by
  rw [held, Ne, List.map_eq_nil_iff, List.filter_eq_nil_iff, List.any_eq_true]
  push Not
  rfl

/-! ## What one owner holds -/

theorem held_reserve (payload : α) (other : ω) (otherKind : κ) (otherName : β) :
    held (reserve ledger owner kind name payload) other otherKind otherName =
      if other = owner ∧ otherKind = kind ∧ otherName = name ∧
          held ledger owner kind name = [] then [payload]
      else held ledger other otherKind otherName := by
  unfold held
  rw [bucket_reserve]
  by_cases hname : otherName = name
  · subst hname
    rw [if_pos rfl]
    by_cases hany : (bucket ledger otherName).any (isOf owner kind) = true
    · rw [if_pos hany, if_neg]
      rintro ⟨-, -, -, hnone⟩
      exact (any_isOf_iff ledger owner kind otherName).mp hany hnone
    · have hnone : held ledger owner kind otherName = [] := by
        by_contra hsome
        exact hany ((any_isOf_iff ledger owner kind otherName).mpr hsome)
      rw [if_neg hany, List.filter_append, List.map_append]
      by_cases hsame : other = owner ∧ otherKind = kind
      · obtain ⟨rfl, rfl⟩ := hsame
        rw [if_pos ⟨rfl, rfl, rfl, hnone⟩]
        rw [held] at hnone
        rw [hnone]
        simp [isOf]
      · rw [if_neg (fun hall => hsame ⟨hall.1, hall.2.1⟩)]
        have hnot : isOf other otherKind (⟨owner, kind, payload⟩ : LedgerEntry ω κ α) = false := by
          simp only [isOf, decide_eq_false_iff_not]
          rintro ⟨rfl, rfl⟩
          exact hsame ⟨rfl, rfl⟩
        simp [hnot]
  · rw [if_neg hname, if_neg (fun hall => hname hall.2.2.1)]

theorem isOf_and_eq {entry : LedgerEntry ω κ α} {owner : ω} {kind : κ} {kept : Bool}
    (hkept : entry.owner = owner → entry.kind = kind → kept = true) :
    (isOf owner kind entry && kept) = isOf owner kind entry := by
  by_cases hof : entry.owner = owner ∧ entry.kind = kind
  · rw [hkept hof.1 hof.2, Bool.and_true]
  · simp [isOf, hof]

theorem held_release (other : ω) (otherKind : κ) (otherName : β) :
    held (release ledger owner kind name) other otherKind otherName =
      if other = owner ∧ otherKind = kind ∧ otherName = name then []
      else held ledger other otherKind otherName := by
  unfold held
  rw [bucket_release]
  by_cases hname : otherName = name
  · subst hname
    rw [if_pos rfl, List.filter_filter]
    by_cases hsame : other = owner ∧ otherKind = kind
    · obtain ⟨rfl, rfl⟩ := hsame
      simp
    · rw [if_neg (fun hall => hsame ⟨hall.1, hall.2.1⟩)]
      congr 1
      refine List.filter_congr fun entry _ => isOf_and_eq ?_
      rintro rfl rfl
      rw [Bool.not_eq_true', isOf, decide_eq_false_iff_not]
      exact hsame
  · rw [if_neg hname, if_neg (fun hall => hname hall.2.2)]

theorem held_releaseAll (other : ω) (otherKind : κ) (otherName : β) :
    held (releaseAll ledger owner) other otherKind otherName =
      if other = owner then [] else held ledger other otherKind otherName := by
  unfold held
  rw [bucket_releaseAll, others, List.filter_filter]
  by_cases hsame : other = owner
  · subst hsame
    rw [if_pos rfl, List.map_eq_nil_iff, List.filter_eq_nil_iff]
    intro entry _
    simp only [isOf, Bool.and_eq_true, decide_eq_true_eq]
    rintro ⟨⟨hown, -⟩, hother⟩
    exact hother hown
  · rw [if_neg hsame]
    congr 1
    refine List.filter_congr fun entry _ => isOf_and_eq ?_
    rintro rfl -
    simpa using hsame

theorem held_apply_of_ne {op : LedgerOp β ω κ α} (hother : op.owner ≠ owner) :
    held (apply ledger op) owner kind name = held ledger owner kind name := by
  cases op with
  | reserve other otherKind otherName payload =>
    exact (held_reserve ..).trans (if_neg fun hall => hother hall.1.symm)
  | release other otherKind otherName =>
    exact (held_release ..).trans (if_neg fun hall => hother hall.1.symm)
  | releaseAll other =>
    exact (held_releaseAll ..).trans (if_neg fun hsame => hother hsame.symm)

theorem others_apply_self (op : LedgerOp β ω κ α) :
    others (apply ledger op) op.owner name = others ledger op.owner name := by
  cases op with
  | reserve owner kind other payload =>
    simp only [apply, LedgerOp.owner, others, bucket_reserve]
    by_cases heq : name = other
    · subst heq
      rw [if_pos rfl]
      split
      · rfl
      · simp
    · rw [if_neg heq]
  | release owner kind other =>
    simp only [apply, LedgerOp.owner, others, bucket_release]
    by_cases heq : name = other
    · subst heq
      rw [if_pos rfl, List.filter_filter]
      refine List.filter_congr ?_
      intro entry _
      by_cases hown : entry.owner = owner
      · simp [hown]
      · simp [isOf, hown]
    · rw [if_neg heq]
  | releaseAll owner =>
    simp only [apply, LedgerOp.owner, others, bucket_releaseAll, List.filter_filter]
    refine List.filter_congr ?_
    intro entry _
    exact Bool.and_self _

theorem others_apply_congr {ledger ledger' : BucketLedger β ω κ α} {owner : ω}
    {op : LedgerOp β ω κ α} (hother : op.owner ≠ owner)
    (hsame : ∀ name, others ledger owner name = others ledger' owner name) (name : β) :
    others (apply ledger op) owner name = others (apply ledger' op) owner name := by
  cases op with
  | reserve other kind otherName payload =>
    have hany : ∀ ledger : BucketLedger β ω κ α, (bucket ledger otherName).any (isOf other kind) =
          (others ledger owner otherName).any (isOf other kind) := by
      intro ledger
      rw [others, List.any_filter]
      congr 1
      funext entry
      rw [Bool.and_comm, isOf_and_eq]
      rintro rfl -
      simpa [LedgerOp.owner] using hother
    have hbucket : ∀ ledger : BucketLedger β ω κ α,
        others (reserve ledger other kind otherName payload) owner name =
          if name = otherName then
            if (others ledger owner otherName).any (isOf other kind) then
              others ledger owner otherName
            else others ledger owner otherName ++ [⟨other, kind, payload⟩]
          else others ledger owner name := by
      intro ledger
      rw [others, bucket_reserve, hany]
      by_cases heq : name = otherName
      · rw [if_pos heq, if_pos heq]
        split
        · rfl
        · rw [List.filter_append]
          simp [others, show other ≠ owner from hother]
      · rw [if_neg heq, if_neg heq]
        rfl
    rw [apply, apply, hbucket, hbucket, hsame, hsame]
  | release other kind otherName =>
    have hbucket : ∀ ledger : BucketLedger β ω κ α,
        others (release ledger other kind otherName) owner name =
          if name = otherName then
            (others ledger owner otherName).filter fun entry => !isOf other kind entry
          else others ledger owner name := by
      intro ledger
      rw [others, bucket_release]
      by_cases heq : name = otherName
      · rw [if_pos heq, if_pos heq, others]
        exact List.filter_comm ..
      · rw [if_neg heq, if_neg heq]
        rfl
    rw [apply, apply, hbucket, hbucket, hsame, hsame]
  | releaseAll other =>
    have hbucket : ∀ ledger : BucketLedger β ω κ α, others (releaseAll ledger other) owner name =
          (others ledger owner name).filter fun entry => entry.owner ≠ other := by
      intro ledger
      rw [others, bucket_releaseAll, others]
      exact List.filter_comm ..
    rw [apply, apply, hbucket, hbucket, hsame]

theorem others_foldl_self {ops : List (LedgerOp β ω κ α)} (hown : ∀ op ∈ ops, op.owner = owner) :
    others (ops.foldl apply ledger) owner name = others ledger owner name := by
  induction ops generalizing ledger with
  | nil => rfl
  | cons op rest ih =>
    have hop := hown op List.mem_cons_self
    subst hop
    rw [List.foldl_cons, ih _ fun op hmem => hown op (List.mem_cons_of_mem _ hmem),
      others_apply_self]

theorem bucket_eq_others (hfresh : ∀ kind, held ledger owner kind name = []) :
    bucket ledger name = others ledger owner name := by
  rw [others, eq_comm, List.filter_eq_self]
  intro entry hentry
  rw [decide_eq_true_eq]
  rintro rfl
  have hnone := hfresh entry.kind
  rw [held, List.map_eq_nil_iff, List.filter_eq_nil_iff] at hnone
  exact hnone entry hentry (by simp [isOf])

/-! ## Operations without effect -/

def Settled (ledger : BucketLedger β ω κ α) : LedgerOp β ω κ α → Prop
  | .reserve owner kind name _ => held ledger owner kind name ≠ []
  | .release owner kind name => held ledger owner kind name = []
  | .releaseAll owner => ∀ kind name, held ledger owner kind name = []

theorem bucket_apply_of_settled {op : LedgerOp β ω κ α} (hsett : Settled ledger op) :
    bucket (apply ledger op) name = bucket ledger name := by
  cases op with
  | reserve owner kind other payload =>
    rw [apply, bucket_reserve]
    by_cases heq : name = other
    · rw [if_pos heq, heq, if_pos ((any_isOf_iff ..).mpr hsett)]
    · rw [if_neg heq]
  | release owner kind other =>
    rw [apply, bucket_release]
    by_cases heq : name = other
    · rw [if_pos heq, heq, List.filter_eq_self]
      have hnone : held ledger owner kind other = [] := hsett
      rw [held, List.map_eq_nil_iff, List.filter_eq_nil_iff] at hnone
      intro entry hentry
      rw [Bool.not_eq_true', Bool.eq_false_iff]
      exact hnone entry hentry
    · rw [if_neg heq]
  | releaseAll owner =>
    rw [apply, bucket_releaseAll]
    exact (bucket_eq_others ledger owner name fun kind => hsett kind name).symm

theorem Settled.congr {ledger ledger' : BucketLedger β ω κ α} {op : LedgerOp β ω κ α}
    (hheld : ∀ kind name, held ledger' op.owner kind name = held ledger op.owner kind name)
    (hsett : Settled ledger op) : Settled ledger' op := by
  cases op with
  | reserve owner kind name payload =>
    exact fun hnone => hsett ((hheld kind name).symm.trans hnone)
  | release owner kind name => exact (hheld kind name).trans hsett
  | releaseAll owner =>
    exact fun kind name => (hheld kind name).trans (hsett kind name)

theorem bucket_foldl_of_settled {ops : List (LedgerOp β ω κ α)}
    (hsett : ∀ op ∈ ops, Settled ledger op) :
    bucket (ops.foldl apply ledger) name = bucket ledger name := by
  induction ops generalizing ledger with
  | nil => rfl
  | cons op rest ih =>
    have hsame : ∀ name, bucket (apply ledger op) name = bucket ledger name :=
      fun name => bucket_apply_of_settled ledger name (hsett op List.mem_cons_self)
    rw [List.foldl_cons, ih, hsame]
    intro other hother
    refine (hsett other (List.mem_cons_of_mem _ hother)).congr ?_
    intro kind name
    rw [held, held, hsame]

/-! ## Sums -/

theorem sum_entries_eq {A : Type} [AddCommMonoid A] [Fintype κ] (worth : α → A)
    (entries : List (LedgerEntry ω κ α)) :
    (entries.map fun entry => worth entry.payload).sum =
      ((entries.filter fun entry => entry.owner ≠ owner).map fun entry =>
          worth entry.payload).sum +
        ∑ kind, ((entries.filter (isOf owner kind)).map fun entry =>
          worth entry.payload).sum := by
  induction entries with
  | nil => simp
  | cons entry rest ih =>
    rw [List.map_cons, List.sum_cons, ih]
    by_cases hown : entry.owner = owner
    · have hkinds : ∀ kind,
          (((entry :: rest).filter (isOf owner kind)).map fun entry => worth entry.payload).sum =
            (if entry.kind = kind then worth entry.payload else 0) +
              ((rest.filter (isOf owner kind)).map fun entry =>
                worth entry.payload).sum := by
        intro kind
        by_cases hkind : entry.kind = kind
        · simp [isOf, hown, hkind]
        · simp [isOf, hown, hkind]
      rw [List.filter_cons_of_neg (by simpa using hown),
        Finset.sum_congr rfl fun kind _ => hkinds kind, Finset.sum_add_distrib, Finset.sum_ite_eq]
      simp only [Finset.mem_univ, if_true]
      exact add_left_comm _ _ _
    · have hkinds : ∀ kind,
          (entry :: rest).filter (isOf owner kind) = rest.filter (isOf owner kind) := by
        intro kind
        refine List.filter_cons_of_neg ?_
        simp [isOf, hown]
      simp only [hkinds]
      rw [List.filter_cons_of_pos (by simpa using hown), List.map_cons, List.sum_cons, add_assoc]

theorem sum_bucket_eq {A : Type} [AddCommMonoid A] [Fintype κ] (worth : α → A) :
    ((bucket ledger name).map fun entry => worth entry.payload).sum =
      ((others ledger owner name).map fun entry => worth entry.payload).sum +
        ∑ kind, ((held ledger owner kind name).map worth).sum := by
  rw [sum_entries_eq owner worth (bucket ledger name)]
  simp only [others, held, List.map_map]
  rfl

end Buckets

end BucketLedger

end KdfProtocol
