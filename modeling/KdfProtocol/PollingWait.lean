import Mathlib.Data.List.Chain
import Mathlib.Tactic

/-!
# Waits that ask in rounds

A wait asks for an answer once in every round and gives up when the clock is
past a deadline.  One kind of wait looks at the clock before it asks, the other
only after it has asked in vain, and so can take an answer after the deadline:
how long after depends on the pause between two rounds.
-/

namespace KdfProtocol

/-- The rounds of a wait: the clock in the rounds without an answer, and the
clock and the answer in the round that ends the wait. -/
structure Rounds (τ α : Type) where
  unanswered : List τ
  answered : Option (τ × α)

inductive WaitResult (τ α : Type) where
  /-- The rounds so far have not ended the wait. -/
  | waiting
  | timedOut (now : τ)
  | answered (a : α)

section PollingWait

variable {τ α : Type}

def Rounds.moments (rounds : Rounds τ α) : List τ :=
  rounds.unanswered ++ (rounds.answered.map Prod.fst).toList

variable (late : τ → Prop) [DecidablePred late]

def passUnanswered (last : WaitResult τ α) : List τ → WaitResult τ α
  | [] => last
  | now :: rest =>
    if late now then .timedOut now else passUnanswered last rest

def Rounds.checkThenAsk (rounds : Rounds τ α) : WaitResult τ α :=
  passUnanswered late
    (match rounds.answered with
      | none => .waiting
      | some (now, a) => if late now then .timedOut now else .answered a)
    rounds.unanswered

def Rounds.askThenCheck (rounds : Rounds τ α) : WaitResult τ α :=
  passUnanswered late
    (match rounds.answered with
      | none => .waiting
      | some (_, a) => .answered a)
    rounds.unanswered

variable {late}

theorem passUnanswered_eq_answered {last : WaitResult τ α} {unanswered : List τ} {a : α} :
    passUnanswered late last unanswered = .answered a ↔
      last = .answered a ∧ ∀ now ∈ unanswered, ¬late now := by
  induction unanswered with
  | nil => simp [passUnanswered]
  | cons now rest ih =>
    by_cases hlate : late now
    · simp [passUnanswered, hlate]
    · simp [passUnanswered, hlate, ih]

theorem Rounds.checkThenAsk_eq_answered {rounds : Rounds τ α} {a : α}
    (hanswered : rounds.checkThenAsk late = .answered a) :
    ∃ now, rounds.answered = some (now, a) ∧ ¬late now := by
  have hlast := (passUnanswered_eq_answered.mp hanswered).1
  split at hlast
  · cases hlast
  next now b hround =>
    split at hlast
    · cases hlast
    next hintime =>
      cases hlast
      exact ⟨now, hround, hintime⟩

theorem Rounds.askThenCheck_eq_answered {rounds : Rounds τ α} {a : α}
    (hanswered : rounds.askThenCheck late = .answered a) :
    (∃ now, rounds.answered = some (now, a)) ∧ ∀ now ∈ rounds.unanswered, ¬late now := by
  obtain ⟨hlast, hunanswered⟩ := passUnanswered_eq_answered.mp hanswered
  split at hlast
  · cases hlast
  next now b hround =>
    cases hlast
    exact ⟨⟨now, hround⟩, hunanswered⟩

omit [DecidablePred late] in
theorem exists_inTime_of_isChain {soon : τ → τ → Prop} {started next : τ}
    {moments : List τ} (hstart : ¬late started) (hmoments : ∀ now ∈ moments, ¬late now)
    (hchain : (started :: (moments ++ [next])).IsChain soon) :
    ∃ now, ¬late now ∧ soon now next := by
  induction moments generalizing started with
  | nil => exact ⟨started, hstart, (List.isChain_cons_cons.mp hchain).1⟩
  | cons now moments ih =>
    exact ih (hmoments now (List.mem_cons_self ..))
      (fun later hlater => hmoments later (List.mem_cons_of_mem _ hlater))
      (List.isChain_cons_cons.mp hchain).2

end PollingWait

end KdfProtocol
