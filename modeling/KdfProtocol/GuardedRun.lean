import Mathlib.Data.List.Infix
import Mathlib.Tactic

/-!
# Runs of a step function

A run applies a list of inputs one after the other.  `EveryState` says that a
property holds before the first step and after every step; `EveryStep` says
that a condition on the state before a step and its input holds at every step.
When one step keeps the property exactly under the condition, a whole run
keeps it exactly when every step meets the condition.
-/

namespace KdfProtocol

section GuardedRun

variable {σ ι : Type} (step : σ → ι → σ)

def run (s : σ) (inputs : List ι) : σ := inputs.foldl step s

def EveryState (property : σ → Prop) : σ → List ι → Prop
  | s, [] => property s
  | s, input :: rest => property s ∧ EveryState property (step s input) rest

def EveryStep (condition : σ → ι → Prop) : σ → List ι → Prop
  | _, [] => True
  | s, input :: rest => condition s input ∧ EveryStep condition (step s input) rest

instance EveryState.decidable (property : σ → Prop) [DecidablePred property] :
    ∀ s inputs, Decidable (EveryState step property s inputs)
  | s, [] => inferInstanceAs (Decidable (property s))
  | s, input :: rest =>
    have := EveryState.decidable property (step s input) rest
    inferInstanceAs (Decidable (_ ∧ _))

instance EveryStep.decidable (condition : σ → ι → Prop) [∀ s input, Decidable (condition s input)] :
    ∀ s inputs, Decidable (EveryStep step condition s inputs)
  | _, [] => inferInstanceAs (Decidable True)
  | s, input :: rest =>
    have := EveryStep.decidable condition (step s input) rest
    inferInstanceAs (Decidable (_ ∧ _))

@[simp] theorem run_nil (s : σ) : run step s [] = s := rfl

@[simp] theorem run_cons (s : σ) (input : ι) (rest : List ι) :
    run step s (input :: rest) = run step (step s input) rest := rfl

theorem run_append (s : σ) (first second : List ι) :
    run step s (first ++ second) = run step (run step s first) second :=
  List.foldl_append

theorem everyState_iff_prefixes (property : σ → Prop) (s : σ) (inputs : List ι) :
    EveryState step property s inputs ↔
      ∀ before, before <+: inputs → property (run step s before) := by
  induction inputs generalizing s with
  | nil =>
    constructor
    · intro hstate before hprefix
      rw [List.prefix_nil.mp hprefix]
      exact hstate
    · intro hall
      exact hall [] List.prefix_rfl
  | cons input rest ih =>
    constructor
    · rintro ⟨hnow, hrest⟩ before hprefix
      cases before with
      | nil => exact hnow
      | cons first before =>
        obtain ⟨rfl, htail⟩ := List.cons_prefix_cons.mp hprefix
        exact (ih (step s first)).mp hrest before htail
    · intro hall
      refine ⟨hall [] (List.nil_prefix), (ih (step s input)).mpr ?_⟩
      intro before hprefix
      exact hall (input :: before) (List.cons_prefix_cons.mpr ⟨rfl, hprefix⟩)

variable {property invariant : σ → Prop} {s : σ} {inputs : List ι} {guard condition : σ → ι → Prop}

theorem everyState_last (hstates : EveryState step property s inputs) :
    property (run step s inputs) :=
  (everyState_iff_prefixes step property s inputs).mp hstates inputs List.prefix_rfl

theorem everyState_iff_everyStep_of_guard (hstep : ∀ s input, property s → guard s input →
      (property (step s input) ↔ condition s input)) (hstart : property s)
    (hguard : EveryStep step guard s inputs) :
    EveryState step property s inputs ↔ EveryStep step condition s inputs := by
  induction inputs generalizing s with
  | nil => exact ⟨fun _ => trivial, fun _ => hstart⟩
  | cons input rest ih =>
    obtain ⟨hnow, hrest⟩ := hguard
    have hiff := hstep s input hstart hnow
    constructor
    · intro hstates
      have hnext : property (step s input) := by
        cases rest with
        | nil => exact hstates.2
        | cons => exact hstates.2.1
      exact ⟨hiff.mp hnext, (ih hnext hrest).mp hstates.2⟩
    · intro hconds
      have hnext : property (step s input) := hiff.mpr hconds.1
      exact ⟨hstart, (ih hnext hrest).mpr hconds.2⟩

variable {step} in
theorem everyStep_of_forall (hall : ∀ s, ∀ input ∈ inputs, condition s input) :
    EveryStep step condition s inputs := by
  induction inputs generalizing s with
  | nil => trivial
  | cons input rest ih =>
    refine ⟨hall s input (List.mem_cons_self ..), ih ?_⟩
    intro s later hlater
    exact hall s later (List.mem_cons_of_mem _ hlater)

theorem everyStep_true (s : σ) (inputs : List ι) : EveryStep step (fun _ _ => True) s inputs :=
  everyStep_of_forall fun _ _ _ => trivial

variable {step} in
theorem EveryStep.imp {weaker : σ → ι → Prop} (himp : ∀ s input, condition s input → weaker s input)
    (hconds : EveryStep step condition s inputs) : EveryStep step weaker s inputs := by
  induction inputs generalizing s with
  | nil => trivial
  | cons input rest ih =>
    exact ⟨himp s input hconds.1, ih hconds.2⟩

variable {step} in
theorem EveryStep.and {first second : σ → ι → Prop}
    (hfirst : EveryStep step first s inputs) (hsnd : EveryStep step second s inputs) :
    EveryStep step (fun s input => first s input ∧ second s input) s inputs := by
  induction inputs generalizing s with
  | nil => trivial
  | cons input rest ih =>
    exact ⟨⟨hfirst.1, hsnd.1⟩, ih hfirst.2 hsnd.2⟩

theorem everyStep_and_of_invariant (hstep : ∀ s input, invariant s → guard s input →
      invariant (step s input)) (hstart : invariant s) (hguard : EveryStep step guard s inputs) :
    EveryStep step (fun s input => invariant s ∧ guard s input) s inputs := by
  induction inputs generalizing s with
  | nil => trivial
  | cons input rest ih =>
    obtain ⟨hnow, hrest⟩ := hguard
    exact ⟨⟨hstart, hnow⟩, ih (hstep s input hstart hnow) hrest⟩

theorem everyStep_of_invariant (hstep : ∀ s input, invariant s → invariant (step s input))
    (inputs : List ι) (hstart : invariant s) : EveryStep step (fun s _ => invariant s) s inputs :=
  (everyStep_and_of_invariant step (fun s input hs _ => hstep s input hs)
    hstart (everyStep_true step s inputs)).imp fun _ _ hboth => hboth.1

theorem everyState_iff_everyStep (hstep : ∀ s input, property s →
      (property (step s input) ↔ condition s input)) (inputs : List ι) (hstart : property s) :
    EveryState step property s inputs ↔ EveryStep step condition s inputs :=
  everyState_iff_everyStep_of_guard step
    (fun s input hs _ => hstep s input hs) hstart (everyStep_true step s inputs)

theorem everyState_of_everyStep (hstep : ∀ s input, property s → condition s input →
      property (step s input)) (hstart : property s)
    (hconds : EveryStep step condition s inputs) : EveryState step property s inputs := by
  induction inputs generalizing s with
  | nil => exact hstart
  | cons input rest ih =>
    obtain ⟨hnow, hrest⟩ := hconds
    exact ⟨hstart, ih (hstep s input hstart hnow) hrest⟩

/-- Among the runs whose steps all pass a guard, those that keep a property are
those whose steps all meet the condition, if the condition keeps an invariant
that implies the property and no step can do without it. -/
theorem everyState_iff_everyStep_of_invariant (hprop : ∀ s, invariant s → property s)
    (hkeep : ∀ s input, invariant s → guard s input → condition s input →
      invariant (step s input)) (hneeded : ∀ s input, invariant s → guard s input →
      property (step s input) → condition s input) (hstart : invariant s)
    (hguard : EveryStep step guard s inputs) :
    EveryState step property s inputs ↔ EveryStep step condition s inputs := by
  induction inputs generalizing s with
  | nil => exact ⟨fun _ => trivial, fun _ => hprop s hstart⟩
  | cons input rest ih =>
    obtain ⟨hnow, hrest⟩ := hguard
    constructor
    · intro hstates
      have hnext : property (step s input) := by
        cases rest with
        | nil => exact hstates.2
        | cons => exact hstates.2.1
      have hcondition := hneeded s input hstart hnow hnext
      have hkept := hkeep s input hstart hnow hcondition
      exact ⟨hcondition, (ih hkept hrest).mp hstates.2⟩
    · intro hconds
      have hkept := hkeep s input hstart hnow hconds.1
      exact ⟨hprop s hstart, (ih hkept hrest).mpr hconds.2⟩

variable {step} in
theorem EveryState.imp {weaker : σ → Prop} (himp : ∀ s, property s → weaker s)
    (hstates : EveryState step property s inputs) : EveryState step weaker s inputs := by
  induction inputs generalizing s with
  | nil => exact himp s hstates
  | cons input rest ih => exact ⟨himp s hstates.1, ih hstates.2⟩

theorem run_induction (property : σ → Prop)
    (hstep : ∀ s input, property s → property (step s input)) (inputs : List ι)
    (hstart : property s) : property (run step s inputs) := by
  induction inputs generalizing s with
  | nil => exact hstart
  | cons input rest ih => exact ih (hstep s input hstart)

end GuardedRun

/-! ## Event logs -/

section EventLog

variable {ε : Type} (justified : List ε → ε → Prop)

/-- Every event of a log, newest first, is justified by the events before
it. -/
def LogJustified : List ε → Prop
  | [] => True
  | event :: earlier => justified earlier event ∧ LogJustified earlier

variable {justified} in
theorem LogJustified.of_split {log later earlier : List ε} {event : ε}
    (hlog : LogJustified justified log)
    (hsplit : log = later ++ event :: earlier) : justified earlier event := by
  induction later generalizing log with
  | nil =>
    rw [hsplit] at hlog
    exact hlog.1
  | cons newest later ih =>
    rw [hsplit] at hlog
    exact ih hlog.2 rfl

end EventLog

end KdfProtocol
