namespace FaultingRun

/-!
# Runs of a transition system whose steps can fault

A step either faults, which ends the run, or gives the next state.  Facts
about runs are stated with `EveryStep`, which relates the state before, the
event and the state after each step, and are derived from facts about one
step.
-/

section Runs

variable {σ ε φ : Type}

/-- Take the steps of `events` in order, stopping at the first fault. -/
def run (step : σ → ε → Except φ σ) : σ → List ε → Except φ σ
  | state, [] =>
      .ok state
  | state, event :: rest =>
      match step state event with
      | .error fault =>
          .error fault
      | .ok next =>
          run step next rest

/-- `Holds before event after` for every step that the run completes. -/
def EveryStep
    (step : σ → ε → Except φ σ)
    (Holds : σ → ε → σ → Prop) :
    σ → List ε → Prop
  | _, [] =>
      True
  | state, event :: rest =>
      match step state event with
      | .error _ =>
          True
      | .ok next =>
          Holds state event next ∧ EveryStep step Holds next rest

variable {step : σ → ε → Except φ σ}

@[simp] theorem run_nil (state : σ) :
    run step state [] = .ok state :=
  rfl

/-- A run of several events completes through the state after the first. -/
theorem run_cons_eq_ok
    {state final : σ}
    {event : ε}
    {rest : List ε} :
    run step state (event :: rest) = .ok final ↔
      ∃ next, step state event = .ok next ∧
        run step next rest = .ok final := by
  rw [run]
  cases step state event <;> simp

/-- Folding in the fault monad is a run. -/
theorem foldlM_eq_run
    (state : σ)
    (events : List ε) :
    events.foldlM step state = run step state events := by
  induction events generalizing state with
  | nil =>
      rfl
  | cons event rest inductionHypothesis =>
      simp only [List.foldlM_cons, run, Bind.bind, Except.bind]
      cases step state event with
      | error fault =>
          rfl
      | ok next =>
          exact inductionHypothesis next

/-- Runs compose. -/
theorem run_append_eq_ok
    {state final : σ}
    {first second : List ε} :
    run step state (first ++ second) = .ok final ↔
      ∃ middle, run step state first = .ok middle ∧
        run step middle second = .ok final := by
  induction first generalizing state with
  | nil =>
      simp
  | cons event rest inductionHypothesis =>
      rw [List.cons_append, run_cons_eq_ok]
      constructor
      · intro wholeRun
        rcases wholeRun with ⟨next, steps, completes⟩
        obtain ⟨middle, firstRun, secondRun⟩ :=
          inductionHypothesis.mp completes
        exact ⟨middle, run_cons_eq_ok.mpr ⟨next, steps, firstRun⟩,
          secondRun⟩
      · intro bothRuns
        rcases bothRuns with ⟨middle, firstRun, secondRun⟩
        obtain ⟨next, steps, restRun⟩ := run_cons_eq_ok.mp firstRun
        exact ⟨next, steps,
          inductionHypothesis.mpr ⟨middle, restRun, secondRun⟩⟩

/-- A run of events whose steps complete from anywhere completes. -/
theorem exists_run_of_completes
    {events : List ε}
    (completes :
      ∀ state, ∀ event ∈ events, ∃ next, step state event = .ok next)
    (state : σ) :
    ∃ final, run step state events = .ok final := by
  induction events generalizing state with
  | nil =>
      exact ⟨state, rfl⟩
  | cons event rest inductionHypothesis =>
      obtain ⟨next, steps⟩ := completes state event List.mem_cons_self
      obtain ⟨final, restCompletes⟩ :=
        inductionHypothesis
          (fun before later member =>
            completes before later (List.mem_cons_of_mem _ member))
          next
      exact ⟨final, run_cons_eq_ok.mpr ⟨next, steps, restCompletes⟩⟩

/-- Unfold `EveryStep` at a step that completes. -/
theorem everyStep_cons
    {Holds : σ → ε → σ → Prop}
    {state next : σ}
    {event : ε}
    {rest : List ε}
    (steps : step state event = .ok next) :
    EveryStep step Holds state (event :: rest) ↔
      Holds state event next ∧ EveryStep step Holds next rest := by
  rw [EveryStep, steps]

/-- A condition that implies a fact at every step implies it along runs. -/
theorem everyStep_imp
    {Condition Holds : σ → ε → σ → Prop}
    (implies :
      ∀ {state event next},
        step state event = .ok next →
        Condition state event next →
        Holds state event next)
    {state : σ}
    {events : List ε}
    (meets : EveryStep step Condition state events) :
    EveryStep step Holds state events := by
  induction events generalizing state with
  | nil =>
      trivial
  | cons event rest inductionHypothesis =>
      rw [EveryStep] at meets ⊢
      cases steps : step state event with
      | error fault =>
          trivial
      | ok next =>
          rw [steps] at meets
          exact ⟨implies steps meets.1, inductionHypothesis meets.2⟩

/-- A fact about every step taken from anywhere holds along every run. -/
theorem everyStep_of_step
    (Holds : σ → ε → σ → Prop)
    (preserved :
      ∀ {state event next},
        step state event = .ok next → Holds state event next)
    (state : σ)
    (events : List ε) :
    EveryStep step Holds state events := by
  induction events generalizing state with
  | nil =>
      trivial
  | cons event rest inductionHypothesis =>
      rw [EveryStep]
      cases steps : step state event with
      | error fault =>
          trivial
      | ok next =>
          exact ⟨preserved steps, inductionHypothesis next⟩

/--
The invariant rule: what holds at first and is preserved by every step that
meets the condition holds at the end of a run whose steps all meet it.
-/
theorem invariant_of_run
    (Invariant : σ → Prop)
    {Condition : σ → ε → σ → Prop}
    (preserved :
      ∀ {state event next},
        Invariant state →
        step state event = .ok next →
        Condition state event next →
        Invariant next)
    {state final : σ}
    {events : List ε}
    (initially : Invariant state)
    (meets : EveryStep step Condition state events)
    (completes : run step state events = .ok final) :
    Invariant final := by
  induction events generalizing state with
  | nil =>
      cases completes
      exact initially
  | cons event rest inductionHypothesis =>
      obtain ⟨next, steps, restCompletes⟩ :=
        run_cons_eq_ok.mp completes
      rw [everyStep_cons steps] at meets
      exact inductionHypothesis
        (preserved initially steps meets.1) meets.2 restCompletes

/--
The safety rule: a fault that no step raises from a state that satisfies the
invariant is not raised by a run.
-/
theorem run_ne_fault
    (Invariant : σ → Prop)
    {fault : φ}
    (preserved :
      ∀ {state event next},
        Invariant state →
        step state event = .ok next →
        Invariant next)
    (avoids :
      ∀ {state event},
        Invariant state → step state event ≠ .error fault)
    {state : σ}
    {events : List ε}
    (initially : Invariant state) :
    run step state events ≠ .error fault := by
  induction events generalizing state with
  | nil =>
      intro raises
      cases raises
  | cons event rest inductionHypothesis =>
      rw [run]
      cases steps : step state event with
      | error raised =>
          intro raises
          exact avoids initially (steps.trans raises)
      | ok next =>
          exact inductionHypothesis (preserved initially steps)

/--
The history rule: a reflexive and transitive relation that holds across every
step, with what the step's event writes, holds across a run, with what all its
events write.
-/
theorem history_of_run
    {ω : Type}
    (Evolves : σ → List ω → σ → Prop)
    (writes : ε → List ω)
    (refl : ∀ state, Evolves state [] state)
    (trans :
      ∀ {first second third before after},
        Evolves first before second →
        Evolves second after third →
        Evolves first (before ++ after) third)
    (evolves :
      ∀ {state event next},
        step state event = .ok next →
        Evolves state (writes event) next)
    {state final : σ}
    {events : List ε}
    (completes : run step state events = .ok final) :
    Evolves state (events.flatMap writes) final := by
  induction events generalizing state with
  | nil =>
      cases completes
      exact refl _
  | cons event rest inductionHypothesis =>
      obtain ⟨next, steps, restCompletes⟩ :=
        run_cons_eq_ok.mp completes
      rw [List.flatMap_cons]
      exact trans (evolves steps) (inductionHypothesis restCompletes)

/--
If, from states that satisfy the invariant, a step of a kind reaches such a
state exactly when it meets the condition, then a run of steps of this kind
stays inside the invariant exactly when all of them meet the condition.
-/
theorem everyStep_invariant_iff
    (Invariant : σ → Prop)
    (Condition : σ → ε → σ → Prop)
    {Kind : σ → ε → σ → Prop}
    (oneStep :
      ∀ {state event next},
        Invariant state →
        step state event = .ok next →
        Kind state event next →
        (Invariant next ↔ Condition state event next))
    {state : σ}
    {events : List ε}
    (initially : Invariant state)
    (ofKind : EveryStep step Kind state events) :
    EveryStep step (fun _ _ next => Invariant next) state events ↔
      EveryStep step Condition state events := by
  induction events generalizing state with
  | nil =>
      exact Iff.rfl
  | cons event rest inductionHypothesis =>
      rw [EveryStep] at ofKind
      rw [EveryStep, EveryStep]
      cases steps : step state event with
      | error fault =>
          exact Iff.rfl
      | ok next =>
          rw [steps] at ofKind
          have reaches := oneStep initially steps ofKind.1
          constructor
          · intro stays
            rcases stays with ⟨reached, later⟩
            exact ⟨reaches.mp reached,
              (inductionHypothesis reached ofKind.2).mp later⟩
          · intro condition
            rcases condition with ⟨meets, later⟩
            have reached := reaches.mpr meets
            exact ⟨reached,
              (inductionHypothesis reached ofKind.2).mpr later⟩

/--
If, from states that satisfy the invariant, a step is as it should be exactly
when it meets the condition, and such a step keeps the invariant, then all
steps of a run are as they should be exactly when all of them meet it.
-/
theorem everyStep_iff
    (Invariant : σ → Prop)
    (Holds Condition : σ → ε → σ → Prop)
    (oneStep :
      ∀ {state event next},
        Invariant state →
        step state event = .ok next →
        (Holds state event next ↔ Condition state event next))
    (preserved :
      ∀ {state event next},
        Invariant state →
        step state event = .ok next →
        Condition state event next →
        Invariant next)
    {state : σ}
    {events : List ε}
    (initially : Invariant state) :
    EveryStep step Holds state events ↔
      EveryStep step Condition state events := by
  induction events generalizing state with
  | nil =>
      exact Iff.rfl
  | cons event rest inductionHypothesis =>
      rw [EveryStep, EveryStep]
      cases steps : step state event with
      | error fault =>
          exact Iff.rfl
      | ok next =>
          have sameStep := oneStep initially steps
          constructor
          · intro holds
            rcases holds with ⟨first, later⟩
            have meets := sameStep.mp first
            exact ⟨meets,
              (inductionHypothesis
                (preserved initially steps meets)).mp later⟩
          · intro condition
            rcases condition with ⟨meets, later⟩
            exact ⟨sameStep.mpr meets,
              (inductionHypothesis
                (preserved initially steps meets)).mpr later⟩

/--
The simulation rule: when every step of a run is a step of another system on
what is observed of the states, the run is a run of that system.
-/
theorem run_of_everyStep
    {τ : Type}
    {specStep : τ → ε → Except φ τ}
    {observe : σ → τ}
    {state final : σ}
    {events : List ε}
    (simulates :
      EveryStep step
        (fun before event after =>
          specStep (observe before) event = .ok (observe after))
        state events)
    (completes : run step state events = .ok final) :
    run specStep (observe state) events = .ok (observe final) := by
  induction events generalizing state with
  | nil =>
      cases completes
      rfl
  | cons event rest inductionHypothesis =>
      obtain ⟨next, steps, restCompletes⟩ :=
        run_cons_eq_ok.mp completes
      rw [everyStep_cons steps] at simulates
      exact run_cons_eq_ok.mpr
        ⟨observe next, simulates.1,
          inductionHypothesis simulates.2 restCompletes⟩

end Runs

end FaultingRun
