import Mathlib.Data.List.Basic

namespace CallHistory

/-!
# Histories of calls

Two sides of an object that is configured by calls and then makes calls of its
own.  After a sequence of setter calls a field holds what was written last, or
everything that was added, in call order.  A `Recorder` makes calls that change
a hidden world, and remembers each call with its answer.

`Makes` says that the calls in a log were really made: each of them was answered
in the world that the one before it left behind.
-/

section Setters

variable {σ ε τ : Type}
  {step : σ → ε → σ}

/-- A field that calls overwrite holds what was written last. -/
theorem field_of_overwritten
    (field : σ → τ)
    {written : ε → Option τ}
    (writes :
      ∀ state call,
        field (step state call) = (written call).getD (field state))
    (state : σ)
    (calls : List ε) :
    field (calls.foldl step state) =
      (calls.filterMap written).getLast?.getD (field state) := by
  induction calls generalizing state with
  | nil =>
      rfl
  | cons call rest inductionHypothesis =>
      rw [List.foldl_cons, inductionHypothesis, writes]
      cases wrote : written call with
      | none =>
          rw [List.filterMap_cons_none wrote]
          rfl
      | some value =>
          rw [List.filterMap_cons_some wrote, List.getLast?_cons]
          rfl

/-- A field that calls add to holds everything that was added, in order. -/
theorem field_of_collected
    (field : σ → List τ)
    {added : ε → Option τ}
    (adds :
      ∀ state call,
        field (step state call) = field state ++ (added call).toList)
    (state : σ)
    (calls : List ε) :
    field (calls.foldl step state) =
      field state ++ calls.filterMap added := by
  induction calls generalizing state with
  | nil =>
      exact (List.append_nil _).symm
  | cons call rest inductionHypothesis =>
      rw [List.foldl_cons, inductionHypothesis, adds]
      cases addition : added call with
      | none =>
          rw [List.filterMap_cons_none addition]
          simp
      | some item =>
          rw [List.filterMap_cons_some addition]
          simp

/-- A field that no call touches stays as it was. -/
theorem field_of_untouched
    (field : σ → τ)
    (keeps : ∀ state call, field (step state call) = field state)
    (state : σ)
    (calls : List ε) :
    field (calls.foldl step state) = field state := by
  induction calls generalizing state with
  | nil =>
      rfl
  | cons call rest inductionHypothesis =>
      rw [List.foldl_cons, inductionHypothesis, keeps]

end Setters

section Recording

/-- A hidden world and the calls that were made in it, with their answers. -/
structure Recorder (World Call : Type) (Answer : Call → Type) where
  world : World
  calls : List (Σ call, Answer call)

variable
  {World Call α β : Type}
  {Answer : Call → Type}
  {respond : (call : Call) → World → World × Answer call}

/-- Make a call, and record it with its answer. -/
def Recorder.call
    (recorder : Recorder World Call Answer)
    (respond : (call : Call) → World → World × Answer call)
    (call : Call) :
    Recorder World Call Answer × Answer call :=
  let (world, answer) := respond call recorder.world
  ({ world := world, calls := recorder.calls ++ [⟨call, answer⟩] }, answer)

/-- Make one call for each item, in order, and collect what is made of it. -/
def Recorder.transform
    (recorder : Recorder World Call Answer)
    (respond : (call : Call) → World → World × Answer call)
    (request : α → Call)
    (result : (item : α) → Answer (request item) → β) :
    List α → Recorder World Call Answer × List β
  | [] =>
      (recorder, [])
  | item :: rest =>
      let (called, answer) := recorder.call respond (request item)
      let (after, results) := called.transform respond request result rest
      (after, result item answer :: results)

/-- Answering the calls in order leads from one world to the other. -/
inductive Answers
    (respond : (call : Call) → World → World × Answer call) :
    World → List (Σ call, Answer call) → World → Prop where
  | nil (world : World) :
      Answers respond world [] world
  | cons
      {before middle after : World}
      {call : Call}
      {answer : Answer call}
      {later : List (Σ call, Answer call)}
      (answered : respond call before = (middle, answer))
      (rest : Answers respond middle later after) :
      Answers respond before (⟨call, answer⟩ :: later) after

/-- Calls after calls. -/
theorem Answers.append
    {before middle after : World}
    {first second : List (Σ call, Answer call)}
    (firstAnswers : Answers respond before first middle)
    (secondAnswers : Answers respond middle second after) :
    Answers respond before (first ++ second) after := by
  induction firstAnswers with
  | nil _ =>
      exact secondAnswers
  | cons answered _ inductionHypothesis =>
      exact .cons answered (inductionHypothesis secondAnswers)

/-- From `before` to `after` the calls of the log were made, and no others. -/
structure Recorder.Makes
    (respond : (call : Call) → World → World × Answer call)
    (log : List (Σ call, Answer call))
    (before after : Recorder World Call Answer) : Prop where
  recorded :
    after.calls = before.calls ++ log
  answered :
    Answers respond before.world log after.world

/-- One log after the other. -/
theorem Recorder.Makes.trans
    {before middle after : Recorder World Call Answer}
    {first second : List (Σ call, Answer call)}
    (firstMakes : Makes respond first before middle)
    (secondMakes : Makes respond second middle after) :
    Makes respond (first ++ second) before after where
  recorded := by
    rw [secondMakes.recorded, firstMakes.recorded, List.append_assoc]
  answered :=
    firstMakes.answered.append secondMakes.answered

/-- Making a call. -/
theorem Recorder.call_makes
    (recorder : Recorder World Call Answer)
    (respond : (call : Call) → World → World × Answer call)
    (call : Call) :
    Makes respond [⟨call, (recorder.call respond call).2⟩] recorder
      (recorder.call respond call).1 where
  recorded :=
    rfl
  answered :=
    .cons rfl (.nil _)

/-- There is one result for each item. -/
theorem Recorder.length_transform
    (recorder : Recorder World Call Answer)
    (respond : (call : Call) → World → World × Answer call)
    (request : α → Call)
    (result : (item : α) → Answer (request item) → β)
    (items : List α) :
    (recorder.transform respond request result items).2.length =
      items.length := by
  induction items generalizing recorder with
  | nil =>
      rfl
  | cons item rest inductionHypothesis =>
      exact congrArg (· + 1) (inductionHypothesis _)

/-- The calls are made in the order of the items; results show the answers. -/
theorem Recorder.transform_makes
    (recorder : Recorder World Call Answer)
    (respond : (call : Call) → World → World × Answer call)
    (request : α → Call)
    (result : (item : α) → Answer (request item) → β)
    (answer : (item : α) → β → Answer (request item))
    (shows : ∀ item answered, answer item (result item answered) = answered)
    (items : List α) :
    Makes respond
      (List.zipWith
        (fun item made => ⟨request item, answer item made⟩) items
        (recorder.transform respond request result items).2)
      recorder
      (recorder.transform respond request result items).1 := by
  induction items generalizing recorder with
  | nil =>
      exact ⟨(List.append_nil _).symm, .nil _⟩
  | cons item rest inductionHypothesis =>
      have first := recorder.call_makes respond (request item)
      have later :=
        inductionHypothesis (recorder.call respond (request item)).1
      rw [← shows item (recorder.call respond (request item)).2] at first
      exact first.trans later

end Recording

end CallHistory
