namespace ThrowingMethods

/-!
# Methods of objects that throw

A method changes the object it is called on and returns, throws, or stops for
good: at undefined behaviour, or because a loop did not end in the steps that
it was given.  An object keeps what a method did to it before it threw, and a
caller that catches the exception goes on with that object.

`Ends` says how a method ends; its rules follow the ways in which methods are
composed.
-/

/-- Why a call does not return. -/
inductive Stop (φ ε : Type) where
  | fault (fault : φ)
  | thrown (exception : ε)
  | outOfFuel
  deriving Repr, DecidableEq

/-- The call threw an exception, or had a fault, that is allowed. -/
def Stop.Allowed
    {φ ε : Type}
    (stop : Stop φ ε)
    (Throws : ε → Prop)
    (Faults : φ → Prop) : Prop :=
  match stop with
  | .thrown exception =>
      Throws exception
  | .fault cause =>
      Faults cause
  | .outOfFuel =>
      False

/-- Weakening what is allowed. -/
theorem Stop.Allowed.mono
    {φ ε : Type}
    {stop : Stop φ ε}
    {Throws Throws' : ε → Prop}
    {Faults Faults' : φ → Prop}
    (allowed : stop.Allowed Throws' Faults')
    (throws : ∀ {exception}, Throws' exception → Throws exception)
    (faults : ∀ {cause}, Faults' cause → Faults cause) :
    stop.Allowed Throws Faults := by
  cases stop with
  | thrown exception =>
      exact throws allowed
  | fault cause =>
      exact faults allowed
  | outOfFuel =>
      exact allowed

/-- A call that changes no object. -/
abbrev Call (φ ε α : Type) :=
  Except (Stop φ ε) α

/-- A method of objects with this state. -/
abbrev Method (φ ε σ α : Type) :=
  EStateM (Stop φ ε) σ α

section Methods

variable {φ ε σ τ α β : Type}

/-- Throw an exception. -/
def raise (exception : ε) : Call φ ε α :=
  .error (.thrown exception)

/-- Run into undefined behaviour. -/
def undefined (fault : φ) : Call φ ε α :=
  .error (.fault fault)

/-- Call a method that does not change its object. -/
def observe (call : σ → Call φ ε α) : Method φ ε σ α :=
  fun state =>
    match call state with
    | .ok value =>
        .ok value state
    | .error stop =>
        .error stop state

/-- Throw an exception. -/
def fail (exception : ε) : Method φ ε σ α :=
  fun state => .error (.thrown exception) state

/-- Give up a loop that did not end. -/
def giveUp : Method φ ε σ α :=
  fun state => .error .outOfFuel state

/-- Change the object. -/
def update (change : σ → σ) : Method φ ε σ Unit :=
  fun state => .ok () (change state)

/-- Catch the exceptions of a method. -/
def attempt (method : Method φ ε σ α) : Method φ ε σ (Except ε α) :=
  fun state =>
    match method state with
    | .ok value next =>
        .ok (.ok value) next
    | .error (.thrown exception) next =>
        .ok (.error exception) next
    | .error (.fault fault) next =>
        .error (.fault fault) next
    | .error .outOfFuel next =>
        .error .outOfFuel next

/-- Do some things in a row. -/
def inOrder : List (Method φ ε σ Unit) → Method φ ε σ Unit
  | [] =>
      pure ()
  | action :: actions => do
      action
      inOrder actions

/-- Call a method of a part of the object. -/
def onPart
    (part : σ → τ)
    (setPart : σ → τ → σ)
    (method : Method φ ε τ α) :
    Method φ ε σ α :=
  fun state =>
    match method (part state) with
    | .ok value next =>
        .ok value (setPart state next)
    | .error stop next =>
        .error stop (setPart state next)

/-- Call a method of an object that nobody else sees. -/
def callOn (object : τ) (method : Method φ ε τ α) : Call φ ε (α × τ) :=
  match method object with
  | .ok value final =>
      .ok (value, final)
  | .error stop _ =>
      .error stop

/-- Construct an object by a method that is called on its members. -/
def construct (members : τ) (body : Method φ ε τ α) : Call φ ε τ :=
  match body members with
  | .ok _ final =>
      .ok final
  | .error stop _ =>
      .error stop

/-- After a call that returns, the next one is made. -/
@[simp] theorem call_bind_ok
    (value : α)
    (second : α → Call φ ε β) :
    ((.ok value : Call φ ε α) >>= second) = second value :=
  rfl

@[simp] theorem observe_ok
    {call : σ → Call φ ε α}
    {state : σ}
    {value : α}
    (sees : call state = .ok value) :
    observe call state = .ok value state := by
  rw [observe, sees]

/-- A method that only looks at its object returns what it saw. -/
theorem observe_eq_ok_iff
    {call : σ → Call φ ε α}
    {state final : σ}
    {value : α} :
    observe call state = .ok value final ↔
      call state = .ok value ∧ final = state := by
  rw [observe]
  cases call state with
  | ok seen =>
      simp only [EStateM.Result.ok.injEq, Except.ok.injEq]
      exact and_congr_right fun _ => eq_comm
  | error stop =>
      simp

/-- Two methods in a row return when both do. -/
theorem bind_eq_ok_iff
    {first : Method φ ε σ α}
    {second : α → Method φ ε σ β}
    {state final : σ}
    {result : β} :
    (first >>= second) state = .ok result final ↔
      ∃ value middle,
        first state = .ok value middle ∧
          second value middle = .ok result final := by
  change EStateM.bind first second state = _ ↔ _
  rw [EStateM.bind]
  cases first state with
  | ok seen after =>
      constructor
      · intro returns
        exact ⟨seen, after, rfl, returns⟩
      · intro both
        rcases both with ⟨_, _, same, returns⟩
        cases same
        exact returns
  | error stop after =>
      simp

/-- After a method that returns, the next one is called. -/
theorem bind_of_ok
    {first : Method φ ε σ α}
    {state middle : σ}
    {value : α}
    (returns : first state = .ok value middle)
    (second : α → Method φ ε σ β) :
    (first >>= second) state = second value middle := by
  change EStateM.bind first second state = _
  rw [EStateM.bind, returns]

/-- A method that does not return is the last one called. -/
theorem bind_of_error
    {first : Method φ ε σ α}
    {state middle : σ}
    {stop : Stop φ ε}
    (stops : first state = .error stop middle)
    (second : α → Method φ ε σ β) :
    (first >>= second) state = .error stop middle := by
  change EStateM.bind first second state = _
  rw [EStateM.bind, stops]

/-- A method of a part returns what the part's method returns. -/
theorem onPart_ok
    {part : σ → τ}
    {method : Method φ ε τ α}
    {state : σ}
    {value : α}
    {next : τ}
    (returns : method (part state) = .ok value next)
    (setPart : σ → τ → σ) :
    onPart part setPart method state = .ok value (setPart state next) := by
  rw [onPart, returns]

/-- A method of a part stops when the part's method does. -/
theorem onPart_error
    {part : σ → τ}
    {method : Method φ ε τ α}
    {state : σ}
    {stop : Stop φ ε}
    {next : τ}
    (stops : method (part state) = .error stop next)
    (setPart : σ → τ → σ) :
    onPart part setPart method state =
      .error stop (setPart state next) := by
  rw [onPart, stops]

/-- A method of a part returns when the part's method does. -/
theorem onPart_eq_ok_iff
    {part : σ → τ}
    {setPart : σ → τ → σ}
    {method : Method φ ε τ α}
    {state final : σ}
    {value : α} :
    onPart part setPart method state = .ok value final ↔
      ∃ next,
        method (part state) = .ok value next ∧
          final = setPart state next := by
  rw [onPart]
  cases method (part state) with
  | ok seen next =>
      simp only [EStateM.Result.ok.injEq]
      constructor
      · intro same
        exact ⟨next, ⟨same.1, rfl⟩, same.2.symm⟩
      · intro same
        rcases same with ⟨_, ⟨rfl, rfl⟩, rfl⟩
        exact ⟨rfl, rfl⟩
  | error stop next =>
      simp

/-- A call on an object returns when the object's method does. -/
theorem callOn_eq_ok_iff
    {object final : τ}
    {method : Method φ ε τ α}
    {value : α} :
    callOn object method = .ok (value, final) ↔
      method object = .ok value final := by
  rw [callOn]
  cases method object <;> simp

/-- Two calls in a row return when both do. -/
theorem call_bind_eq_ok_iff
    {first : Call φ ε α}
    {second : α → Call φ ε β}
    {result : β} :
    (first >>= second) = .ok result ↔
      ∃ value, first = .ok value ∧ second value = .ok result := by
  cases first with
  | ok value =>
      rw [call_bind_ok]
      constructor
      · intro returns
        exact ⟨value, rfl, returns⟩
      · intro both
        rcases both with ⟨_, same, returns⟩
        cases same
        exact returns
  | error stop =>
      constructor
      · intro returns
        cases returns
      · intro both
        rcases both with ⟨_, same, -⟩
        cases same

/-- A call on an object and a call: both return. -/
theorem callOn_bind_eq_ok_iff
    {object : τ}
    {method : Method φ ε τ α}
    {second : α × τ → Call φ ε β}
    {result : β} :
    (callOn object method >>= second) = .ok result ↔
      ∃ value final,
        method object = .ok value final ∧
          second (value, final) = .ok result := by
  rw [call_bind_eq_ok_iff]
  constructor
  · intro both
    rcases both with ⟨⟨value, final⟩, calls, returns⟩
    exact ⟨value, final, callOn_eq_ok_iff.mp calls, returns⟩
  · intro both
    rcases both with ⟨value, final, calls, returns⟩
    exact ⟨(value, final), callOn_eq_ok_iff.mpr calls, returns⟩

/-- An object is constructed when the constructor's body returns. -/
theorem construct_eq_ok_iff
    {members final : τ}
    {body : Method φ ε τ α} :
    construct members body = .ok final ↔
      ∃ value, body members = .ok value final := by
  rw [construct]
  cases body members <;> simp

/-- A look at the object and a method: both return. -/
theorem observe_bind_eq_ok_iff
    {call : σ → Call φ ε α}
    {second : α → Method φ ε σ β}
    {state final : σ}
    {result : β} :
    (observe call >>= second) state = .ok result final ↔
      ∃ value,
        call state = .ok value ∧ second value state = .ok result final := by
  rw [bind_eq_ok_iff]
  constructor
  · intro both
    rcases both with ⟨value, middle, observes, returns⟩
    obtain ⟨sees, rfl⟩ := observe_eq_ok_iff.mp observes
    exact ⟨value, sees, returns⟩
  · intro both
    rcases both with ⟨value, sees, returns⟩
    exact ⟨value, state, observe_ok sees, returns⟩

/-- A method of a part and a method: both return. -/
theorem onPart_bind_eq_ok_iff
    {part : σ → τ}
    {setPart : σ → τ → σ}
    {method : Method φ ε τ α}
    {second : α → Method φ ε σ β}
    {state final : σ}
    {result : β} :
    (onPart part setPart method >>= second) state = .ok result final ↔
      ∃ value next,
        method (part state) = .ok value next ∧
          second value (setPart state next) = .ok result final := by
  rw [bind_eq_ok_iff]
  constructor
  · intro both
    rcases both with ⟨value, middle, first, returns⟩
    obtain ⟨next, partReturns, rfl⟩ := onPart_eq_ok_iff.mp first
    exact ⟨value, next, partReturns, returns⟩
  · intro both
    rcases both with ⟨value, next, partReturns, returns⟩
    exact ⟨value, _, onPart_ok partReturns _, returns⟩

/-- Looking at the object never stops. -/
theorem look_bind
    (look : σ → α)
    (second : α → Method φ ε σ β)
    (state : σ) :
    (observe (fun object => .ok (look object)) >>= second) state =
      second (look state) state :=
  rfl

/-- Changing the object never stops. -/
theorem update_bind
    (change : σ → σ)
    (second : Unit → Method φ ε σ β)
    (state : σ) :
    (update change >>= second) state = second () (change state) :=
  rfl

/-- Returning a value leaves the object. -/
theorem pure_eq_ok_iff
    {value result : α}
    {state final : σ} :
    (pure value : Method φ ε σ α) state = .ok result final ↔
      result = value ∧ final = state := by
  constructor
  · intro returns
    cases returns
    exact ⟨rfl, rfl⟩
  · intro same
    rcases same with ⟨rfl, rfl⟩
    rfl

end Methods

section Ends

variable {φ ε σ τ α β : Type}

/--
The method returned with `Returns`, threw with `Throws` or ran into undefined
behaviour with `Faults`; it did not go on for ever.
-/
def Ends
    (result : EStateM.Result (Stop φ ε) σ α)
    (Returns : α → σ → Prop)
    (Throws : ε → σ → Prop)
    (Faults : φ → Prop) : Prop :=
  match result with
  | .ok value state =>
      Returns value state
  | .error stop state =>
      stop.Allowed (fun exception => Throws exception state) Faults

/-- `Ends`, of a call that changes no object. -/
def CallEnds
    (result : Call φ ε α)
    (Returns : α → Prop)
    (Throws : ε → Prop)
    (Faults : φ → Prop) : Prop :=
  match result with
  | .ok value =>
      Returns value
  | .error stop =>
      stop.Allowed Throws Faults

variable
  {Returns : α → σ → Prop}
  {Throws : ε → σ → Prop}
  {Faults Faults' : φ → Prop}

/-- The consequence rule. -/
theorem Ends.mono
    {result : EStateM.Result (Stop φ ε) σ α}
    {Returns' : α → σ → Prop}
    {Throws' : ε → σ → Prop}
    (ends : Ends result Returns' Throws' Faults')
    (returns : ∀ {value state}, Returns' value state → Returns value state)
    (throws :
      ∀ {exception state},
        Throws' exception state → Throws exception state)
    (faults : ∀ {cause}, Faults' cause → Faults cause) :
    Ends result Returns Throws Faults := by
  cases result with
  | ok value state =>
      exact returns ends
  | error stop state =>
      exact Stop.Allowed.mono ends throws faults

/-- The rule for two methods in a row. -/
theorem Ends.bind
    {first : Method φ ε σ α}
    {second : α → Method φ ε σ β}
    {state : σ}
    {Returns : β → σ → Prop}
    (ends :
      Ends (first state)
        (fun value middle =>
          Ends (second value middle) Returns Throws Faults)
        Throws Faults) :
    Ends ((first >>= second) state) Returns Throws Faults := by
  change Ends (EStateM.bind first second state) Returns Throws Faults
  rw [EStateM.bind]
  cases result : first state with
  | ok value middle =>
      rw [result] at ends
      exact ends
  | error stop middle =>
      rw [result] at ends
      exact ends

/-- The rule for returning a value. -/
theorem Ends.pure
    {value : α}
    {state : σ}
    (ends : Returns value state) :
    Ends ((Pure.pure value : Method φ ε σ α) state) Returns Throws
      Faults :=
  ends

/-- The rule for changing the object. -/
theorem Ends.update
    {change : σ → σ}
    {state : σ}
    {Returns : Unit → σ → Prop}
    (ends : Returns () (change state)) :
    Ends (update change state) Returns Throws Faults :=
  ends

/-- The rule for throwing. -/
theorem Ends.fail
    {exception : ε}
    {state : σ}
    (ends : Throws exception state) :
    Ends (fail exception state) Returns Throws Faults :=
  ends

/-- The rule for a method that only looks at its object. -/
theorem Ends.observe
    {call : σ → Call φ ε α}
    {state : σ}
    (ends :
      CallEnds (call state)
        (fun value => Returns value state)
        (fun exception => Throws exception state)
        Faults) :
    Ends (observe call state) Returns Throws Faults := by
  rw [ThrowingMethods.observe]
  cases result : call state with
  | ok value =>
      rw [result] at ends
      exact ends
  | error stop =>
      rw [result] at ends
      exact ends

/-- The rule for a method of a part of the object. -/
theorem Ends.onPart
    {part : σ → τ}
    {setPart : σ → τ → σ}
    {method : Method φ ε τ α}
    {state : σ}
    (ends :
      Ends (method (part state))
        (fun value next => Returns value (setPart state next))
        (fun exception next => Throws exception (setPart state next))
        Faults) :
    Ends (onPart part setPart method state) Returns Throws Faults := by
  rw [ThrowingMethods.onPart]
  cases result : method (part state) with
  | ok value next =>
      rw [result] at ends
      exact ends
  | error stop next =>
      rw [result] at ends
      exact ends

/-- The rule for a method whose exceptions are caught. -/
theorem Ends.attempt
    {method : Method φ ε σ α}
    {state : σ}
    {Returns : Except ε α → σ → Prop}
    (ends :
      Ends (method state)
        (fun value next => Returns (.ok value) next)
        (fun exception next => Returns (.error exception) next)
        Faults) :
    Ends (attempt method state) Returns Throws Faults := by
  rw [ThrowingMethods.attempt]
  cases result : method state with
  | ok value next =>
      rw [result] at ends
      exact ends
  | error stop next =>
      rw [result] at ends
      cases stop with
      | thrown exception =>
          exact ends
      | fault fault =>
          exact ends
      | outOfFuel =>
          exact ends

/--
A fault of some actions in a row: the ones before some action return, and the
fault is one of this action, in the state that they leave.
-/
def FaultsInOrder
    {ι : Type}
    (act : ι → Method φ ε σ Unit)
    (FaultsAt : ι → σ → φ → Prop)
    (items : List ι)
    (state : σ)
    (fault : φ) : Prop :=
  ∃ before item after middle,
    items = before ++ item :: after ∧
      inOrder (before.map act) state = .ok () middle ∧
        FaultsAt item middle fault

/-- The first action has the fault. -/
theorem FaultsInOrder.head
    {ι : Type}
    {act : ι → Method φ ε σ Unit}
    {FaultsAt : ι → σ → φ → Prop}
    {item : ι}
    {state : σ}
    {fault : φ}
    (faults : FaultsAt item state fault)
    (items : List ι) :
    FaultsInOrder act FaultsAt (item :: items) state fault :=
  ⟨[], item, items, state, rfl, rfl, faults⟩

/-- The first action returns, and one of the others has the fault. -/
theorem FaultsInOrder.cons
    {ι : Type}
    {act : ι → Method φ ε σ Unit}
    {FaultsAt : ι → σ → φ → Prop}
    {item : ι}
    {items : List ι}
    {state next : σ}
    {fault : φ}
    (returns : act item state = .ok () next)
    (faults : FaultsInOrder act FaultsAt items next fault) :
    FaultsInOrder act FaultsAt (item :: items) state fault := by
  obtain ⟨before, last, after, middle, isSplit, leaves, isFault⟩ := faults
  refine ⟨item :: before, last, after, middle, ?_, ?_, isFault⟩
  · rw [isSplit, List.cons_append]
  · rw [List.map_cons, ThrowingMethods.inOrder, bind_of_ok returns]
    exact leaves

/--
An invariant that every action keeps is kept by all of them in a row, up to the
first one that has a fault.
-/
theorem Ends.inOrder
    {ι : Type}
    {act : ι → Method φ ε σ Unit}
    {FaultsAt : ι → σ → φ → Prop}
    {items : List ι}
    {state : σ}
    {Keeps : σ → Prop}
    (keeps :
      ∀ {item state},
        item ∈ items →
        Keeps state →
        Ends (act item state) (fun _ next => Keeps next)
          (fun _ _ => False) (FaultsAt item state))
    (initially : Keeps state) :
    Ends (inOrder (items.map act) state) (fun _ next => Keeps next)
      (fun _ _ => False) (FaultsInOrder act FaultsAt items state) := by
  induction items generalizing state with
  | nil =>
      exact initially
  | cons item items inductionHypothesis =>
      have first := keeps List.mem_cons_self initially
      rw [List.map_cons, ThrowingMethods.inOrder]
      cases result : act item state with
      | ok value next =>
          rw [result] at first
          rw [bind_of_ok result]
          apply Ends.mono
            (inductionHypothesis
              (fun member => keeps (List.mem_cons_of_mem _ member)) first)
          case returns =>
            exact id
          case throws =>
            exact id
          case faults =>
            exact FaultsInOrder.cons result
      | error stop next =>
          rw [result] at first
          rw [bind_of_error result]
          apply Stop.Allowed.mono first
          case throws =>
            exact id
          case faults =>
            intro fault faults
            exact FaultsInOrder.head faults items

/-- The consequence rule for calls. -/
theorem CallEnds.mono
    {result : Call φ ε α}
    {Returns Returns' : α → Prop}
    {Throws Throws' : ε → Prop}
    (ends : CallEnds result Returns' Throws' Faults')
    (returns : ∀ {value}, Returns' value → Returns value)
    (throws : ∀ {exception}, Throws' exception → Throws exception)
    (faults : ∀ {cause}, Faults' cause → Faults cause) :
    CallEnds result Returns Throws Faults := by
  cases result with
  | ok value =>
      exact returns ends
  | error stop =>
      exact Stop.Allowed.mono ends throws faults

/-- The rule for two calls in a row. -/
theorem CallEnds.bind
    {first : Call φ ε α}
    {second : α → Call φ ε β}
    {Returns : β → Prop}
    {Throws : ε → Prop}
    (ends :
      CallEnds first
        (fun value => CallEnds (second value) Returns Throws Faults)
        Throws Faults) :
    CallEnds (first >>= second) Returns Throws Faults := by
  cases first with
  | ok value =>
      exact ends
  | error stop =>
      exact ends

/-- The rule for a call on an object that nobody else sees. -/
theorem CallEnds.callOn
    {object : τ}
    {method : Method φ ε τ α}
    {Returns : α × τ → Prop}
    {Throws : ε → Prop}
    (ends :
      Ends (method object)
        (fun value final => Returns (value, final))
        (fun exception _ => Throws exception)
        Faults) :
    CallEnds (callOn object method) Returns Throws Faults := by
  rw [ThrowingMethods.callOn]
  cases result : method object with
  | ok value final =>
      rw [result] at ends
      exact ends
  | error stop final =>
      rw [result] at ends
      exact ends

/-- The rule for constructors. -/
theorem CallEnds.construct
    {members : τ}
    {body : Method φ ε τ α}
    {Returns : τ → Prop}
    {Throws : ε → Prop}
    (ends :
      Ends (body members)
        (fun _ final => Returns final)
        (fun exception _ => Throws exception)
        Faults) :
    CallEnds (construct members body) Returns Throws Faults := by
  rw [ThrowingMethods.construct]
  cases result : body members with
  | ok value final =>
      rw [result] at ends
      exact ends
  | error stop final =>
      rw [result] at ends
      exact ends

end Ends

end ThrowingMethods
