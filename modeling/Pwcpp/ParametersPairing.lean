import Pwcpp.FaultingRun
import Pwcpp.ParametersDecoding
import Pwcpp.SpaReference

namespace Pwcpp

/-!
# Which key goes with which value

`parse` collects keys and values in two vectors, takes a key back when its
value has an unknown type, and pairs what is left by position.  The pairs are
described here by the positions of the children alone: child `2i` names the
value of child `2i + 1`.

A key always precedes the value that may take it back, so `keys.pop_back()`
finds a key on every pod.  A getter that fails is another matter: its output
is read all the same.
-/

namespace ParametersProperty

section Positions

variable {Pod : Type}

/-- The pair that children `2i` and `2i + 1` stand for. -/
def childPair
    (reader : PodReader Pod)
    (children : List Pod)
    (i : Nat) :
    Option Parameter := do
  let key ← children[2 * i]?
  let value ← children[2 * i + 1]?
  let name ← reader.spaPodGetString key
  let decoded ← decodedValue reader value
  return (cStr name, decoded)

/-- The pairs of a list of children, by position. -/
def pairsByPosition
    (reader : PodReader Pod)
    (children : List Pod) :
    Parameters :=
  (List.range (children.length / 2)).filterMap
    (childPair reader children)

variable {reader : PodReader Pod}

/-- Positions after the first two children are those of the other children. -/
theorem childPair_succ
    (key value : Pod)
    (rest : List Pod)
    (i : Nat) :
    childPair reader (key :: value :: rest) (i + 1) =
      childPair reader rest i := by
  have keyAt : 2 * (i + 1) = 2 * i + 1 + 1 := by
    omega
  have valueAt : 2 * (i + 1) + 1 = 2 * i + 1 + 1 + 1 := by
    omega
  simp only [childPair, keyAt, List.getElem?_cons_succ]

/-- The first two children come before the pairs of the others. -/
theorem pairsByPosition_cons
    (key value : Pod)
    (rest : List Pod) :
    pairsByPosition reader (key :: value :: rest) =
      (childPair reader (key :: value :: rest) 0).toList ++
        pairsByPosition reader rest := by
  have pairs :
      (key :: value :: rest).length / 2 = rest.length / 2 + 1 := by
    simp only [List.length_cons]
    omega
  have shifted :
      (childPair reader (key :: value :: rest)) ∘ Nat.succ =
        childPair reader rest :=
    funext (childPair_succ key value rest)
  rw [pairsByPosition, pairs, List.range_succ_eq_map,
    List.filterMap_cons, List.filterMap_map, shifted]
  cases childPair reader (key :: value :: rest) 0 <;> rfl

/-- The first two children decode to their pair, before the others. -/
theorem decodedPairs_cons
    (key value : Pod)
    (rest : List Pod) :
    decodedPairs reader (key :: value :: rest) =
      (childPair reader (key :: value :: rest) 0).toList ++
        decodedPairs reader rest := by
  cases keyGets : reader.spaPodGetString key <;>
    cases valueGets : decodedValue reader value <;>
      simp [decodedPairs, childPair, keyGets, valueGets]

/-- The decoded pairs are the pairs by position. -/
theorem decodedPairs_eq_pairsByPosition
    (children : List Pod) :
    decodedPairs reader children = pairsByPosition reader children := by
  induction children using GettersSucceed.induct with
  | case1 =>
      simp [decodedPairs, pairsByPosition]
  | case2 key =>
      simp [decodedPairs, pairsByPosition]
  | case3 key value rest inductionHypothesis =>
      rw [decodedPairs_cons, pairsByPosition_cons, inductionHypothesis]

/-- A child whose value is decoded has a known type. -/
theorem known_of_decodedValue
    {pod : Pod}
    (decodes : (decodedValue reader pod).isSome = true) :
    KnownType (reader.spaPodType pod) = true := by
  unfold decodedValue at decodes
  cases type : reader.spaPodType pod <;>
    simp_all [KnownType]

/-- When all getters succeed, the pairs kept are those with a known type. -/
theorem childPair_isSome_iff
    {children : List Pod}
    (succeed : GettersSucceed reader children)
    (i : Nat) :
    (childPair reader children i).isSome = true ↔
      ∃ value,
        children[2 * i + 1]? = some value ∧
          KnownType (reader.spaPodType value) = true := by
  induction children using GettersSucceed.induct generalizing i with
  | case1 =>
      simp [childPair]
  | case2 key =>
      simp [childPair]
  | case3 key value rest inductionHypothesis =>
      obtain ⟨keySucceeds, valueSucceeds, restSucceed⟩ := succeed
      cases i with
      | zero =>
          obtain ⟨name, keyGets⟩ :=
            Option.isSome_iff_exists.mp keySucceeds
          have sameSome :
              (childPair reader (key :: value :: rest) 0).isSome =
                (decodedValue reader value).isSome := by
            cases valueGets : decodedValue reader value <;>
              simp [childPair, keyGets, valueGets]
          rw [sameSome]
          constructor
          · intro decodes
            exact ⟨value, rfl, known_of_decodedValue decodes⟩
          · intro known
            rcases known with ⟨value', isValue, known⟩
            obtain rfl : value = value' := by
              simpa using isValue
            exact valueSucceeds known
      | succ i =>
          have valueAt : 2 * (i + 1) + 1 = 2 * i + 1 + 1 + 1 := by
            omega
          rw [childPair_succ, valueAt, List.getElem?_cons_succ,
            List.getElem?_cons_succ]
          exact inductionHypothesis restSucceed i

end Positions

section Safety

variable {Pod : Type}

/-- Before every value there is a key that no earlier value has taken. -/
def ParseState.KeysLead (state : ParseState) : Prop :=
  state.values.length + state.count % 2 ≤ state.keys.length

/-- What one round of the loop can do. -/
theorem parseField_outcome
    (reader : PodReader Pod)
    (state : ParseState)
    (child : Pod) :
    (state.count % 2 = 0 ∧
        ∃ key, parseField reader state child = .ok (state.pushKey key)) ∨
      (¬ state.count % 2 = 0 ∧
        ∃ value,
          parseField reader state child = .ok (state.pushValue value)) ∨
      (¬ state.count % 2 = 0 ∧
        parseField reader state child = state.popKey) ∨
      parseField reader state child = .error .uninitialisedRead := by
  by_cases even : state.count % 2 = 0
  · cases keyGets : reader.spaPodGetString child with
    | some name =>
        exact Or.inl ⟨even, cStr name, parseField_key even keyGets⟩
    | none =>
        refine Or.inr (Or.inr (Or.inr ?_))
        simp only [parseField, if_pos even, keyGets]
        rfl
  · cases known : KnownType (reader.spaPodType child) with
    | false =>
        exact Or.inr (Or.inr (Or.inl
          ⟨even, parseField_unknown even known⟩))
    | true =>
        cases decodes : decodedValue reader child with
        | some decoded =>
            exact Or.inr (Or.inl
              ⟨even, decoded, parseField_value even decodes⟩)
        | none =>
            exact Or.inr (Or.inr (Or.inr
              (parseField_fault even known decodes)))

/-- At an odd position there is a key to take back. -/
theorem popKey_of_keysLead
    {state : ParseState}
    (odd : ¬ state.count % 2 = 0)
    (lead : state.KeysLead) :
    state.popKey =
      .ok {
        count := state.count + 1
        keys := state.keys.dropLast
        values := state.values
      } := by
  have someKey : ¬ state.keys.isEmpty = true := by
    intro noKey
    have noKeys := List.isEmpty_iff.mp noKey
    simp only [ParseState.KeysLead, noKeys, List.length_nil] at lead
    omega
  exact if_neg someKey

/-- A round of the loop keeps a key before every value. -/
theorem keysLead_of_parseField
    {reader : PodReader Pod}
    {state next : ParseState}
    {child : Pod}
    (lead : state.KeysLead)
    (steps : parseField reader state child = .ok next) :
    next.KeysLead := by
  rcases parseField_outcome reader state child with
    pushedKey | pushedValue | poppedKey | faulted
  · obtain ⟨even, key, outcome⟩ := pushedKey
    obtain rfl := Except.ok.inj (outcome.symm.trans steps)
    simp only [ParseState.KeysLead, ParseState.pushKey,
      List.length_append, List.length_singleton] at lead ⊢
    omega
  · obtain ⟨odd, value, outcome⟩ := pushedValue
    obtain rfl := Except.ok.inj (outcome.symm.trans steps)
    simp only [ParseState.KeysLead, ParseState.pushValue,
      List.length_append, List.length_singleton] at lead ⊢
    omega
  · obtain ⟨odd, outcome⟩ := poppedKey
    have popped := popKey_of_keysLead odd lead
    obtain rfl :=
      Except.ok.inj (popped.symm.trans (outcome.symm.trans steps))
    simp only [ParseState.KeysLead, List.length_dropLast] at lead ⊢
    omega
  · cases faulted.symm.trans steps

/-- A round of the loop that finds a key before every value takes one back. -/
theorem parseField_ne_popBackOfEmptyVector
    {reader : PodReader Pod}
    {state : ParseState}
    {child : Pod}
    (lead : state.KeysLead) :
    parseField reader state child ≠ .error .popBackOfEmptyVector := by
  intro raises
  rcases parseField_outcome reader state child with
    pushedKey | pushedValue | poppedKey | faulted
  · obtain ⟨even, key, outcome⟩ := pushedKey
    cases outcome.symm.trans raises
  · obtain ⟨odd, value, outcome⟩ := pushedValue
    cases outcome.symm.trans raises
  · obtain ⟨odd, outcome⟩ := poppedKey
    have popped := popKey_of_keysLead odd lead
    cases popped.symm.trans (outcome.symm.trans raises)
  · cases faulted.symm.trans raises

/-- `keys.pop_back()` finds a key on every pod. -/
theorem parse_ne_popBackOfEmptyVector
    (reader : PodReader Pod)
    (pod : Pod) :
    parse reader pod ≠ .error .popBackOfEmptyVector := by
  have safe :
      FaultingRun.run (parseField reader) .init
          (reader.spaPodStructForeach pod) ≠
        .error .popBackOfEmptyVector :=
    FaultingRun.run_ne_fault ParseState.KeysLead keysLead_of_parseField
      parseField_ne_popBackOfEmptyVector (Nat.le_refl 0)
  intro raises
  rw [parse, FaultingRun.foldlM_eq_run] at raises
  cases loop :
      FaultingRun.run (parseField reader) .init
        (reader.spaPodStructForeach pod) with
  | ok final =>
      rw [loop] at raises
      cases raises
  | error fault =>
      rw [loop] at raises
      have raised :
          (.error fault : Exec (Expected Parameters)) =
            .error .popBackOfEmptyVector :=
        raises
      obtain rfl := Except.error.inj raised
      exact safe loop

end Safety

section Results

variable {Pod : Type}

/--
`parse` never takes a key from an empty vector.  When all its getter calls
succeed it returns the pairs by position, and position `i` contributes one
exactly when child `2i + 1` exists and has a known type.
-/
theorem parse_pairsByPosition
    (reader : PodReader Pod)
    (pod : Pod) :
    parse reader pod ≠ .error .popBackOfEmptyVector ∧
      (GettersSucceed reader (reader.spaPodStructForeach pod) →
        parse reader pod =
            .ok (.ok
              (pairsByPosition reader (reader.spaPodStructForeach pod))) ∧
          ∀ i,
            (childPair reader (reader.spaPodStructForeach pod) i).isSome =
                true ↔
              ∃ value,
                (reader.spaPodStructForeach pod)[2 * i + 1]? =
                    some value ∧
                  KnownType (reader.spaPodType value) = true) := by
  refine ⟨parse_ne_popBackOfEmptyVector reader pod, ?_⟩
  intro succeed
  constructor
  · rw [parse_eq_decodedPairs succeed, decodedPairs_eq_pairsByPosition]
  · exact childPair_isSome_iff succeed

/-- A struct with an unknown value between pairs and a trailing key. -/
def referenceFields : ReferencePod :=
  .struct [
    .value (.string (ascii "gain")), .value (.int 1),
    .value (.string (ascii "mute")), .value (.bool true),
    .value (.string (ascii "mode")), .value (.string (ascii "null")),
    .value (.string (ascii "name")), .value (.string (ascii "lead")),
    .value (.string (ascii "rest"))]

/-- The unknown value costs its own pair only, and only `null` is no value. -/
theorem parse_pairsByPosition_referenceFields :
    parse referenceSpa.toPodReader referenceFields =
      .ok (.ok [(ascii "gain", .int 1), (ascii "mode", .nullopt),
        (ascii "name", .string (ascii "lead"))]) := by
  have succeed :
      GettersSucceed referenceSpa.toPodReader
        (referenceSpa.spaPodStructForeach referenceFields) := by
    refine ⟨rfl, fun _ => rfl, rfl, ?_, rfl, fun _ => rfl, rfl,
      fun _ => rfl, rfl⟩
    intro known
    cases known
  have pairs :
      pairsByPosition referenceSpa.toPodReader
          (referenceSpa.spaPodStructForeach referenceFields) =
        [(ascii "gain", .int 1), (ascii "mode", .nullopt),
          (ascii "name", .string (ascii "lead"))] := by
    decide
  have parses :=
    ((parse_pairsByPosition referenceSpa.toPodReader referenceFields).2
      succeed).1
  rw [pairs] at parses
  exact parses

/--
`parse` uses delivered values only: an entry whose key or value getter fails
contributes no pair, and the others are paired as if it were absent.
-/
def UsesDeliveredOnly
    (reader : PodReader Pod)
    (pod : Pod) : Prop :=
  parse reader pod =
    .ok (.ok (pairsByPosition reader (reader.spaPodStructForeach pod)))

/-- `parse` uses delivered values only if and only if all of them are. -/
theorem usesDeliveredOnly_iff
    (reader : PodReader Pod)
    (pod : Pod) :
    UsesDeliveredOnly reader pod ↔
      GettersSucceed reader (reader.spaPodStructForeach pod) := by
  rw [UsesDeliveredOnly, parse_eq_ok_iff,
    ← decodedPairs_eq_pairsByPosition]
  constructor
  · intro parses
    exact parses.1
  · intro succeed
    exact ⟨succeed, rfl⟩

/-- A key that is no string is read all the same. -/
theorem not_usesDeliveredOnly_int_key :
    ¬ UsesDeliveredOnly referenceSpa.toPodReader
      (.struct [.value (.int 1), .value (.int 2)]) := by
  have reads :
      parse referenceSpa.toPodReader
          (.struct [.value (.int 1), .value (.int 2)]) =
        .error .uninitialisedRead := by
    decide
  intro delivered
  cases reads.symm.trans delivered

end Results

end ParametersProperty

end Pwcpp
