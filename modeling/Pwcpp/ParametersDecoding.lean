import Pwcpp.ParametersProperty

namespace Pwcpp

/-!
# What `parse` reads

`decodedPairs` says which pairs a list of struct children stands for: each key
with the value right after it, leaving out values of a type that the decoder
does not know.  When all getter calls succeed, `parse` computes exactly these
pairs; the two vectors it collects stay in step after every second child.
-/

namespace ParametersProperty

section Pairs

variable {Pod : Type}

/-- The pod types for which `parse` has a case. -/
def KnownType : SpaType → Bool
  | .int | .long | .float | .double | .string => true
  | _ => false

/-- What a C string stands for: `null` for no value, any other for itself. -/
def decodedString (chars : List UInt8) : PropertyValueType :=
  if cStr chars = ascii "null" then
    .nullopt
  else
    .string (cStr chars)

/-- The value a child is read as, if its type is known and its getter succeeds. -/
def decodedValue (reader : PodReader Pod) (pod : Pod) :
    Option PropertyValueType :=
  match reader.spaPodType pod with
  | .int => (reader.spaPodGetInt pod).map .int
  | .long => (reader.spaPodGetLong pod).map .long
  | .float => (reader.spaPodGetFloat pod).map .float
  | .double => (reader.spaPodGetDouble pod).map .double
  | .string => (reader.spaPodGetString pod).map decodedString
  | _ => none

/-- `parse` reads strings as what they stand for. -/
theorem stringValue_eq_decodedString (chars : List UInt8) :
    stringValue chars = decodedString chars :=
  rfl

/-- The pairs that the children of a struct stand for. -/
def decodedPairs (reader : PodReader Pod) : List Pod → Parameters
  | key :: value :: rest =>
      match reader.spaPodGetString key, decodedValue reader value with
      | some name, some decoded =>
          (cStr name, decoded) :: decodedPairs reader rest
      | _, _ =>
          decodedPairs reader rest
  | _ =>
      []

/-- Every getter call that `parse` makes on these children succeeds. -/
def GettersSucceed (reader : PodReader Pod) : List Pod → Prop
  | [] =>
      True
  | [key] =>
      (reader.spaPodGetString key).isSome = true
  | key :: value :: rest =>
      (reader.spaPodGetString key).isSome = true ∧
        (KnownType (reader.spaPodType value) = true →
          (decodedValue reader value).isSome = true) ∧
        GettersSucceed reader rest

/-- Reading a child at an even position. -/
theorem parseField_key
    {reader : PodReader Pod}
    {state : ParseState}
    {key : Pod}
    {name : List UInt8}
    (even : state.count % 2 = 0)
    (delivers : reader.spaPodGetString key = some name) :
    parseField reader state key = .ok (state.pushKey (cStr name)) := by
  rw [parseField, if_pos even, delivers]
  rfl

/-- The loop goes on to an odd position after a key. -/
theorem foldlM_parseField_key
    {reader : PodReader Pod}
    {state : ParseState}
    {key : Pod}
    {name : List UInt8}
    (even : state.count % 2 = 0)
    (delivers : reader.spaPodGetString key = some name)
    (rest : List Pod) :
    (key :: rest).foldlM (parseField reader) state =
        rest.foldlM (parseField reader) (state.pushKey (cStr name)) ∧
      ¬ (state.pushKey (cStr name)).count % 2 = 0 := by
  constructor
  · rw [List.foldlM_cons, parseField_key even delivers]
    rfl
  · simp only [ParseState.pushKey]
    omega

/-- A loop that completes was given a string for its first key. -/
theorem exists_key_of_foldlM
    {reader : PodReader Pod}
    {state final : ParseState}
    {key : Pod}
    {rest : List Pod}
    (even : state.count % 2 = 0)
    (completes :
      (key :: rest).foldlM (parseField reader) state = .ok final) :
    ∃ name, reader.spaPodGetString key = some name := by
  cases keyGets : reader.spaPodGetString key with
  | none =>
      rw [List.foldlM_cons, parseField, if_pos even, keyGets] at completes
      cases completes
  | some name =>
      exact ⟨name, rfl⟩

/-- Reading a child at an odd position whose value is delivered. -/
theorem parseField_value
    {reader : PodReader Pod}
    {state : ParseState}
    {pod : Pod}
    {decoded : PropertyValueType}
    (odd : ¬ state.count % 2 = 0)
    (delivers : decodedValue reader pod = some decoded) :
    parseField reader state pod = .ok (state.pushValue decoded) := by
  rw [parseField, if_neg odd]
  unfold decodedValue at delivers
  cases type : reader.spaPodType pod <;>
    simp only [type, stringValue_eq_decodedString,
      Option.map_eq_some_iff, reduceCtorEq] at delivers ⊢ <;>
    obtain ⟨content, gets, rfl⟩ := delivers <;>
    rw [gets] <;> rfl

/-- Reading a child at an odd position whose type is unknown. -/
theorem parseField_unknown
    {reader : PodReader Pod}
    {state : ParseState}
    {pod : Pod}
    (odd : ¬ state.count % 2 = 0)
    (unknown : KnownType (reader.spaPodType pod) = false) :
    parseField reader state pod = state.popKey := by
  rw [parseField, if_neg odd]
  cases type : reader.spaPodType pod <;>
    simp only [type, KnownType, Bool.true_eq_false] at unknown ⊢

/-- Reading a key and then a value, with the vectors in step before. -/
theorem foldlM_parseField_pair
    {reader : PodReader Pod}
    {state : ParseState}
    {key value : Pod}
    {rest : List Pod}
    {name : List UInt8}
    (even : state.count % 2 = 0)
    (delivers : reader.spaPodGetString key = some name)
    (succeeds :
      KnownType (reader.spaPodType value) = true →
        (decodedValue reader value).isSome = true) :
    (key :: value :: rest).foldlM (parseField reader) state =
      rest.foldlM (parseField reader) {
        count := state.count + 2
        keys := state.keys ++
          ((decodedValue reader value).map fun _ => cStr name).toList
        values := state.values ++ (decodedValue reader value).toList
      } := by
  obtain ⟨afterKey, odd⟩ :=
    foldlM_parseField_key even delivers (value :: rest)
  rw [afterKey, List.foldlM_cons]
  cases decodes : decodedValue reader value with
  | some decoded =>
      rw [parseField_value odd decodes]
      rfl
  | none =>
      have unknown : KnownType (reader.spaPodType value) = false := by
        by_contra known
        rw [Bool.not_eq_false] at known
        have := succeeds known
        rw [decodes] at this
        cases this
      rw [parseField_unknown odd unknown]
      simp [ParseState.popKey, ParseState.pushKey, Bind.bind, Except.bind]

/-- The loop collects the decoded pairs, from any state in step. -/
theorem foldlM_parseField
    (reader : PodReader Pod)
    (children : List Pod)
    (state : ParseState)
    (even : state.count % 2 = 0)
    (inStep : state.keys.length = state.values.length)
    (succeed : GettersSucceed reader children) :
    ∃ final,
      children.foldlM (parseField reader) state = .ok final ∧
        final.keys.zip final.values =
          state.keys.zip state.values ++ decodedPairs reader children := by
  induction children using decodedPairs.induct reader generalizing state with
  | case1 key value rest name decoded valueGets keyGets inductionHypothesis =>
      obtain ⟨-, valueSucceeds, restSucceeds⟩ := succeed
      rw [foldlM_parseField_pair even keyGets valueSucceeds, valueGets]
      obtain ⟨final, loop, zipped⟩ :=
        inductionHypothesis
          { count := state.count + 2
            keys := state.keys ++ [cStr name]
            values := state.values ++ [decoded] }
          (by simp only; omega) (by simp [inStep]) restSucceeds
      refine ⟨final, loop, ?_⟩
      rw [zipped, List.zip_append inStep, decodedPairs, keyGets, valueGets]
      simp
  | case2 key value rest notBoth inductionHypothesis =>
      obtain ⟨keySucceeds, valueSucceeds, restSucceeds⟩ := succeed
      obtain ⟨name, keyGets⟩ := Option.isSome_iff_exists.mp keySucceeds
      have valueNone : decodedValue reader value = none := by
        cases valueGets : decodedValue reader value with
        | none =>
            rfl
        | some decoded =>
            exact (notBoth name decoded keyGets valueGets).elim
      rw [foldlM_parseField_pair even keyGets valueSucceeds, valueNone]
      obtain ⟨final, loop, zipped⟩ :=
        inductionHypothesis
          { count := state.count + 2
            keys := state.keys ++ []
            values := state.values ++ [] }
          (by simp only; omega) (by simpa using inStep) restSucceeds
      refine ⟨final, loop, ?_⟩
      rw [zipped, decodedPairs, keyGets, valueNone]
      simp
  | case3 children notPair =>
      cases children with
      | nil =>
          exact ⟨state, rfl, by simp [decodedPairs]⟩
      | cons key rest =>
          cases rest with
          | nil =>
              obtain ⟨name, keyGets⟩ :=
                Option.isSome_iff_exists.mp succeed
              refine ⟨state.pushKey (cStr name), ?_, ?_⟩
              · rw [List.foldlM_cons, parseField_key even keyGets]
                rfl
              · have trailing :
                    (state.keys ++ [cStr name]).zip (state.values ++ []) =
                      state.keys.zip state.values ++ [cStr name].zip [] :=
                  List.zip_append inStep
                simpa [ParseState.pushKey, decodedPairs] using trailing
          | cons value rest =>
              exact (notPair key value rest rfl).elim

/-- A getter that fails on a child of its type faults. -/
theorem parseField_fault
    {reader : PodReader Pod}
    {state : ParseState}
    {pod : Pod}
    (odd : ¬ state.count % 2 = 0)
    (known : KnownType (reader.spaPodType pod) = true)
    (fails : decodedValue reader pod = none) :
    parseField reader state pod = .error .uninitialisedRead := by
  rw [parseField, if_neg odd]
  unfold decodedValue at fails
  cases type : reader.spaPodType pod <;>
    simp only [type, KnownType, Bool.false_eq_true,
      Option.map_eq_none_iff] at known fails ⊢ <;>
    rw [fails] <;> rfl

/-- A loop that completes was given every value it asked for. -/
theorem gettersSucceed_of_foldlM
    {reader : PodReader Pod}
    {children : List Pod}
    {state final : ParseState}
    (even : state.count % 2 = 0)
    (completes :
      children.foldlM (parseField reader) state = .ok final) :
    GettersSucceed reader children := by
  induction children using GettersSucceed.induct generalizing state with
  | case1 =>
      trivial
  | case2 key =>
      obtain ⟨name, keyGets⟩ := exists_key_of_foldlM even completes
      simp [GettersSucceed, keyGets]
  | case3 key value rest inductionHypothesis =>
      obtain ⟨name, keyGets⟩ := exists_key_of_foldlM even completes
      have valueSucceeds :
          KnownType (reader.spaPodType value) = true →
            (decodedValue reader value).isSome = true := by
        intro known
        by_contra fails
        rw [Bool.not_eq_true, Option.isSome_eq_false_iff,
          Option.isNone_iff_eq_none] at fails
        obtain ⟨afterKey, odd⟩ :=
          foldlM_parseField_key even keyGets (value :: rest)
        rw [afterKey, List.foldlM_cons, parseField_fault odd known fails]
          at completes
        cases completes
      rw [foldlM_parseField_pair even keyGets valueSucceeds] at completes
      refine ⟨by simp [keyGets], valueSucceeds, ?_⟩
      exact inductionHypothesis (by simp only; omega) completes

/-- `parse` returns the decoded pairs when all its getter calls succeed. -/
theorem parse_eq_decodedPairs
    {reader : PodReader Pod}
    {pod : Pod}
    (succeed :
      GettersSucceed reader (reader.spaPodStructForeach pod)) :
    parse reader pod =
      .ok (.ok (decodedPairs reader (reader.spaPodStructForeach pod))) := by
  obtain ⟨final, loop, zipped⟩ :=
    foldlM_parseField reader (reader.spaPodStructForeach pod) .init
      rfl rfl succeed
  rw [parse, loop]
  simpa [Bind.bind, Except.bind, Pure.pure, Except.pure, ParseState.init]
    using zipped

/-- `parse` completes exactly when all its getter calls succeed. -/
theorem parse_eq_ok_iff
    {reader : PodReader Pod}
    {pod : Pod}
    {result : Expected Parameters} :
    parse reader pod = .ok result ↔
      GettersSucceed reader (reader.spaPodStructForeach pod) ∧
        result =
          .ok (decodedPairs reader (reader.spaPodStructForeach pod)) := by
  constructor
  · intro parses
    have succeed :
        GettersSucceed reader (reader.spaPodStructForeach pod) := by
      cases loop :
          (reader.spaPodStructForeach pod).foldlM
            (parseField reader) .init with
      | error fault =>
          rw [parse, loop] at parses
          cases parses
      | ok final =>
          exact gettersSucceed_of_foldlM rfl loop
    rw [parse_eq_decodedPairs succeed, Except.ok.injEq] at parses
    exact ⟨succeed, parses.symm⟩
  · rintro ⟨succeed, rfl⟩
    exact parse_eq_decodedPairs succeed

end Pairs

section Fields

variable {Pod : Type}

/-- The contents of the children that a list of named contents stands for. -/
def fieldValues (fields : List (List UInt8 × SpaValue)) : List SpaValue :=
  fields.flatMap fun field => [.string field.1, field.2]

/-- The value that a child with this content is read as. -/
def decodedContent : SpaValue → Option PropertyValueType
  | .int value => some (.int value)
  | .long value => some (.long value)
  | .float bits => some (.float bits)
  | .double bits => some (.double bits)
  | .string chars => some (decodedString chars)
  | .bool _ => none
  | .none => none

/-- The pair that a named content is read as. -/
def decodedField (field : List UInt8 × SpaValue) : Option Parameter :=
  (decodedContent field.2).map fun decoded => (cStr field.1, decoded)

theorem decodedString_append_nul (chars : List UInt8) :
    decodedString (chars ++ [0]) = decodedString chars := by
  rw [decodedString, decodedString, cStr_append_nul]

@[simp] theorem decodedString_nullLiteral :
    decodedString nullLiteral = .nullopt :=
  rfl

/-- A string without NUL that is not `null` stands for itself. -/
theorem decodedString_of_ne
    {chars : List UInt8}
    (nulFree : NulFree chars)
    (notNull : chars ≠ nullLiteral) :
    decodedString chars = .string chars := by
  rw [decodedString, cStr_eq_self nulFree]
  exact if_neg notNull

/-- A child that holds a content is read as that content. -/
theorem decodedValue_of_holds
    {reader : PodReader Pod}
    {pod : Pod}
    {content : SpaValue}
    (holds : reader.Holds pod content) :
    decodedValue reader pod = decodedContent content := by
  have type := holds.type
  have delivers := holds.delivers
  unfold decodedValue
  cases content <;>
    simp_all [SpaValue.type, PodReader.Delivers, decodedContent,
      decodedString_append_nul]

theorem decodedContent_isSome
    {content : SpaValue}
    (known : KnownType content.type = true) :
    (decodedContent content).isSome = true := by
  cases content <;> first | rfl | cases known

/-- Children that hold the contents of fields are read as these fields. -/
theorem decodedPairs_of_holds
    {reader : PodReader Pod}
    {children : List Pod}
    {fields : List (List UInt8 × SpaValue)}
    (holds : List.Forall₂ reader.Holds children (fieldValues fields)) :
    GettersSucceed reader children ∧
      decodedPairs reader children = fields.filterMap decodedField := by
  induction fields generalizing children with
  | nil =>
      cases holds
      exact ⟨trivial, rfl⟩
  | cons field rest inductionHypothesis =>
      cases holds with
      | cons keyHolds valuesHold =>
          cases valuesHold with
          | @cons value _ children _ valueHolds restHold =>
              obtain ⟨restSucceed, restPairs⟩ :=
                inductionHypothesis restHold
              have keyGets := keyHolds.delivers
              have valueGets := decodedValue_of_holds valueHolds
              refine ⟨⟨?_, ?_, restSucceed⟩, ?_⟩
              · rw [keyGets]
                rfl
              · intro known
                rw [valueHolds.type] at known
                rw [valueGets]
                exact decodedContent_isSome known
              · rw [decodedPairs, keyGets, valueGets,
                  List.filterMap_cons, decodedField]
                cases decodedContent field.2 <;>
                  simp [restPairs, cStr_append_nul]

/-- `parse` of a struct whose children hold the contents of fields. -/
theorem parse_of_holds
    {reader : PodReader Pod}
    {pod : Pod}
    {fields : List (List UInt8 × SpaValue)}
    (holds :
      List.Forall₂ reader.Holds
        (reader.spaPodStructForeach pod) (fieldValues fields)) :
    parse reader pod = .ok (.ok (fields.filterMap decodedField)) := by
  obtain ⟨succeed, pairs⟩ := decodedPairs_of_holds holds
  rw [parse_eq_decodedPairs succeed, pairs]

/-- `update_from_pod` merges the pairs that `parse` read. -/
theorem updateFromPod_of_parse
    {reader : PodReader Pod}
    {parameters updates : Parameters}
    {pod : Pod}
    (parses : parse reader pod = .ok (.ok updates)) :
    updateFromPod reader parameters pod =
      .ok (FirstMatch.merge parameters updates, .ok ()) := by
  rw [updateFromPod, parses]
  rfl

end Fields

end ParametersProperty

end Pwcpp
