import Pwcpp.ParametersDecoding
import Pwcpp.ParametersEncoding
import Pwcpp.SpaReference

namespace Pwcpp

/-!
# Round trips of the parameter codec

The encoder writes seven kinds of values, but the decoder reads five of them,
and it reads one string as the absent value, for which the encoder has a form
of its own.  Both round trips are therefore exact on lists without `bool`,
`nullopt` and the string `null`, and on no other.
-/

namespace PropertyValueType

/-- The decoder reads the written value back. -/
def Decodable : PropertyValueType → Prop
  | .int _ | .long _ | .float _ | .double _ => True
  | .string value => value ≠ ParametersProperty.nullLiteral
  | .bool _ | .nullopt => False

instance : DecidablePred Decodable
  | .int _ | .long _ | .float _ | .double _ => .isTrue trivial
  | .string _ => inferInstanceAs (Decidable (_ ≠ _))
  | .bool _ | .nullopt => .isFalse id

/-- No NUL character in the value. -/
def NulFree : PropertyValueType → Prop
  | .string value => Pwcpp.NulFree value
  | _ => True

instance : DecidablePred PropertyValueType.NulFree
  | .string value => inferInstanceAs (Decidable (Pwcpp.NulFree value))
  | .int _ | .long _ | .float _ | .double _ | .bool _ | .nullopt =>
      .isTrue trivial

end PropertyValueType

/-- No NUL character in the name and the value. -/
def Parameter.NulFree (parameter : Parameter) : Prop :=
  Pwcpp.NulFree parameter.1 ∧ parameter.2.NulFree

instance : DecidablePred Parameter.NulFree :=
  fun _ => inferInstanceAs (Decidable (_ ∧ _))

namespace Spa

variable {Pod Builder : Type}

/--
Between the two builder states, the innermost open object has got one more
property, `SPA_PROP_params`, whose value is `pod`.
-/
def AddsParams
    (spa : Spa Pod Builder)
    (view : BuilderView Pod Builder)
    (before after : Builder)
    (pod : Pod) : Prop :=
  ∃ object outer object' outer',
    (view before).frames = object :: outer ∧
      (view after).frames = object' :: outer' ∧
      object'.items =
        object.items ++ [.prop spa.spaPropParams 0, .pod pod]

/-- The value of the added property is determined by the builder states. -/
theorem AddsParams.unique
    {spa : Spa Pod Builder}
    {view : BuilderView Pod Builder}
    {before after : Builder}
    {first second : Pod}
    (addsFirst : spa.AddsParams view before after first)
    (addsSecond : spa.AddsParams view before after second) :
    first = second := by
  obtain ⟨object, outer, object', outer', shape, shape', items⟩ := addsFirst
  obtain ⟨again, rest, again', rest', same, same', items'⟩ := addsSecond
  rw [shape, List.cons.injEq] at same
  rw [shape', List.cons.injEq] at same'
  rw [← same.1, ← same'.1, items] at items'
  simpa using items'

end Spa

namespace ParametersProperty

section Written

variable {Pod Builder : Type}
  {spa : Spa Pod Builder}
  {view : BuilderView Pod Builder}

/-- With enough room, a nonempty list is added as one struct property. -/
theorem addToPodObject_addsParams
    (contract : BuilderContract spa view)
    (builder : Builder)
    {parameters : Parameters}
    (nonempty : parameters ≠ [])
    (isOpen : (view builder).frames ≠ [])
    (room :
      (view builder).offset + addedSize parameters ≤
        (view builder).capacity) :
    ∃ pod,
      spa.AddsParams view builder
          (addToPodObject spa builder parameters).1 pod ∧
        IsParamsStruct spa.toPodReader parameters pod := by
  have capacity := contract.capacity_lt builder
  obtain ⟨items, appends, isItems⟩ :=
    addToPodObject_appends contract builder parameters
      isOpen (by omega)
  have added := isItems room
  rw [IsParamsItems, if_neg (by simpa using nonempty)] at added
  obtain ⟨pod, rfl, isStruct⟩ := added
  obtain ⟨object, outer, recorded, before, after, whenFits⟩ :=
    appends.frames
  have fits := whenFits (by rw [appends.offset, appends.capacity]; exact room)
  exact ⟨pod, ⟨object, outer, _, _, before, after, fits⟩, isStruct⟩

/-- An empty list adds no property. -/
theorem not_addsParams_nil
    {builder : Builder}
    {pod : Pod} :
    ¬ spa.AddsParams view builder
        (addToPodObject spa builder []).1 pod := by
  intro adds
  rcases adds with ⟨object, outer, object', outer', before, after, items⟩
  have same : object' :: outer' = object :: outer :=
    after.symm.trans before
  rw [List.cons.injEq] at same
  rw [same.1] at items
  simp at items

end Written

section Reading

variable {Pod : Type}

/-- The pair that a written parameter is read back as, if any. -/
def readBack (parameter : Parameter) : Option Parameter :=
  decodedField (cStr parameter.1, parameter.2.written)

theorem writtenValues_eq_fieldValues (parameters : Parameters) :
    writtenValues parameters =
      fieldValues
        (parameters.map fun parameter =>
          (cStr parameter.1, parameter.2.written)) := by
  rw [writtenValues, fieldValues, List.flatMap_map]

/-- `parse` of the struct of a parameter list reads back every parameter. -/
theorem parse_of_isParamsStruct
    {reader : PodReader Pod}
    {parameters : Parameters}
    {pod : Pod}
    (isStruct : IsParamsStruct reader parameters pod) :
    parse reader pod = .ok (.ok (parameters.filterMap readBack)) := by
  have children := isStruct.children
  rw [writtenValues_eq_fieldValues] at children
  rw [parse_of_holds children, List.filterMap_map]
  rfl

/-- A parameter is read back as itself iff its value is decodable. -/
theorem readBack_eq_some_iff
    {parameter : Parameter}
    (nulFree : parameter.NulFree) :
    readBack parameter = some parameter ↔ parameter.2.Decodable := by
  obtain ⟨name, value⟩ := parameter
  obtain ⟨nameNulFree, valueNulFree⟩ := nulFree
  simp only at nameNulFree valueNulFree
  cases value with
  | string string =>
      have whole : cStr string = string := cStr_eq_self valueNulFree
      by_cases isNull : string = nullLiteral
      · subst isNull
        simp [readBack, decodedField, decodedContent,
          PropertyValueType.written, PropertyValueType.Decodable,
          whole]
      · have decodes := decodedString_of_ne valueNulFree isNull
        simp [readBack, decodedField, decodedContent, decodes,
          PropertyValueType.written, PropertyValueType.Decodable,
          cStr_eq_self nameNulFree, whole, isNull]
  | _ =>
      simp [readBack, decodedField, decodedContent,
        PropertyValueType.written, PropertyValueType.Decodable,
        cStr_eq_self nameNulFree]

/-- Extraction gives back a list iff it gives back each of its elements. -/
theorem filterMap_eq_self_iff
    {extract : α → Option α}
    {items : List α} :
    items.filterMap extract = items ↔
      ∀ item ∈ items, extract item = some item := by
  induction items with
  | nil =>
      simp
  | cons item rest inductionHypothesis =>
      cases extracts : extract item with
      | none =>
          have shorter := List.length_filterMap_le extract rest
          constructor
          · intro same
            rw [List.filterMap_cons_none extracts] at same
            rw [same, List.length_cons] at shorter
            omega
          · intro all
            have := all item List.mem_cons_self
            rw [extracts] at this
            cases this
      | some kept =>
          rw [List.filterMap_cons_some extracts, List.cons.injEq,
            inductionHypothesis, List.forall_mem_cons, extracts,
            Option.some.injEq]

/-- A list without NUL is read back iff all its values are decodable. -/
theorem filterMap_readBack_iff
    {parameters : Parameters}
    (nulFree : ∀ parameter ∈ parameters, parameter.NulFree) :
    parameters.filterMap readBack = parameters ↔
      ∀ parameter ∈ parameters, parameter.2.Decodable := by
  rw [filterMap_eq_self_iff]
  exact forall₂_congr fun parameter member =>
    readBack_eq_some_iff (nulFree parameter member)

end Reading

section EncodeThenDecode

variable {Pod Builder : Type}

/--
Writing a nonempty list without NUL characters and parsing the struct that was
written gives the list back exactly when every value is decodable.
-/
theorem parse_addToPodObject_iff
    {spa : Spa Pod Builder}
    {view : BuilderView Pod Builder}
    (contract : BuilderContract spa view)
    {builder : Builder}
    {parameters : Parameters}
    (nonempty : parameters ≠ [])
    (nulFree : ∀ parameter ∈ parameters, parameter.NulFree)
    (isOpen : (view builder).frames ≠ [])
    (room :
      (view builder).offset + addedSize parameters ≤
        (view builder).capacity) :
    (∃ pod,
        spa.AddsParams view builder
            (addToPodObject spa builder parameters).1 pod ∧
          parse spa.toPodReader pod = .ok (.ok parameters)) ↔
      ∀ parameter ∈ parameters, parameter.2.Decodable := by
  obtain ⟨pod, adds, isStruct⟩ :=
    addToPodObject_addsParams contract builder nonempty isOpen room
  have parses := parse_of_isParamsStruct isStruct
  rw [← filterMap_readBack_iff nulFree]
  constructor
  · intro readsBack
    rcases readsBack with ⟨other, addsOther, parsesOther⟩
    rw [← adds.unique addsOther, parses] at parsesOther
    simpa using parsesOther
  · intro same
    exact ⟨pod, adds, by rw [parses, same]⟩

/-- Five decodable kinds in one list, one name used twice. -/
theorem parse_addToPodObject_mixed :
    ∃ pod,
      referenceSpa.AddsParams ReferenceBuilder.state
          (referenceProps 1024)
          (addToPodObject referenceSpa (referenceProps 1024)
            [(ascii "gain", .float 0x3f800000),
              (ascii "gain", .int (-1)),
              (ascii "port", .long 45),
              (ascii "Hello", .string (ascii "World")),
              (ascii "", .double 0)]).1 pod ∧
        parse referenceSpa.toPodReader pod =
          .ok (.ok
            [(ascii "gain", .float 0x3f800000),
              (ascii "gain", .int (-1)),
              (ascii "port", .long 45),
              (ascii "Hello", .string (ascii "World")),
              (ascii "", .double 0)]) :=
  (parse_addToPodObject_iff referenceSpa_contract
    (by decide)
    (by decide)
    (by decide)
    (by decide)).mpr (by decide)

/-- A switch parameter is written, but the struct is read as an empty list. -/
theorem parse_addToPodObject_bool :
    ¬ ∃ pod,
      referenceSpa.AddsParams ReferenceBuilder.state
          (referenceProps 1024)
          (addToPodObject referenceSpa (referenceProps 1024)
            [(ascii "mute", .bool true)]).1 pod ∧
        parse referenceSpa.toPodReader pod =
          .ok (.ok [(ascii "mute", .bool true)]) := by
  intro readsBack
  rcases readsBack with ⟨other, addsOther, parsesOther⟩
  obtain ⟨pod, adds, isStruct⟩ :=
    addToPodObject_addsParams referenceSpa_contract
      (referenceProps 1024)
      (List.cons_ne_nil (ascii "mute", .bool true) [])
      (by decide) (by decide)
  rw [← adds.unique addsOther, parse_of_isParamsStruct isStruct]
    at parsesOther
  simp only [Except.ok.injEq] at parsesOther
  exact absurd parsesOther (by decide)

end EncodeThenDecode

section DecodeThenEncode

/-- A content that a client may send as a value: one of the decoded kinds. -/
def IsClientValue : SpaValue → Prop
  | .int _ | .long _ | .float _ | .double _ => True
  | .string chars => NulFree chars
  | .bool _ | .none => False

/-- What a client value is decoded to is written as that value unless null. -/
theorem decodedContent_written
    {content : SpaValue}
    (isValue : IsClientValue content) :
    ∃ decoded,
      decodedContent content = some decoded ∧
        (decoded.written = content ↔ content ≠ .string nullLiteral) := by
  cases content with
  | string chars =>
      have whole : cStr chars = chars := cStr_eq_self isValue
      by_cases isNull : chars = nullLiteral
      · subst isNull
        exact ⟨.nullopt,
          congrArg some decodedString_nullLiteral,
          by simp [PropertyValueType.written]⟩
      · exact ⟨.string chars,
          congrArg some (decodedString_of_ne isValue isNull),
          by simp [PropertyValueType.written, whole, isNull]⟩
  | int value =>
      exact ⟨.int value, rfl, by simp [PropertyValueType.written]⟩
  | long value =>
      exact ⟨.long value, rfl, by simp [PropertyValueType.written]⟩
  | float bits =>
      exact ⟨.float bits, rfl, by simp [PropertyValueType.written]⟩
  | double bits =>
      exact ⟨.double bits, rfl, by simp [PropertyValueType.written]⟩
  | bool value =>
      exact isValue.elim
  | none =>
      exact isValue.elim

/-- Client fields are all decoded, and rewritten alike unless one is null. -/
theorem filterMap_decodedField
    {fields : List (List UInt8 × SpaValue)}
    (areFields :
      ∀ field ∈ fields, NulFree field.1 ∧ IsClientValue field.2) :
    FirstMatch.keys (fields.filterMap decodedField) =
        fields.map Prod.fst ∧
      (writtenValues (fields.filterMap decodedField) =
          fieldValues fields ↔
        ∀ field ∈ fields, field.2 ≠ .string nullLiteral) := by
  induction fields with
  | nil =>
      simp [fieldValues]
  | cons field rest inductionHypothesis =>
      rw [List.forall_mem_cons] at areFields
      obtain ⟨⟨keyNulFree, isValue⟩, restFields⟩ := areFields
      obtain ⟨restKeys, restWritten⟩ := inductionHypothesis restFields
      obtain ⟨decoded, decodes, written⟩ := decodedContent_written isValue
      have headDecodes :
          decodedField field = some (field.1, decoded) := by
        rw [decodedField, decodes, cStr_eq_self keyNulFree]
        rfl
      rw [List.filterMap_cons_some headDecodes]
      constructor
      · rw [FirstMatch.keys_cons, restKeys, List.map_cons]
      · have restFieldValues :
            fieldValues (field :: rest) =
              .string field.1 :: field.2 :: fieldValues rest :=
          rfl
        rw [writtenValues_cons, restFieldValues, List.forall_mem_cons,
          List.cons.injEq, List.cons.injEq, written, restWritten,
          cStr_eq_self keyNulFree]
        simp

/-- Merging client fields with distinct keys into an empty list decodes them. -/
theorem updateFromPod_nil
    {reader : PodReader Pod}
    {source : Pod}
    {fields : List (List UInt8 × SpaValue)}
    (areFields :
      ∀ field ∈ fields, NulFree field.1 ∧ IsClientValue field.2)
    (distinct : (fields.map Prod.fst).Nodup)
    (children :
      List.Forall₂ reader.Holds
        (reader.spaPodStructForeach source) (fieldValues fields)) :
    updateFromPod reader [] source =
      .ok (fields.filterMap decodedField, .ok ()) := by
  rw [updateFromPod_of_parse (parse_of_holds children),
    FirstMatch.merge_eq_append]
  · rfl
  · rw [List.nil_append, (filterMap_decodedField areFields).1]
    exact distinct

/--
A client that writes a struct with distinct keys reads the same children back
exactly when the struct is not empty and no value is the string `null`.
-/
theorem addToPodObject_updateFromPod_iff
    {Pod Builder : Type}
    {spa : Spa Pod Builder}
    {view : BuilderView Pod Builder}
    (contract : BuilderContract spa view)
    {source : Pod}
    {fields : List (List UInt8 × SpaValue)}
    (areFields :
      ∀ field ∈ fields, NulFree field.1 ∧ IsClientValue field.2)
    (distinct : (fields.map Prod.fst).Nodup)
    (children :
      List.Forall₂ spa.Holds
        (spa.spaPodStructForeach source) (fieldValues fields))
    {builder : Builder}
    (isOpen : (view builder).frames ≠ [])
    (room :
      ∀ parameters,
        updateFromPod spa.toPodReader [] source =
            .ok (parameters, .ok ()) →
          (view builder).offset + addedSize parameters ≤
            (view builder).capacity) :
    (∃ parameters pod,
        updateFromPod spa.toPodReader [] source =
            .ok (parameters, .ok ()) ∧
          spa.AddsParams view builder
            (addToPodObject spa builder parameters).1 pod ∧
          spa.spaPodType pod = .struct ∧
          List.Forall₂ spa.SameContent
            (spa.spaPodStructForeach source)
            (spa.spaPodStructForeach pod)) ↔
      fields ≠ [] ∧
        ∀ field ∈ fields, field.2 ≠ .string nullLiteral := by
  have merged := updateFromPod_nil areFields distinct children
  obtain ⟨keys, written⟩ := filterMap_decodedField areFields
  have empty_iff :
      fields.filterMap decodedField = [] ↔ fields = [] := by
    have keysEmpty :
        FirstMatch.keys (fields.filterMap decodedField) = [] ↔
          fields = [] := by
      rw [keys, List.map_eq_nil_iff]
    exact List.map_eq_nil_iff.symm.trans keysEmpty
  constructor
  · intro readsBack
    rcases readsBack with ⟨parameters, pod, merges, adds, -, same⟩
    have parametersShape :
        parameters = fields.filterMap decodedField := by
      rw [merged] at merges
      simpa using merges.symm
    subst parameters
    have nonempty : fields.filterMap decodedField ≠ [] := by
      intro isEmpty
      rw [isEmpty] at adds
      exact not_addsParams_nil adds
    obtain ⟨pod', adds', isStruct⟩ :=
      addToPodObject_addsParams contract builder nonempty isOpen
        (room _ merged)
    rw [adds.unique adds', PodReader.sameContents_iff
      children isStruct.children] at same
    exact ⟨empty_iff.not.mp nonempty, written.mp same.symm⟩
  · intro condition
    rcases condition with ⟨nonempty, noNull⟩
    obtain ⟨pod, adds, isStruct⟩ :=
      addToPodObject_addsParams contract builder
        (empty_iff.not.mpr nonempty) isOpen (room _ merged)
    refine ⟨_, pod, merged, adds, isStruct.type, ?_⟩
    rw [PodReader.sameContents_iff children isStruct.children]
    exact (written.mpr noNull).symm

/-- A struct of the reference library with the given fields. -/
def referenceStruct (fields : List (List UInt8 × SpaValue)) :
    ReferencePod :=
  .struct ((fieldValues fields).map .value)

theorem referenceStruct_holds
    (fields : List (List UInt8 × SpaValue)) :
    List.Forall₂ referenceSpa.Holds
      (referenceSpa.spaPodStructForeach (referenceStruct fields))
      (fieldValues fields) := by
  have isChildren :
      referenceSpa.spaPodStructForeach (referenceStruct fields) =
        (fieldValues fields).map .value :=
    ReferencePod.children_struct _
  rw [isChildren, List.forall₂_map_left_iff, List.forall₂_same]
  exact fun content _ => referenceSpa_holds content

/-- A client that sends an integer and a string reads both back. -/
theorem addToPodObject_updateFromPod_mixed :
    ∃ parameters pod,
      updateFromPod referenceSpa.toPodReader []
          (referenceStruct
            [(ascii "port", .int 45),
              (ascii "Hello", .string (ascii "World"))]) =
          .ok (parameters, .ok ()) ∧
        referenceSpa.AddsParams ReferenceBuilder.state
          (referenceProps 1024)
          (addToPodObject referenceSpa
            (referenceProps 1024) parameters).1 pod ∧
        referenceSpa.spaPodType pod = .struct ∧
        List.Forall₂ referenceSpa.SameContent
          (referenceSpa.spaPodStructForeach
            (referenceStruct
              [(ascii "port", .int 45),
                (ascii "Hello", .string (ascii "World"))]))
          (referenceSpa.spaPodStructForeach pod) :=
  (addToPodObject_updateFromPod_iff referenceSpa_contract
    (by simp [IsClientValue]; decide)
    (by decide)
    (referenceStruct_holds _)
    (by decide)
    (by
      intro parameters merges
      have merged :
          updateFromPod referenceSpa.toPodReader []
              (referenceStruct
                [(ascii "port", .int 45),
                  (ascii "Hello", .string (ascii "World"))]) =
            .ok ([(ascii "port", .int 45),
              (ascii "Hello", .string (ascii "World"))], .ok ()) := by
        decide
      rw [merged] at merges
      cases merges
      decide)).mpr (by decide)

/-- The string `null` is sent as a string and comes back as an empty pod. -/
theorem addToPodObject_updateFromPod_null :
    ¬ ∃ parameters pod,
      updateFromPod referenceSpa.toPodReader []
          (referenceStruct [(ascii "mode", .string (ascii "null"))]) =
          .ok (parameters, .ok ()) ∧
        referenceSpa.AddsParams ReferenceBuilder.state
          (referenceProps 1024)
          (addToPodObject referenceSpa
            (referenceProps 1024) parameters).1 pod ∧
        referenceSpa.spaPodType pod = .struct ∧
        List.Forall₂ referenceSpa.SameContent
          (referenceSpa.spaPodStructForeach
            (referenceStruct [(ascii "mode", .string (ascii "null"))]))
          (referenceSpa.spaPodStructForeach pod) := by
  intro readsBack
  rcases readsBack with ⟨parameters, pod, merges, adds, -, same⟩
  have merged :
      updateFromPod referenceSpa.toPodReader []
          (referenceStruct [(ascii "mode", .string (ascii "null"))]) =
        .ok ([(ascii "mode", .nullopt)], .ok ()) := by
    decide
  rw [merged] at merges
  cases merges
  obtain ⟨pod', adds', isStruct⟩ :=
    addToPodObject_addsParams referenceSpa_contract
      (referenceProps 1024)
      (List.cons_ne_nil (ascii "mode", .nullopt) [])
      (by decide) (by decide)
  rw [adds.unique adds', PodReader.sameContents_iff
    (referenceStruct_holds _) isStruct.children] at same
  exact absurd same (by decide)

end DecodeThenEncode

end ParametersProperty

end Pwcpp
