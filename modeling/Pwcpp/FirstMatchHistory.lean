import Pwcpp.FirstMatch

namespace FirstMatch

/-!
# Histories of an association list

A list that is read by first match changes by writes: a write to a key that is
present goes to the first entry of the key, and a write to a new key is
dropped or appends an entry.  `Evolves` says what is known after any number of
such writes; it composes, so it holds along whole histories.

First-match reading follows the writes.  Last-match reading of a repeated key
never does: its last entry is out of reach.
-/

variable {κ β : Type} [DecidableEq κ]

/-- What `writes`, in this order, can have made of `entries`. -/
structure Evolves (entries writes evolved : List (κ × β)) : Prop where
  keys_extend :
    keys entries <+: keys evolved
  first :
    ∀ {key}, key ∈ keys entries →
      lookup key evolved =
        (lookupLast key writes).or (lookup key entries)
  last :
    ∀ {key}, Repeated key entries →
      lookupLast key evolved = lookupLast key entries
  repeated_iff :
    ∀ key, Repeated key evolved ↔ Repeated key entries
  unchanged :
    ∀ {index : Nat} {entry : κ × β},
      entries[index]? = some entry →
      Shadowed entries index entry.1 →
      evolved[index]? = some entry
  origin :
    ∀ entry ∈ evolved, entry ∈ entries ∨ entry ∈ writes

/-- A repeated key is a key. -/
theorem Repeated.mem_keys
    {key : κ}
    {entries : List (κ × β)}
    (repeated : Repeated key entries) :
    key ∈ keys entries := by
  apply List.count_pos_iff.mp
  exact Nat.lt_of_lt_of_le Nat.zero_lt_two repeated

theorem lookupLast_append
    (key : κ)
    (first second : List (κ × β)) :
    lookupLast key (first ++ second) =
      (lookupLast key second).or (lookupLast key first) := by
  rw [lookupLast, List.reverse_append, lookup_append]
  rfl

theorem lookupLast_singleton
    (key : κ)
    (entry : κ × β) :
    lookupLast key [entry] =
      if key = entry.1 then some entry.2 else none :=
  lookupLast_cons key entry []

/-- Assignment to a repeated key does not reach the last entry. -/
theorem lookupLast_assign
    {key query : κ}
    {value : β}
    {entries assigned : List (κ × β)}
    (assigns : assign key value entries = some assigned)
    (repeated : Repeated query entries) :
    lookupLast query assigned = lookupLast query entries := by
  obtain ⟨before, old, after, rfl, absent, rfl⟩ :=
    assign_eq_some_iff.mp assigns
  rw [lookupLast_append, lookupLast_append, lookupLast_cons,
    lookupLast_cons]
  by_cases isKey : query = key
  · subst query
    have inAfter : key ∈ keys after := by
      by_contra notAfter
      rw [Repeated, keys_append, keys_cons, List.count_append,
        List.count_cons_self, List.count_eq_zero_of_not_mem absent,
        List.count_eq_zero_of_not_mem notAfter] at repeated
      exact absurd repeated (by decide)
    cases last : lookupLast key after with
    | none =>
        exact (lookupLast_eq_none_iff.mp last inAfter).elim
    | some value =>
        rfl
  · rw [if_neg isKey, if_neg isKey]

/-- The entries after an assignment were there before or were assigned. -/
theorem mem_of_mem_assign
    {key : κ}
    {value : β}
    {entries assigned : List (κ × β)}
    (assigns : assign key value entries = some assigned)
    {entry : κ × β}
    (member : entry ∈ assigned) :
    entry ∈ entries ∨ entry = (key, value) := by
  obtain ⟨before, old, after, rfl, absent, rfl⟩ :=
    assign_eq_some_iff.mp assigns
  simp only [List.mem_append, List.mem_cons] at member ⊢
  rcases member with inBefore | isAssigned | inAfter
  · exact Or.inl (Or.inl inBefore)
  · exact Or.inr isAssigned
  · exact Or.inl (Or.inr (Or.inr inAfter))

/-- An entry that no earlier one hides is the first match of its key. -/
theorem lookup_of_not_shadowed
    {entries : List (κ × β)}
    {index : Nat}
    {key : κ}
    {value : β}
    (present : entries[index]? = some (key, value))
    (isFirst : ¬ Shadowed entries index key) :
    lookup key entries = some value := by
  induction entries generalizing index with
  | nil =>
      simp at present
  | cons entry rest inductionHypothesis =>
      cases index with
      | zero =>
          rw [List.getElem?_cons_zero, Option.some.injEq] at present
          subst entry
          rw [lookup_cons, if_pos rfl]
      | succ index =>
          have notHead : key ≠ entry.1 := by
            intro isHead
            exact isFirst ⟨0, Nat.succ_pos index, by simp [isHead]⟩
          rw [lookup_cons, if_neg notHead]
          apply inductionHypothesis present
          intro hidden
          rcases hidden with ⟨earlier, below, atEarlier⟩
          exact isFirst
            ⟨earlier + 1, Nat.succ_lt_succ below, atEarlier⟩

/-- Every key has an entry that no earlier one hides. -/
theorem exists_not_shadowed
    {entries : List (κ × β)}
    {key : κ}
    (member : key ∈ keys entries) :
    ∃ index value,
      entries[index]? = some (key, value) ∧
        ¬ Shadowed entries index key := by
  induction entries with
  | nil =>
      cases member
  | cons entry rest inductionHypothesis =>
      by_cases isHead : key = entry.1
      · refine ⟨0, entry.2, by rw [isHead]; rfl, ?_⟩
        intro hidden
        rcases hidden with ⟨earlier, below, -⟩
        exact Nat.not_lt_zero earlier below
      · have inRest : key ∈ keys rest := by
          rw [keys_cons, List.mem_cons] at member
          exact member.resolve_left isHead
        obtain ⟨index, value, present, isFirst⟩ :=
          inductionHypothesis inRest
        refine ⟨index + 1, value, present, ?_⟩
        intro hidden
        rcases hidden with ⟨earlier, below, atEarlier⟩
        cases earlier with
        | zero =>
            rw [keys_cons, List.getElem?_cons_zero,
              Option.some.injEq] at atEarlier
            exact isHead atEarlier.symm
        | succ earlier =>
            exact isFirst
              ⟨earlier, Nat.lt_of_succ_lt_succ below, atEarlier⟩

namespace Evolves

/-- Without writes nothing changes. -/
theorem refl (entries : List (κ × β)) :
    Evolves entries [] entries where
  keys_extend := List.prefix_refl _
  first _ := rfl
  last _ := rfl
  repeated_iff _ := Iff.rfl
  unchanged present _ := present
  origin _ member := Or.inl member

/-- Histories compose. -/
theorem trans
    {entries middle evolved firstWrites secondWrites : List (κ × β)}
    (firstHistory : Evolves entries firstWrites middle)
    (secondHistory : Evolves middle secondWrites evolved) :
    Evolves entries (firstWrites ++ secondWrites) evolved where
  keys_extend :=
    firstHistory.keys_extend.trans secondHistory.keys_extend
  first member := by
    have inMiddle := firstHistory.keys_extend.subset member
    rw [secondHistory.first inMiddle, firstHistory.first member,
      lookupLast_append, Option.or_assoc]
  last repeated := by
    have repeatedMiddle := (firstHistory.repeated_iff _).mpr repeated
    exact (secondHistory.last repeatedMiddle).trans
      (firstHistory.last repeated)
  repeated_iff key :=
    (secondHistory.repeated_iff key).trans
      (firstHistory.repeated_iff key)
  unchanged present shadowed :=
    secondHistory.unchanged
      (firstHistory.unchanged present shadowed)
      (shadowed.extend firstHistory.keys_extend)
  origin entry member := by
    rw [List.mem_append]
    rcases secondHistory.origin entry member with inMiddle | isSecond
    · rcases firstHistory.origin entry inMiddle with inEntries | isFirst
      · exact Or.inl inEntries
      · exact Or.inr (Or.inl isFirst)
    · exact Or.inr (Or.inr isSecond)

/-- A write to a present key is an assignment. -/
theorem of_assign
    {key : κ}
    {value : β}
    {entries assigned : List (κ × β)}
    (assigns : assign key value entries = some assigned) :
    Evolves entries [(key, value)] assigned where
  keys_extend :=
    ⟨[], (List.append_nil _).trans (keys_assign assigns).symm⟩
  first _ := by
    rw [lookup_assign assigns, lookupLast_singleton]
    split <;> rfl
  last repeated :=
    lookupLast_assign assigns repeated
  repeated_iff _ := by
    rw [Repeated, Repeated, keys_assign assigns]
  unchanged present shadowed :=
    getElem?_assign assigns present fun _ => shadowed
  origin _ member := by
    rw [List.mem_singleton]
    exact mem_of_mem_assign assigns member

/-- A write to a new key may be dropped. -/
theorem of_dropped
    {entries : List (κ × β)}
    {write : κ × β}
    (absent : write.1 ∉ keys entries) :
    Evolves entries [write] entries where
  keys_extend := List.prefix_refl _
  first member := by
    rw [lookupLast_singleton, if_neg]
    · rfl
    · intro isWrite
      exact absent (isWrite ▸ member)
  last _ := rfl
  repeated_iff _ := Iff.rfl
  unchanged present _ := present
  origin _ member := Or.inl member

/-- A write to a new key may append its entry. -/
theorem of_appended
    {entries : List (κ × β)}
    {write : κ × β}
    (absent : write.1 ∉ keys entries) :
    Evolves entries [write] (entries ++ [write]) where
  keys_extend := by
    rw [keys_append]
    exact List.prefix_append _ _
  first {key} member := by
    have other : key ≠ write.1 := fun isWrite =>
      absent (isWrite ▸ member)
    rw [lookup_append, lookupLast_singleton, lookup_cons, if_neg other,
      if_neg other, lookup_nil, Option.or_none, Option.none_or]
  last {key} repeated := by
    have other : key ≠ write.1 := fun isWrite =>
      absent (isWrite ▸ repeated.mem_keys)
    rw [lookupLast_append, lookupLast_singleton, if_neg other,
      Option.none_or]
  repeated_iff key := by
    rw [Repeated, Repeated, keys_append, List.count_append]
    by_cases isWrite : key = write.1
    · subst key
      rw [List.count_eq_zero_of_not_mem absent]
      simp
    · have noneAdded : (keys [write]).count key = 0 :=
        List.count_eq_zero_of_not_mem (by simpa using isWrite)
      rw [noneAdded, Nat.add_zero]
  unchanged present _ :=
    (List.getElem?_append_left
      (List.getElem?_eq_some_iff.mp present).1).trans present
  origin _ member :=
    List.mem_append.mp member

/-- An upsert is one write. -/
theorem upsert
    (entries : List (κ × β))
    (update : κ × β) :
    Evolves entries [update] (FirstMatch.upsert entries update) := by
  unfold FirstMatch.upsert
  cases assigns : assign update.1 update.2 entries with
  | none =>
      exact of_appended (assign_eq_none_iff.mp assigns)
  | some assigned =>
      exact of_assign assigns

/-- A merge writes every update. -/
theorem merge
    (entries updates : List (κ × β)) :
    Evolves entries updates (FirstMatch.merge entries updates) := by
  induction updates generalizing entries with
  | nil =>
      exact refl entries
  | cons update rest inductionHypothesis =>
      exact (upsert entries update).trans
        (inductionHypothesis (FirstMatch.upsert entries update))

/--
After any history the two readings agree on every key exactly when they agree
on the keys that were repeated from the beginning.
-/
theorem lookup_eq_lookupLast_iff
    {entries writes evolved : List (κ × β)}
    (history : Evolves entries writes evolved) :
    (∀ key, lookupLast key evolved = lookup key evolved) ↔
      ∀ key, Repeated key entries →
        (lookupLast key writes).or (lookup key entries) =
          lookupLast key entries := by
  refine forall_congr' fun key => ?_
  by_cases repeated : Repeated key entries
  · rw [history.last repeated, history.first repeated.mem_keys]
    constructor
    · intro agree _
      exact agree.symm
    · intro agree
      exact (agree repeated).symm
  · have single := (history.repeated_iff key).not.mpr repeated
    constructor
    · intro _ isRepeated
      exact (repeated isRepeated).elim
    · intro _
      exact (lookup_eq_lookupLast single).symm

/-- The entry at a position keeps its key. -/
theorem exists_getElem?
    {entries writes evolved : List (κ × β)}
    (history : Evolves entries writes evolved)
    {index : Nat}
    {key : κ}
    {value : β}
    (present : entries[index]? = some (key, value)) :
    ∃ value', evolved[index]? = some (key, value') := by
  obtain ⟨added, shape⟩ := history.keys_extend
  have keyAt : (keys entries)[index]? = some key := by
    rw [keys, List.getElem?_map, present]
    rfl
  have keyAt' : (keys evolved)[index]? = some key := by
    rw [← shape]
    exact (List.getElem?_append_left
      (List.getElem?_eq_some_iff.mp keyAt).1).trans keyAt
  rw [keys, List.getElem?_map, Option.map_eq_some_iff] at keyAt'
  obtain ⟨entry, present', rfl⟩ := keyAt'
  exact ⟨entry.2, present'⟩

/--
When no key was added, an observation of the values is unchanged everywhere
exactly when it is unchanged for the first match of every key.
-/
theorem map_values_eq_iff
    {γ : Type}
    {entries writes evolved : List (κ × β)}
    (history : Evolves entries writes evolved)
    (sameKeys : keys evolved = keys entries)
    (observe : β → γ) :
    evolved.map (fun entry => observe entry.2) =
        entries.map (fun entry => observe entry.2) ↔
      ∀ key ∈ keys entries,
        ((lookupLast key writes).or (lookup key entries)).map observe =
          (lookup key entries).map observe := by
  have hides :
      ∀ {index key},
        Shadowed evolved index key ↔ Shadowed entries index key := by
    intro index key
    rw [Shadowed, Shadowed, sameKeys]
  constructor
  · intro same key member
    obtain ⟨index, value, present, isFirst⟩ :=
      exists_not_shadowed member
    obtain ⟨value', present'⟩ := history.exists_getElem? present
    rw [← history.first member,
      lookup_of_not_shadowed present' (hides.not.mpr isFirst),
      lookup_of_not_shadowed present isFirst]
    have sameAt := congrArg (fun values => values[index]?) same
    simpa [present, present'] using sameAt
  · intro sameFirst
    apply List.ext_getElem?
    intro index
    rw [List.getElem?_map, List.getElem?_map]
    cases present : entries[index]? with
    | none =>
        have lengths := congrArg List.length sameKeys
        rw [keys, keys, List.length_map, List.length_map] at lengths
        rw [List.getElem?_eq_none_iff, ← lengths,
          ← List.getElem?_eq_none_iff] at present
        rw [present]
    | some entry =>
        obtain ⟨key, value⟩ := entry
        obtain ⟨value', present'⟩ := history.exists_getElem? present
        rw [present']
        by_cases hidden : Shadowed entries index key
        · have unchanged := history.unchanged present hidden
          rw [present'] at unchanged
          cases unchanged
          rfl
        · have member : key ∈ keys entries :=
            List.mem_map_of_mem (List.mem_of_getElem? present)
          have sameLookup := sameFirst key member
          rw [← history.first member,
            lookup_of_not_shadowed present' (hides.not.mpr hidden),
            lookup_of_not_shadowed present hidden] at sameLookup
          exact sameLookup

end Evolves

/--
A merge changes nothing exactly when every key of the updates has, as its first
match, the value that the updates give it last.
-/
theorem merge_eq_self_iff
    {entries updates : List (κ × β)} :
    FirstMatch.merge entries updates = entries ↔
      ∀ key ∈ keys updates,
        lookup key entries = lookupLast key updates := by
  constructor
  · intro unchanged key member
    have written : lookupLast key updates ≠ none :=
      fun absent => lookupLast_eq_none_iff.mp absent member
    obtain ⟨value, isLast⟩ := Option.ne_none_iff_exists'.mp written
    have lookedUp := lookup_merge entries updates key
    rw [unchanged, isLast, Option.some_or] at lookedUp
    exact lookedUp.trans isLast.symm
  · intro sameLast
    have history := Evolves.merge entries updates
    have noneAdded : addedKeys entries updates = [] := by
      apply List.eq_nil_iff_forall_not_mem.mpr
      intro key added
      have absent := notMem_of_mem_addedKeys added
      have member : key ∈ keys updates := by
        rw [addedKeys, List.mem_eraseDups, List.mem_filter] at added
        exact added.1
      have lookedUp := sameLast key member
      rw [lookup_eq_none_iff.mpr absent] at lookedUp
      exact lookupLast_eq_none_iff.mp lookedUp.symm member
    have sameKeys :
        keys (FirstMatch.merge entries updates) = keys entries := by
      rw [keys_merge, noneAdded, List.append_nil]
    refine eq_of_keys_of_values sameKeys ?_
    refine (history.map_values_eq_iff sameKeys id).mpr ?_
    intro key _
    simp only [Option.map_id, id_eq]
    by_cases member : key ∈ keys updates
    · rw [← sameLast key member, Option.or_self]
    · rw [lookupLast_eq_none_iff.mpr member, Option.none_or]

end FirstMatch
