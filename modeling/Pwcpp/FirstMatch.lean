import Mathlib.Data.List.Induction
import Mathlib.Data.List.Nodup

namespace FirstMatch

/-!
# Association lists read by first match

A list of pairs is read through its first entry for a key (`lookup`) and
changed through the same entry.  Keys may be repeated: later entries of a key
are shadowed, and no operation here touches them.

* `assign` overwrites the first entry of a key and fails without one.
* `upsert` overwrites the first entry of a key or appends a new pair.
* `merge` upserts a list of pairs from left to right.
-/

section Operations

variable {κ β : Type} [DecidableEq κ]

/-- The keys of the entries, in order and with repetitions. -/
def keys (entries : List (κ × β)) : List κ :=
  entries.map Prod.fst

/-- The value of the first entry of `key`. -/
def lookup (key : κ) (entries : List (κ × β)) : Option β :=
  entries.lookup key

/-- The keys, each once, in the order of their first occurrence. -/
def firstKeys (entries : List (κ × β)) : List κ :=
  (keys entries).eraseDups

/-- Find the first entry of `key` and overwrite its value. -/
def assign (key : κ) (value : β) :
    List (κ × β) → Option (List (κ × β))
  | [] =>
      none
  | entry :: rest =>
      if entry.1 = key then
        some ((entry.1, value) :: rest)
      else
        (assign key value rest).map (entry :: ·)

/-- Overwrite the first entry of `key`, or append the pair. -/
def upsert
    (entries : List (κ × β))
    (update : κ × β) :
    List (κ × β) :=
  match assign update.1 update.2 entries with
  | some assigned =>
      assigned
  | none =>
      entries ++ [update]

/-- Upsert every pair of `updates`, first pair first. -/
def merge
    (entries updates : List (κ × β)) :
    List (κ × β) :=
  updates.foldl upsert entries

/-- The value of the last entry of `key`. -/
def lookupLast (key : κ) (entries : List (κ × β)) : Option β :=
  lookup key entries.reverse

/-- The keys of `updates` that `entries` lacks, each once, in order. -/
def addedKeys (entries updates : List (κ × β)) : List κ :=
  ((keys updates).filter (· ∉ keys entries)).eraseDups

/-- At least two entries have the key. -/
def Repeated (key : κ) (entries : List (κ × β)) : Prop :=
  2 ≤ (keys entries).count key

instance (key : κ) (entries : List (κ × β)) :
    Decidable (Repeated key entries) :=
  inferInstanceAs (Decidable (_ ≤ _))

/-- Entry number `index` is hidden by an earlier entry of the same key. -/
def Shadowed (entries : List (κ × β)) (index : Nat) (key : κ) : Prop :=
  ∃ earlier, earlier < index ∧
    (keys entries)[earlier]? = some key

end Operations

section Keys

variable {κ β : Type}

@[simp] theorem keys_nil :
    keys ([] : List (κ × β)) = [] :=
  rfl

@[simp] theorem keys_cons
    (entry : κ × β)
    (rest : List (κ × β)) :
    keys (entry :: rest) = entry.1 :: keys rest :=
  rfl

@[simp] theorem keys_append
    (first second : List (κ × β)) :
    keys (first ++ second) = keys first ++ keys second := by
  simp [keys]

/-- A lookup of the list read backwards finds the same keys. -/
theorem mem_keys_reverse
    {key : κ}
    {entries : List (κ × β)} :
    key ∈ keys entries.reverse ↔ key ∈ keys entries := by
  simp [keys]

/-- Hidden entries stay hidden when keys are only appended. -/
theorem Shadowed.extend
    {entries extended : List (κ × β)}
    {index : Nat}
    {key : κ}
    (shadowed : Shadowed entries index key)
    (extends_ : keys entries <+: keys extended) :
    Shadowed extended index key := by
  obtain ⟨earlier, below, present⟩ := shadowed
  obtain ⟨added, shape⟩ := extends_
  refine ⟨earlier, below, ?_⟩
  rw [← shape]
  exact List.getElem?_append_left
    (List.getElem?_eq_some_iff.mp present).1 |>.trans present

/-- Entries are determined by their keys and values. -/
theorem eq_of_keys_of_values
    {first second : List (κ × β)}
    (sameKeys : keys first = keys second)
    (sameValues : first.map Prod.snd = second.map Prod.snd) :
    first = second := by
  induction first generalizing second with
  | nil =>
      cases second with
      | nil =>
          rfl
      | cons entry rest =>
          cases sameKeys
  | cons entry rest inductionHypothesis =>
      cases second with
      | nil =>
          cases sameKeys
      | cons entry' rest' =>
          simp only [keys_cons, List.map_cons, List.cons.injEq]
            at sameKeys sameValues
          rw [inductionHypothesis sameKeys.2 sameValues.2,
            Prod.ext sameKeys.1 sameValues.1]

end Keys

section Lookup

variable {κ β : Type} [DecidableEq κ]

@[simp] theorem lookup_nil (key : κ) :
    lookup key ([] : List (κ × β)) = none :=
  rfl

/-- Lookup in a nonempty list, with the comparison as a proposition. -/
theorem lookup_cons
    (key : κ)
    (entry : κ × β)
    (rest : List (κ × β)) :
    lookup key (entry :: rest) =
      if key = entry.1 then some entry.2 else lookup key rest := by
  obtain ⟨entryKey, value⟩ := entry
  by_cases isHead : key = entryKey
  · simp [lookup, isHead]
  · have different : (key == entryKey) = false := by
      simpa using isHead
    rw [lookup, List.lookup_cons, different, if_neg isHead]
    rfl

theorem lookup_append
    (key : κ)
    (first second : List (κ × β)) :
    lookup key (first ++ second) =
      (lookup key first).or (lookup key second) :=
  List.lookup_append

/-- First-match lookup succeeds exactly on the keys of the list. -/
theorem isSome_lookup_iff
    {key : κ}
    {entries : List (κ × β)} :
    (lookup key entries).isSome = true ↔ key ∈ keys entries := by
  induction entries with
  | nil =>
      simp
  | cons entry rest inductionHypothesis =>
      rw [lookup_cons, keys_cons, List.mem_cons]
      by_cases isHead : key = entry.1
      · simp [isHead]
      · rw [if_neg isHead, inductionHypothesis]
        simp [isHead]

/-- First-match lookup fails exactly off the keys of the list. -/
theorem lookup_eq_none_iff
    {key : κ}
    {entries : List (κ × β)} :
    lookup key entries = none ↔ key ∉ keys entries := by
  rw [← isSome_lookup_iff, Bool.not_eq_true, Option.isSome_eq_false_iff,
    Option.isNone_iff_eq_none]

/-- Last-match lookup fails exactly off the keys of the list. -/
theorem lookupLast_eq_none_iff
    {key : κ}
    {entries : List (κ × β)} :
    lookupLast key entries = none ↔ key ∉ keys entries := by
  rw [lookupLast, lookup_eq_none_iff, mem_keys_reverse]

theorem lookupLast_cons
    (key : κ)
    (entry : κ × β)
    (rest : List (κ × β)) :
    lookupLast key (entry :: rest) =
      (lookupLast key rest).or
        (if key = entry.1 then some entry.2 else none) := by
  rw [lookupLast, List.reverse_cons, lookup_append, lookup_cons]
  rfl

/-- A key with at most one entry is read the same way from both ends. -/
theorem lookup_eq_lookupLast
    {key : κ}
    {entries : List (κ × β)}
    (single : ¬Repeated key entries) :
    lookup key entries = lookupLast key entries := by
  induction entries with
  | nil =>
      rfl
  | cons entry rest inductionHypothesis =>
      rw [lookupLast_cons, lookup_cons]
      by_cases isHead : key = entry.1
      · have restAbsent : key ∉ keys rest := by
          intro member
          have positive := List.count_pos_iff.mpr member
          apply single
          rw [Repeated, keys_cons, ← isHead, List.count_cons_self]
          omega
        rw [lookupLast_eq_none_iff.mpr restAbsent, Option.none_or]
        simp [isHead]
      · have restSingle : ¬Repeated key rest := fun repeated =>
          single (Nat.le_trans repeated List.count_le_count_cons)
        simp [isHead, inductionHypothesis restSingle]

end Lookup

section Assign

variable {κ β : Type} [DecidableEq κ]

/--
Assignment succeeds exactly when it can split the list at the first entry of
the key, and then replaces that entry's value and nothing else.
-/
theorem assign_eq_some_iff
    {key : κ}
    {value : β}
    {entries assigned : List (κ × β)} :
    assign key value entries = some assigned ↔
      ∃ before old after,
        entries = before ++ (key, old) :: after ∧
          key ∉ keys before ∧
          assigned = before ++ (key, value) :: after := by
  induction entries generalizing assigned with
  | nil =>
      simp [assign]
  | cons entry rest inductionHypothesis =>
      obtain ⟨entryKey, entryValue⟩ := entry
      by_cases isHead : entryKey = key
      · subst entryKey
        simp only [assign, ↓reduceIte, Option.some.injEq]
        constructor
        · rintro rfl
          exact ⟨[], entryValue, rest, rfl, by simp, rfl⟩
        · rintro ⟨before, old, after, shape, absent, rfl⟩
          cases before with
          | nil =>
              simp_all
          | cons first later =>
              simp only [List.cons_append, List.cons.injEq] at shape
              simp [← shape.1] at absent
      · simp only [assign, isHead, ↓reduceIte, Option.map_eq_some_iff]
        constructor
        · rintro ⟨restAssigned, assignsRest, rfl⟩
          obtain ⟨before, old, after, rfl, absent, rfl⟩ :=
            inductionHypothesis.mp assignsRest
          exact ⟨(entryKey, entryValue) :: before, old, after, rfl,
            by simp [Ne.symm isHead, absent], rfl⟩
        · rintro ⟨before, old, after, shape, absent, rfl⟩
          cases before with
          | nil =>
              simp only [List.nil_append, List.cons.injEq,
                Prod.mk.injEq] at shape
              exact (isHead shape.1.1).elim
          | cons first later =>
              simp only [List.cons_append, List.cons.injEq] at shape
              obtain ⟨rfl, rfl⟩ := shape
              simp only [keys_cons, List.mem_cons, not_or] at absent
              exact ⟨later ++ (key, value) :: after,
                inductionHypothesis.mpr
                  ⟨later, old, after, rfl, absent.2, rfl⟩, rfl⟩

/-- Assignment fails exactly on keys that have no entry. -/
theorem assign_eq_none_iff
    {key : κ}
    {value : β}
    {entries : List (κ × β)} :
    assign key value entries = none ↔ key ∉ keys entries := by
  induction entries with
  | nil =>
      simp [assign]
  | cons entry rest inductionHypothesis =>
      by_cases isHead : entry.1 = key
      · simp [assign, isHead]
      · simp [assign, isHead, inductionHypothesis, Ne.symm isHead]

/-- Assignment keeps every key at its position. -/
theorem keys_assign
    {key : κ}
    {value : β}
    {entries assigned : List (κ × β)}
    (assigns : assign key value entries = some assigned) :
    keys assigned = keys entries := by
  obtain ⟨before, old, after, rfl, -, rfl⟩ :=
    assign_eq_some_iff.mp assigns
  simp

/-- Assignment changes the first match of its key and of no other key. -/
theorem lookup_assign
    {key : κ}
    {value : β}
    {entries assigned : List (κ × β)}
    (assigns : assign key value entries = some assigned)
    (query : κ) :
    lookup query assigned =
      if query = key then some value else lookup query entries := by
  obtain ⟨before, old, after, rfl, absent, rfl⟩ :=
    assign_eq_some_iff.mp assigns
  have noneBefore : lookup key before = none :=
    lookup_eq_none_iff.mpr absent
  by_cases isKey : query = key
  · simp [isKey, lookup_append, lookup_cons, noneBefore]
  · simp only [lookup_append, lookup_cons, isKey, ↓reduceIte]

/-- Assignment changes nothing iff the first match has the value already. -/
theorem assign_eq_self_iff
    {key : κ}
    {value : β}
    {entries assigned : List (κ × β)}
    (assigns : assign key value entries = some assigned) :
    assigned = entries ↔ lookup key entries = some value := by
  constructor
  · intro unchanged
    have lookedUp := lookup_assign assigns key
    rwa [unchanged, if_pos rfl] at lookedUp
  · intro present
    obtain ⟨before, old, after, rfl, absent, rfl⟩ :=
      assign_eq_some_iff.mp assigns
    have noneBefore : lookup key before = none :=
      lookup_eq_none_iff.mpr absent
    simp only [lookup_append, lookup_cons, noneBefore, ↓reduceIte,
      Option.none_or, Option.some.injEq] at present
    rw [present]

/-- Entries other than the first one of the key stay as they are. -/
theorem getElem?_assign
    {key : κ}
    {value : β}
    {entries assigned : List (κ × β)}
    (assigns : assign key value entries = some assigned)
    {index : Nat}
    {entry : κ × β}
    (present : entries[index]? = some entry)
    (notFirst :
      entry.1 = key → Shadowed entries index entry.1) :
    assigned[index]? = some entry := by
  obtain ⟨before, old, after, rfl, absent, rfl⟩ :=
    assign_eq_some_iff.mp assigns
  rcases Nat.lt_trichotomy index before.length with
    earlier | atSplit | later
  · rw [List.getElem?_append_left earlier] at present ⊢
    exact present
  · subst index
    simp only [List.getElem?_append_right (Nat.le_refl _),
      Nat.sub_self, List.getElem?_cons_zero,
      Option.some.injEq] at present
    subst entry
    obtain ⟨position, below, atPosition⟩ := notFirst rfl
    rw [keys_append,
      List.getElem?_append_left (by simpa [keys] using below)]
      at atPosition
    exact (absent (List.mem_of_getElem? atPosition)).elim
  · obtain ⟨offset, rfl⟩ := Nat.exists_eq_add_of_lt later
    have shift :
        before.length + offset + 1 - before.length = offset + 1 := by
      omega
    rw [List.getElem?_append_right (by omega), shift] at present ⊢
    simpa using present

end Assign

section Upsert

variable {κ β : Type} [DecidableEq κ]

/-- An upsert appends its key exactly when the key is new. -/
theorem keys_upsert
    (entries : List (κ × β))
    (update : κ × β) :
    keys (upsert entries update) =
      if update.1 ∈ keys entries then
        keys entries
      else
        keys entries ++ [update.1] := by
  unfold upsert
  cases assigns : assign update.1 update.2 entries with
  | none =>
      rw [if_neg (assign_eq_none_iff.mp assigns)]
      simp
  | some assigned =>
      have present : update.1 ∈ keys entries := by
        by_contra absent
        rw [assign_eq_none_iff.mpr absent] at assigns
        cases assigns
      rw [if_pos present, keys_assign assigns]

@[simp] theorem mem_firstKeys
    {entries : List (κ × β)}
    {key : κ} :
    key ∈ firstKeys entries ↔ key ∈ keys entries := by
  rw [firstKeys, List.mem_eraseDups]

/-- An upsert of a present key adds no first occurrence. -/
theorem firstKeys_upsert_of_mem
    {entries : List (κ × β)}
    {update : κ × β}
    (present : update.1 ∈ keys entries) :
    firstKeys (upsert entries update) = firstKeys entries := by
  rw [firstKeys, keys_upsert, if_pos present, firstKeys]

/-- An upsert of a new key adds its first occurrence at the end. -/
theorem firstKeys_upsert_of_notMem
    {entries : List (κ × β)}
    {update : κ × β}
    (absent : update.1 ∉ keys entries) :
    firstKeys (upsert entries update) =
      firstKeys entries ++ [update.1] := by
  rw [firstKeys, keys_upsert, if_neg absent, List.eraseDups_append]
  simp [firstKeys, List.removeAll, absent, List.eraseDups_cons]

/-- An upsert keeps every key at its position. -/
theorem keys_prefix_upsert
    (entries : List (κ × β))
    (update : κ × β) :
    keys entries <+: keys (upsert entries update) := by
  rw [keys_upsert]
  split
  · exact List.prefix_refl _
  · exact List.prefix_append _ _

/-- After an upsert its key reads as the new value; other keys are as before. -/
theorem lookup_upsert
    (entries : List (κ × β))
    (update : κ × β)
    (query : κ) :
    lookup query (upsert entries update) =
      if query = update.1 then
        some update.2
      else
        lookup query entries := by
  unfold upsert
  cases assigns : assign update.1 update.2 entries with
  | none =>
      have absent := assign_eq_none_iff.mp assigns
      simp only [lookup_append, lookup_cons, lookup_nil]
      by_cases isKey : query = update.1
      · rw [if_pos isKey, isKey, lookup_eq_none_iff.mpr absent,
          Option.none_or, if_pos rfl]
      · simp [isKey]
  | some assigned =>
      exact lookup_assign assigns query

/-- An upsert leaves every entry but the first one of its key as it is. -/
theorem getElem?_upsert
    {entries : List (κ × β)}
    {update : κ × β}
    {index : Nat}
    {entry : κ × β}
    (present : entries[index]? = some entry)
    (notFirst :
      entry.1 = update.1 → Shadowed entries index entry.1) :
    (upsert entries update)[index]? = some entry := by
  unfold upsert
  cases assigns : assign update.1 update.2 entries with
  | none =>
      have inBounds := (List.getElem?_eq_some_iff.mp present).1
      exact (List.getElem?_append_left inBounds).trans present
  | some assigned =>
      exact getElem?_assign assigns present notFirst

end Upsert

section Merge

variable {κ β : Type} [DecidableEq κ]

@[simp] theorem merge_nil (entries : List (κ × β)) :
    merge entries [] = entries :=
  rfl

@[simp] theorem merge_cons
    (entries : List (κ × β))
    (update : κ × β)
    (rest : List (κ × β)) :
    merge entries (update :: rest) =
      merge (upsert entries update) rest :=
  rfl

@[simp] theorem addedKeys_nil (entries : List (κ × β)) :
    addedKeys entries [] = [] :=
  rfl

/-- A key that is present is not added. -/
theorem addedKeys_cons_of_mem
    {entries : List (κ × β)}
    {update : κ × β}
    (present : update.1 ∈ keys entries)
    (rest : List (κ × β)) :
    addedKeys entries (update :: rest) = addedKeys entries rest := by
  simp [addedKeys, present]

/-- A new key is added first, and not a second time. -/
theorem addedKeys_cons_of_notMem
    {entries extended : List (κ × β)}
    {update : κ × β}
    (absent : update.1 ∉ keys entries)
    (extended_keys : keys extended = keys entries ++ [update.1])
    (rest : List (κ × β)) :
    addedKeys entries (update :: rest) =
      update.1 :: addedKeys extended rest := by
  have restFilter :
      (keys rest).filter (· ∉ keys extended) =
        ((keys rest).filter (· ∉ keys entries)).filter
          (fun key => !key == update.1) := by
    rw [List.filter_filter]
    apply List.filter_congr
    intro key _
    by_cases inEntries : key ∈ keys entries <;>
      by_cases isUpdate : key = update.1 <;>
      simp [extended_keys, inEntries, isUpdate]
  rw [addedKeys, addedKeys, restFilter, keys_cons,
    List.filter_cons_of_pos (by simpa using absent),
    List.eraseDups_cons]

/-- An added key was absent. -/
theorem notMem_of_mem_addedKeys
    {entries updates : List (κ × β)}
    {key : κ}
    (added : key ∈ addedKeys entries updates) :
    key ∉ keys entries := by
  rw [addedKeys, List.mem_eraseDups, List.mem_filter] at added
  simpa using added.2

/--
A merge appends the keys of the updates that were absent, each once, in the
order of their first occurrence.
-/
theorem keys_merge
    (entries updates : List (κ × β)) :
    keys (merge entries updates) =
      keys entries ++ addedKeys entries updates := by
  induction updates generalizing entries with
  | nil =>
      simp
  | cons update rest inductionHypothesis =>
      have keysUpsert := keys_upsert entries update
      rw [merge_cons, inductionHypothesis]
      by_cases present : update.1 ∈ keys entries
      · rw [if_pos present] at keysUpsert
        rw [addedKeys_cons_of_mem present, keysUpsert]
        simp only [addedKeys, keysUpsert]
      · rw [if_neg present] at keysUpsert
        rw [addedKeys_cons_of_notMem present keysUpsert, keysUpsert,
          List.append_assoc]
        rfl

/--
After a merge a key reads as the last update of that key, or as before when
no update has it.
-/
theorem lookup_merge
    (entries updates : List (κ × β))
    (query : κ) :
    lookup query (merge entries updates) =
      (lookupLast query updates).or (lookup query entries) := by
  induction updates generalizing entries with
  | nil =>
      simp [lookupLast]
  | cons update rest inductionHypothesis =>
      rw [merge_cons, inductionHypothesis, lookup_upsert,
        lookupLast_cons]
      cases lookupLast query rest with
      | some value =>
          rfl
      | none =>
          simp only [Option.none_or]
          split <;> rfl

/-- A merge leaves every entry but the first ones of its keys as it is. -/
theorem getElem?_merge
    {entries updates : List (κ × β)}
    {index : Nat}
    {entry : κ × β}
    (present : entries[index]? = some entry)
    (notFirst :
      entry.1 ∈ keys updates → Shadowed entries index entry.1) :
    (merge entries updates)[index]? = some entry := by
  induction updates generalizing entries with
  | nil =>
      exact present
  | cons update rest inductionHypothesis =>
      rw [merge_cons]
      apply inductionHypothesis
      · apply getElem?_upsert present
        intro isUpdate
        exact notFirst (by simp [isUpdate])
      · intro inRest
        exact (notFirst (by simp [inRest])).extend
          (keys_prefix_upsert entries update)

/-- Keeping first occurrences only leaves no repetition. -/
theorem nodup_eraseDups (items : List κ) :
    items.eraseDups.Nodup := by
  induction items using List.reverseRecOn with
  | nil =>
      simp
  | append_singleton leading last inductionHypothesis =>
      rw [List.eraseDups_append]
      refine inductionHypothesis.append ?_ ?_
      · by_cases repeated : last ∈ leading <;>
          simp [List.removeAll, List.eraseDups_cons, repeated]
      · intro item inLeading inLast
        rw [List.mem_eraseDups] at inLeading inLast
        simp [List.removeAll, inLeading] at inLast

/-- Merging keeps pairwise distinct keys pairwise distinct. -/
theorem nodup_keys_merge
    {entries : List (κ × β)}
    (distinct : (keys entries).Nodup)
    (updates : List (κ × β)) :
    (keys (merge entries updates)).Nodup := by
  rw [keys_merge]
  refine distinct.append (nodup_eraseDups _) ?_
  intro key inEntries inAdded
  exact notMem_of_mem_addedKeys inAdded inEntries

/-- Merging new and pairwise distinct keys just appends the updates. -/
theorem merge_eq_append
    {entries updates : List (κ × β)}
    (distinct : (keys (entries ++ updates)).Nodup) :
    merge entries updates = entries ++ updates := by
  induction updates generalizing entries with
  | nil =>
      simp
  | cons update rest inductionHypothesis =>
      have absent : update.1 ∉ keys entries := by
        rw [keys_append, keys_cons] at distinct
        intro member
        exact (List.nodup_append.mp distinct).2.2
          _ member _ List.mem_cons_self rfl
      have appended : upsert entries update = entries ++ [update] := by
        rw [upsert, assign_eq_none_iff.mpr absent]
      rw [merge_cons, appended, inductionHypothesis]
      · simp
      · simpa using distinct

end Merge

end FirstMatch
