import Mathlib.Logic.Function.Basic
import Pwcpp.FirstMatch

/-!
# Insertion-ordered maps

An insertion-ordered map is a finite map that remembers the order in which its
keys came in.  An association list read by first match represents one, with
repeated keys as unused entries, and its operations are those of the map.
-/

/-- A finite map with its keys in order of insertion. -/
@[ext] structure OrderedMap (κ β : Type) where
  keys : List κ
  value : κ → Option β
  nodup : keys.Nodup
  mem_keys : ∀ key, key ∈ keys ↔ (value key).isSome = true

namespace OrderedMap

section Operations

variable {κ β : Type} [DecidableEq κ]

/-- Change the value of a key that the map has. -/
def assign
    (map : OrderedMap κ β)
    (key : κ)
    (value : β) :
    Option (OrderedMap κ β) :=
  if present : key ∈ map.keys then
    some {
      keys := map.keys
      value := Function.update map.value key (some value)
      nodup := map.nodup
      mem_keys := by
        intro query
        by_cases isKey : query = key
        · subst query
          simp [present]
        · rw [Function.update_of_ne isKey, map.mem_keys]
    }
  else
    none

/-- Give a key a value; a new key comes last. -/
def insert
    (map : OrderedMap κ β)
    (update : κ × β) :
    OrderedMap κ β where
  keys :=
    if update.1 ∈ map.keys then
      map.keys
    else
      map.keys ++ [update.1]
  value :=
    Function.update map.value update.1 (some update.2)
  nodup := by
    split
    · exact map.nodup
    · rename_i absent
      refine map.nodup.append (List.nodup_singleton _) ?_
      simpa using absent
  mem_keys := by
    intro query
    by_cases isKey : query = update.1
    · subst query
      rw [Function.update_self]
      split <;> simp_all
    · rw [Function.update_of_ne isKey, ← map.mem_keys]
      split <;> simp [isKey]

/-- Insert every pair of `updates`, first pair first. -/
def merge
    (map : OrderedMap κ β)
    (updates : List (κ × β)) :
    OrderedMap κ β :=
  updates.foldl insert map

/-- The map that an association list represents. -/
def ofEntries (entries : List (κ × β)) : OrderedMap κ β where
  keys := FirstMatch.firstKeys entries
  value := fun key => FirstMatch.lookup key entries
  nodup := FirstMatch.nodup_eraseDups _
  mem_keys := by
    intro key
    rw [FirstMatch.mem_firstKeys, FirstMatch.isSome_lookup_iff]

end Operations

section Representation

variable {κ β : Type} [DecidableEq κ]

/-- Assignment to the list is assignment to the map it represents. -/
theorem ofEntries_assign
    (entries : List (κ × β))
    (key : κ)
    (value : β) :
    (ofEntries entries).assign key value =
      (FirstMatch.assign key value entries).map ofEntries := by
  cases assigns : FirstMatch.assign key value entries with
  | none =>
      have absent := FirstMatch.assign_eq_none_iff.mp assigns
      rw [assign, dif_neg (by simpa [ofEntries] using absent)]
      rfl
  | some assigned =>
      have present : key ∈ FirstMatch.keys entries := by
        by_contra absent
        rw [FirstMatch.assign_eq_none_iff.mpr absent] at assigns
        cases assigns
      rw [assign, dif_pos (by simpa [ofEntries] using present),
        Option.map_some, Option.some.injEq]
      apply OrderedMap.ext
      · simp only [ofEntries, FirstMatch.firstKeys,
          FirstMatch.keys_assign assigns]
      · funext query
        simp only [ofEntries, FirstMatch.lookup_assign assigns query,
          Function.update_apply]

/-- An upsert into the list is an insertion into the map it represents. -/
theorem ofEntries_upsert
    (entries : List (κ × β))
    (update : κ × β) :
    ofEntries (FirstMatch.upsert entries update) =
      (ofEntries entries).insert update := by
  apply OrderedMap.ext
  · by_cases present : update.1 ∈ FirstMatch.keys entries
    · have inMap : update.1 ∈ (ofEntries entries).keys :=
        FirstMatch.mem_firstKeys.mpr present
      exact (FirstMatch.firstKeys_upsert_of_mem present).trans
        (if_pos inMap).symm
    · have notInMap : update.1 ∉ (ofEntries entries).keys :=
        FirstMatch.mem_firstKeys.not.mpr present
      exact (FirstMatch.firstKeys_upsert_of_notMem present).trans
        (if_neg notInMap).symm
  · funext query
    simp only [ofEntries, insert, FirstMatch.lookup_upsert,
      Function.update_apply]

/-- A merge into the list is a merge into the map it represents. -/
theorem ofEntries_merge
    (entries updates : List (κ × β)) :
    ofEntries (FirstMatch.merge entries updates) =
      (ofEntries entries).merge updates := by
  induction updates generalizing entries with
  | nil =>
      rfl
  | cons update rest inductionHypothesis =>
      rw [FirstMatch.merge_cons, inductionHypothesis, ofEntries_upsert]
      rfl

end Representation

end OrderedMap
