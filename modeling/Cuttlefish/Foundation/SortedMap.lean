import Mathlib.Data.List.Sort

/-! # Sorted maps

`std::map` with keys of any linear order: the entries in the order of their keys, with that order
carried as a field. Two maps are equal when they have the same entries. -/

namespace Cuttlefish

structure SortedMap (Key Value : Type) [LinearOrder Key] where
  entries : List (Key × Value)
  sorted : entries.Pairwise fun entry next => entry.1 < next.1

namespace SortedMap

variable {Key Value : Type} [LinearOrder Key]

@[ext] theorem ext {left right : SortedMap Key Value} (equal : left.entries = right.entries) :
    left = right := by
  cases left
  cases right
  simpa using equal

instance [DecidableEq Value] : DecidableEq (SortedMap Key Value) := fun left right =>
  decidable_of_iff (left.entries = right.entries) ⟨ext, fun equal => by rw [equal]⟩

def empty : SortedMap Key Value where
  entries := []
  sorted := List.Pairwise.nil

def find (map : SortedMap Key Value) (key : Key) : Option Value :=
  (map.entries.find? fun entry => entry.1 = key).map (·.2)

def insertEntry (key : Key) (value : Value) : List (Key × Value) → List (Key × Value)
  | [] => [(key, value)]
  | entry :: rest =>
      if key < entry.1 then (key, value) :: entry :: rest
      else if key = entry.1 then entry :: rest
      else entry :: insertEntry key value rest

theorem mem_of_mem_insertEntry {key : Key} {value : Value} {entries : List (Key × Value)}
    {entry : Key × Value} (member : entry ∈ insertEntry key value entries) :
    entry = (key, value) ∨ entry ∈ entries := by
  induction entries with
  | nil => exact .inl (List.mem_singleton.mp member)
  | cons first rest induction =>
      rw [insertEntry] at member
      split at member
      · exact List.mem_cons.mp member
      · split at member
        · exact .inr member
        · rcases List.mem_cons.mp member with isFirst | inRest
          · exact .inr (isFirst ▸ List.mem_cons_self)
          · rcases induction inRest with isNew | isOld
            · exact .inl isNew
            · exact .inr (List.mem_cons_of_mem _ isOld)

theorem sorted_insertEntry (key : Key) (value : Value) {entries : List (Key × Value)}
    (sorted : entries.Pairwise fun entry next => entry.1 < next.1) :
    (insertEntry key value entries).Pairwise fun entry next => entry.1 < next.1 := by
  induction entries with
  | nil => exact List.pairwise_singleton _ _
  | cons first rest induction =>
      obtain ⟨firstLess, restSorted⟩ := List.pairwise_cons.mp sorted
      rw [insertEntry]
      split
      · next less =>
        refine List.pairwise_cons.mpr ⟨?_, sorted⟩
        intro entry member
        rcases List.mem_cons.mp member with isFirst | inRest
        · exact isFirst ▸ less
        · exact lt_trans less (firstLess entry inRest)
      · next notLess =>
        split
        · exact sorted
        · next different =>
          refine List.pairwise_cons.mpr ⟨?_, induction restSorted⟩
          intro entry member
          rcases mem_of_mem_insertEntry member with isNew | isOld
          · rw [isNew]
            exact lt_of_le_of_ne (not_lt.mp notLess) (Ne.symm different)
          · exact firstLess entry isOld

def emplace (map : SortedMap Key Value) (key : Key) (value : Value) : SortedMap Key Value where
  entries := insertEntry key value map.entries
  sorted := sorted_insertEntry key value map.sorted

/-! ## Entries -/

theorem eq_of_mem {map : SortedMap Key Value} {key : Key} {value other : Value}
    (member : (key, value) ∈ map.entries) (isOther : (key, other) ∈ map.entries) :
    value = other := by
  have apart := map.sorted
  generalize map.entries = entries at member isOther apart
  induction entries with
  | nil => cases member
  | cons first rest induction =>
      obtain ⟨firstLess, restSorted⟩ := List.pairwise_cons.mp apart
      rcases List.mem_cons.mp member with isFirst | inRest
      · rcases List.mem_cons.mp isOther with otherFirst | otherInRest
        · rw [← isFirst] at otherFirst
          exact (Prod.mk.inj otherFirst).2.symm
        · have less := firstLess _ otherInRest
          rw [← isFirst] at less
          exact absurd less (lt_irrefl _)
      · rcases List.mem_cons.mp isOther with otherFirst | otherInRest
        · have less := firstLess _ inRest
          rw [← otherFirst] at less
          exact absurd less (lt_irrefl _)
        · exact induction inRest otherInRest restSorted

theorem find_eq_some {map : SortedMap Key Value} {key : Key} {value : Value} :
    map.find key = some value ↔ (key, value) ∈ map.entries := by
  have sound : ∀ other, map.find key = some other → (key, other) ∈ map.entries := by
    intro other found
    obtain ⟨entry, isEntry, isValue⟩ := Option.map_eq_some_iff.mp found
    have isKey : entry.1 = key := by simpa using List.find?_some isEntry
    rw [← isKey, ← isValue]
    exact List.mem_of_find?_eq_some isEntry
  constructor
  · exact sound value
  · intro member
    cases found : map.find key with
    | some other => rw [eq_of_mem (sound other found) member]
    | none =>
        rw [find, Option.map_eq_none_iff, List.find?_eq_none] at found
        have missing := found (key, value) member
        simp at missing

theorem find_eq_none {map : SortedMap Key Value} {key : Key} :
    map.find key = none ↔ ∀ value, (key, value) ∉ map.entries := by
  rw [Option.eq_none_iff_forall_ne_some]
  apply forall_congr'
  intro value
  rw [Ne, find_eq_some]

theorem ext_mem {left right : SortedMap Key Value}
    (same : ∀ entry, entry ∈ left.entries ↔ entry ∈ right.entries) : left = right := by
  have distinct : ∀ map : SortedMap Key Value, map.entries.Nodup := by
    intro map
    apply map.sorted.imp
    intro entry next less equal
    rw [equal] at less
    exact lt_irrefl _ less
  apply ext
  refine List.Perm.eq_of_pairwise ?_ left.sorted right.sorted
    ((List.perm_ext_iff_of_nodup (distinct left) (distinct right)).mpr same)
  intro entry next _ _ less greater
  exact absurd (lt_trans less greater) (lt_irrefl _)

theorem mem_insertEntry_self {key : Key} (value : Value) {entries : List (Key × Value)}
    (isNew : ∀ entry ∈ entries, entry.1 ≠ key) :
    (key, value) ∈ insertEntry key value entries := by
  induction entries with
  | nil => exact List.mem_singleton_self _
  | cons first rest induction =>
      rw [insertEntry]
      split
      · exact List.mem_cons_self
      · rw [if_neg (isNew first List.mem_cons_self).symm]
        exact List.mem_cons_of_mem _
          (induction fun entry member => isNew entry (List.mem_cons_of_mem _ member))

theorem mem_insertEntry_of_mem {key : Key} (value : Value) {entries : List (Key × Value)}
    {entry : Key × Value} (member : entry ∈ entries) : entry ∈ insertEntry key value entries := by
  induction entries with
  | nil => cases member
  | cons first rest induction =>
      rw [insertEntry]
      split
      · exact List.mem_cons_of_mem _ member
      · split
        · exact member
        · rcases List.mem_cons.mp member with isFirst | inRest
          · exact isFirst ▸ List.mem_cons_self
          · exact List.mem_cons_of_mem _ (induction inRest)

theorem emplace_of_find {map : SortedMap Key Value} {key : Key} {old : Value}
    (found : map.find key = some old) (value : Value) : map.emplace key value = map := by
  apply ext
  change insertEntry key value map.entries = map.entries
  have member := find_eq_some.mp found
  have sorted := map.sorted
  generalize map.entries = entries at member sorted
  induction entries with
  | nil => cases member
  | cons first rest induction =>
      obtain ⟨firstLess, restSorted⟩ := List.pairwise_cons.mp sorted
      rw [insertEntry]
      rcases List.mem_cons.mp member with isFirst | inRest
      · rw [← isFirst, if_neg (lt_irrefl key), if_pos rfl]
      · have less := firstLess _ inRest
        rw [if_neg (lt_asymm less), if_neg (ne_of_gt less), induction inRest restSorted]

theorem mem_emplace {map : SortedMap Key Value} {key : Key} (isNew : map.find key = none)
    (value : Value) (entry : Key × Value) :
    entry ∈ (map.emplace key value).entries ↔ entry = (key, value) ∨ entry ∈ map.entries := by
  constructor
  · exact mem_of_mem_insertEntry
  · intro member
    rcases member with isEntry | isOld
    · rw [isEntry]
      apply mem_insertEntry_self
      intro other isOther same
      rw [← same, find_eq_none] at isNew
      exact isNew other.2 isOther
    · exact mem_insertEntry_of_mem value isOld

/-! ## Lookups -/

theorem ext_find {left right : SortedMap Key Value} (same : ∀ key, left.find key = right.find key) :
    left = right := by
  apply ext_mem
  intro entry
  rw [← find_eq_some, ← find_eq_some, same]

theorem find_empty (key : Key) : (empty : SortedMap Key Value).find key = none := rfl

theorem find_emplace (map : SortedMap Key Value) (key : Key) (value : Value) (other : Key) :
    (map.emplace key value).find other =
      (map.find other).or (if key = other then some value else none) := by
  cases found : map.find key with
  | some old =>
      rw [emplace_of_find found]
      by_cases same : key = other
      · rw [← same, found]
        rfl
      · rw [if_neg same, Option.or_none]
  | none =>
      cases foundOther : map.find other with
      | some old =>
          rw [Option.some_or, find_eq_some, mem_emplace found]
          exact .inr (find_eq_some.mp foundOther)
      | none =>
          rw [Option.none_or]
          by_cases same : key = other
          · rw [if_pos same, find_eq_some, mem_emplace found, same]
            exact .inl rfl
          · rw [if_neg same, find_eq_none]
            intro otherValue member
            rcases (mem_emplace found value _).mp member with isNew | isOld
            · exact same (Prod.mk.inj isNew).1.symm
            · exact find_eq_none.mp foundOther otherValue isOld

def ofEntries (entries : List (Key × Value)) : SortedMap Key Value :=
  entries.foldl (fun map entry => map.emplace entry.1 entry.2) empty

theorem find_foldl_emplace (entries : List (Key × Value)) (map : SortedMap Key Value) (key : Key) :
    (entries.foldl (fun map entry => map.emplace entry.1 entry.2) map).find key =
      (map.find key).or ((entries.find? fun entry => entry.1 = key).map (·.2)) := by
  induction entries generalizing map with
  | nil => rw [List.foldl_nil, List.find?_nil, Option.map_none, Option.or_none]
  | cons entry rest induction =>
      rw [List.foldl_cons, induction, find_emplace, Option.or_assoc]
      congr 1
      by_cases same : entry.1 = key
      · simp [same]
      · simp [same]

theorem find_ofEntries (entries : List (Key × Value)) (key : Key) :
    (ofEntries entries).find key = (entries.find? fun entry => entry.1 = key).map (·.2) := by
  rw [ofEntries, find_foldl_emplace, find_empty, Option.none_or]

theorem ofEntries_entries (map : SortedMap Key Value) : ofEntries map.entries = map := by
  apply ext_find
  intro key
  rw [find_ofEntries, find]

end SortedMap

end Cuttlefish
