/-! # Maps with integer keys

`std::map<int, Value>`: the entries in the order of their keys, with that order
carried as a field. -/

namespace Cuttlefish

structure OrderedMap (Value : Type) where
  entries : List (Int × Value)
  sorted : entries.Pairwise fun first second => first.1 < second.1

namespace OrderedMap

variable {Value : Type}

@[ext] theorem ext {left right : OrderedMap Value} (equal : left.entries = right.entries) :
    left = right := by
  cases left
  cases right
  simpa using equal

instance [DecidableEq Value] : DecidableEq (OrderedMap Value) := fun left right =>
  decidable_of_iff (left.entries = right.entries) ⟨ext, fun equal => by rw [equal]⟩

def empty : OrderedMap Value where
  entries := []
  sorted := List.Pairwise.nil

def find (map : OrderedMap Value) (key : Int) : Option Value := map.entries.lookup key

def insertEntry (key : Int) (value : Value) : List (Int × Value) → List (Int × Value)
  | [] => [(key, value)]
  | entry :: rest =>
      if key < entry.1 then (key, value) :: entry :: rest
      else if key = entry.1 then (key, value) :: rest
      else entry :: insertEntry key value rest

private theorem mem_insertEntry {key : Int} {value : Value} {entries : List (Int × Value)}
    {entry : Int × Value} (member : entry ∈ insertEntry key value entries) :
    entry = (key, value) ∨ entry ∈ entries := by
  induction entries with
  | nil => exact .inl (List.mem_singleton.mp member)
  | cons first rest induction =>
      rw [insertEntry] at member
      split at member
      · exact List.mem_cons.mp member
      · split at member
        · rcases List.mem_cons.mp member with equal | member
          · exact .inl equal
          · exact .inr (List.mem_cons_of_mem _ member)
        · rcases List.mem_cons.mp member with equal | member
          · exact .inr (equal ▸ List.mem_cons_self)
          · rcases induction member with equal | member
            · exact .inl equal
            · exact .inr (List.mem_cons_of_mem _ member)

private theorem insertEntry_sorted (key : Int) (value : Value) {entries : List (Int × Value)}
    (sorted : entries.Pairwise fun first second => first.1 < second.1) :
    (insertEntry key value entries).Pairwise fun first second => first.1 < second.1 := by
  induction entries with
  | nil => exact List.pairwise_singleton _ _
  | cons first rest induction =>
      rcases List.pairwise_cons.mp sorted with ⟨firstLess, restSorted⟩
      rw [insertEntry]
      split
      · rename_i less
        refine List.pairwise_cons.mpr ⟨?_, sorted⟩
        intro entry member
        rcases List.mem_cons.mp member with equal | member
        · exact equal ▸ less
        · exact Int.lt_trans less (firstLess entry member)
      · split
        · rename_i same
          refine List.pairwise_cons.mpr ⟨?_, restSorted⟩
          intro entry member
          exact same ▸ firstLess entry member
        · rename_i notLess different
          refine List.pairwise_cons.mpr ⟨?_, induction restSorted⟩
          intro entry member
          rcases mem_insertEntry member with equal | member
          · rw [equal]
            dsimp only
            omega
          · exact firstLess entry member

/-- `map[key] = value`. -/
def insert (map : OrderedMap Value) (key : Int) (value : Value) : OrderedMap Value where
  entries := insertEntry key value map.entries
  sorted := insertEntry_sorted key value map.sorted

def erase (map : OrderedMap Value) (key : Int) : OrderedMap Value where
  entries := map.entries.filter fun entry => entry.1 != key
  sorted := map.sorted.filter _

def update (map : OrderedMap Value) (change : Value → Option Value) : OrderedMap Value where
  entries := map.entries.filterMap fun entry => (change entry.2).map fun value => (entry.1, value)
  sorted := by
    apply map.sorted.filterMap
    intro first second less firstNew firstEq secondNew secondEq
    simp only [Option.map_eq_some_iff] at firstEq secondEq
    rcases firstEq with ⟨_, -, rfl⟩
    rcases secondEq with ⟨_, -, rfl⟩
    exact less

/-! ## Lookups -/

theorem find_of_mem {map : OrderedMap Value} {key : Int} {value : Value}
    (member : (key, value) ∈ map.entries) : map.find key = some value := by
  rcases map with ⟨entries, sorted⟩
  rw [find]
  dsimp only at member ⊢
  induction entries with
  | nil => cases member
  | cons first rest induction =>
      rcases List.pairwise_cons.mp sorted with ⟨firstLess, restSorted⟩
      rcases List.mem_cons.mp member with equal | member
      · rw [← equal]
        simp
      · have different : (key == first.1) = false := by
          have less := firstLess _ member
          simp only [beq_eq_false_iff_ne]
          omega
        rw [List.lookup_cons, different]
        exact induction restSorted member

theorem mem_of_find {map : OrderedMap Value} {key : Int} {value : Value}
    (found : map.find key = some value) : (key, value) ∈ map.entries := by
  rcases List.lookup_eq_some_iff.mp found with ⟨before, after, split, -⟩
  rw [split]
  simp

private theorem find_congr {map other : OrderedMap Value} {key : Int}
    (same : ∀ value, (key, value) ∈ map.entries ↔ (key, value) ∈ other.entries) :
    map.find key = other.find key := by
  cases found : other.find key with
  | some value => exact find_of_mem ((same value).mpr (mem_of_find found))
  | none =>
      cases foundMap : map.find key with
      | none => rfl
      | some value =>
          have present := find_of_mem ((same value).mp (mem_of_find foundMap))
          rw [found] at present
          cases present

theorem find_erase_self (map : OrderedMap Value) (key : Int) :
    (map.erase key).find key = none := by
  cases found : (map.erase key).find key with
  | none => rfl
  | some value =>
      have member := mem_of_find found
      simp [erase] at member

theorem find_erase_of_ne (map : OrderedMap Value) {key other : Int} (different : other ≠ key) :
    (map.erase key).find other = map.find other := by
  apply find_congr
  intro value
  simp [erase, different]

theorem find_update (map : OrderedMap Value) (change : Value → Option Value) (key : Int) :
    (map.update change).find key = (map.find key).bind change := by
  have entry : ∀ value, (key, value) ∈ (map.update change).entries ↔
      ∃ old, (key, old) ∈ map.entries ∧ change old = some value := by
    intro value
    simp only [update, List.mem_filterMap, Option.map_eq_some_iff, Prod.mk.injEq]
    constructor
    · intro parts
      rcases parts with ⟨⟨index, old⟩, member, new, changed, same, equal⟩
      subst same equal
      exact ⟨old, member, changed⟩
    · intro parts
      rcases parts with ⟨old, member, changed⟩
      exact ⟨(key, old), member, value, changed, rfl, rfl⟩
  cases found : map.find key with
  | none =>
      cases foundUpdated : (map.update change).find key with
      | none => rfl
      | some value =>
          rcases (entry value).mp (mem_of_find foundUpdated) with ⟨old, member, -⟩
          rw [find_of_mem member] at found
          cases found
  | some old =>
      rw [Option.bind_some]
      cases changed : change old with
      | some value => exact find_of_mem ((entry value).mpr ⟨old, mem_of_find found, changed⟩)
      | none =>
          cases foundUpdated : (map.update change).find key with
          | none => rfl
          | some value =>
              rcases (entry value).mp (mem_of_find foundUpdated) with ⟨other, member, kept⟩
              rw [find_of_mem member] at found
              cases found
              rw [changed] at kept
              cases kept

private theorem lookup_insertEntry_self (key : Int) (value : Value)
    (entries : List (Int × Value)) : (insertEntry key value entries).lookup key = some value := by
  induction entries with
  | nil => simp [insertEntry]
  | cons first rest induction =>
      rw [insertEntry]
      split
      · simp
      · split
        · simp
        · rename_i different
          have notEqual : (key == first.1) = false := by simp [different]
          rw [List.lookup_cons, notEqual]
          exact induction

private theorem lookup_insertEntry_of_ne {key other : Int} (value : Value)
    (different : other ≠ key) (entries : List (Int × Value)) :
    (insertEntry key value entries).lookup other = entries.lookup other := by
  have notEqual : (other == key) = false := by simp [different]
  induction entries with
  | nil => simp [insertEntry, List.lookup_cons, notEqual]
  | cons first rest induction =>
      rw [insertEntry]
      split
      · rw [List.lookup_cons, notEqual]
      · split
        · rename_i same
          rw [List.lookup_cons, List.lookup_cons, ← same, notEqual]
        · rw [List.lookup_cons, List.lookup_cons, induction]

theorem find_insert_self (map : OrderedMap Value) (key : Int) (value : Value) :
    (map.insert key value).find key = some value :=
  lookup_insertEntry_self key value map.entries

theorem find_insert_of_ne (map : OrderedMap Value) {key other : Int} (value : Value)
    (different : other ≠ key) : (map.insert key value).find other = map.find other :=
  lookup_insertEntry_of_ne value different map.entries

/-! ## Loops -/

theorem flatMap_eq_of_find {Element : Type} {map : OrderedMap Value} {key : Int} {value : Value}
    (found : map.find key = some value) {yield : Int × Value → List Element}
    (others : ∀ entry ∈ map.entries, entry.1 ≠ key → yield entry = []) :
    map.entries.flatMap yield = yield (key, value) := by
  rcases map with ⟨entries, sorted⟩
  rcases List.append_of_mem (mem_of_find found) with ⟨before, after, split⟩
  dsimp only at split others ⊢
  rw [split, List.pairwise_append, List.pairwise_cons] at sorted
  rcases sorted with ⟨-, ⟨less, -⟩, between⟩
  have emptyBefore : before.flatMap yield = [] := by
    rw [List.flatMap_eq_nil_iff]
    intro entry member
    apply others entry (by rw [split]; simp [member])
    have less := between entry member (key, value) List.mem_cons_self
    exact Int.ne_of_lt less
  have emptyAfter : after.flatMap yield = [] := by
    rw [List.flatMap_eq_nil_iff]
    intro entry member
    apply others entry (by rw [split]; simp [member])
    exact Int.ne_of_gt (less entry member)
  rw [split, List.flatMap_append, List.flatMap_cons, emptyBefore, emptyAfter, List.nil_append,
    List.append_nil]

/-! ## The entry at or before a key -/

def floor (map : OrderedMap Value) (key : Int) : Option (Int × Value) :=
  (map.entries.takeWhile fun entry => entry.1 ≤ key).getLast?

theorem mem_of_mem_insert {map : OrderedMap Value} {key : Int} {value : Value}
    {entry : Int × Value} (member : entry ∈ (map.insert key value).entries) :
    entry = (key, value) ∨ entry ∈ map.entries :=
  mem_insertEntry member

private theorem takeWhile_insertEntry {key offset : Int} (value : Value) (less : offset < key)
    (entries : List (Int × Value)) :
    (insertEntry key value entries).takeWhile (fun entry => entry.1 ≤ offset) =
      entries.takeWhile fun entry => entry.1 ≤ offset := by
  induction entries with
  | nil => simp [insertEntry, less]
  | cons first rest induction =>
      rw [insertEntry]
      split
      · have notFirst : ¬ first.1 ≤ offset := by omega
        simp [notFirst, less]
      · split
        · rename_i same
          have notFirst : ¬ first.1 ≤ offset := by omega
          simp [notFirst, less]
        · rw [List.takeWhile_cons, List.takeWhile_cons, induction]

theorem floor_insert_of_lt (map : OrderedMap Value) {key offset : Int} (value : Value)
    (less : offset < key) : (map.insert key value).floor offset = map.floor offset := by
  unfold floor insert
  rw [takeWhile_insertEntry value less]

private theorem getLast?_insertEntry {key : Int} (value : Value) {entries : List (Int × Value)}
    (sorted : entries.Pairwise fun first second => first.1 < second.1)
    (before : ∀ entry ∈ entries, entry.1 ≤ key) :
    (insertEntry key value entries).getLast? = some (key, value) := by
  induction entries with
  | nil => rfl
  | cons first rest induction =>
      rcases List.pairwise_cons.mp sorted with ⟨firstLess, restSorted⟩
      have firstBefore := before first List.mem_cons_self
      have restBefore : ∀ entry ∈ rest, entry.1 ≤ key := fun entry member =>
        before entry (List.mem_cons_of_mem first member)
      rw [insertEntry]
      rw [if_neg (by omega)]
      split
      · rename_i same
        cases rest with
        | nil => rfl
        | cons second rest =>
            have less := firstLess second List.mem_cons_self
            have bound := restBefore second List.mem_cons_self
            omega
      · rw [List.getLast?_cons, induction restSorted restBefore]
        rfl

theorem floor_insert_of_le (map : OrderedMap Value) {key offset : Int} (value : Value)
    (before : ∀ entry ∈ map.entries, entry.1 ≤ key) (reached : key ≤ offset) :
    (map.insert key value).floor offset = some (key, value) := by
  have all : ∀ entry ∈ (map.insert key value).entries,
      (fun entry : Int × Value => decide (entry.1 ≤ offset)) entry = true := by
    intro entry member
    rcases mem_of_mem_insert member with isNew | old
    · rw [isNew]
      simpa using reached
    · have bound := before entry old
      rw [decide_eq_true_eq]
      omega
  have whole : (map.insert key value).entries.takeWhile (fun entry => entry.1 ≤ offset) =
      (map.insert key value).entries := by
    rw [← List.append_nil (map.insert key value).entries, List.takeWhile_append_of_pos all]
    rfl
  rw [floor, whole]
  exact getLast?_insertEntry value map.sorted before

/-! ## Free keys -/

def firstFree (map : OrderedMap Value) : (fuel : Nat) → (key : Int) → Int
  | 0, key => key
  | fuel + 1, key =>
      match map.find key with
      | none => key
      | some _ => map.firstFree fuel (key + 1)

private theorem firstFree_cases (map : OrderedMap Value) (fuel : Nat) (key : Int) :
    map.find (map.firstFree fuel key) = none ∨
      ∀ offset : Nat, offset ≤ fuel → map.find (key + offset) ≠ none := by
  induction fuel generalizing key with
  | zero =>
      cases found : map.find key with
      | none => exact .inl found
      | some value =>
          refine .inr fun offset bound => ?_
          have zero : offset = 0 := by omega
          simp [zero, found]
  | succ fuel induction =>
      rw [firstFree]
      cases found : map.find key with
      | none => exact .inl found
      | some value =>
          rcases induction (key + 1) with free | taken
          · exact .inl free
          · refine .inr fun offset bound => ?_
            cases offset with
            | zero => simp [found]
            | succ offset =>
                have shifted := taken offset (by omega)
                have equal : key + 1 + (offset : Int) = key + ((offset + 1 : Nat) : Int) := by
                  omega
                rwa [equal] at shifted

theorem find_firstFree (map : OrderedMap Value) (key : Int) :
    map.find (map.firstFree map.entries.length key) = none := by
  rcases map.firstFree_cases map.entries.length key with free | taken
  · exact free
  · have candidates : ((List.range (map.entries.length + 1)).map fun offset : Nat =>
        key + (offset : Int)).Nodup := by
      apply List.pairwise_map.mpr
      apply List.Pairwise.imp ?_ List.nodup_range
      intro first second different
      omega
    have inside : ((List.range (map.entries.length + 1)).map fun offset : Nat =>
        key + (offset : Int)) ⊆ map.entries.map Prod.fst := by
      intro candidate member
      rcases List.mem_map.mp member with ⟨offset, inRange, rfl⟩
      have bound := List.mem_range.mp inRange
      cases found : map.find (key + offset) with
      | none => exact absurd found (taken offset (by omega))
      | some value => exact List.mem_map.mpr ⟨_, mem_of_find found, rfl⟩
    have tooMany := candidates.length_le_of_subset inside
    simp only [List.length_map, List.length_range] at tooMany
    omega

/-! ## The entries around a range of keys -/

def ceiling (map : OrderedMap Value) (key : Int) : Option (Int × Value) :=
  map.entries.find? fun entry => key ≤ entry.1

theorem floor_of_entries {map : OrderedMap Value} {before after : List (Int × Value)} {key : Int}
    (split : map.entries = before ++ after) (early : ∀ entry ∈ before, entry.1 ≤ key)
    (late : ∀ entry ∈ after, key < entry.1) : map.floor key = before.getLast? := by
  have none : after.takeWhile (fun entry => decide (entry.1 ≤ key)) = [] := by
    cases after with
    | nil => rfl
    | cons first rest =>
        have first := late first List.mem_cons_self
        simp [first]
  rw [floor, split, List.takeWhile_append_of_pos
    fun entry member => decide_eq_true (early entry member), none, List.append_nil]

theorem ceiling_of_entries {map : OrderedMap Value} {before after : List (Int × Value)} {key : Int}
    (split : map.entries = before ++ after) (early : ∀ entry ∈ before, entry.1 < key)
    (late : ∀ entry ∈ after, key ≤ entry.1) : map.ceiling key = after.head? := by
  have skipped : before.find? (fun entry => decide (key ≤ entry.1)) = none := by
    rw [List.find?_eq_none]
    intro entry member
    have less := early entry member
    simp [less]
  rw [ceiling, split, List.find?_append, skipped, Option.none_or]
  cases after with
  | nil => rfl
  | cons first rest => simp [late first List.mem_cons_self]

theorem entries_insert {map : OrderedMap Value} {before after : List (Int × Value)} {key : Int}
    (value : Value) (split : map.entries = before ++ after)
    (early : ∀ entry ∈ before, entry.1 < key) (late : ∀ entry ∈ after, key < entry.1) :
    (map.insert key value).entries = before ++ (key, value) :: after := by
  have inserted : ∀ front, (∀ entry ∈ front, entry.1 < key) →
      insertEntry key value (front ++ after) = front ++ (key, value) :: after := by
    intro front
    induction front with
    | nil =>
        intro _
        cases after with
        | nil => rfl
        | cons first rest => simp [insertEntry, late first List.mem_cons_self]
    | cons first rest induction =>
        intro early
        have less := early first List.mem_cons_self
        rw [List.cons_append, insertEntry, if_neg (by omega), if_neg (by omega),
          induction fun entry member => early entry (List.mem_cons_of_mem first member)]
        rfl
  change insertEntry key value map.entries = _
  rw [split]
  exact inserted before early

theorem entries_erase {map : OrderedMap Value} {before after : List (Int × Value)}
    {key : Int} {value : Value} (split : map.entries = before ++ (key, value) :: after) :
    (map.erase key).entries = before ++ after := by
  have sorted := map.sorted
  rw [split, List.pairwise_append, List.pairwise_cons] at sorted
  rcases sorted with ⟨-, ⟨behind, -⟩, across⟩
  have keptBefore : before.filter (fun entry => entry.1 != key) = before := by
    rw [List.filter_eq_self]
    intro entry member
    have less := across entry member (key, value) List.mem_cons_self
    exact bne_iff_ne.mpr (Int.ne_of_lt less)
  have keptAfter : after.filter (fun entry => entry.1 != key) = after := by
    rw [List.filter_eq_self]
    intro entry member
    exact bne_iff_ne.mpr (Int.ne_of_gt (behind entry member))
  change map.entries.filter _ = _
  rw [split, List.filter_append, List.filter_cons, keptBefore, keptAfter]
  simp

end OrderedMap

end Cuttlefish
