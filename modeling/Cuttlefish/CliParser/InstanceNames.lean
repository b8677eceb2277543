import Cuttlefish.Foundation.Decimal
import Mathlib.Data.List.Forall2
import Mathlib.Data.List.Nodup

/-! # Names of the instances

`FillEmptyInstanceNames` in `load_configs_parser.cpp`: an instance without a name gets the next
number that nobody uses. -/

namespace Cuttlefish.CliParser.InstanceNames

/-! ## The specification -/

section

variable {Fields Common : Type}

/-- An instance: its name, empty when it has none, and its other fields. -/
structure Instance (Fields : Type) where
  name : Text
  fields : Fields
  deriving DecidableEq

structure EnvironmentSpecification (Fields Common : Type) where
  instances : List (Instance Fields)
  common : Common
  deriving DecidableEq

def toString (index : Nat) : Text := Decimal.print index

def usedNames (instances : List (Instance Fields)) : List Text :=
  (instances.map (·.name)).filter fun name => !name.isEmpty

def freeIndex (used : List Text) : Nat → Nat → Option Nat
  | 0, _ => none
  | fuel + 1, index =>
      if toString index ∈ used then freeIndex used fuel (index + 1) else some index

def fillNames (fuel : Nat) : List Text → Nat → List (Instance Fields) →
    Option (List (Instance Fields))
  | _, _, [] => some []
  | used, index, ins :: rest =>
      if ins.name ≠ [] then (fillNames fuel used index rest).map (ins :: ·)
      else do
        let free ← freeIndex used fuel index
        let name := toString free
        let filled ← fillNames fuel (name :: used) (free + 1) rest
        pure (⟨name, ins.fields⟩ :: filled)

def fillEmptyInstanceNames (fuel : Nat) (envSpec : EnvironmentSpecification Fields Common) :
    Option (EnvironmentSpecification Fields Common) := do
  let instances ← fillNames fuel (usedNames envSpec.instances) 1 envSpec.instances
  pure ⟨instances, envSpec.common⟩

/-! ## The numerals -/

theorem toString_injective {index other : Nat} (equal : toString index = toString other) :
    index = other := by
  have scanned := congrArg Decimal.scan equal
  rw [toString, toString, Decimal.scan_print, Decimal.scan_print] at scanned
  exact Int.ofNat.inj (Option.some.inj scanned)

theorem toString_ne_nil (index : Nat) : toString index ≠ [] := Nat.toDigits_ne_nil

theorem length_le_of_numerals {used : List Text} {start count : Nat}
    (all : ∀ index, start ≤ index → index < start + count → toString index ∈ used) :
    count ≤ used.length := by
  have distinct : ((List.range' start count).map toString).Nodup :=
    List.Nodup.map (fun _ _ equal => toString_injective equal) List.nodup_range'
  have inUsed : (List.range' start count).map toString ⊆ used := by
    intro name member
    obtain ⟨index, inRange, isName⟩ := List.mem_map.mp member
    rw [← isName]
    have bounds := List.mem_range'_1.mp inRange
    exact all index bounds.1 bounds.2
  simpa using distinct.length_le_of_subset inUsed

/-! ## One search -/

structure FirstFree (used : List Text) (index free : Nat) : Prop where
  le : index ≤ free
  notUsed : toString free ∉ used
  below : ∀ number, index ≤ number → number < free → toString number ∈ used

theorem FirstFree.of_succ {used : List Text} {index free : Nat}
    (isUsed : toString index ∈ used) (found : FirstFree used (index + 1) free) :
    FirstFree used index free := by
  constructor
  · have := found.le
    omega
  · exact found.notUsed
  · intro number atLeast below
    by_cases first : number = index
    · rw [first]
      exact isUsed
    · exact found.below number (by omega) below

theorem freeIndex_cases (used : List Text) (fuel index : Nat) :
    (∃ free, freeIndex used fuel index = some free ∧ FirstFree used index free) ∨
      ∀ number, index ≤ number → number < index + fuel → toString number ∈ used := by
  induction fuel generalizing index with
  | zero =>
      right
      intro number atLeast below
      omega
  | succ fuel induction =>
      rw [freeIndex]
      by_cases isUsed : toString index ∈ used
      · rw [if_pos isUsed]
        rcases induction (index + 1) with ⟨free, found, isFree⟩ | all
        · exact .inl ⟨free, found, isFree.of_succ isUsed⟩
        · right
          intro number atLeast below
          by_cases first : number = index
          · rw [first]
            exact isUsed
          · exact all number (by omega) (by omega)
      · rw [if_neg isUsed]
        refine .inl ⟨index, rfl, Nat.le_refl index, isUsed, ?_⟩
        intro number atLeast below
        omega

theorem FirstFree.unique {used : List Text} {index free other : Nat}
    (isFree : FirstFree used index free) (isOther : FirstFree used index other) :
    free = other := by
  rcases Nat.lt_trichotomy free other with less | equal | greater
  · exact absurd (isOther.below free isFree.le less) isFree.notUsed
  · exact equal
  · exact absurd (isFree.below other isOther.le greater) isOther.notUsed

theorem freeIndex_found (used : List Text) (index : Nat) :
    ∃ free, FirstFree used index free ∧
      ∀ fuel, used.length < fuel → freeIndex used fuel index = some free := by
  have enough : ∀ fuel, used.length < fuel →
      ∃ free, freeIndex used fuel index = some free ∧ FirstFree used index free := by
    intro fuel more
    rcases freeIndex_cases used fuel index with found | all
    · exact found
    · have tooMany := length_le_of_numerals all
      omega
  obtain ⟨free, _, isFree⟩ := enough (used.length + 1) (Nat.lt_succ_self _)
  refine ⟨free, isFree, ?_⟩
  intro fuel more
  obtain ⟨other, found, isOther⟩ := enough fuel more
  rw [found, isFree.unique isOther]

/-! ## All the searches -/

def Named (before after : Instance Fields) : Prop :=
  after.fields = before.fields ∧ after.name ≠ [] ∧ (before.name ≠ [] → after.name = before.name)

/-- Every instance has got a name. The new names are numerals up to a bound that are not among the
used names, and a new name is the name of no other instance. -/
structure Filled (used : List Text) (bound : Nat) (before after : List (Instance Fields)) :
    Prop where
  named : List.Forall₂ Named before after
  numeral : ∀ (position : Nat) (ins filled : Instance Fields), before[position]? = some ins →
    ins.name = [] → after[position]? = some filled →
    filled.name ∉ used ∧ ∃ index, 1 ≤ index ∧ index ≤ bound ∧ filled.name = toString index
  distinct : ∀ (position other : Nat) (ins filled another : Instance Fields),
    before[position]? = some ins → ins.name = [] → after[position]? = some filled →
    after[other]? = some another → position ≠ other → filled.name ≠ another.name

theorem Filled.nil (used : List Text) (bound : Nat) :
    Filled used bound ([] : List (Instance Fields)) [] := by
  constructor
  · exact .nil
  · intro position ins filled isIns
    simp at isIns
  · intro position other ins filled another isIns
    simp at isIns

theorem Filled.name_cases {used : List Text} {bound position : Nat}
    {before after : List (Instance Fields)} {filled : Instance Fields}
    (isFilled : Filled used bound before after) (isAfter : after[position]? = some filled) :
    filled.name ∉ used ∨ ∃ old ∈ before, old.name ≠ [] ∧
      filled.name = old.name := by
  have sameLength := isFilled.named.length_eq
  have inAfter : position < after.length := (List.getElem?_eq_some_iff.mp isAfter).1
  have inBefore : position < before.length := by omega
  have isBefore := List.getElem?_eq_getElem inBefore
  by_cases unnamed : before[position].name = []
  · exact .inl (isFilled.numeral _ _ _ isBefore unnamed isAfter).1
  · right
    have kept := (isFilled.named.get inBefore inAfter).2.2 unnamed
    have isElement := (List.getElem?_eq_some_iff.mp isAfter).2
    rw [List.get_eq_getElem, isElement] at kept
    exact ⟨_, List.getElem_mem inBefore, unnamed, kept⟩

theorem Filled.keep {used : List Text} {bound : Nat} {before after : List (Instance Fields)}
    {ins : Instance Fields} (isNamed : ins.name ≠ []) (isUsed : ins.name ∈ used)
    (filled : Filled used bound before after) :
    Filled used bound (ins :: before) (ins :: after) := by
  constructor
  · exact .cons ⟨rfl, isNamed, fun _ => rfl⟩ filled.named
  · intro position old new isOld unnamed isNew
    cases position with
    | zero =>
        rw [List.getElem?_cons_zero] at isOld
        rw [← Option.some.inj isOld] at unnamed
        exact absurd unnamed isNamed
    | succ position => exact filled.numeral position old new isOld unnamed isNew
  · intro position other old new another isOld unnamed isNew isAnother different
    cases position with
    | zero =>
        rw [List.getElem?_cons_zero] at isOld
        rw [← Option.some.inj isOld] at unnamed
        exact absurd unnamed isNamed
    | succ position =>
        cases other with
        | zero =>
            rw [List.getElem?_cons_zero] at isAnother
            rw [← Option.some.inj isAnother]
            intro same
            have notUsed := (filled.numeral position old new isOld unnamed isNew).1
            rw [same] at notUsed
            exact notUsed isUsed
        | succ other =>
            have apart : position ≠ other := by omega
            exact filled.distinct position other old new another isOld unnamed isNew isAnother apart

theorem Filled.fill {used : List Text} {bound index : Nat} {before after : List (Instance Fields)}
    {ins : Instance Fields} (unnamed : ins.name = []) (notUsed : toString index ∉ used)
    (atLeast : 1 ≤ index) (atMost : index ≤ bound)
    (given : ∀ old ∈ before, old.name ≠ [] → old.name ∈ used)
    (filled : Filled (toString index :: used) bound before after) :
    Filled used bound (ins :: before) (⟨toString index, ins.fields⟩ :: after) := by
  have apart : ∀ (position : Nat) (another : Instance Fields), after[position]? = some another →
      toString index ≠ another.name := by
    intro position another isAnother same
    rcases filled.name_cases isAnother with new | ⟨old, isOld, isNamed, kept⟩
    · apply new
      rw [← same]
      exact List.mem_cons_self
    · apply notUsed
      rw [same, kept]
      exact given old isOld isNamed
  constructor
  · exact .cons ⟨rfl, toString_ne_nil index, fun isNamed => absurd unnamed isNamed⟩ filled.named
  · intro position old new isOld isUnnamed isNew
    cases position with
    | zero =>
        rw [List.getElem?_cons_zero] at isNew
        rw [← Option.some.inj isNew]
        exact ⟨notUsed, index, atLeast, atMost, rfl⟩
    | succ position =>
        obtain ⟨notLater, number, isNumeral⟩ := filled.numeral position old new isOld isUnnamed isNew
        exact ⟨fun isUsed => notLater (List.mem_cons_of_mem _ isUsed), number, isNumeral⟩
  · intro position other old new another isOld isUnnamed isNew isAnother different
    cases position with
    | zero =>
        cases other with
        | zero => exact absurd rfl different
        | succ other =>
            rw [List.getElem?_cons_zero] at isNew
            rw [← Option.some.inj isNew]
            exact apart other another isAnother
    | succ position =>
        cases other with
        | zero =>
            rw [List.getElem?_cons_zero] at isAnother
            rw [← Option.some.inj isAnother]
            exact fun same => apart position new isNew same.symm
        | succ other =>
            have apart : position ≠ other := by omega
            exact filled.distinct position other old new another isOld isUnnamed isNew isAnother
              apart

/-! ## The whole loop -/

def unnamedCount (instances : List (Instance Fields)) : Nat :=
  instances.countP fun ins => ins.name.isEmpty

/-- The invariant of the loop: the given names are used, and so are all the numerals below the
counter. The counter then is never far above the number of used names. -/
structure Counting (used : List Text) (index : Nat) (instances : List (Instance Fields)) :
    Prop where
  given : ∀ ins ∈ instances, ins.name ≠ [] → ins.name ∈ used
  atLeast : 1 ≤ index
  below : ∀ number, 1 ≤ number → number < index → toString number ∈ used

theorem Counting.tail {used : List Text} {index : Nat} {ins : Instance Fields}
    {rest : List (Instance Fields)} (counting : Counting used index (ins :: rest)) :
    Counting used index rest :=
  ⟨fun ins member => counting.given ins (List.mem_cons_of_mem _ member), counting.atLeast,
    counting.below⟩

theorem Counting.below_free {used : List Text} {index free : Nat}
    {instances : List (Instance Fields)} (counting : Counting used index instances)
    (isFree : FirstFree used index free) {number : Nat} (atLeast : 1 ≤ number)
    (below : number < free) : toString number ∈ used := by
  by_cases first : number < index
  · exact counting.below number atLeast first
  · exact isFree.below number (by omega) below

theorem Counting.step {used : List Text} {index free : Nat} {ins : Instance Fields}
    {rest : List (Instance Fields)} (counting : Counting used index (ins :: rest))
    (isFree : FirstFree used index free) :
    Counting (toString free :: used) (free + 1) rest := by
  constructor
  · intro other member isNamed
    exact List.mem_cons_of_mem _ (counting.tail.given other member isNamed)
  · omega
  · intro number atLeast below
    by_cases last : number = free
    · rw [last]
      exact List.mem_cons_self
    · exact List.mem_cons_of_mem _ (counting.below_free isFree atLeast (by omega))

theorem Counting.free_le {used : List Text} {index free : Nat}
    {instances : List (Instance Fields)} (counting : Counting used index instances)
    (isFree : FirstFree used index free) : free ≤ used.length + 1 := by
  have all : ∀ number, 1 ≤ number → number < 1 + (free - 1) → toString number ∈ used := by
    intro number atLeast below
    exact counting.below_free isFree atLeast (by omega)
  have short := length_le_of_numerals all
  omega

theorem fillNames_filled {bound : Nat} {before : List (Instance Fields)}
    {used : List Text} {index : Nat} (counting : Counting used index before)
    (enough : used.length + unnamedCount before ≤ bound) :
    ∃ after, Filled used bound before after ∧
      ∀ fuel, bound ≤ fuel → fillNames fuel used index before = some after := by
  induction before generalizing used index with
  | nil => exact ⟨[], .nil used bound, fun _ _ => rfl⟩
  | cons ins rest induction =>
      by_cases isNamed : ins.name ≠ []
      · have fewer : used.length + unnamedCount rest ≤ bound := by
          simpa [unnamedCount, isNamed] using enough
        obtain ⟨after, isFilled, filledRest⟩ := induction counting.tail fewer
        have isUsed := counting.given ins List.mem_cons_self isNamed
        refine ⟨ins :: after, isFilled.keep isNamed isUsed, ?_⟩
        intro fuel looks
        rw [fillNames, if_pos isNamed, filledRest fuel looks]
        rfl
      · have unnamed : ins.name = [] := Decidable.not_not.mp isNamed
        have counted : unnamedCount (ins :: rest) = unnamedCount rest + 1 := by
          simp [unnamedCount, unnamed]
        obtain ⟨free, isFree, found⟩ := freeIndex_found used index
        have fewer : (toString free :: used).length + unnamedCount rest ≤ bound := by
          rw [List.length_cons]
          omega
        obtain ⟨after, isFilled, filledRest⟩ := induction (counting.step isFree) fewer
        have small := counting.free_le isFree
        have atLeast := counting.atLeast
        have atFree := isFree.le
        refine ⟨⟨toString free, ins.fields⟩ :: after, isFilled.fill unnamed isFree.notUsed
          (by omega) (by omega) counting.tail.given, ?_⟩
        intro fuel looks
        have searched := found fuel (by omega)
        rw [fillNames, if_neg isNamed, searched, Option.bind_eq_bind, Option.bind_some]
        dsimp only
        rw [filledRest fuel looks]
        rfl

theorem counting_usedNames (instances : List (Instance Fields)) :
    Counting (usedNames instances) 1 instances := by
  constructor
  · intro ins member isNamed
    apply List.mem_filter.mpr
    exact ⟨List.mem_map_of_mem member, by simpa using isNamed⟩
  · exact Nat.le_refl 1
  · intro number atLeast below
    omega

theorem length_usedNames (instances : List (Instance Fields)) :
    (usedNames instances).length + unnamedCount instances = instances.length := by
  induction instances with
  | nil => rfl
  | cons ins rest induction =>
      rw [usedNames, unnamedCount] at induction
      rw [usedNames, unnamedCount, List.map_cons, List.countP_cons, List.length_cons]
      cases named : ins.name with
      | nil =>
          simp only [List.filter_cons, List.isEmpty_nil, Bool.not_true, Bool.false_eq_true,
            if_false, if_true]
          omega
      | cons first name =>
          simp only [List.filter_cons, List.isEmpty_cons, Bool.not_false, if_true,
            List.length_cons, Bool.false_eq_true, if_false]
          omega

/-- As many looks in a search as there are instances are enough. The common part, the order, the
other fields and the given names stay; the new names are numerals up to the number of instances,
which an `int` counts. -/
theorem fillEmptyInstanceNames_filled (envSpec : EnvironmentSpecification Fields Common) :
    ∃ result, (∀ fuel, envSpec.instances.length ≤ fuel →
        fillEmptyInstanceNames fuel envSpec = some result) ∧
      result.common = envSpec.common ∧
      Filled (usedNames envSpec.instances) envSpec.instances.length envSpec.instances
        result.instances := by
  have counting := counting_usedNames envSpec.instances
  have counted := Nat.le_of_eq (length_usedNames envSpec.instances)
  obtain ⟨after, isFilled, filled⟩ := fillNames_filled counting counted
  refine ⟨⟨after, envSpec.common⟩, ?_, rfl, isFilled⟩
  intro fuel looks
  rw [fillEmptyInstanceNames, filled fuel looks]
  rfl

end

/-- The numeral that the user chose is skipped. -/
example : fillEmptyInstanceNames 3 ⟨[⟨[], 10⟩, ⟨['2'], 20⟩, ⟨[], 30⟩], ()⟩ =
    some ⟨[⟨['1'], 10⟩, ⟨['2'], 20⟩, ⟨['3'], 30⟩], ()⟩ := by decide +kernel

end Cuttlefish.CliParser.InstanceNames
