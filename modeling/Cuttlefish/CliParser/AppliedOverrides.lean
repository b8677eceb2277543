import Cuttlefish.CliParser.OverriddenConfig
import Mathlib.Data.List.Induction

/-! # Which overrides are applied

One merge changes nothing beside the path of its override. Whether it writes the value there
depends on what stands on the path and on the numbers in the override. -/

namespace Cuttlefish.CliParser

open Json

/-! ## Looking up what was merged -/

theorem lookup_key {value : Json} {members : List (Text × Json)}
    (isObject : value.members? = some members) (name : Text) (path : List Step) :
    value.lookup (.key name :: path) = (member members name).lookup path := by
  cases value with
  | object other =>
      cases isObject
      rfl
  | null =>
      cases isObject
      rw [lookup_null]
      exact (lookup_null path).symm
  | _ => cases isObject

theorem lookup_index {value : Json} {elements : List Json}
    (isArray : value.elements? = some elements) (position : Nat) (path : List Step) :
    value.lookup (.index position :: path) = (element elements position).lookup path := by
  cases value with
  | array other =>
      cases isArray
      rfl
  | null =>
      cases isArray
      rw [lookup_null]
      exact (lookup_null path).symm
  | _ => cases isArray

def SameBeside (path : List Step) (before after : Json) : Prop :=
  ∀ other, Incomparable path other → after.lookup other = before.lookup other

theorem SameBeside.refl (path : List Step) (value : Json) : SameBeside path value value :=
  fun _ _ => rfl

theorem sameBeside_nil (before after : Json) : SameBeside [] before after :=
  fun _ incomparable => absurd List.nil_prefix incomparable.1

theorem SameBeside.setMember {dst merged : Json} {old : List (Text × Json)} {name : Text}
    {path : List Step} (isObject : dst.members? = some old)
    (same : SameBeside path (member old name) merged) :
    SameBeside (.key name :: path) dst (.object (Json.setMember old name merged)) := by
  intro other incomparable
  rcases incomparable.exists_cons with ⟨step, rest, rfl⟩
  cases step with
  | index position =>
      cases dst with
      | object members => rfl
      | null => rfl
      | _ => cases isObject
  | key key =>
      rw [lookup_key isObject, lookup_key rfl]
      by_cases isName : key = name
      · rw [isName, member_setMember_self]
        rw [isName] at incomparable
        exact same rest (incomparable_cons.mp incomparable)
      · rw [member_setMember_of_ne isName]

theorem SameBeside.setElement {dst merged : Json} {old : List Json} {position : Nat}
    {path : List Step} (isArray : dst.elements? = some old)
    (same : SameBeside path (element old position) merged) :
    SameBeside (.index position :: path) dst (.array (Json.setElement old position merged)) := by
  intro other incomparable
  rcases incomparable.exists_cons with ⟨step, rest, rfl⟩
  cases step with
  | key name =>
      cases dst with
      | array elements => rfl
      | null => rfl
      | _ => cases isArray
  | index index =>
      rw [lookup_index isArray, lookup_index rfl]
      by_cases isPosition : index = position
      · rw [isPosition, element_setElement_self]
        rw [isPosition] at incomparable
        exact same rest (incomparable_cons.mp incomparable)
      · rw [element_setElement_of_ne isPosition]

/-! ## One merge -/

/-- What stands on a path lets the leaf through to its end. An array that is too long for an
`int` is skipped, and elements that are no objects cannot be merged. -/
def Reaches (leaf : Json) : Json → List Step → Prop
  | dst, [.key _] => dst.members?.isSome
  | dst, .key name :: .key next :: path =>
      ∃ old, dst.members? = some old ∧ Reaches leaf (member old name) (.key next :: path)
  | dst, .key name :: .index position :: path =>
      if 2147483648 ≤ position + 1 then dst.lookup (.key name :: .index position :: path) = leaf
      else ∃ old elements, dst.members? = some old ∧ (member old name).elements? = some elements ∧
        Reaches leaf (element elements position) path
  | _, _ => False

theorem mergeTwoJsonObjs_key_key (leaf dst : Json) (name next : Text) (path : List Step) :
    mergeTwoJsonObjs dst (pathJson leaf (.key name :: .key next :: path)) =
      dst.members?.bind fun old =>
        (mergeTwoJsonObjs (member old name) (pathJson leaf (.key next :: path))).map fun merged =>
          .object (setMember old name merged) := by
  rw [pathJson, mergeTwoJsonObjs_singleton, pathJson, mergeMember_object]

theorem mergeTwoJsonObjs_key_index {position : Nat} (fits : position < 4294967296)
    (leaf dst : Json) (name : Text) (path : List Step) :
    mergeTwoJsonObjs dst (pathJson leaf (.key name :: .index position :: path)) =
      if 2147483648 ≤ position + 1 then some dst
      else dst.members?.bind fun old => (member old name).elements?.bind fun elements =>
        (mergeTwoJsonObjs (element elements position) (pathJson leaf path)).map fun merged =>
          .object (setMember old name (.array (setElement elements position merged))) := by
  rw [pathJson, mergeTwoJsonObjs_singleton, pathJson, mergeMember_array fits]

theorem lookup_setMember (members : List (Text × Json)) (name : Text) (value : Json)
    (path : List Step) :
    (object (setMember members name value)).lookup (.key name :: path) = value.lookup path := by
  have isObject : (object (setMember members name value)).members? =
      some (setMember members name value) := rfl
  rw [lookup_key isObject, member_setMember_self]

theorem lookup_setElement (elements : List Json) (position : Nat) (value : Json)
    (path : List Step) :
    (array (setElement elements position value)).lookup (.index position :: path) =
      value.lookup path := by
  have isArray : (array (setElement elements position value)).elements? =
      some (setElement elements position value) := rfl
  rw [lookup_index isArray, element_setElement_self]

/-- A merge at `dst` leaves what is beside the path alone, and writes the leaf exactly if
`Condition` holds. -/
structure MergesAt (leaf dst : Json) (path : List Step) (merged : Option Json)
    (Condition : Prop) : Prop where
  same : ∀ next, merged = some next → SameBeside path dst next
  writes : (∃ next, merged = some next ∧ next.lookup path = leaf) ↔ Condition

theorem MergesAt.key {leaf dst : Json} {old : List (Text × Json)} {name : Text} {path : List Step}
    {merged : Option Json} {Condition : Prop} (isObject : dst.members? = some old)
    (below : MergesAt leaf (member old name) path merged Condition) :
    MergesAt leaf dst (.key name :: path)
      (merged.map fun value => .object (setMember old name value)) Condition := by
  constructor
  · intro next isNext
    rcases Option.map_eq_some_iff.mp isNext with ⟨value, isValue, rfl⟩
    exact SameBeside.setMember isObject (below.same value isValue)
  · rw [← below.writes]
    cases merged with
    | none => simp
    | some value => simp [lookup_setMember]

theorem MergesAt.index {leaf dst : Json} {old : List Json} {position : Nat} {path : List Step}
    {merged : Option Json} {Condition : Prop} (isArray : dst.elements? = some old)
    (below : MergesAt leaf (element old position) path merged Condition) :
    MergesAt leaf dst (.index position :: path)
      (merged.map fun value => .array (setElement old position value)) Condition := by
  constructor
  · intro next isNext
    rcases Option.map_eq_some_iff.mp isNext with ⟨value, isValue, rfl⟩
    exact SameBeside.setElement isArray (below.same value isValue)
  · rw [← below.writes]
    cases merged with
    | none => simp
    | some value => simp [lookup_setElement]

theorem mergesAt_none {Condition : Prop} (leaf dst : Json) (path : List Step)
    (impossible : ¬ Condition) : MergesAt leaf dst path none Condition :=
  ⟨by simp, by simp [impossible]⟩

theorem mergesAt_unchanged (leaf dst : Json) (path : List Step) :
    MergesAt leaf dst path (some dst) (dst.lookup path = leaf) := by
  refine ⟨fun next isNext => ?_, by simp⟩
  cases isNext
  exact SameBeside.refl path dst

theorem mergesAt_path {leaf : Json} (scalar : IsScalar leaf) :
    ∀ (dst : Json) (path : List Step), (∀ step ∈ path, FitsIndex step) →
      MergesAt leaf dst path (mergeTwoJsonObjs dst (pathJson leaf path)) (Reaches leaf dst path)
  | dst, [], _ => by
      rw [pathJson, mergeTwoJsonObjs_leaf scalar]
      exact mergesAt_none leaf dst [] id
  | dst, .index position :: path, _ => by
      have isNone : mergeTwoJsonObjs dst (pathJson leaf (.index position :: path)) = none := by
        simp only [pathJson, mergeTwoJsonObjs]
      rw [isNone]
      exact mergesAt_none leaf dst _ id
  | dst, [.key name], _ => by
      rw [pathJson, mergeTwoJsonObjs_singleton, pathJson, mergeMember_leaf scalar, Reaches]
      cases isObject : dst.members? with
      | none => exact mergesAt_none leaf dst _ Bool.false_ne_true
      | some old =>
          have written : MergesAt leaf (member old name) [] (some leaf) True :=
            ⟨fun next _ => sameBeside_nil _ next, by simp⟩
          simpa using written.key isObject
  | dst, .key name :: .key next :: path, fits => by
      rw [mergeTwoJsonObjs_key_key, Reaches]
      cases isObject : dst.members? with
      | none => exact mergesAt_none leaf dst _ (by simp)
      | some old =>
          have below := mergesAt_path scalar (member old name) (.key next :: path)
            fun step isStep => fits step (List.mem_cons_of_mem _ isStep)
          simpa using below.key isObject
  | dst, .key name :: .index position :: path, fits => by
      rw [mergeTwoJsonObjs_key_index (fits (.index position) (by simp)), Reaches]
      by_cases tooLong : 2147483648 ≤ position + 1
      · rw [if_pos tooLong, if_pos tooLong]
        exact mergesAt_unchanged leaf dst _
      rw [if_neg tooLong, if_neg tooLong]
      cases isObject : dst.members? with
      | none => exact mergesAt_none leaf dst _ (by simp)
      | some old =>
          rw [Option.bind_some]
          cases isArray : (member old name).elements? with
          | none =>
              refine mergesAt_none leaf dst _ ?_
              rintro ⟨other, elements, isOther, isElements, -⟩
              cases isOther
              rw [isArray] at isElements
              cases isElements
          | some elements =>
              have below := mergesAt_path scalar (element elements position) path
                fun step isStep => fits step (by simp [isStep])
              simpa [isArray, Function.comp_def] using (below.index isArray).key isObject

/-! ## A list of overrides -/

def typedValue (newValue : Text) : Json :=
  match getArgValueType newValue with
  | .uinteger => .int (Decimal.digitsValue newValue)
  | .boolean => .bool (newValue = "true".toList)
  | .text => .string newValue

/-- The value and the indices of an override are numbers that fit. -/
def Override.Fits (override : Override) : Prop :=
  (leafJson override.newValue).isSome ∧ ∀ step ∈ override.path, FitsIndex step

instance (override : Override) : Decidable override.Fits := inferInstanceAs (Decidable (_ ∧ _))

/-- An override whose numbers do not fit is merged as null, which changes nothing. -/
def Writable (dst : Json) (override : Override) : Prop :=
  if override.Fits then Reaches (typedValue override.newValue) dst override.path
  else dst.lookup override.path = typedValue override.newValue

theorem leafJson_eq {newValue : Text} {leaf : Json} (isLeaf : leafJson newValue = some leaf) :
    leaf = typedValue newValue := by
  rw [typedValue]
  rw [leafJson] at isLeaf
  cases isType : getArgValueType newValue with
  | uinteger =>
      rw [isType] at isLeaf
      rcases Option.map_eq_some_iff.mp isLeaf with ⟨value, isValue, rfl⟩
      simp only [simpleAtoi] at isValue
      split at isValue
      · rw [← Option.some.inj isValue]
      · cases isValue
  | boolean =>
      rw [isType] at isLeaf
      exact (Option.some.inj isLeaf).symm
  | text =>
      rw [isType] at isLeaf
      exact (Option.some.inj isLeaf).symm

theorem mergesAt_override (dst : Json) (override : Override) :
    MergesAt (typedValue override.newValue) dst override.path
      (mergeTwoJsonObjs dst (overrideToJson override)) (Writable dst override) := by
  rw [Writable]
  by_cases fits : override.Fits
  · rcases Option.isSome_iff_exists.mp fits.1 with ⟨leaf, isLeaf⟩
    rw [if_pos fits, overrideToJson_eq isLeaf, if_pos fits.2, ← leafJson_eq isLeaf]
    exact mergesAt_path (isScalar_leafJson isLeaf) dst override.path fits.2
  · have ignored : overrideToJson override = .null := by
      cases isLeaf : leafJson override.newValue with
      | none => rw [overrideToJson, isLeaf]
      | some leaf =>
          have tooLarge : ¬ ∀ step ∈ override.path, FitsIndex step := fun small =>
            fits ⟨Option.isSome_iff_exists.mpr ⟨leaf, isLeaf⟩, small⟩
          rw [overrideToJson_eq isLeaf, if_neg tooLarge]
    rw [if_neg fits, ignored, mergeTwoJsonObjs_null]
    exact mergesAt_unchanged _ dst override.path

/-- One turn of the loop of `GetOverriddenConfig`. -/
def mergeOverride (dst : Json) (override : Override) : Option Json :=
  mergeTwoJsonObjs dst (overrideToJson override)

theorem getOverriddenConfig_eq_run (config : Json) (overrideFlags : List Override) :
    getOverriddenConfig config overrideFlags = Run.run mergeOverride config overrideFlags := by
  rw [getOverriddenConfig]
  induction overrideFlags generalizing config with
  | nil => rfl
  | cons flag flags induction =>
      rw [List.foldlM_cons, Run.run, mergeOverride]
      cases mergeTwoJsonObjs config (overrideToJson flag) with
      | none => rfl
      | some next => exact induction next

/-- An override that no later one touches has its value, and what is beside all of them is as in
the config. -/
structure Overridden (config : Json) (overrideFlags : List Override) (result : Json) : Prop where
  values : ∀ earlier override later, overrideFlags = earlier ++ override :: later →
    (∀ other ∈ later, Incomparable other.path override.path) →
      result.lookup override.path = typedValue override.newValue
  others : ∀ path, (∀ override ∈ overrideFlags, Incomparable override.path path) →
    result.lookup path = config.lookup path

theorem Overridden.nil (config : Json) : Overridden config [] config :=
  ⟨fun earlier _ _ isNil _ => absurd isNil.symm (by simp), fun _ _ => rfl⟩

theorem Overridden.concat_iff {config before after : Json} {flags : List Override}
    {override : Override} (overridden : Overridden config flags before)
    (same : SameBeside override.path before after) :
    Overridden config (flags ++ [override]) after ↔
      after.lookup override.path = typedValue override.newValue := by
  constructor
  · intro all
    exact all.values flags override [] rfl (by simp)
  · intro written
    constructor
    · intro earlier flag later isList untouched
      rcases List.eq_nil_or_concat later with rfl | ⟨rest, last, rfl⟩
      · rcases List.append_inj' isList rfl with ⟨rfl, isLast⟩
        cases isLast
        exact written
      · rw [List.concat_eq_append, ← List.cons_append, ← List.append_assoc] at isList
        rcases List.append_inj' isList rfl with ⟨rfl, isLast⟩
        cases isLast
        rw [same flag.path (untouched override (by simp))]
        exact overridden.values earlier flag rest rfl fun other isOther =>
          untouched other (by simp [isOther])
    · intro path incomparable
      rw [same path (incomparable override (by simp))]
      exact overridden.others path fun flag isFlag => incomparable flag (by simp [isFlag])

/-- A list of overrides is carried as far as it goes, for every list that it starts with, exactly
if each of them meets a config in which its path can be written. -/
theorem overridden_iff (config : Json) (overrideFlags : List Override) :
    (∀ done, done <+: overrideFlags →
      ∃ result, getOverriddenConfig config done = some result ∧ Overridden config done result) ↔
    Run.Throughout mergeOverride Writable config overrideFlags := by
  simp only [getOverriddenConfig_eq_run]
  induction overrideFlags using List.reverseRecOn with
  | nil =>
      refine ⟨fun _ => trivial, fun _ done isPrefix => ?_⟩
      rw [List.prefix_nil.mp isPrefix]
      exact ⟨config, rfl, Overridden.nil config⟩
  | append_singleton flags override induction =>
      simp only [Run.throughout_concat, ← induction, List.prefix_concat_iff]
      constructor
      · intro all
        refine ⟨fun done isPrefix => all done (.inr isPrefix), fun before reached => ?_⟩
        rcases all _ (.inl rfl) with ⟨after, reachedAfter, overridden⟩
        rw [Run.run_concat, reached] at reachedAfter
        exact (mergesAt_override before override).writes.mp
          ⟨after, reachedAfter, overridden.values flags override [] rfl (by simp)⟩
      · rintro ⟨all, writable⟩ done (rfl | isPrefix)
        · rcases all flags (List.prefix_refl flags) with ⟨before, reached, overridden⟩
          rcases (mergesAt_override before override).writes.mpr (writable before reached) with
            ⟨after, merged, written⟩
          refine ⟨after, ?_, (overridden.concat_iff
            ((mergesAt_override before override).same after merged)).mpr written⟩
          rw [Run.run_concat, reached]
          exact merged
        · exact all done isPrefix

/-- The element is no object, and the program ends. -/
theorem element_override_aborts :
    overrideSetter "a.0:5".toList = some ⟨"a.0".toList, "5".toList⟩ ∧
      getOverriddenConfig (.object []) [⟨"a.0".toList, "5".toList⟩] = none := by
  constructor
  · decide
  · rfl

end Cuttlefish.CliParser
