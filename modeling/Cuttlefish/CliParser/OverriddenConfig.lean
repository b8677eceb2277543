import Cuttlefish.CliParser.Overrides
import Cuttlefish.Foundation.Run

/-! # What an overridden config holds

When an override can be merged, its path has its value and paths beside it have theirs. -/

namespace Cuttlefish.CliParser

open Json

/-! ## The path of an override -/

def toStep (level : Text) : Step :=
  if isUnsignedInteger level then .index (Decimal.digitsValue level) else .key level

def Override.path (override : Override) : List Step := (levels override.configPath).map toStep

def FitsIndex : Step → Prop
  | .key _ => True
  | .index position => position < 4294967296

instance : DecidablePred FitsIndex
  | .key _ => isTrue trivial
  | .index position => inferInstanceAs (Decidable (position < 4294967296))

def pathJson (leaf : Json) : List Step → Json
  | [] => leaf
  | .key name :: path => .object [(name, pathJson leaf path)]
  | .index position :: path => .array (List.replicate position .null ++ [pathJson leaf path])

theorem nest_eq (level : Text) (leaf : Json) :
    nest level leaf =
      if FitsIndex (toStep level) then some (pathJson leaf [toStep level]) else none := by
  rw [nest, toStep, getArgValueType]
  cases isUnsignedInteger level with
  | true =>
      simp only [if_true, simpleAtoi, FitsIndex]
      split <;> rfl
  | false =>
      rw [if_neg Bool.false_ne_true, if_neg Bool.false_ne_true]
      by_cases truth : level = "true".toList ∨ level = "false".toList
      · rw [if_pos truth]
        rfl
      · rw [if_neg truth]
        rfl

theorem foldr_nest (leaf : Json) (tokens : List Text) :
    tokens.foldr (fun level json => json.bind (nest level)) (some leaf) =
      if ∀ step ∈ tokens.map toStep, FitsIndex step then some (pathJson leaf (tokens.map toStep))
      else none := by
  induction tokens with
  | nil => rfl
  | cons level tokens induction =>
      rw [List.foldr_cons, induction, List.map_cons]
      by_cases rest : ∀ step ∈ tokens.map toStep, FitsIndex step
      · rw [if_pos rest, Option.bind_some, nest_eq]
        by_cases fits : FitsIndex (toStep level)
        · rw [if_pos fits, if_pos (List.forall_mem_cons.mpr ⟨fits, rest⟩)]
          cases toStep level <;> rfl
        · rw [if_neg fits, if_neg fun both => fits (List.forall_mem_cons.mp both).1]
      · rw [if_neg rest, if_neg fun both => rest (List.forall_mem_cons.mp both).2]
        rfl

theorem overrideToJson_eq {override : Override} {leaf : Json}
    (isLeaf : leafJson override.newValue = some leaf) :
    overrideToJson override =
      if ∀ step ∈ override.path, FitsIndex step then pathJson leaf override.path else .null := by
  rw [overrideToJson, isLeaf]
  dsimp only
  rw [foldr_nest, Override.path]
  split <;> rfl

def IsScalar : Json → Prop
  | .int _ | .bool _ | .string _ => True
  | _ => False

theorem isScalar_leafJson {newValue : Text} {leaf : Json} (isLeaf : leafJson newValue = some leaf) :
    IsScalar leaf := by
  rw [leafJson] at isLeaf
  split at isLeaf
  · rcases Option.map_eq_some_iff.mp isLeaf with ⟨value, -, rfl⟩
    trivial
  · cases isLeaf
    trivial
  · cases isLeaf
    trivial

/-! ## Elements -/

def pad (elements : List Json) (length : Nat) : List Json :=
  elements ++ List.replicate (length - elements.length) Json.null

theorem element_pad (elements : List Json) (length position : Nat) :
    element (pad elements length) position = element elements position := by
  unfold element pad
  by_cases inside : position < elements.length
  · rw [List.getElem?_append_left inside]
  · rw [List.getElem?_append_right (Nat.le_of_not_lt inside),
      List.getElem?_eq_none (Nat.le_of_not_lt inside)]
    rw [List.getElem?_replicate]
    split <;> rfl

theorem setElement_pad_self (elements : List Json) (length : Nat) :
    setElement (pad elements length) length (element elements length) =
      pad elements (length + 1) := by
  by_cases inside : length < elements.length
  · have same : pad elements length = elements := by
      simp [pad, Nat.sub_eq_zero_of_le (Nat.le_of_lt inside)]
    have sameNext : pad elements (length + 1) = elements := by
      simp [pad, Nat.sub_eq_zero_of_le inside]
    rw [same, sameNext, setElement, if_pos inside, element, List.getElem?_eq_getElem inside]
    exact List.set_getElem_self inside
  · have outside := Nat.le_of_not_lt inside
    have size : (pad elements length).length = length := by
      simp [pad, Nat.add_sub_cancel' outside]
    have missing : element elements length = .null := by
      rw [element, List.getElem?_eq_none outside]
      rfl
    rw [setElement, size, if_neg (Nat.lt_irrefl _), missing, Nat.sub_self, List.replicate_zero,
      List.append_nil, pad, pad, Nat.succ_sub outside, List.replicate_succ', List.append_assoc]

theorem setElement_pad (elements : List Json) (position : Nat) (value : Json) :
    setElement (pad elements position) position value = setElement elements position value := by
  by_cases inside : position < elements.length
  · have same : pad elements position = elements := by
      simp [pad, Nat.sub_eq_zero_of_le (Nat.le_of_lt inside)]
    rw [same]
  · have outside := Nat.le_of_not_lt inside
    have size : (pad elements position).length = position := by
      simp [pad, Nat.add_sub_cancel' outside]
    rw [setElement, size, if_neg (Nat.lt_irrefl _), Nat.sub_self, List.replicate_zero,
      List.append_nil, setElement, if_neg inside, pad]

theorem mergeTwoJsonObjs_null (dst : Json) : mergeTwoJsonObjs dst .null = some dst := by
  simp only [mergeTwoJsonObjs]

theorem mergeElements_pad (elements : List Json) (value : Json) (count start : Nat) :
    mergeElements (.array (pad elements start)) start (List.replicate count Json.null ++ [value]) =
      (mergeTwoJsonObjs (element elements (start + count)) value).map fun merged =>
        .array (setElement elements (start + count) merged) := by
  induction count generalizing start with
  | zero =>
      rw [List.replicate_zero, List.nil_append, mergeElements]
      simp only [elements?, element_pad, Nat.add_zero]
      cases mergeTwoJsonObjs (element elements start) value with
      | none => rfl
      | some merged =>
          simp only [mergeElements, setElement_pad]
          rfl
  | succ count induction =>
      rw [List.replicate_succ, List.cons_append, mergeElements]
      simp only [elements?, element_pad, mergeTwoJsonObjs_null, setElement_pad_self]
      rw [induction, Nat.add_right_comm, Nat.add_assoc]

theorem mergeElements_cons {dst : Json} {elements : List Json}
    (isArray : dst.elements? = some elements) (position : Nat) (value : Json)
    (values : List Json) :
    mergeElements dst position (value :: values) =
      mergeElements (.array elements) position (value :: values) := by
  rw [mergeElements, mergeElements, isArray]
  rfl

theorem mergeElements_replicate {dst : Json} {elements : List Json}
    (isArray : dst.elements? = some elements) (value : Json) (position : Nat) :
    mergeElements dst 0 (List.replicate position Json.null ++ [value]) =
      (mergeTwoJsonObjs (element elements position) value).map fun merged =>
        .array (setElement elements position merged) := by
  have start := mergeElements_pad elements value position 0
  have unpadded : pad elements 0 = elements := by simp [pad]
  rw [unpadded, Nat.zero_add] at start
  rw [← start]
  cases position with
  | zero => exact mergeElements_cons isArray 0 value []
  | succ position =>
      rw [List.replicate_succ, List.cons_append]
      exact mergeElements_cons isArray 0 .null _

/-! ## Merging a path -/

section MergePath

variable {leaf : Json} (scalar : IsScalar leaf)

include scalar

theorem mergeTwoJsonObjs_leaf (dst : Json) : mergeTwoJsonObjs dst leaf = none := by
  cases leaf <;> first | exact scalar.elim | simp only [mergeTwoJsonObjs]

theorem mergeMember_leaf (dst : Json) (name : Text) :
    mergeMember dst name leaf =
      dst.members?.map fun old => .object (setMember old name leaf) := by
  cases leaf <;>
    first
    | exact scalar.elim
    | (simp only [mergeMember]; cases dst.members? <;> rfl)

end MergePath

theorem mergeTwoJsonObjs_singleton (dst : Json) (name : Text) (value : Json) :
    mergeTwoJsonObjs dst (.object [(name, value)]) = mergeMember dst name value := by
  simp only [mergeTwoJsonObjs, mergeMembers]
  cases mergeMember dst name value <;> rfl

theorem mergeMember_object (dst : Json) (name : Text) (members : List (Text × Json)) :
    mergeMember dst name (.object members) =
      dst.members?.bind fun old =>
        (mergeTwoJsonObjs (member old name) (.object members)).map fun merged =>
          .object (setMember old name merged) := by
  simp only [mergeMember, mergeTwoJsonObjs]
  cases dst.members? with
  | none => rfl
  | some old =>
      simp only [Option.bind_some]
      cases mergeMembers (member old name) members <;> rfl

theorem sizeAsInt_padded {position : Nat} (fits : position < 4294967296) (value : Json) :
    sizeAsInt (List.replicate position Json.null ++ [value]) ≤ 0 ↔ 2147483648 ≤ position + 1 := by
  have size : (List.replicate position Json.null ++ [value]).length = position + 1 := by simp
  rw [sizeAsInt, Decimal.toInt, size, Int.bmod_def]
  split <;> omega

theorem mergeMember_array {position : Nat} (fits : position < 4294967296) (dst : Json)
    (name : Text) (value : Json) :
    mergeMember dst name (.array (List.replicate position Json.null ++ [value])) =
      if 2147483648 ≤ position + 1 then some dst
      else dst.members?.bind fun old => (member old name).elements?.bind fun elements =>
        (mergeTwoJsonObjs (element elements position) value).map fun merged =>
          .object (setMember old name (.array (setElement elements position merged))) := by
  simp only [mergeMember, sizeAsInt_padded fits]
  by_cases tooLong : 2147483648 ≤ position + 1
  · rw [if_pos tooLong, if_pos tooLong]
  rw [if_neg tooLong, if_neg tooLong]
  cases dst.members? with
  | none => rfl
  | some old =>
      simp only [Option.bind_some]
      cases isArray : (member old name).elements? with
      | none => cases position <;>
          simp only [List.replicate_zero, List.nil_append, List.replicate_succ, List.cons_append,
            mergeElements, isArray, Option.bind_none]
      | some elements =>
          rw [mergeElements_replicate isArray, Option.bind_some]
          cases mergeTwoJsonObjs (element elements position) value <;> rfl

end Cuttlefish.CliParser
