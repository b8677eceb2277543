import Mathlib.Data.List.DropRight
import Mathlib.Data.List.Infix

/-! # Parts of lists

Where a list occurs in another one, and what a list is split into. -/

namespace Cuttlefish.Substrings

variable {Element : Type} [DecidableEq Element]

/-- The first position at which the pattern occurs. -/
def position (pattern : List Element) : List Element → Option Nat
  | [] => if pattern = [] then some 0 else none
  | element :: text =>
      if pattern <+: element :: text then some 0 else (position pattern text).map (· + 1)

theorem position_eq_none {pattern text : List Element} :
    position pattern text = none ↔ ¬ pattern <:+: text := by
  induction text with
  | nil =>
      rw [position, List.infix_nil]
      by_cases empty : pattern = [] <;> simp [empty]
  | cons element text induction =>
      rw [position, List.infix_cons_iff, not_or, ← induction]
      by_cases here : pattern <+: element :: text <;> simp [here]

theorem position_isSome {pattern text : List Element} :
    (position pattern text).isSome ↔ pattern <:+: text := by
  rw [← not_iff_not, ← position_eq_none, Option.not_isSome_iff_eq_none]

theorem position_cons {pattern : List Element} {element : Element} (nonempty : pattern ≠ [])
    (notIn : element ∉ pattern) (text : List Element) :
    position pattern (element :: text) = (position pattern text).map (· + 1) := by
  rw [position, if_neg]
  intro here
  cases pattern with
  | nil => exact nonempty rfl
  | cons first pattern =>
      have same : first = element := (List.cons_prefix_cons.mp here).1
      exact notIn (same ▸ List.mem_cons_self)

theorem findIdx?_of_notMem {element : Element} {text : List Element} (notIn : element ∉ text) :
    text.findIdx? (· = element) = none := by
  rw [List.findIdx?_eq_none_iff]
  intro other isIn
  have different : other ≠ element := fun same => notIn (same ▸ isIn)
  simp [different]

theorem findIdx?_append_cons {element : Element} {before : List Element}
    (notIn : element ∉ before) (behind : List Element) :
    (before ++ element :: behind).findIdx? (· = element) = some before.length := by
  rw [List.findIdx?_append, findIdx?_of_notMem notIn, List.findIdx?_cons]
  simp

theorem takeWhile_ne_append {element : Element} {before : List Element}
    (notIn : element ∉ before) (behind : List Element) :
    (before ++ element :: behind).takeWhile (· ≠ element) = before := by
  have others : ∀ other ∈ before, decide (other ≠ element) = true := by
    intro other isIn
    exact decide_eq_true fun same => notIn (same ▸ isIn)
  rw [List.takeWhile_append_of_pos others]
  simp

theorem dropWhile_ne_append {element : Element} {before : List Element}
    (notIn : element ∉ before) (behind : List Element) :
    (before ++ element :: behind).dropWhile (· ≠ element) = element :: behind := by
  have others : ∀ other ∈ before, decide (other ≠ element) = true := by
    intro other isIn
    exact decide_eq_true fun same => notIn (same ▸ isIn)
  rw [List.dropWhile_append_of_pos others]
  simp

theorem notMem_of_mem_splitOn {Element : Type} [BEq Element] [LawfulBEq Element]
    {separator : Element} {text part : List Element} (isPart : part ∈ text.splitOn separator) :
    separator ∉ part := by
  induction text generalizing part with
  | nil =>
      rw [List.splitOn_nil, List.mem_singleton] at isPart
      simp [isPart]
  | cons element text induction =>
      rw [List.splitOn_cons_eq_if_modifyHead] at isPart
      split at isPart
      · rcases List.mem_cons.mp isPart with rfl | isPart
        · simp
        · exact induction isPart
      · next different =>
        cases split : text.splitOn separator with
        | nil => exact absurd split (List.splitOn_ne_nil _ _)
        | cons first rest =>
            rw [split, List.modifyHead_cons] at isPart
            rcases List.mem_cons.mp isPart with rfl | inRest
            · have notFirst : separator ∉ first :=
                induction (split ▸ List.mem_cons_self)
              have notElement : separator ≠ element := fun same => different (by simp [same])
              simp [notElement, notFirst]
            · exact induction (split ▸ List.mem_cons_of_mem first inRest)

theorem splitOn_flatMap_append {Element Item : Type} [BEq Element] [LawfulBEq Element]
    {separator : Element} {write : Item → List Element} {items : List Item}
    (clean : ∀ item ∈ items, separator ∉ write item) (behind : List Element) :
    ((items.flatMap fun item => write item ++ [separator]) ++ behind).splitOn separator =
      items.map write ++ behind.splitOn separator := by
  induction items with
  | nil => rfl
  | cons item items induction =>
      have rest := induction fun other member => clean other (List.mem_cons_of_mem item member)
      rw [List.flatMap_cons, List.append_assoc, List.append_assoc, List.singleton_append,
        List.splitOn_append_cons_self_of_not_mem (clean item List.mem_cons_self), rest,
        List.map_cons, List.cons_append]

theorem splitOn_flatMap {Element Item : Type} [BEq Element] [LawfulBEq Element]
    {separator : Element} {write : Item → List Element} {items : List Item}
    (clean : ∀ item ∈ items, separator ∉ write item) :
    (items.flatMap fun item => write item ++ [separator]).splitOn separator =
      items.map write ++ [[]] := by
  have splits := splitOn_flatMap_append clean []
  rwa [List.append_nil, List.splitOn_nil] at splits

theorem splitOn_append_flatMap {Element : Type} [BEq Element] [LawfulBEq Element]
    {separator : Element} {before : List Element} {items : List (List Element)}
    (notBefore : separator ∉ before) (clean : ∀ item ∈ items, separator ∉ item) :
    (before ++ items.flatMap fun item => separator :: item).splitOn separator =
      before :: items := by
  induction items generalizing before with
  | nil =>
      rw [List.flatMap_nil, List.append_nil]
      exact List.splitOn_eq_singleton notBefore
  | cons item items induction =>
      rw [List.flatMap_cons, List.cons_append,
        List.splitOn_append_cons_self_of_not_mem notBefore,
        induction (clean item List.mem_cons_self)
          fun other member => clean other (List.mem_cons_of_mem item member)]

/-! ## Blanks at the ends -/

section Strip

variable {Element : Type} (blank : Element → Bool)

def strip (text : List Element) : List Element := (text.dropWhile blank).rdropWhile blank

variable {blank}

theorem exists_strip (text : List Element) :
    ∃ before after, (∀ element ∈ before, blank element = true) ∧
      (∀ element ∈ after, blank element = true) ∧ text = before ++ strip blank text ++ after := by
  refine ⟨text.takeWhile blank, (text.dropWhile blank).rtakeWhile blank, ?_, ?_, ?_⟩
  · intro element member
    exact List.mem_takeWhile_imp member
  · intro element member
    exact List.mem_rtakeWhile_imp member
  · rw [List.append_assoc, strip, List.rdropWhile_append_rtakeWhile, List.takeWhile_append_dropWhile]

theorem strip_append {before after : List Element} (blanksBefore : ∀ element ∈ before, blank element)
    (blanksAfter : ∀ element ∈ after, blank element) (text : List Element) :
    strip blank (before ++ text ++ after) = strip blank text := by
  have stripsAfter : ∀ front : List Element,
      (front ++ after).rdropWhile blank = front.rdropWhile blank := by
    intro front
    rw [List.rdropWhile, List.reverse_append, List.dropWhile_append_of_pos, List.rdropWhile]
    intro element member
    exact blanksAfter element (List.mem_reverse.mp member)
  rw [strip, strip, List.append_assoc, List.dropWhile_append_of_pos blanksBefore,
    List.dropWhile_append]
  cases rest : text.dropWhile blank with
  | nil =>
      rw [List.dropWhile_eq_nil_iff.mpr blanksAfter]
      rfl
  | cons first behind => exact stripsAfter (first :: behind)

theorem strip_append_cons {front : List Element} {element : Element}
    (starts : (front ++ [element]).dropWhile blank = front ++ [element])
    (noBlank : blank element = false) (rest : List Element) :
    strip blank (front ++ element :: rest) = front ++ element :: rest.rdropWhile blank := by
  have whole : (front ++ element :: rest).dropWhile blank = front ++ element :: rest := by
    rw [← List.singleton_append, ← List.append_assoc, List.dropWhile_append, starts]
    simp
  have stops : ([element] ++ front.reverse).dropWhile blank = [element] ++ front.reverse :=
    List.dropWhile_cons_of_neg (by simp [noBlank])
  rw [strip, whole, List.rdropWhile, List.rdropWhile, List.reverse_append, List.reverse_cons,
    List.append_assoc, List.dropWhile_append, stops]
  cases behind : rest.reverse.dropWhile blank with
  | nil => simp
  | cons first others => simp

theorem strip_strip (text : List Element) : strip blank (strip blank text) = strip blank text := by
  obtain ⟨before, after, blanksBefore, blanksAfter, split⟩ := @exists_strip _ blank text
  have stripped := strip_append blanksBefore blanksAfter (strip blank text)
  rw [← split] at stripped
  exact stripped.symm

theorem mem_of_mem_strip {text : List Element} {element : Element}
    (member : element ∈ strip blank text) : element ∈ text := by
  obtain ⟨before, after, _, _, split⟩ := @exists_strip _ blank text
  rw [split]
  simp [member]

end Strip

end Cuttlefish.Substrings
