import Mathlib.Algebra.GroupWithZero.Nat
import Mathlib.Algebra.Order.BigOperators.Group.List
import Mathlib.Algebra.Order.Group.Nat
import Mathlib.Data.List.Basic
import Mathlib.Data.List.TakeWhile

/-! # Greedy regular expressions

Regular expressions that are sequences of repeated characters. Each repetition takes as much as it
can, and less if the rest does not match otherwise. -/

namespace Cuttlefish.GreedyRegex

variable {Element : Type}

structure Repeat (Element : Type) where
  accepts : Element → Bool
  least : Nat
  most : Option Nat

namespace Repeat

def exactly (count : Nat) (accepts : Element → Bool) : Repeat Element :=
  ⟨accepts, count, some count⟩

def one (accepts : Element → Bool) : Repeat Element := exactly 1 accepts

def anyNumber (accepts : Element → Bool) : Repeat Element := ⟨accepts, 0, none⟩

def atLeastOne (accepts : Element → Bool) : Repeat Element := ⟨accepts, 1, none⟩

def longest (item : Repeat Element) (text : List Element) : Nat :=
  let run := (text.takeWhile item.accepts).length
  match item.most with
  | none => run
  | some most => min run most

end Repeat

def literal [DecidableEq Element] (elements : List Element) : List (Repeat Element) :=
  elements.map fun element => .one (· = element)

open Repeat

def withPiece (piece : List Element) (found : List (List Element) × List Element) :
    List (List Element) × List Element := (piece :: found.1, found.2)

def matchPieces : List (Repeat Element) → List Element →
    Option (List (List Element) × List Element)
  | [], text => some ([], text)
  | item :: items, text =>
      (List.range (item.longest text + 1 - item.least)).findSome? fun given =>
        let taken := item.longest text - given
        (matchPieces items (text.drop taken)).map (withPiece (text.take taken))

def replaceFrom (items : List (Repeat Element)) (format : List (List Element) → List Element) :
    Nat → List Element → List Element
  | 0, text => text
  | _ + 1, [] => []
  | fuel + 1, element :: text =>
      match matchPieces items (element :: text) with
      | none => element :: replaceFrom items format fuel text
      | some (pieces, rest) => format pieces ++ replaceFrom items format fuel rest

def replaceAll (items : List (Repeat Element)) (format : List (List Element) → List Element)
    (text : List Element) : List Element :=
  replaceFrom items format text.length text

/-! ## One repetition -/

section Matching

variable {accepts : Element → Bool} {items : List (Repeat Element)}

theorem matchPieces_exactly {count : Nat} {text : List Element} (enough : count ≤ text.length)
    (accepted : ∀ element ∈ text.take count, accepts element = true) :
    matchPieces (exactly count accepts :: items) text =
      (matchPieces items (text.drop count)).map (withPiece (text.take count)) := by
  have longest : (exactly count accepts).longest text = count := by
    have taken : (text.take count).length ≤ (text.takeWhile accepts).length := by
      have split := @List.takeWhile_append_of_pos _ accepts _ (text.drop count) accepted
      rw [List.take_append_drop] at split
      simp [split]
    rw [List.length_take, Nat.min_eq_left enough] at taken
    exact Nat.min_eq_right taken
  have once : (exactly count accepts).longest text + 1 - (exactly count accepts).least = 1 := by
    rw [longest]
    exact Nat.add_sub_cancel_left count 1
  rw [matchPieces, once, longest]
  simp

theorem matchPieces_exactly_eq_none {count : Nat} {text : List Element}
    (short : ¬ (count ≤ text.length ∧ ∀ element ∈ text.take count, accepts element = true)) :
    matchPieces (exactly count accepts :: items) text = none := by
  have few : (text.takeWhile accepts).length < count := by
    by_contra many
    rw [Nat.not_lt] at many
    have inside : text.takeWhile accepts <+: text := List.takeWhile_prefix _
    refine short ⟨many.trans inside.length_le, fun element member => ?_⟩
    have taken : text.take count = (text.takeWhile accepts).take count := by
      rw [List.prefix_iff_eq_take.mp inside, List.take_take, Nat.min_eq_left many]
    rw [taken] at member
    exact List.mem_takeWhile_imp (List.mem_of_mem_take member)
  have never : (exactly count accepts).longest text + 1 - (exactly count accepts).least = 0 := by
    have bound : (exactly count accepts).longest text ≤ (text.takeWhile accepts).length :=
      Nat.min_le_left _ _
    have least : (exactly count accepts).least = count := rfl
    omega
  rw [matchPieces, never]
  rfl

theorem matchPieces_one {element : Element} (accepted : accepts element = true)
    (text : List Element) :
    matchPieces (one accepts :: items) (element :: text) =
      (matchPieces items text).map (withPiece [element]) := by
  refine (matchPieces_exactly (by simp) ?_).trans rfl
  simpa using accepted

theorem matchPieces_one_of_not {text : List Element}
    (not : ∀ element ∈ text.head?, accepts element = false) :
    matchPieces (one accepts :: items) text = none := by
  apply matchPieces_exactly_eq_none
  rintro ⟨nonempty, accepted⟩
  cases text with
  | nil => simp at nonempty
  | cons element text =>
      have first := not element rfl
      rw [accepted element (by simp)] at first
      cases first

theorem matchPieces_literal [DecidableEq Element] (elements text : List Element) :
    matchPieces (literal elements ++ items) (elements ++ text) =
      (matchPieces items text).map fun found => (elements.map ([·]) ++ found.1, found.2) := by
  induction elements with
  | nil => simp [literal]
  | cons element elements induction =>
      refine (matchPieces_one (by simp) (elements ++ text)).trans ?_
      change Option.map (withPiece [element])
        (matchPieces (literal elements ++ items) (elements ++ text)) = _
      rw [induction, Option.map_map]
      rfl

theorem matchPieces_literal_eq_none [DecidableEq Element] {elements text : List Element}
    (not : ¬ elements <+: text) : matchPieces (literal elements ++ items) text = none := by
  induction elements generalizing text with
  | nil => exact absurd List.nil_prefix not
  | cons element elements induction =>
      by_cases first : ∃ rest, text = element :: rest
      · obtain ⟨rest, rfl⟩ := first
        have inner : ¬ elements <+: rest := fun isPrefix =>
          not (List.cons_prefix_cons.mpr ⟨rfl, isPrefix⟩)
        refine (matchPieces_one (by simp) rest).trans ?_
        change Option.map (withPiece [element]) (matchPieces (literal elements ++ items) rest) = _
        rw [induction inner, Option.map_none]
      · apply matchPieces_one_of_not
        intro other isFirst
        rw [decide_eq_false_iff_not]
        rintro rfl
        cases text with
        | nil => cases isFirst
        | cons head rest =>
            cases isFirst
            exact first ⟨rest, rfl⟩

theorem matchPieces_anyNumber_of_not {element : Element} (not : accepts element = false)
    (text : List Element) :
    matchPieces (anyNumber accepts :: items) (element :: text) =
      (matchPieces items (element :: text)).map (withPiece []) := by
  simp [matchPieces, anyNumber, longest, not]

def lengthen (element : Element) (found : List (List Element) × List Element) :
    List (List Element) × List Element :=
  ((element :: found.1.headD []) :: found.1.tail, found.2)

theorem matchPieces_anyNumber_cons {element : Element} (accepted : accepts element = true)
    (text : List Element) :
    matchPieces (anyNumber accepts :: items) (element :: text) =
      ((matchPieces (anyNumber accepts :: items) text).map (lengthen element)).or
        ((matchPieces items (element :: text)).map (withPiece [])) := by
  have more : (anyNumber accepts).longest (element :: text) = (anyNumber accepts).longest text + 1 := by
    simp [longest, anyNumber, accepted]
  have least : (anyNumber accepts).least = 0 := rfl
  rw [matchPieces, matchPieces, more, least, Nat.sub_zero, Nat.sub_zero, List.range_succ,
    List.findSome?_append, List.map_findSome?]
  congr 1
  · rw [← List.head?_filterMap, ← List.head?_filterMap]
    congr 1
    apply List.filterMap_congr
    intro given member
    have inside : given ≤ (anyNumber accepts).longest text := Nat.lt_succ_iff.mp (List.mem_range.mp member)
    dsimp only [Function.comp_apply]
    rw [Nat.sub_add_comm inside, List.drop_succ_cons, List.take_succ_cons, Option.map_map]
    rfl
  · simp

theorem matchPieces_anyNumber_last (text : List Element) :
    matchPieces [anyNumber accepts] text =
      some ([text.takeWhile accepts], text.dropWhile accepts) := by
  induction text with
  | nil => rfl
  | cons element text induction =>
      by_cases accepted : accepts element = true
      · rw [matchPieces_anyNumber_cons accepted, induction, List.takeWhile_cons_of_pos accepted,
          List.dropWhile_cons_of_pos accepted]
        rfl
      · rw [matchPieces_anyNumber_of_not (Bool.eq_false_iff.mpr accepted),
          List.takeWhile_cons_of_neg accepted, List.dropWhile_cons_of_neg accepted]
        rfl

theorem matchPieces_atLeastOne_of_disjoint
    (disjoint : ∀ element text, accepts element = true → matchPieces items (element :: text) = none)
    {run rest : List Element} (nonempty : run ≠ [])
    (accepted : ∀ element ∈ run, accepts element = true)
    (stops : ∀ element ∈ rest.head?, accepts element = false) :
    matchPieces (atLeastOne accepts :: items) (run ++ rest) =
      (matchPieces items rest).map (withPiece run) := by
  have longest : (atLeastOne accepts).longest (run ++ rest) = run.length := by
    have behind : rest.takeWhile accepts = [] := by
      cases rest with
      | nil => rfl
      | cons element rest =>
          rw [List.takeWhile_cons_of_neg (by simp [stops element rfl])]
    have taken : (run ++ rest).takeWhile accepts = run := by
      rw [List.takeWhile_append_of_pos accepted, behind, List.append_nil]
    exact congrArg List.length taken
  have least : (atLeastOne accepts).least = 1 := rfl
  obtain ⟨fewer, isFewer⟩ := Nat.exists_eq_succ_of_ne_zero (List.length_pos_iff.mpr nonempty).ne'
  rw [matchPieces, longest, least, Nat.add_sub_cancel, isFewer, List.range_succ_eq_map,
    List.findSome?_cons]
  dsimp only
  rw [Nat.sub_zero, ← isFewer, List.drop_left, List.take_left]
  cases found : (matchPieces items rest).map (withPiece run) with
  | some result => rfl
  | none =>
      rw [List.findSome?_eq_none_iff]
      intro given member
      rw [List.mem_map] at member
      obtain ⟨fewerGiven, inside, rfl⟩ := member
      have shorter : run.length - fewerGiven.succ < run.length := by
        rw [List.mem_range] at inside
        omega
      rw [List.drop_append_of_le_length shorter.le, List.drop_eq_getElem_cons shorter,
        List.cons_append, disjoint _ _ (accepted _ (List.getElem_mem shorter)), Option.map_none]

theorem matchPieces_atLeastOne_eq_none {text : List Element}
    (not : ∀ element ∈ text.head?, accepts element = false) :
    matchPieces (atLeastOne accepts :: items) text = none := by
  have longest : (atLeastOne accepts).longest text = 0 := by
    cases text with
    | nil => rfl
    | cons element text =>
        have refused : ¬ accepts element = true := by simp [not element rfl]
        exact congrArg List.length (List.takeWhile_cons_of_neg refused)
  have least : (atLeastOne accepts).least = 1 := rfl
  rw [matchPieces, longest, least]
  rfl

end Matching

/-! ## Replacing -/

section Replacing

variable {items : List (Repeat Element)} {format : List (List Element) → List Element}

def Consumes (items : List (Repeat Element)) : Prop :=
  ∀ text pieces rest, matchPieces items text = some (pieces, rest) → rest.length < text.length

theorem longest_le_length (item : Repeat Element) (text : List Element) :
    item.longest text ≤ text.length := by
  have run : (text.takeWhile item.accepts).length ≤ text.length :=
    (List.takeWhile_prefix _).length_le
  rw [longest]
  split
  · exact run
  · exact (Nat.min_le_left _ _).trans run

theorem length_of_matchPieces {text rest : List Element} {pieces : List (List Element)}
    (found : matchPieces items text = some (pieces, rest)) :
    rest.length + (items.map Repeat.least).sum ≤ text.length := by
  induction items generalizing text pieces with
  | nil =>
      cases found
      simp
  | cons item items induction =>
      rw [matchPieces] at found
      obtain ⟨given, member, taken⟩ := List.exists_of_findSome?_eq_some found
      obtain ⟨⟨others, behind⟩, isFound, same⟩ := Option.map_eq_some_iff.mp taken
      cases same
      have inner := induction isFound
      have bound := longest_le_length item text
      rw [List.mem_range] at member
      rw [List.length_drop] at inner
      rw [List.map_cons, List.sum_cons]
      omega

theorem length_pieces_of_matchPieces {text rest : List Element} {pieces : List (List Element)}
    (found : matchPieces items text = some (pieces, rest)) : pieces.length = items.length := by
  induction items generalizing text pieces with
  | nil =>
      cases found
      rfl
  | cons item items induction =>
      rw [matchPieces] at found
      obtain ⟨given, member, taken⟩ := List.exists_of_findSome?_eq_some found
      obtain ⟨⟨others, behind⟩, isFound, same⟩ := Option.map_eq_some_iff.mp taken
      cases same
      rw [List.length_cons, List.length_cons, induction isFound]

theorem consumes_of_mem {item : Repeat Element} (member : item ∈ items) (some_ : 0 < item.least) :
    Consumes items := by
  intro text pieces rest found
  have bound := length_of_matchPieces found
  have least := List.single_le_sum (by simp) _ (List.mem_map_of_mem (f := Repeat.least) member)
  omega

theorem replaceFrom_eq (consumes : Consumes items) {fuel : Nat} {text : List Element}
    (enough : text.length ≤ fuel) :
    replaceFrom items format fuel text = replaceAll items format text := by
  induction fuel using Nat.strong_induction_on generalizing text with
  | _ fuel induction =>
      cases text with
      | nil => cases fuel <;> rfl
      | cons element text =>
          obtain ⟨fewer, rfl⟩ := Nat.exists_eq_add_of_le' enough
          have step : ∀ more, text.length ≤ more → more ≤ fewer + text.length →
              replaceFrom items format (more + 1) (element :: text) =
                replaceFrom items format (text.length + 1) (element :: text) := by
            intro more many bound
            rw [replaceFrom, replaceFrom]
            split
            · rw [induction more (by simp; omega) many, replaceAll]
            · next pieces rest found =>
              have shorter := consumes _ _ _ found
              rw [List.length_cons] at shorter
              rw [induction more (by simp; omega) (by omega),
                induction text.length (by simp; omega) (by omega)]
          exact step (fewer + text.length) (by omega) le_rfl

@[simp] theorem replaceAll_nil : replaceAll items format [] = [] := rfl

theorem replaceAll_of_none {element : Element} {text : List Element}
    (missing : matchPieces items (element :: text) = none) :
    replaceAll items format (element :: text) = element :: replaceAll items format text := by
  rw [replaceAll, List.length_cons, replaceFrom, missing, replaceAll]

theorem replaceAll_of_some (consumes : Consumes items) {text rest : List Element}
    {pieces : List (List Element)} (found : matchPieces items text = some (pieces, rest)) :
    replaceAll items format text = format pieces ++ replaceAll items format rest := by
  have shorter := consumes _ _ _ found
  cases text with
  | nil => cases shorter
  | cons element text =>
      rw [List.length_cons] at shorter
      rw [replaceAll, List.length_cons, replaceFrom, found]
      exact congrArg (format pieces ++ ·) (replaceFrom_eq consumes (Nat.lt_succ_iff.mp shorter))

end Replacing

end Cuttlefish.GreedyRegex
