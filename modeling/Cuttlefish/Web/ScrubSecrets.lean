import Cuttlefish.Foundation.Decimal
import Cuttlefish.Foundation.GreedyRegex

/-! # Scrubbed logs

`ScrubSecrets` of `host/libs/web/http_client/scrub_secrets.cc`. -/

namespace Cuttlefish.Web.ScrubSecrets

open GreedyRegex Repeat

def isBlank (char : Char) : Bool := Decimal.isSpace char

def isLineEnd (char : Char) : Bool := char = '\n' ∨ char = '\r'

/-- `[^\&\s]` -/
def isValueChar (char : Char) : Bool := char ≠ '&' ∧ ¬ isBlank char

/-- `[ ]+\S+[ ]+\S{6}\S*` -/
def credential : List (Repeat Char) :=
  [atLeastOne (· = ' '), atLeastOne (¬ isBlank ·), atLeastOne (· = ' '), exactly 6 (¬ isBlank ·),
    anyNumber (¬ isBlank ·)]

def header : List (Repeat Char) :=
  one (fun char => char = 'A' ∨ char = 'a') :: (literal "uthorization:".toList ++ credential)

/-- `(.*)([Aa]uthorization:[ ]+\S+[ ]+)(\S{6})\S*` -/
def authorization : List (Repeat Char) := anyNumber (¬ isLineEnd ·) :: header

def secretPrefix : Text := "client_secret=".toList

/-- `(client_secret=)(\S{6})[^\&\s]*` -/
def clientSecret : List (Repeat Char) :=
  literal secretPrefix ++ [exactly 6 (¬ isBlank ·), anyNumber isValueChar]

def scrubbed (pieces : List Text) : Text := pieces.dropLast.flatten ++ "...".toList

def scrubHeaders (text : Text) : Text := replaceAll authorization scrubbed text

def scrubValues (text : Text) : Text := replaceAll clientSecret scrubbed text

def scrubSecrets (data : Text) : Text := scrubValues (scrubHeaders data)

example : scrubSecrets "[text] [authorization: Bearer 1234567890]\nclient_secret=1234567890&x".toList =
    "[text] [authorization: Bearer 123456...\nclient_secret=123456...&x".toList := by
  decide +kernel

/-! ## Values -/

def BeginsSecret (text : Text) : Prop :=
  ∃ six more, text = secretPrefix ++ (six ++ more) ∧ six.length = 6 ∧
    ∀ char ∈ six, isBlank char = false

theorem consumes_clientSecret : Consumes clientSecret := by
  have member : exactly 6 (¬ isBlank ·) ∈ clientSecret := by simp [clientSecret]
  exact consumes_of_mem member (Nat.succ_pos 5)

theorem matchPieces_clientSecret {six : Text} (isSix : six.length = 6)
    (visible : ∀ char ∈ six, isBlank char = false) (more : Text) :
    matchPieces clientSecret (secretPrefix ++ (six ++ more)) =
      some (secretPrefix.map ([·]) ++ [six, more.takeWhile isValueChar],
        more.dropWhile isValueChar) := by
  have first : (six ++ more).take 6 = six := List.take_left' isSix
  have behind : (six ++ more).drop 6 = more := List.drop_left' isSix
  rw [clientSecret, matchPieces_literal, matchPieces_exactly, first, behind,
    matchPieces_anyNumber_last]
  · rfl
  · simp [isSix]
  · simpa [first] using visible

theorem matchPieces_clientSecret_eq_none {text : Text} (not : ¬ BeginsSecret text) :
    matchPieces clientSecret text = none := by
  rw [clientSecret]
  by_cases begins : secretPrefix <+: text
  · obtain ⟨rest, rfl⟩ := begins
    rw [matchPieces_literal, matchPieces_exactly_eq_none, Option.map_none]
    rintro ⟨long, visible⟩
    refine not ⟨rest.take 6, rest.drop 6, by rw [List.take_append_drop], by simpa using long, ?_⟩
    simpa using visible
  · exact matchPieces_literal_eq_none begins

theorem scrubbed_concat (pieces : List Text) (last : Text) :
    scrubbed (pieces ++ [last]) = pieces.flatten ++ "...".toList := by
  rw [scrubbed, List.dropLast_concat]

theorem flatten_singletons (text : Text) : (text.map ([·])).flatten = text := by
  rw [← List.flatMap_def, List.flatMap_singleton']

theorem scrubValues_secret {six : Text} (isSix : six.length = 6)
    (visible : ∀ char ∈ six, isBlank char = false) (more : Text) :
    scrubValues (secretPrefix ++ (six ++ more)) =
      secretPrefix ++ (six ++ ("...".toList ++ scrubValues (more.dropWhile isValueChar))) := by
  rw [scrubValues, replaceAll_of_some consumes_clientSecret (matchPieces_clientSecret isSix visible more)]
  have format : scrubbed (secretPrefix.map ([·]) ++ [six, more.takeWhile isValueChar]) =
      secretPrefix ++ (six ++ "...".toList) := by
    rw [List.append_cons, scrubbed_concat, List.flatten_append, flatten_singletons,
      List.flatten_singleton, List.append_assoc]
  rw [format, List.append_assoc, List.append_assoc, scrubValues]

theorem scrubValues_cons {char : Char} {text : Text} (not : ¬ BeginsSecret (char :: text)) :
    scrubValues (char :: text) = char :: scrubValues text :=
  replaceAll_of_none (matchPieces_clientSecret_eq_none not)

@[simp] theorem scrubValues_nil : scrubValues [] = [] := rfl

theorem BeginsSecret.length_le {text : Text} (begins : BeginsSecret text) : 20 ≤ text.length := by
  obtain ⟨six, more, rfl, isSix, -⟩ := begins
  have prefixLength : secretPrefix.length = 14 := by decide
  simp only [List.length_append, isSix, prefixLength]
  omega

theorem scrubValues_induction {motive : Text → Prop} (nil : motive [])
    (secret : ∀ six more, six.length = 6 → (∀ char ∈ six, isBlank char = false) →
      motive (more.dropWhile isValueChar) → motive (secretPrefix ++ (six ++ more)))
    (cons : ∀ char text, ¬ BeginsSecret (char :: text) → motive text → motive (char :: text))
    (text : Text) : motive text := by
  induction hlength : text.length using Nat.strong_induction_on generalizing text with
  | _ length induction =>
      by_cases begins : BeginsSecret text
      · obtain ⟨six, more, rfl, isSix, visible⟩ := begins
        refine secret six more isSix visible (induction _ ?_ _ rfl)
        have shorter : (more.dropWhile isValueChar).length ≤ more.length :=
          (List.dropWhile_suffix _).length_le
        simp only [List.length_append, isSix] at hlength
        omega
      · cases text with
        | nil => exact nil
        | cons char text =>
            refine cons char text begins (induction text.length ?_ text rfl)
            rw [← hlength, List.length_cons]
            exact Nat.lt_succ_self _

def Stops (behind : Text) : Prop := ∀ char ∈ behind.head?, isBlank char = true

theorem forall_visible {text : Text} (visible : text.all (!isBlank ·) = true) :
    ∀ char ∈ text, isBlank char = false := by
  intro char member
  simpa using List.all_eq_true.mp visible char member

theorem isBlank_secretPrefix : ∀ char ∈ secretPrefix, isBlank char = false :=
  forall_visible (by decide)

theorem BeginsSecret.of_append {text behind : Text} (stops : Stops behind)
    (begins : BeginsSecret (text ++ behind)) : BeginsSecret text := by
  obtain ⟨six, more, split, isSix, visible⟩ := begins
  rw [← List.append_assoc] at split
  rcases List.append_eq_append_iff.mp split with ⟨overlap, front, rest⟩ | ⟨overlap, front, rest⟩
  · cases overlap with
    | nil => exact ⟨six, [], by rw [List.append_nil, front, List.append_nil], isSix, visible⟩
    | cons char overlap =>
        have blank := stops char (by rw [rest]; rfl)
        have inside : char ∈ secretPrefix ++ six := by rw [front]; simp
        have notBlank : isBlank char = false :=
          (List.mem_append.mp inside).elim (isBlank_secretPrefix char) (visible char)
        rw [notBlank] at blank
        cases blank
  · exact ⟨six, overlap, by rw [front, List.append_assoc], isSix, visible⟩

theorem dropWhile_isValueChar_append {behind : Text} (stops : Stops behind) (more : Text) :
    (more ++ behind).dropWhile isValueChar = more.dropWhile isValueChar ++ behind := by
  rw [List.dropWhile_append]
  split
  · next empty =>
    rw [List.isEmpty_iff.mp empty, List.nil_append]
    cases behind with
    | nil => rfl
    | cons char behind =>
        have blank := stops char rfl
        exact List.dropWhile_cons_of_neg (by simp [isValueChar, blank])
  · rfl

theorem scrubValues_append {behind : Text} (stops : Stops behind) (text : Text) :
    scrubValues (text ++ behind) = scrubValues text ++ scrubValues behind := by
  induction text using scrubValues_induction with
  | nil => rfl
  | secret six more isSix visible induction =>
      rw [List.append_assoc, List.append_assoc, scrubValues_secret isSix visible,
        dropWhile_isValueChar_append stops, induction, scrubValues_secret isSix visible]
      simp only [List.append_assoc]
  | cons char text not induction =>
      have still : ¬ BeginsSecret (char :: (text ++ behind)) :=
        fun begins => not (BeginsSecret.of_append stops begins)
      rw [List.cons_append, scrubValues_cons still, induction, scrubValues_cons not, List.cons_append]

theorem scrubValues_of_length_lt {text : Text} (short : text.length < 20) :
    scrubValues text = text := by
  induction text with
  | nil => rfl
  | cons char text induction =>
      have not : ¬ BeginsSecret (char :: text) := fun begins => Nat.not_lt.mpr begins.length_le short
      rw [scrubValues_cons not, induction (by rw [List.length_cons] at short; omega)]

theorem scrubValues_eq_self_or (text : Text) :
    scrubValues text = text ∨ 20 ≤ (scrubValues text).length := by
  induction text using scrubValues_induction with
  | nil => exact .inl rfl
  | secret six more isSix visible induction =>
      right
      have prefixLength : secretPrefix.length = 14 := by decide
      rw [scrubValues_secret isSix visible]
      simp only [List.length_append, isSix, prefixLength]
      omega
  | cons char text not induction =>
      rw [scrubValues_cons not]
      rcases induction with same | long
      · exact .inl (by rw [same])
      · exact .inr (long.trans (by simp))

theorem isBlank_of_mem_scrubValues {text : Text} (visible : ∀ char ∈ text, isBlank char = false) :
    ∀ char ∈ scrubValues text, isBlank char = false := by
  induction text using scrubValues_induction with
  | nil => exact visible
  | secret six more isSix visibleSix induction =>
      have dots : ∀ char ∈ "...".toList, isBlank char = false := forall_visible (by decide)
      have behind : ∀ char ∈ more.dropWhile isValueChar, isBlank char = false := by
        intro char member
        refine visible char (List.mem_append_right _ (List.mem_append_right _ ?_))
        exact (List.dropWhile_suffix _).subset member
      rw [scrubValues_secret isSix visibleSix]
      simp only [List.forall_mem_append]
      exact ⟨isBlank_secretPrefix, visibleSix, dots, induction behind⟩
  | cons char text not induction =>
      rw [List.forall_mem_cons] at visible
      rw [scrubValues_cons not, List.forall_mem_cons]
      exact ⟨visible.1, induction visible.2⟩

end Cuttlefish.Web.ScrubSecrets
