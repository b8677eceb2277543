import Cuttlefish.Web.ScrubbedLines

/-! # Words with secrets

What texts have in common that differ in their secrets only, word by word. -/

namespace Cuttlefish.Web.ScrubSecrets

inductive Piece
  | plain (char : Char)
  | credential
  | value
  deriving DecidableEq, Repr

def Piece.Admits : Piece → Text → Prop
  | .plain char, text => text = [char]
  | .credential, text => ∀ char ∈ text, isBlank char = false
  | .value, text => ∀ char ∈ text, isValueChar char = true

inductive Fills : List Piece → Text → Prop
  | nil : Fills [] []
  | cons {piece : Piece} {pieces : List Piece} {part text : Text} :
      piece.Admits part → Fills pieces text → Fills (piece :: pieces) (part ++ text)

def chars (text : Text) : List Piece := text.map .plain

def Piece.fill (secret : Text) : Piece → Text
  | .plain char => [char]
  | _ => secret

def fillWith (secret : Text) (pieces : List Piece) : Text := pieces.flatMap (·.fill secret)

/-! ## Pieces -/

theorem Fills.append {front back : List Piece} {text behind : Text} (fills : Fills front text)
    (fillsBack : Fills back behind) : Fills (front ++ back) (text ++ behind) := by
  induction fills with
  | nil => exact fillsBack
  | cons admits _ induction =>
      rw [List.append_assoc]
      exact .cons admits induction

theorem Fills.split {front back : List Piece} {text : Text} (fills : Fills (front ++ back) text) :
    ∃ first second, text = first ++ second ∧ Fills front first ∧ Fills back second := by
  induction front generalizing text with
  | nil => exact ⟨[], text, rfl, .nil, fills⟩
  | cons piece front induction =>
      cases fills with
      | cons admits fills =>
          obtain ⟨first, second, rfl, fillsFront, fillsBack⟩ := induction fills
          exact ⟨_, second, (List.append_assoc _ _ _).symm, .cons admits fillsFront, fillsBack⟩

theorem fills_chars (text : Text) : Fills (chars text) text := by
  induction text with
  | nil => exact .nil
  | cons char text induction => exact @Fills.cons (.plain char) _ [char] _ rfl induction

theorem Fills.eq_of_chars {text filled : Text} (fills : Fills (chars text) filled) :
    filled = text := by
  induction text generalizing filled with
  | nil =>
      cases fills
      rfl
  | cons char text induction =>
      cases fills with
      | cons admits fills => rw [admits, induction fills, List.singleton_append]

theorem Fills.split_chars {front : Text} {back : List Piece} {text : Text}
    (fills : Fills (chars front ++ back) text) : ∃ behind, text = front ++ behind ∧ Fills back behind := by
  obtain ⟨first, behind, rfl, fillsFront, fillsBack⟩ := fills.split
  exact ⟨behind, by rw [fillsFront.eq_of_chars], fillsBack⟩

theorem isBlank_of_isValueChar {char : Char} (accepted : isValueChar char = true) :
    isBlank char = false := by
  simp only [isValueChar, decide_eq_true_eq] at accepted
  simpa using accepted.2

theorem fills_fillWith {secret : Text} (isSecret : ∀ char ∈ secret, isValueChar char = true)
    (pieces : List Piece) : Fills pieces (fillWith secret pieces) := by
  induction pieces with
  | nil => exact .nil
  | cons piece pieces induction =>
      rw [fillWith, List.flatMap_cons]
      refine .cons ?_ induction
      cases piece with
      | plain char => rfl
      | credential => exact fun char member => isBlank_of_isValueChar (isSecret char member)
      | value => exact isSecret

theorem Fills.isBlank_eq_false {pieces : List Piece} {text : Text} (fills : Fills pieces text)
    (visible : ∀ char, .plain char ∈ pieces → isBlank char = false) :
    ∀ char ∈ text, isBlank char = false := by
  induction fills with
  | nil => simp
  | @cons piece pieces part text admits fills induction =>
      refine List.forall_mem_append.mpr ⟨?_, induction fun char member =>
        visible char (List.mem_cons_of_mem _ member)⟩
      cases piece with
      | plain char =>
          obtain rfl : part = [char] := admits
          simpa using visible char List.mem_cons_self
      | credential => exact admits
      | value => exact fun char member => isBlank_of_isValueChar (admits char member)

theorem chars_or_first (pieces : List Piece) :
    (∃ text, pieces = chars text) ∨
      ∃ text back, pieces = chars text ++ .credential :: back ∨ pieces = chars text ++ .value :: back := by
  induction pieces with
  | nil => exact .inl ⟨[], rfl⟩
  | cons piece pieces induction =>
      cases piece with
      | plain char =>
          rcases induction with ⟨text, rfl⟩ | ⟨text, back, rfl | rfl⟩
          · exact .inl ⟨char :: text, rfl⟩
          · exact .inr ⟨char :: text, back, .inl rfl⟩
          · exact .inr ⟨char :: text, back, .inr rfl⟩
      | credential => exact .inr ⟨[], pieces, .inl rfl⟩
      | value => exact .inr ⟨[], pieces, .inr rfl⟩

theorem chars_or_last (pieces : List Piece) :
    (∃ text, pieces = chars text) ∨
      ∃ front text, pieces = front ++ .credential :: chars text ∨ pieces = front ++ .value :: chars text := by
  induction pieces with
  | nil => exact .inl ⟨[], rfl⟩
  | cons piece pieces induction =>
      rcases induction with ⟨text, rfl⟩ | ⟨front, text, rfl | rfl⟩
      · cases piece with
        | plain char => exact .inl ⟨char :: text, rfl⟩
        | credential => exact .inr ⟨[], text, .inl rfl⟩
        | value => exact .inr ⟨[], text, .inr rfl⟩
      · exact .inr ⟨piece :: front, text, .inl rfl⟩
      · exact .inr ⟨piece :: front, text, .inr rfl⟩

/-! ## Secret values -/

def EndsInParameter (front : List Piece) : Prop :=
  ∃ before six, front = before ++ chars (secretPrefix ++ six) ∧ six.length = 6 ∧
    ∀ char ∈ six, isValueChar char = true

structure HasValues (pieces : List Piece) : Prop where
  visible : ∀ char, .plain char ∈ pieces → isBlank char = false
  noCredential : .credential ∉ pieces
  value : ∀ front back, pieces = front ++ .value :: back → EndsInParameter front

theorem EndsInParameter.length_le {text : Text} (ends : EndsInParameter (chars text)) :
    20 ≤ text.length := by
  obtain ⟨before, six, split, isSix, -⟩ := ends
  have lengths := congrArg List.length split
  have prefixLength : secretPrefix.length = 14 := by decide
  simp only [chars, List.length_append, List.length_map, isSix, prefixLength] at lengths
  omega

theorem HasValues.chars_or {pieces : List Piece} (values : HasValues pieces) :
    (∃ text, pieces = chars text) ∨
      ∃ text back, pieces = chars text ++ .value :: back ∧ 20 ≤ text.length := by
  rcases chars_or_first pieces with isText | ⟨text, back, rfl | rfl⟩
  · exact .inl isText
  · exact absurd (by simp) values.noCredential
  · exact .inr ⟨text, back, rfl, (values.value _ _ rfl).length_le⟩

theorem HasValues.beginsSecret {pieces : List Piece} {text : Text} (values : HasValues pieces)
    (fills : Fills pieces text) (begins : BeginsSecret text) :
    ∃ six more, pieces = chars (secretPrefix ++ six) ++ more ∧ six.length = 6 ∧
      ∀ char ∈ six, isBlank char = false := by
  have long := begins.length_le
  obtain ⟨six, more, split, isSix, visible⟩ := begins
  have first : ∃ front rest, pieces = chars front ++ rest ∧ front.length = 20 := by
    rcases values.chars_or with ⟨whole, rfl⟩ | ⟨whole, back, rfl, enough⟩
    · rw [fills.eq_of_chars] at long
      refine ⟨whole.take 20, chars (whole.drop 20), ?_, by simpa using long⟩
      rw [chars, chars, chars, ← List.map_append, List.take_append_drop]
    · refine ⟨whole.take 20, chars (whole.drop 20) ++ .value :: back, ?_, by simpa using enough⟩
      rw [← List.append_assoc, chars, chars, chars, ← List.map_append, List.take_append_drop]
  obtain ⟨front, rest, rfl, isLong⟩ := first
  obtain ⟨behind, same, -⟩ := fills.split_chars
  have lengths : (secretPrefix ++ six).length = front.length := by
    rw [List.length_append, isSix, isLong]
    decide
  rw [split, ← List.append_assoc] at same
  exact ⟨six, rest, by rw [(List.append_inj same lengths).1], isSix, visible⟩

def Piece.inValue : Piece → Bool
  | .plain char => isValueChar char
  | _ => true

theorem Fills.dropWhile {pieces : List Piece} {text : Text} (fills : Fills pieces text)
    (noCredential : .credential ∉ pieces) :
    Fills (pieces.dropWhile Piece.inValue) (text.dropWhile isValueChar) := by
  induction fills with
  | nil => exact .nil
  | @cons piece pieces part text admits fills induction =>
      rw [List.mem_cons, not_or] at noCredential
      cases piece with
      | plain char =>
          obtain rfl : part = [char] := admits
          by_cases accepted : isValueChar char = true
          · rw [List.singleton_append, List.dropWhile_cons_of_pos accepted,
              List.dropWhile_cons_of_pos (by exact accepted)]
            exact induction noCredential.2
          · rw [List.singleton_append, List.dropWhile_cons_of_neg accepted,
              List.dropWhile_cons_of_neg (by exact accepted)]
            exact @Fills.cons (.plain char) _ [char] _ rfl fills
      | credential => exact absurd rfl noCredential.1
      | value =>
          rw [List.dropWhile_append_of_pos admits, List.dropWhile_cons_of_pos (by rfl)]
          exact induction noCredential.2

theorem HasValues.dropWhile {begun more : List Piece} (values : HasValues (begun ++ more)) :
    HasValues (more.dropWhile Piece.inValue) where
  visible := fun char member =>
    values.visible char (List.mem_append_right _ ((List.dropWhile_suffix _).subset member))
  noCredential := fun member =>
    values.noCredential (List.mem_append_right _ ((List.dropWhile_suffix _).subset member))
  value := by
    intro front back split
    have whole : begun ++ (more.takeWhile Piece.inValue ++ more.dropWhile Piece.inValue) =
        begun ++ more := by rw [List.takeWhile_append_dropWhile]
    rw [split, ← List.append_assoc, ← List.append_assoc] at whole
    obtain ⟨before, six, ends, isSix, isValue⟩ := values.value _ _ whole.symm
    rcases List.append_eq_append_iff.mp ends with ⟨overlap, -, behind⟩ | ⟨overlap, -, behind⟩
    · exact ⟨overlap, six, behind, isSix, isValue⟩
    · -- what is left does not begin within the parameter
      exfalso
      have stop := List.head?_dropWhile_not Piece.inValue more
      rw [split] at stop
      have parameter : ∀ piece ∈ chars (secretPrefix ++ six), piece.inValue = true := by
        have isParameter : ∀ char ∈ secretPrefix, isValueChar char = true :=
          List.all_eq_true.mp (by decide)
        intro piece member
        obtain ⟨char, inside, rfl⟩ := List.mem_map.mp member
        exact (List.mem_append.mp inside).elim (isParameter char) (isValue char)
      cases front with
      | nil => cases stop
      | cons piece front =>
          have inside := parameter piece (by rw [behind]; simp)
          have refused : piece.inValue = false := stop
          rw [inside] at refused
          cases refused

theorem HasValues.tail {piece : Piece} {pieces : List Piece} (values : HasValues (piece :: pieces))
    (not : ¬ ∃ six more, piece :: pieces = chars (secretPrefix ++ six) ++ more ∧ six.length = 6 ∧
      ∀ char ∈ six, isBlank char = false) :
    ∃ char, piece = .plain char ∧ HasValues pieces := by
  have tail : HasValues pieces := by
    refine ⟨fun char member => values.visible char (List.mem_cons_of_mem _ member),
      fun member => values.noCredential (List.mem_cons_of_mem _ member), ?_⟩
    intro front back split
    obtain ⟨before, six, ends, isSix, isValue⟩ :=
      values.value (piece :: front) back (by rw [split, List.cons_append])
    cases before with
    | nil =>
        refine absurd ⟨six, .value :: back, ?_, isSix, ?_⟩ not
        · rw [← List.nil_append (chars _), ← ends, split, List.cons_append]
        · exact fun char member => isBlank_of_isValueChar (isValue char member)
    | cons first before =>
        rw [List.cons_append, List.cons.injEq] at ends
        exact ⟨before, six, ends.2, isSix, isValue⟩
  cases piece with
  | plain char => exact ⟨char, rfl, tail⟩
  | credential => exact absurd List.mem_cons_self values.noCredential
  | value =>
      have long := @EndsInParameter.length_le [] (values.value [] pieces rfl)
      cases long

theorem HasValues.scrubValues_eq {pieces : List Piece} {text text' : Text}
    (values : HasValues pieces) (fills : Fills pieces text) (fills' : Fills pieces text') :
    scrubValues text = scrubValues text' := by
  induction hlength : pieces.length using Nat.strong_induction_on generalizing pieces text text' with
  | _ length induction =>
      by_cases begins : ∃ six more, pieces = chars (secretPrefix ++ six) ++ more ∧ six.length = 6 ∧
          ∀ char ∈ six, isBlank char = false
      · obtain ⟨six, more, rfl, isSix, visible⟩ := begins
        obtain ⟨behind, rfl, fillsMore⟩ := fills.split_chars
        obtain ⟨behind', rfl, fillsMore'⟩ := fills'.split_chars
        have noCredential : .credential ∉ more := fun member =>
          values.noCredential (List.mem_append_right _ member)
        have shorter : (more.dropWhile Piece.inValue).length ≤ more.length :=
          (List.dropWhile_suffix _).length_le
        have fewer : (more.dropWhile Piece.inValue).length < length := by
          simp only [chars, List.length_append, List.length_map, isSix] at hlength
          omega
        have same := induction _ fewer values.dropWhile (fillsMore.dropWhile noCredential)
          (fillsMore'.dropWhile noCredential) rfl
        rw [List.append_assoc, List.append_assoc, scrubValues_secret isSix visible,
          scrubValues_secret isSix visible, same]
      · have none : ∀ filled, Fills pieces filled → ¬ BeginsSecret filled :=
          fun filled fillsFilled isSecret => begins (values.beginsSecret fillsFilled isSecret)
        cases pieces with
        | nil =>
            cases fills
            cases fills'
            rfl
        | cons piece pieces =>
            obtain ⟨char, rfl, valuesTail⟩ := values.tail begins
            cases fills with
            | @cons _ _ part text admits fills =>
                cases fills' with
                | @cons _ _ part' text' admits' fills' =>
                    have not := none _ (.cons admits fills)
                    have not' := none _ (.cons admits' fills')
                    obtain rfl : part = [char] := admits
                    obtain rfl : part' = [char] := admits'
                    have same := induction pieces.length (by rw [← hlength]; simp) valuesTail fills
                      fills' rfl
                    rw [List.singleton_append] at not not' ⊢
                    rw [List.singleton_append, scrubValues_cons not, scrubValues_cons not', same]

/-! ## Words with secrets -/

structure IsSkeleton (pieces : List Piece) : Prop where
  nonempty : pieces ≠ []
  visible : ∀ char, .plain char ∈ pieces → isBlank char = false
  value : ∀ front back, pieces = front ++ .value :: back →
    EndsInParameter front ∧ ∀ piece ∈ back.head?, piece = .plain '&'
  credential : .credential ∈ pieces →
    ∃ six : Text, six.length = 6 ∧ pieces = chars six ++ [.credential]

section Skeleton

variable {pieces : List Piece} {text : Text} (skeleton : IsSkeleton pieces)
  (fills : Fills pieces text)

include skeleton

theorem IsSkeleton.hasValues (noCredential : .credential ∉ pieces) : HasValues pieces :=
  ⟨skeleton.visible, noCredential, fun front back split => (skeleton.value front back split).1⟩

theorem IsSkeleton.chars_or :
    (∃ text, pieces = chars text) ∨
      ∃ six piece back, pieces = chars six ++ piece :: back ∧ six.length = 6 := by
  by_cases isMarked : .credential ∈ pieces
  · obtain ⟨six, isSix, rfl⟩ := skeleton.credential isMarked
    exact .inr ⟨six, _, _, rfl, isSix⟩
  · rcases (skeleton.hasValues isMarked).chars_or with isText | ⟨front, back, rfl, long⟩
    · exact .inl isText
    · have first : chars front = chars (front.take 6) ++ chars (front.drop 6) := by
        rw [chars, chars, chars, ← List.map_append, List.take_append_drop]
      obtain ⟨piece, others, split⟩ : ∃ piece others,
          chars (front.drop 6) ++ .value :: back = piece :: others :=
        List.exists_cons_of_ne_nil (by simp)
      refine .inr ⟨front.take 6, piece, others, ?_, by rw [List.length_take]; omega⟩
      rw [first, List.append_assoc, split]

include fills

theorem IsSkeleton.length_iff : 6 ≤ text.length ↔ 6 ≤ pieces.length := by
  rcases skeleton.chars_or with ⟨whole, rfl⟩ | ⟨six, piece, back, rfl, isSix⟩
  · rw [fills.eq_of_chars, chars, List.length_map]
  · obtain ⟨behind, rfl, -⟩ := fills.split_chars
    simp [chars, isSix]

theorem IsSkeleton.fills_ne_nil : text ≠ [] := by
  rcases skeleton.chars_or with ⟨whole, rfl⟩ | ⟨six, piece, back, rfl, isSix⟩
  · rw [fills.eq_of_chars]
    rintro rfl
    exact skeleton.nonempty rfl
  · obtain ⟨behind, rfl, -⟩ := fills.split_chars
    intro empty
    rw [(List.append_eq_nil_iff.mp empty).1] at isSix
    cases isSix

theorem IsSkeleton.take_eq {text' : Text} (fills' : Fills pieces text') :
    text.take 6 = text'.take 6 := by
  rcases skeleton.chars_or with ⟨whole, rfl⟩ | ⟨six, piece, back, rfl, isSix⟩
  · rw [fills.eq_of_chars, fills'.eq_of_chars]
  · obtain ⟨behind, rfl, -⟩ := fills.split_chars
    obtain ⟨behind', rfl, -⟩ := fills'.split_chars
    rw [List.take_left' isSix, List.take_left' isSix]

theorem IsSkeleton.visible_fills : ∀ char ∈ text, isBlank char = false :=
  fills.isBlank_eq_false skeleton.visible

end Skeleton

/-! ## Words that end in secrets -/

def endsFixed (pieces : List Piece) : Bool :=
  chars "Authorization:".toList <:+ pieces ∨ chars "authorization:".toList <:+ pieces

def endsOpen (pieces : List Piece) : Bool :=
  pieces.getLast? = some .credential ∨ pieces.getLast? = some .value

theorem suffix_append_cons_iff {Element : Type} {last front back : List Element} {element : Element}
    (absent : element ∉ last) : last <:+ front ++ element :: back ↔ last <:+ back := by
  constructor
  · rintro ⟨before, split⟩
    rcases List.append_eq_append_iff.mp split with ⟨overlap, -, behind⟩ | ⟨overlap, -, behind⟩
    · exact absurd (by rw [behind]; simp) absent
    · cases overlap with
      | nil => exact absurd (by rw [← List.nil_append last, ← behind]; simp) absent
      | cons first overlap => exact ⟨overlap, (List.cons_eq_cons.mp behind).2.symm⟩
  · intro isSuffix
    exact (isSuffix.trans (List.suffix_cons element back)).trans (List.suffix_append front _)

theorem chars_suffix_iff (last text : Text) : chars last <:+ chars text ↔ last <:+ text := by
  constructor
  · rintro ⟨before, split⟩
    obtain ⟨first, second, rfl, -, same⟩ := List.map_eq_append_iff.mp split.symm
    have injective : Function.Injective Piece.plain := fun _ _ same => Piece.plain.inj same
    rw [← injective.list_map same]
    exact List.suffix_append first second
  · exact fun isSuffix => isSuffix.map Piece.plain

theorem endsFixed_chars (text : Text) : endsFixed (chars text) = endsAuthorization text := by
  rw [endsFixed, endsAuthorization]
  simp only [chars_suffix_iff]

theorem endsAuthorization_of_endsFixed {pieces : List Piece} {text : Text}
    (fixed : endsFixed pieces = true) (fills : Fills pieces text) : endsAuthorization text = true := by
  have ends : ∀ last : Text, chars last <:+ pieces → last <:+ text := by
    rintro last ⟨front, rfl⟩
    obtain ⟨first, second, rfl, -, fillsLast⟩ := fills.split
    rw [fillsLast.eq_of_chars]
    exact List.suffix_append first last
  rw [endsFixed, decide_eq_true_eq] at fixed
  rw [endsAuthorization, decide_eq_true_eq]
  exact fixed.imp (ends _) (ends _)

theorem not_open_of_endsFixed {pieces : List Piece} (fixed : endsFixed pieces = true) :
    endsOpen pieces = false := by
  have last : pieces.getLast? = some (.plain ':') := by
    rw [endsFixed, decide_eq_true_eq] at fixed
    rcases fixed with ⟨front, rfl⟩ | ⟨front, rfl⟩
    · rw [List.getLast?_append]
      rfl
    · rw [List.getLast?_append]
      rfl
  rw [endsOpen, last]
  rfl

theorem eq_concat_of_endsOpen {pieces : List Piece} (isOpen : endsOpen pieces = true) :
    ∃ front, pieces = front ++ [.credential] ∨ pieces = front ++ [.value] := by
  rw [endsOpen, decide_eq_true_eq] at isOpen
  rcases isOpen with last | last
  · exact ⟨pieces.dropLast, .inl (List.dropLast_append_getLast? _ last).symm⟩
  · exact ⟨pieces.dropLast, .inr (List.dropLast_append_getLast? _ last).symm⟩

theorem endsAuthorization_of_endsOpen {pieces : List Piece} (isOpen : endsOpen pieces = true) :
    endsAuthorization (fillWith "Authorization:".toList pieces) = true := by
  have ends : "Authorization:".toList <:+ fillWith "Authorization:".toList pieces := by
    obtain ⟨front, rfl | rfl⟩ := eq_concat_of_endsOpen isOpen
    · rw [fillWith, List.flatMap_append]
      exact List.suffix_append _ _
    · rw [fillWith, List.flatMap_append]
      exact List.suffix_append _ _
  rw [endsAuthorization, decide_eq_true_eq]
  exact .inl ends

theorem endsAuthorization_separator (front behind : Text) :
    endsAuthorization (front ++ '&' :: behind) = endsAuthorization behind := by
  have upper : '&' ∉ "Authorization:".toList := by decide
  have lower : '&' ∉ "authorization:".toList := by decide
  rw [endsAuthorization, endsAuthorization, decide_eq_decide, suffix_append_cons_iff upper,
    suffix_append_cons_iff lower]

theorem endsFixed_separator (front back : List Piece) :
    endsFixed (front ++ .plain '&' :: back) = endsFixed back := by
  have upper : .plain '&' ∉ chars "Authorization:".toList := by decide
  have lower : .plain '&' ∉ chars "authorization:".toList := by decide
  rw [endsFixed, endsFixed, decide_eq_decide, suffix_append_cons_iff upper,
    suffix_append_cons_iff lower]

theorem IsSkeleton.endsAuthorization_eq {pieces : List Piece} {text : Text}
    (skeleton : IsSkeleton pieces) (fills : Fills pieces text) (closed : endsOpen pieces = false) :
    endsAuthorization text = endsFixed pieces := by
  rcases chars_or_last pieces with ⟨whole, rfl⟩ | ⟨front, behind, rfl | rfl⟩
  · rw [fills.eq_of_chars, endsFixed_chars]
  · obtain ⟨six, -, split⟩ := skeleton.credential (by simp)
    have last := congrArg List.getLast? split
    rw [List.getLast?_concat] at last
    rw [endsOpen, last] at closed
    cases closed
  · cases behind with
    | nil =>
        have last : (front ++ .value :: chars []).getLast? = some .value := List.getLast?_concat
        rw [endsOpen, last] at closed
        cases closed
    | cons char behind =>
        -- no end of a word reaches over the separator
        obtain rfl : char = '&' := Piece.plain.inj ((skeleton.value _ _ rfl).2 _ rfl)
        obtain ⟨first, others, rfl, -, fillsOthers⟩ := fills.split
        cases fillsOthers with
        | @cons _ _ part rest _ fillsRest =>
            have fixed : endsFixed (front ++ .value :: chars ('&' :: behind)) =
                endsFixed (chars behind) := by
              rw [List.append_cons]
              exact endsFixed_separator _ _
            rw [fillsRest.eq_of_chars, ← List.append_assoc, endsAuthorization_separator, fixed,
              endsFixed_chars]

theorem fillWith_append (secret : Text) (front back : List Piece) :
    fillWith secret (front ++ back) = fillWith secret front ++ fillWith secret back :=
  List.flatMap_append

theorem fillWith_chars (secret text : Text) : fillWith secret (chars text) = text := by
  induction text with
  | nil => rfl
  | cons char text induction => exact congrArg (char :: ·) induction

theorem endsAuthorization_of_length_lt {word : Text} (short : word.length < 14) :
    endsAuthorization word = false := by
  rw [endsAuthorization, decide_eq_false_iff_not]
  rintro (upper | lower)
  · exact absurd (upper.length_le.trans_lt short) (by decide)
  · exact absurd (lower.length_le.trans_lt short) (by decide)

theorem endsAuthorization_parameter (before : Text) {six : Text} (isSix : six.length = 6) :
    endsAuthorization (before ++ (secretPrefix ++ six)) = false := by
  have not : ∀ first second : Text, second.length = 6 → first.getLast? = some 'z' →
      ¬ first ++ second <:+ before ++ (secretPrefix ++ six) := by
    rintro first second isSecond last ⟨front, split⟩
    rw [← List.append_assoc, ← List.append_assoc] at split
    have same := (List.append_inj' split (by rw [isSecond, isSix])).1
    have lasts := congrArg List.getLast? same
    rw [List.getLast?_append, last, List.getLast?_append] at lasts
    cases lasts
  rw [endsAuthorization, decide_eq_false_iff_not]
  exact not_or.mpr ⟨not "Authoriz".toList "ation:".toList rfl rfl,
    not "authoriz".toList "ation:".toList rfl rfl⟩

theorem IsSkeleton.endsAuthorization_nil {pieces : List Piece} (skeleton : IsSkeleton pieces) :
    endsAuthorization (fillWith [] pieces) = endsFixed pieces := by
  cases isOpen : endsOpen pieces with
  | false => exact skeleton.endsAuthorization_eq (fills_fillWith (by simp) pieces) isOpen
  | true =>
      have notFixed : endsFixed pieces = false := by
        by_contra fixed
        rw [not_open_of_endsFixed (by simpa using fixed)] at isOpen
        cases isOpen
      rw [notFixed]
      obtain ⟨front, rfl | rfl⟩ := eq_concat_of_endsOpen isOpen
      · obtain ⟨six, isSix, split⟩ := skeleton.credential (by simp)
        rw [split, fillWith_append, fillWith_chars]
        exact endsAuthorization_of_length_lt (by simp [fillWith, Piece.fill, isSix])
      · obtain ⟨before, six, rfl, isSix, -⟩ := (skeleton.value front [] rfl).1
        rw [fillWith_append, fillWith_append, fillWith_chars]
        exact (congrArg endsAuthorization (List.append_nil _)).trans
          (endsAuthorization_parameter _ isSix)

end Cuttlefish.Web.ScrubSecrets
