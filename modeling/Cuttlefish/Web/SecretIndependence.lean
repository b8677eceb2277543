import Cuttlefish.Web.SecretWords

/-! # What logs tell about secrets

Texts that differ in their secrets only are logged alike where each secret credential is that of the
last header on its line. -/

namespace Cuttlefish.Web.ScrubSecrets

/-! ## Possible headers -/

def SameShape {First Second : Type} (word : Text × List First) (other : Text × List Second) : Prop :=
  word.1 = other.1 ∧ (6 ≤ word.2.length ↔ 6 ≤ other.2.length)

section SameShape

variable {First Second : Type} {words : List (Text × List First)} {others : List (Text × List Second)}

theorem isFollowed_eq (same : List.Forall₂ SameShape words others) :
    isFollowed words = isFollowed others := by
  cases same with
  | nil => rfl
  | cons first same =>
      cases same with
      | nil => rfl
      | cons second same => simp only [isFollowed, first.1, second.1, second.2]

theorem anyHeader_imp {begins : List First → Bool} {begins' : List Second → Bool}
    (same : List.Forall₂ SameShape words others)
    (imp : List.Forall₂ (fun word other => begins word.2 = true → begins' other.2 = true) words others)
    (isHeader : anyHeader begins words = true) : anyHeader begins' others = true := by
  induction same with
  | nil => exact isHeader
  | cons _ same induction =>
      cases imp with
      | cons here imp =>
          rw [anyHeader, Bool.or_eq_true, Bool.and_eq_true] at isHeader
          rw [anyHeader, Bool.or_eq_true, Bool.and_eq_true, ← isFollowed_eq same]
          exact isHeader.imp (induction imp) (And.imp_left here)

end SameShape

theorem anyHeader_or {Element : Type} (begins begins' : List Element → Bool)
    (words : List (Text × List Element)) :
    anyHeader (fun word => begins word || begins' word) words =
      (anyHeader begins words || anyHeader begins' words) := by
  induction words with
  | nil => rfl
  | cons word words induction =>
      rw [anyHeader, anyHeader, anyHeader, induction, Bool.and_or_distrib_right]
      ac_rfl

def FillsWord (skeleton : Text × List Piece) (word : Text × Text) : Prop :=
  skeleton.1 = word.1 ∧ Fills skeleton.2 word.2

def fillWords (secret : Text) (words : List (Text × List Piece)) : List (Text × Text) :=
  words.map fun word => (word.1, fillWith secret word.2)

theorem fills_fillWords {secret : Text} (isSecret : ∀ char ∈ secret, isValueChar char = true)
    (words : List (Text × List Piece)) : List.Forall₂ FillsWord words (fillWords secret words) := by
  rw [fillWords, List.forall₂_map_right_iff, List.forall₂_same]
  exact fun word _ => ⟨rfl, fills_fillWith isSecret word.2⟩

section Words

variable {words : List (Text × List Piece)} (skeletons : ∀ word ∈ words, IsSkeleton word.2)

include skeletons

theorem sameShape_fills {filled : List (Text × Text)} (fills : List.Forall₂ FillsWord words filled) :
    List.Forall₂ SameShape words filled := by
  have all := (List.forall₂_and_left words filled).mpr ⟨skeletons, fills⟩
  exact all.imp fun word other both => ⟨both.2.1, (both.1.length_iff both.2.2).symm⟩

theorem anyHeader_of_fixed {filled : List (Text × Text)} (fills : List.Forall₂ FillsWord words filled)
    (fixed : anyHeader endsFixed words = true) : anyHeader endsAuthorization filled = true :=
  anyHeader_imp (sameShape_fills skeletons fills)
    (fills.imp fun _ _ isFilled isFixed => endsAuthorization_of_endsFixed isFixed isFilled.2) fixed

theorem anyHeader_of_none {filled : List (Text × Text)} (fills : List.Forall₂ FillsWord words filled)
    (noFixed : anyHeader endsFixed words = false) (noOpen : anyHeader endsOpen words = false) :
    anyHeader endsAuthorization filled = false := by
  have all := (List.forall₂_and_left words filled).mpr ⟨skeletons, fills⟩
  have imp : List.Forall₂ (fun (other : Text × Text) (word : Text × List Piece) =>
      endsAuthorization other.2 = true → (endsFixed word.2 || endsOpen word.2) = true) filled words := by
    refine (all.imp fun word other both isHeader => ?_).flip
    cases isOpen : endsOpen word.2 with
    | true => rw [Bool.or_true]
    | false => rw [Bool.or_false, ← both.1.endsAuthorization_eq both.2.2 isOpen, isHeader]
  have same : List.Forall₂ SameShape filled words :=
    ((sameShape_fills skeletons fills).imp fun word other isSame => ⟨isSame.1.symm, isSame.2.symm⟩).flip
  by_contra isHeader
  have possible := @anyHeader_imp _ _ _ _ _ (fun word => endsFixed word || endsOpen word) same imp
    (by simpa using isHeader)
  rw [anyHeader_or, noFixed, noOpen] at possible
  cases possible

theorem anyHeader_nil :
    anyHeader endsAuthorization (fillWords [] words) = anyHeader endsFixed words := by
  induction words with
  | nil => rfl
  | cons word words induction =>
      have followed := isFollowed_eq (sameShape_fills (List.forall_mem_cons.mp skeletons).2
        (@fills_fillWords [] (by simp) words))
      rw [List.forall_mem_cons] at skeletons
      rw [anyHeader, followed, ← induction skeletons.2, ← skeletons.1.endsAuthorization_nil]
      rfl

theorem anyHeader_authorization (isOpen : anyHeader endsOpen words = true) :
    anyHeader endsAuthorization (fillWords "Authorization:".toList words) = true := by
  have fills := @fills_fillWords "Authorization:".toList (List.all_eq_true.mp (by decide)) words
  refine anyHeader_imp (sameShape_fills skeletons fills) ?_ isOpen
  rw [fillWords, List.forall₂_map_right_iff, List.forall₂_same]
  exact fun word _ => endsAuthorization_of_endsOpen

end Words

/-! ## Lines that keep their secrets -/

def isSettled (pieces : List Piece) : Bool := pieces.drop 6 = chars "...".toList

/-- Behind a header whose credential is secret there is neither another header nor a word that ends
in a secret and could be one. Behind a header whose credential is not secret there is another one, or
no word that could be one, or it does not matter. Behind a word that could be a header there is a
header, or it does not matter. -/
def Keeps (word : List Piece) (words : List (Text × List Piece)) : Prop :=
  ∀ credential ∈ words[1]?, isFollowed words = true →
    (endsFixed word = true → .credential ∈ credential.2 →
      anyHeader endsFixed words = false ∧ anyHeader endsOpen words = false) ∧
    (endsFixed word = true → .credential ∉ credential.2 →
      anyHeader endsFixed words = true ∨ anyHeader endsOpen words = false ∨
        isSettled credential.2 = true) ∧
    (endsOpen word = true → anyHeader endsFixed words = true ∨ isSettled credential.2 = true)

def BehindHeaders (words : List (Text × List Piece)) : Prop :=
  ∀ header scheme word rest, header :: scheme :: word :: rest <:+ words → .credential ∈ word.2 →
    endsFixed header.2 = true ∧ isFollowed (scheme :: word :: rest) = true

def Agrees (here here' : Bool) (pieces : List Piece) : Prop :=
  (here = here' ∧ (.credential ∈ pieces → here = true)) ∨ isSettled pieces = true

theorem IsSkeleton.eq_of_isSettled {pieces : List Piece} (skeleton : IsSkeleton pieces)
    (settled : isSettled pieces = true) :
    ∃ six : Text, six.length = 6 ∧ pieces = chars (six ++ "...".toList) := by
  rw [isSettled, decide_eq_true_eq] at settled
  rcases skeleton.chars_or with ⟨text, rfl⟩ | ⟨six, piece, back, rfl, isSix⟩
  · have long : 6 ≤ text.length := by
      have lengths := congrArg List.length settled
      simp [chars] at lengths
      omega
    refine ⟨text.take 6, by rw [List.length_take]; omega, ?_⟩
    rw [chars, chars, ← List.map_drop] at settled
    rw [chars, chars, List.map_append, ← settled, ← List.map_append, List.take_append_drop]
  · have six' : (chars six).length = 6 := by rw [chars, List.length_map, isSix]
    rw [List.drop_left' six'] at settled
    exact ⟨six, isSix, by rw [settled, chars, chars, chars, List.map_append]⟩

theorem IsSkeleton.logWord_eq {here here' : Bool} {skeleton : Text × List Piece}
    {word word' : Text × Text} (isSkeleton : IsSkeleton skeleton.2)
    (agrees : Agrees here here' skeleton.2) (fills : FillsWord skeleton word)
    (fills' : FillsWord skeleton word') : logWord here word = logWord here' word' := by
  obtain ⟨sameGap, isFilled⟩ := fills
  obtain ⟨sameGap', isFilled'⟩ := fills'
  have gaps : word.1 = word'.1 := sameGap.symm.trans sameGap'
  rcases agrees with ⟨rfl, marked⟩ | settled
  · cases here with
    | true =>
        have same : cutWord word = cutWord word' := by
          rw [cutWord, cutWord, gaps, isSkeleton.take_eq isFilled isFilled']
        rw [logWord, logWord, if_pos rfl, if_pos rfl, gaps, same]
    | false =>
        have noCredential : .credential ∉ skeleton.2 := fun member => Bool.false_ne_true (marked member)
        have same := (isSkeleton.hasValues noCredential).scrubValues_eq isFilled isFilled'
        rw [logWord, logWord, if_neg Bool.false_ne_true, if_neg Bool.false_ne_true, gaps, same]
  · obtain ⟨six, isSix, split⟩ := isSkeleton.eq_of_isSettled settled
    rw [split] at isFilled isFilled'
    have same : word = word' :=
      Prod.ext gaps (isFilled.eq_of_chars.trans isFilled'.eq_of_chars.symm)
    have kept : ∀ flag : Bool, (if flag then cutWord word' else word') = word' := by
      have cut : cutWord word' = word' := by
        refine Prod.ext rfl ?_
        rw [cutWord, isFilled'.eq_of_chars, List.take_left' isSix]
      intro flag
      cases flag with
      | true => rw [if_pos rfl, cut]
      | false => rw [if_neg Bool.false_ne_true]
    rw [logWord, logWord, same, kept, kept]

section Last

variable {skeleton : Text × List Piece} {words : List (Text × List Piece)} {word : Text × Text}
  {filled : List (Text × Text)}

theorem isLast_eq_false_of_fixed {text : Text} (skeletons : ∀ word ∈ words, IsSkeleton word.2)
    (fills : List.Forall₂ FillsWord words filled) (fixed : anyHeader endsFixed words = true) :
    isLast text filled = false := by
  rw [isLast, anyHeader_of_fixed skeletons fills fixed]
  rfl

theorem isLast_eq_true (skeletons : ∀ word ∈ words, IsSkeleton word.2)
    (fillsWord : FillsWord skeleton word) (fills : List.Forall₂ FillsWord words filled)
    (isFixed : endsFixed skeleton.2 = true) (followed : isFollowed words = true)
    (noFixed : anyHeader endsFixed words = false) (noOpen : anyHeader endsOpen words = false) :
    isLast word.2 filled = true := by
  rw [isLast, anyHeader_of_none skeletons fills noFixed noOpen,
    endsAuthorization_of_endsFixed isFixed fillsWord.2,
    ← isFollowed_eq (sameShape_fills skeletons fills), followed]
  rfl

theorem isLast_eq_false_of_unfollowed (skeletons : ∀ word ∈ words, IsSkeleton word.2)
    (fills : List.Forall₂ FillsWord words filled) (unfollowed : isFollowed words = false) :
    isLast word.2 filled = false := by
  rw [isLast, ← isFollowed_eq (sameShape_fills skeletons fills), unfollowed, Bool.and_false,
    Bool.and_false]

theorem isLast_eq_false_of_closed (isSkeleton : IsSkeleton skeleton.2)
    (fillsWord : FillsWord skeleton word) (notFixed : endsFixed skeleton.2 = false)
    (closed : endsOpen skeleton.2 = false) : isLast word.2 filled = false := by
  rw [isLast, isSkeleton.endsAuthorization_eq fillsWord.2 closed, notFixed, Bool.false_and,
    Bool.and_false]

end Last

section Agreeing

variable {skeleton : Text × List Piece} {words : List (Text × List Piece)} {word word' : Text × Text}
  {filled filled' : List (Text × Text)} (skeletons : ∀ word ∈ words, IsSkeleton word.2)

include skeletons

theorem agrees_isLast {credential : Text × List Piece} (isSkeleton : IsSkeleton skeleton.2)
    (keeps : Keeps skeleton.2 words) (behind : BehindHeaders (skeleton :: words))
    (isCredential : credential ∈ words[1]?)
    (fillsWord : FillsWord skeleton word) (fillsWord' : FillsWord skeleton word')
    (fills : List.Forall₂ FillsWord words filled) (fills' : List.Forall₂ FillsWord words filled') :
    Agrees (isLast word.2 filled) (isLast word'.2 filled') credential.2 := by
  have header : .credential ∈ credential.2 →
      endsFixed skeleton.2 = true ∧ isFollowed words = true := by
    match words, isCredential with
    | scheme :: _ :: rest, rfl => exact behind _ _ _ _ List.suffix_rfl
  have agreesFalse : isLast word.2 filled = false → isLast word'.2 filled' = false →
      .credential ∉ credential.2 → Agrees (isLast word.2 filled) (isLast word'.2 filled') credential.2 := by
    intro notLast notLast' unmarked
    rw [notLast, notLast']
    exact .inl ⟨rfl, fun member => absurd member unmarked⟩
  cases followed : isFollowed words with
  | false =>
      have unmarked : .credential ∉ credential.2 := by
        intro member
        rw [(header member).2] at followed
        cases followed
      exact agreesFalse (isLast_eq_false_of_unfollowed skeletons fills followed)
        (isLast_eq_false_of_unfollowed skeletons fills' followed) unmarked
  | true =>
      obtain ⟨secret, plain, isOpen⟩ := keeps credential isCredential followed
      cases isFixed : endsFixed skeleton.2 with
      | true =>
          by_cases marked : .credential ∈ credential.2
          · obtain ⟨noFixed, noOpen⟩ := secret isFixed marked
            rw [isLast_eq_true skeletons fillsWord fills isFixed followed noFixed noOpen,
              isLast_eq_true skeletons fillsWord' fills' isFixed followed noFixed noOpen]
            exact .inl ⟨rfl, fun _ => rfl⟩
          · cases later : anyHeader endsFixed words with
            | true =>
                exact agreesFalse (isLast_eq_false_of_fixed skeletons fills later)
                  (isLast_eq_false_of_fixed skeletons fills' later) marked
            | false =>
                rcases plain isFixed marked with fixed | noOpen | settled
                · rw [later] at fixed
                  cases fixed
                · rw [isLast_eq_true skeletons fillsWord fills isFixed followed later noOpen,
                    isLast_eq_true skeletons fillsWord' fills' isFixed followed later noOpen]
                  exact .inl ⟨rfl, fun _ => rfl⟩
                · exact .inr settled
      | false =>
          have unmarked : .credential ∉ credential.2 := by
            intro member
            rw [(header member).1] at isFixed
            cases isFixed
          cases ends : endsOpen skeleton.2 with
          | false =>
              exact agreesFalse (isLast_eq_false_of_closed isSkeleton fillsWord isFixed ends)
                (isLast_eq_false_of_closed isSkeleton fillsWord' isFixed ends) unmarked
          | true =>
              rcases isOpen ends with later | settled
              · exact agreesFalse (isLast_eq_false_of_fixed skeletons fills later)
                  (isLast_eq_false_of_fixed skeletons fills' later) unmarked
              · exact .inr settled

end Agreeing

theorem logWords_eq {words : List (Text × List Piece)} {filled filled' : List (Text × Text)}
    {here here' next next' : Bool} (skeletons : ∀ word ∈ words, IsSkeleton word.2)
    (keeps : ∀ word rest, word :: rest <:+ words → Keeps word.2 rest) (behind : BehindHeaders words)
    (fills : List.Forall₂ FillsWord words filled) (fills' : List.Forall₂ FillsWord words filled')
    (first : ∀ word ∈ words[0]?, Agrees here here' word.2)
    (second : ∀ word ∈ words[1]?, Agrees next next' word.2) :
    logWords here next filled = logWords here' next' filled' := by
  induction words generalizing filled filled' here here' next next' with
  | nil =>
      cases fills
      cases fills'
      rfl
  | cons skeleton words induction =>
      cases fills with
      | @cons _ word _ filled fillsWord fills =>
          cases fills' with
          | @cons _ word' _ filled' fillsWord' fills' =>
              rw [List.forall_mem_cons] at skeletons
              have rest := induction skeletons.2
                (fun word rest isSuffix => keeps word rest (isSuffix.trans (List.suffix_cons _ _)))
                (fun header scheme word rest isSuffix =>
                  behind header scheme word rest (isSuffix.trans (List.suffix_cons _ _)))
                fills fills' second
                (fun credential isCredential => agrees_isLast skeletons.2 skeletons.1
                  (keeps skeleton words List.suffix_rfl) behind isCredential fillsWord fillsWord'
                  fills fills')
              rw [logWords_cons, logWords_cons, rest,
                skeletons.1.logWord_eq (first skeleton rfl) fillsWord fillsWord']

/-! ## Lines that tell their secrets -/

theorem getElem?_logWords (here next : Bool) (front : List (Text × Text))
    (word scheme credential : Text × Text) (rest : List (Text × Text)) :
    (logWords here next (front ++ word :: scheme :: credential :: rest))[front.length + 2]? =
      some (logWord (isLast word.2 (scheme :: credential :: rest)) credential) := by
  induction front generalizing here next with
  | nil =>
      rw [List.nil_append, logWords_cons, logWords_cons, logWords_cons]
      rfl
  | cons first front induction =>
      rw [List.cons_append, logWords_cons, List.length_cons, Nat.add_right_comm,
        List.getElem?_cons_succ, induction]

theorem scrubValues_cutWord (word : Text × Text) :
    scrubValues (cutWord word).2 = (cutWord word).2 := by
  apply scrubValues_of_length_lt
  have dots : "...".toList.length = 3 := by decide
  rw [cutWord, List.length_append, List.length_take, dots]
  omega

theorem eq_cutWord_of_logWord_eq {word word' : Text × Text}
    (same : logWord false word = logWord true word') : word.2 = word'.2.take 6 ++ "...".toList := by
  have texts : scrubValues word.2 = (cutWord word').2 :=
    (Prod.mk.inj same).2.trans (scrubValues_cutWord word')
  have short : (cutWord word').2.length < 20 := by
    have dots : "...".toList.length = 3 := by decide
    rw [cutWord, List.length_append, List.length_take, dots]
    omega
  rcases scrubValues_eq_self_or word.2 with whole | long
  · exact whole.symm.trans texts
  · rw [texts] at long
    exact absurd short (Nat.not_lt.mpr long)

theorem isSettled_of_logWord_eq {skeleton : Text × List Piece} {word word' : Text × Text}
    (isSkeleton : IsSkeleton skeleton.2) (unmarked : .credential ∉ skeleton.2)
    (long : 6 ≤ skeleton.2.length) (fills : FillsWord skeleton word)
    (fills' : FillsWord skeleton word') (same : logWord false word = logWord true word') :
    isSettled skeleton.2 = true := by
  have isCut := eq_cutWord_of_logWord_eq same
  have enough : (word'.2.take 6).length = 6 := by
    rw [List.length_take]
    have := (isSkeleton.length_iff fills'.2).mpr long
    omega
  rcases (isSkeleton.hasValues unmarked).chars_or with ⟨text, isText⟩ | ⟨text, back, split, tooLong⟩
  · have isFilled := fills.2
    rw [isText] at isFilled
    rw [isText, isSettled, decide_eq_true_eq, chars, ← List.map_drop, ← isFilled.eq_of_chars, isCut,
      List.drop_left' enough, chars]
  · have isFilled := fills.2
    rw [split] at isFilled
    obtain ⟨behind, filled, -⟩ := isFilled.split_chars
    have lengths := congrArg List.length (filled.symm.trans isCut)
    have dots : "...".toList.length = 3 := by decide
    rw [List.length_append, List.length_append, enough, dots] at lengths
    omega

/-- The line is logged alike, whatever its secrets are. -/
def LoggedAlike (words : List (Text × List Piece)) : Prop :=
  ∀ filled filled', List.Forall₂ FillsWord words filled → List.Forall₂ FillsWord words filled' →
    logWords false false filled = logWords false false filled'

theorem logWord_eq_of_loggedAlike {front rest : List (Text × List Piece)}
    {header scheme credential : Text × List Piece}
    (alike : LoggedAlike (front ++ header :: scheme :: credential :: rest))
    {word word' : Text × Text} {filled filled' : List (Text × Text)}
    (fillsWord : FillsWord header word) (fillsWord' : FillsWord header word')
    (fills : List.Forall₂ FillsWord (scheme :: credential :: rest) filled)
    (fills' : List.Forall₂ FillsWord (scheme :: credential :: rest) filled') :
    filled[1]?.map (logWord (isLast word.2 filled)) =
      filled'[1]?.map (logWord (isLast word'.2 filled')) := by
  have fillsFront := @fills_fillWords [] (by simp) front
  have same := alike _ _ (List.rel_append fillsFront (.cons fillsWord fills))
    (List.rel_append fillsFront (.cons fillsWord' fills'))
  match filled, filled', fills, fills' with
  | filledScheme :: filledCredential :: filled, filledScheme' :: filledCredential' :: filled', _, _ =>
      have place := congrArg (·[(fillWords [] front).length + 2]?) same
      dsimp only at place
      rwa [getElem?_logWords, getElem?_logWords] at place

section Telling

variable {front rest : List (Text × List Piece)} {header scheme credential : Text × List Piece}

theorem logWord_eq_of_fillWith
    (alike : LoggedAlike (front ++ header :: scheme :: credential :: rest))
    {first first' secret secret' : Text} (isFirst : ∀ char ∈ first, isValueChar char = true)
    (isFirst' : ∀ char ∈ first', isValueChar char = true)
    (isSecret : ∀ char ∈ secret, isValueChar char = true)
    (isSecret' : ∀ char ∈ secret', isValueChar char = true) :
    logWord (isLast (fillWith first header.2) (fillWords secret (scheme :: credential :: rest)))
        (credential.1, fillWith secret credential.2) =
      logWord (isLast (fillWith first' header.2) (fillWords secret' (scheme :: credential :: rest)))
        (credential.1, fillWith secret' credential.2) := by
  have fillsHeader : ∀ text : Text, (∀ char ∈ text, isValueChar char = true) →
      FillsWord header (header.1, fillWith text header.2) := fun text accepted =>
    ⟨rfl, fills_fillWith accepted header.2⟩
  exact Option.some.inj (logWord_eq_of_loggedAlike alike (fillsHeader first isFirst)
    (fillsHeader first' isFirst') (fills_fillWords isSecret (scheme :: credential :: rest))
    (fills_fillWords isSecret' (scheme :: credential :: rest)))

variable {words : List (Text × List Piece)} (skeletons : ∀ word ∈ words, IsSkeleton word.2)

include skeletons

theorem isLast_fillWords_nil (text : Text) (followed : isFollowed words = true)
    (noFixed : anyHeader endsFixed words = false) :
    isLast text (fillWords [] words) = endsAuthorization text := by
  have same := isFollowed_eq (sameShape_fills skeletons (@fills_fillWords [] (by simp) words))
  rw [isLast, anyHeader_nil skeletons, noFixed, ← same, followed, Bool.and_true]
  rfl

theorem isLast_fillWords_authorization (text : Text) (isOpen : anyHeader endsOpen words = true) :
    isLast text (fillWords "Authorization:".toList words) = false := by
  rw [isLast, anyHeader_authorization skeletons isOpen]
  rfl

end Telling

theorem keeps_of_loggedAlike {front rest : List (Text × List Piece)}
    {header scheme credential : Text × List Piece}
    (skeletons : ∀ word ∈ header :: scheme :: credential :: rest, IsSkeleton word.2)
    (behind : BehindHeaders (header :: scheme :: credential :: rest))
    (alike : LoggedAlike (front ++ header :: scheme :: credential :: rest)) :
    Keeps header.2 (scheme :: credential :: rest) := by
  rw [List.forall_mem_cons] at skeletons
  obtain ⟨isHeader, skeletons⟩ := skeletons
  have isCredential : IsSkeleton credential.2 := skeletons credential (by simp)
  have none : ∀ char ∈ ([] : Text), isValueChar char = true := by simp
  have authorization : ∀ char ∈ "Authorization:".toList, isValueChar char = true :=
    List.all_eq_true.mp (by decide)
  intro same isSecond followed
  obtain rfl : credential = same := Option.some.inj isSecond
  have long : 6 ≤ credential.2.length := by
    simp only [isFollowed, Bool.and_eq_true, decide_eq_true_eq] at followed
    exact followed.2
  have fills : ∀ secret : Text, (∀ char ∈ secret, isValueChar char = true) →
      FillsWord credential (credential.1, fillWith secret credential.2) := fun secret accepted =>
    ⟨rfl, fills_fillWith accepted credential.2⟩
  -- a secret makes a later word the last header
  have laterHeader : endsFixed header.2 = true →
      anyHeader endsFixed (scheme :: credential :: rest) = false →
      anyHeader endsOpen (scheme :: credential :: rest) = true →
      logWord false (credential.1, fillWith "Authorization:".toList credential.2) =
        logWord true (credential.1, fillWith [] credential.2) := by
    intro isFixed noFixed isOpen
    have alikeHere := logWord_eq_of_fillWith alike none none authorization none
    rwa [isLast_fillWords_authorization skeletons _ isOpen,
      isLast_fillWords_nil skeletons _ followed noFixed, isHeader.endsAuthorization_nil, isFixed]
      at alikeHere
  refine ⟨fun isFixed marked => ?_, fun isFixed unmarked => ?_, fun isOpen => ?_⟩
  · obtain ⟨six, isSix, split⟩ := isCredential.credential marked
    have filled : ∀ secret, fillWith secret credential.2 = six ++ secret := by
      intro secret
      rw [split, fillWith_append, fillWith_chars]
      exact congrArg (six ++ ·) (List.append_nil secret)
    have noFixed : anyHeader endsFixed (scheme :: credential :: rest) = false := by
      by_contra isLater
      have later : anyHeader endsFixed (scheme :: credential :: rest) = true := by simpa using isLater
      have one : ∀ char ∈ ['x'], isValueChar char = true := List.all_eq_true.mp (by decide)
      have alikeHere := logWord_eq_of_fillWith alike none none none one
      rw [isLast_eq_false_of_fixed skeletons (fills_fillWords none _) later,
        isLast_eq_false_of_fixed skeletons (fills_fillWords one _) later] at alikeHere
      have texts : scrubValues (fillWith [] credential.2) = scrubValues (fillWith ['x'] credential.2) :=
        (Prod.mk.inj alikeHere).2
      rw [filled, filled, scrubValues_of_length_lt (by simp [isSix]),
        scrubValues_of_length_lt (by simp [isSix])] at texts
      simpa using congrArg List.length texts
    refine ⟨noFixed, ?_⟩
    by_contra isLater
    have isCut := eq_cutWord_of_logWord_eq (laterHeader isFixed noFixed (by simpa using isLater))
    rw [filled, filled] at isCut
    have lengths := congrArg List.length isCut
    simp [isSix] at lengths
  · cases later : anyHeader endsFixed (scheme :: credential :: rest) with
    | true => exact .inl rfl
    | false =>
        cases isOpen : anyHeader endsOpen (scheme :: credential :: rest) with
        | false => exact .inr (.inl rfl)
        | true =>
            exact .inr (.inr (isSettled_of_logWord_eq isCredential unmarked long
              (fills _ authorization) (fills _ none) (laterHeader isFixed later isOpen)))
  · have notFixed : endsFixed header.2 = false := by
      by_contra isFixed
      rw [not_open_of_endsFixed (by simpa using isFixed)] at isOpen
      cases isOpen
    have unmarked : .credential ∉ credential.2 := by
      intro marked
      rw [(behind _ _ _ _ List.suffix_rfl marked).1] at notFixed
      cases notFixed
    cases later : anyHeader endsFixed (scheme :: credential :: rest) with
    | true => exact .inl rfl
    | false =>
        have alikeHere := logWord_eq_of_fillWith alike none authorization none none
        rw [isLast_fillWords_nil skeletons _ followed later,
          isLast_fillWords_nil skeletons _ followed later, isHeader.endsAuthorization_nil, notFixed,
          endsAuthorization_of_endsOpen isOpen] at alikeHere
        exact .inr (isSettled_of_logWord_eq isCredential unmarked long (fills _ none) (fills _ none)
          alikeHere)

/-! ## Texts with secrets -/

theorem fills_words_iff (words : List (Text × List Piece)) (behind : List Piece) (text : Text) :
    Fills (words.flatMap (fun word => chars word.1 ++ word.2) ++ behind) text ↔
      ∃ filled rest, List.Forall₂ FillsWord words filled ∧ Fills behind rest ∧
        text = write filled rest := by
  constructor
  · intro fills
    induction words generalizing text with
    | nil => exact ⟨[], text, .nil, fills, rfl⟩
    | cons word words induction =>
        rw [List.flatMap_cons, List.append_assoc, List.append_assoc] at fills
        obtain ⟨afterGap, rfl, others⟩ := fills.split_chars
        obtain ⟨filledWord, afterWord, rfl, fillsWord, others⟩ := others.split
        obtain ⟨filled, rest, fillsWords, fillsBehind, rfl⟩ := induction afterWord others
        exact ⟨(word.1, filledWord) :: filled, rest, .cons ⟨rfl, fillsWord⟩ fillsWords, fillsBehind, rfl⟩
  · rintro ⟨filled, rest, fillsWords, fillsBehind, rfl⟩
    induction fillsWords with
    | nil => exact fillsBehind
    | @cons word filledWord words filled fillsWord _ induction =>
        rw [List.flatMap_cons, List.append_assoc, List.append_assoc, fillsWord.1]
        exact (fills_chars _).append (fillsWord.2.append induction)

theorem gaps_of_fills {words : List (Text × List Piece)} {filled : List (Text × Text)}
    (fills : List.Forall₂ FillsWord words filled) : filled.map Prod.fst = words.map Prod.fst := by
  induction fills with
  | nil => rfl
  | cons fillsWord _ induction => rw [List.map_cons, List.map_cons, fillsWord.1, induction]

theorem forall_mem_of_fills {P : Text × Text → Prop} {words : List (Text × List Piece)}
    {filled : List (Text × Text)} (fills : List.Forall₂ FillsWord words filled)
    (all : ∀ skeleton ∈ words, ∀ word, FillsWord skeleton word → P word) : ∀ word ∈ filled, P word := by
  induction fills with
  | nil => simp
  | cons fillsWord _ induction =>
      rw [List.forall_mem_cons] at all
      exact List.forall_mem_cons.mpr ⟨all.1 _ fillsWord, induction all.2⟩

structure Line where
  words : List (Text × List Piece)
  trailing : Text
  skeletons : ∀ word ∈ words, IsSkeleton word.2
  gaps : ∀ word ∈ words, AreBlanks word.1
  separated : ∀ word ∈ words.tail, word.1 ≠ []
  blanks : AreBlanks trailing
  credentials : ∀ front word back, words = front ++ word :: back → .credential ∈ word.2 →
    ∃ before header scheme, front = before ++ [header, scheme] ∧ endsFixed header.2 = true ∧
      isFollowed (scheme :: word :: back) = true

namespace Line

def Keeps (line : Line) : Prop :=
  ∀ word words, word :: words <:+ line.words → ScrubSecrets.Keeps word.2 words

theorem behindHeaders (line : Line) : BehindHeaders line.words := by
  rintro header scheme word rest ⟨front, split⟩ marked
  have around : line.words = (front ++ [header, scheme]) ++ word :: rest := by simp [← split]
  obtain ⟨before, header', scheme', same, isFixed, followed⟩ := line.credentials _ _ _ around marked
  have lasts := (List.append_inj' same rfl).2
  rw [List.cons.injEq, List.cons.injEq] at lasts
  rw [lasts.1, lasts.2.1]
  exact ⟨isFixed, followed⟩

theorem unmarked (line : Line) {index : Nat} (isFirst : index < 2) :
    ∀ word ∈ line.words[index]?, .credential ∉ word.2 := by
  intro word isWord marked
  obtain ⟨inside, rfl⟩ := List.getElem?_eq_some_iff.mp isWord
  have around : line.words = line.words.take index ++ line.words[index] :: line.words.drop (index + 1) := by
    rw [← List.drop_eq_getElem_cons, List.take_append_drop]
  obtain ⟨before, header, scheme, same, -⟩ := line.credentials _ _ _ around marked
  have lengths := congrArg List.length same
  rw [List.length_take, List.length_append, List.length_cons, List.length_cons] at lengths
  omega

theorem keeps_iff (line : Line) : LoggedAlike line.words ↔ line.Keeps := by
  constructor
  · rintro alike word words ⟨front, split⟩
    match words with
    | [] => exact fun _ isSecond => by cases isSecond
    | [_] => exact fun _ isSecond => by cases isSecond
    | scheme :: credential :: rest =>
        rw [← split] at alike
        refine keeps_of_loggedAlike (fun other member => ?_) ?_ alike
        · exact line.skeletons other (split ▸ List.mem_append_right front member)
        · exact fun header scheme word rest isSuffix => line.behindHeaders header scheme word rest
            (isSuffix.trans ⟨front, split⟩)
  · intro keeps filled filled' fills fills'
    refine logWords_eq line.skeletons keeps line.behindHeaders fills fills' ?_ ?_
    · exact fun word isWord => .inl ⟨rfl, fun marked => absurd marked (line.unmarked Nat.two_pos word isWord)⟩
    · exact fun word isWord =>
        .inl ⟨rfl, fun marked => absurd marked (line.unmarked Nat.one_lt_two word isWord)⟩

def pieces (line : Line) : List Piece :=
  line.words.flatMap (fun word => chars word.1 ++ word.2) ++ chars line.trailing

theorem isWord_of_fillsWord (line : Line) {skeleton : Text × List Piece} {word : Text × Text}
    (member : skeleton ∈ line.words) (fills : FillsWord skeleton word) : IsWord word := by
  have isSkeleton := line.skeletons skeleton member
  have gap := line.gaps skeleton member
  rw [fills.1] at gap
  exact ⟨gap, isSkeleton.fills_ne_nil fills.2, isSkeleton.visible_fills fills.2⟩

theorem isWord_of_fills (line : Line) {filled : List (Text × Text)}
    (fills : List.Forall₂ FillsWord line.words filled) : ∀ word ∈ filled, IsWord word :=
  forall_mem_of_fills fills fun _ member _ => line.isWord_of_fillsWord member

theorem separated_of_fills (line : Line) {filled : List (Text × Text)}
    (fills : List.Forall₂ FillsWord line.words filled) : Separated filled.tail := by
  have fillsTail : List.Forall₂ FillsWord line.words.tail filled.tail := by
    rw [← List.drop_one, ← List.drop_one]
    exact List.forall₂_drop 1 fills
  refine forall_mem_of_fills fillsTail fun skeleton member word fillsWord => ⟨?_, ?_⟩
  · exact line.isWord_of_fillsWord (List.mem_of_mem_tail member) fillsWord
  · rw [← fillsWord.1]
    exact line.separated skeleton member

theorem fills_iff (line : Line) (behind : List Piece) (text : Text) :
    Fills (line.pieces ++ behind) text ↔
      ∃ filled rest, List.Forall₂ FillsWord line.words filled ∧ Fills behind rest ∧
        text = write filled (line.trailing ++ rest) := by
  rw [pieces, List.append_assoc, fills_words_iff]
  constructor
  · rintro ⟨filled, rest, fills, fillsRest, rfl⟩
    obtain ⟨others, rfl, fillsBehind⟩ := fillsRest.split_chars
    exact ⟨filled, others, fills, fillsBehind, rfl⟩
  · rintro ⟨filled, rest, fills, fillsBehind, rfl⟩
    exact ⟨filled, _, fills, (fills_chars line.trailing).append fillsBehind, rfl⟩

theorem fills_last_iff (line : Line) (text : Text) :
    Fills line.pieces text ↔
      ∃ filled, List.Forall₂ FillsWord line.words filled ∧ text = write filled line.trailing := by
  have split := line.fills_iff [] text
  rw [List.append_nil] at split
  rw [split]
  constructor
  · rintro ⟨filled, rest, fills, fillsRest, rfl⟩
    cases fillsRest
    exact ⟨filled, fills, by rw [List.append_nil]⟩
  · rintro ⟨filled, fills, rfl⟩
    exact ⟨filled, [], fills, .nil, by rw [List.append_nil]⟩

theorem scrubSecrets_last (line : Line) {filled : List (Text × Text)}
    (fills : List.Forall₂ FillsWord line.words filled) :
    scrubSecrets (write filled line.trailing) =
      write (logWords false false filled) line.trailing :=
  scrubSecrets_lastLine (line.isWord_of_fills fills) (line.separated_of_fills fills) line.blanks

theorem scrubSecrets_next (line : Line) {filled : List (Text × Text)}
    (fills : List.Forall₂ FillsWord line.words filled) {char : Char}
    (lineEnd : isLineEnd char = true) (text : Text) :
    scrubSecrets (write filled (line.trailing ++ char :: text)) =
      write (logWords false false filled) (line.trailing ++ char :: scrubSecrets text) :=
  scrubSecrets_line (line.isWord_of_fills fills) (line.separated_of_fills fills) line.blanks lineEnd
    text

theorem logged_inj (line : Line) {filled filled' : List (Text × Text)} {behind behind' : Text}
    (fills : List.Forall₂ FillsWord line.words filled)
    (fills' : List.Forall₂ FillsWord line.words filled') (stops : Stops behind)
    (stops' : Stops behind')
    (same : write (logWords false false filled) (line.trailing ++ behind) =
      write (logWords false false filled') (line.trailing ++ behind')) :
    logWords false false filled = logWords false false filled' ∧ behind = behind' := by
  have blanks : ∀ text, Stops text → Stops (line.trailing ++ text) := by
    intro text stopsText
    cases trailing : line.trailing with
    | nil => exact stopsText
    | cons char others =>
        intro first isFirst
        cases isFirst
        exact (line.blanks char (by rw [trailing]; exact List.mem_cons_self)).1
  have inj := write_inj (isWord_logWords (line.isWord_of_fills fills) false false)
    (isWord_logWords (line.isWord_of_fills fills') false false)
    (separated_logWords (line.separated_of_fills fills) false false)
    (separated_logWords (line.separated_of_fills fills') false false) (blanks _ stops)
    (blanks _ stops') (by rw [gaps_logWords, gaps_logWords, gaps_of_fills fills,
      gaps_of_fills fills']) same
  exact ⟨inj.1, List.append_cancel_left inj.2⟩

end Line

/-- Lines with secrets, one after another. -/
inductive Document
  | last (line : Line)
  | next (line : Line) (char : Char) (lineEnd : isLineEnd char = true) (behind : Document)

namespace Document

def pieces : Document → List Piece
  | last line => line.pieces
  | next line char _ behind => line.pieces ++ .plain char :: behind.pieces

def lines : Document → List Line
  | last line => [line]
  | next line _ _ behind => line :: behind.lines

/-- The texts with these pieces are logged alike, whatever the secrets are. -/
def LoggedAlike (document : Document) : Prop :=
  ∀ text text', Fills document.pieces text → Fills document.pieces text' →
    scrubSecrets text = scrubSecrets text'

theorem fills_next_iff {line : Line} {char : Char} (lineEnd : isLineEnd char = true)
    {behind : Document} {text : Text} :
    Fills (next line char lineEnd behind).pieces text ↔
      ∃ filled rest, List.Forall₂ FillsWord line.words filled ∧ Fills behind.pieces rest ∧
        text = write filled (line.trailing ++ char :: rest) := by
  rw [pieces, line.fills_iff]
  constructor
  · rintro ⟨filled, rest, fills, fillsRest, rfl⟩
    cases fillsRest with
    | @cons _ _ part others admits fillsBehind =>
        obtain rfl : part = [char] := admits
        exact ⟨filled, others, fills, fillsBehind, rfl⟩
  · rintro ⟨filled, rest, fills, fillsBehind, rfl⟩
    exact ⟨filled, char :: rest, fills, @Fills.cons (.plain char) _ [char] _ rfl fillsBehind, rfl⟩

theorem loggedAlike_iff_lines (document : Document) :
    document.LoggedAlike ↔ ∀ line ∈ document.lines, ScrubSecrets.LoggedAlike line.words := by
  induction document with
  | last line =>
      rw [lines, List.forall_mem_singleton]
      constructor
      · intro alike filled filled' fills fills'
        have same := alike _ _ ((line.fills_last_iff _).mpr ⟨filled, fills, rfl⟩)
          ((line.fills_last_iff _).mpr ⟨filled', fills', rfl⟩)
        rw [line.scrubSecrets_last fills, line.scrubSecrets_last fills'] at same
        refine (line.logged_inj fills fills' stops_nil stops_nil ?_).1
        rwa [List.append_nil]
      · intro alike text text' fills fills'
        obtain ⟨filled, fillsWords, rfl⟩ := (line.fills_last_iff text).mp fills
        obtain ⟨filled', fillsWords', rfl⟩ := (line.fills_last_iff text').mp fills'
        rw [line.scrubSecrets_last fillsWords, line.scrubSecrets_last fillsWords',
          alike filled filled' fillsWords fillsWords']
  | next line char lineEnd behind induction => 
      rw [lines, List.forall_mem_cons, ← induction]
      constructor
      · intro alike
        have both : ∀ filled filled' text text', List.Forall₂ FillsWord line.words filled →
            List.Forall₂ FillsWord line.words filled' → Fills behind.pieces text →
              Fills behind.pieces text' → logWords false false filled = logWords false false filled' ∧
                scrubSecrets text = scrubSecrets text' := by
          intro filled filled' text text' fills fills' fillsBehind fillsBehind'
          have same := alike _ _ ((fills_next_iff lineEnd).mpr ⟨filled, text, fills, fillsBehind, rfl⟩)
            ((fills_next_iff lineEnd).mpr ⟨filled', text', fills', fillsBehind', rfl⟩)
          rw [line.scrubSecrets_next fills lineEnd, line.scrubSecrets_next fills' lineEnd] at same
          have inj := line.logged_inj fills fills' (stops_lineEnd lineEnd _) (stops_lineEnd lineEnd _) same
          exact ⟨inj.1, List.tail_eq_of_cons_eq inj.2⟩
        have fillsBehind := @fills_fillWith [] (by simp) behind.pieces
        have fillsLine := @fills_fillWords [] (by simp) line.words
        exact ⟨fun filled filled' fills fills' =>
            (both _ _ _ _ fills fills' fillsBehind fillsBehind).1,
          fun text text' fills fills' => (both _ _ _ _ fillsLine fillsLine fills fills').2⟩
      · rintro ⟨alike, alikeBehind⟩ text text' fills fills'
        obtain ⟨filled, rest, fillsWords, fillsBehind, rfl⟩ := (fills_next_iff lineEnd).mp fills
        obtain ⟨filled', rest', fillsWords', fillsBehind', rfl⟩ := (fills_next_iff lineEnd).mp fills'
        rw [line.scrubSecrets_next fillsWords lineEnd, line.scrubSecrets_next fillsWords' lineEnd,
          alike filled filled' fillsWords fillsWords', alikeBehind rest rest' fillsBehind fillsBehind']

/-- What logs tell about secrets is told by a line of its own. -/
theorem loggedAlike_iff (document : Document) :
    document.LoggedAlike ↔ ∀ line ∈ document.lines, line.Keeps := by
  rw [loggedAlike_iff_lines]
  exact forall₂_congr fun line _ => line.keeps_iff

end Document

/-! ## A secret that is told -/

theorem isSkeleton_chars {text : Text} (nonempty : text ≠ [])
    (visible : ∀ char ∈ text, isBlank char = false) : IsSkeleton (chars text) where
  nonempty := fun empty => nonempty (List.map_eq_nil_iff.mp empty)
  visible := by
    intro char member
    obtain ⟨other, inside, same⟩ := List.mem_map.mp member
    exact Piece.plain.inj same ▸ visible other inside
  value := by
    intro front back split
    have member : .value ∈ chars text := by rw [split]; simp
    obtain ⟨_, _, same⟩ := List.mem_map.mp member
    cases same
  credential := by
    intro member
    obtain ⟨_, _, same⟩ := List.mem_map.mp member
    cases same

theorem isSkeleton_credential {six : Text} (isSix : six.length = 6)
    (visible : ∀ char ∈ six, isBlank char = false) : IsSkeleton (chars six ++ [.credential]) where
  nonempty := by simp
  visible := by
    intro char member
    rcases List.mem_append.mp member with inside | isCredential
    · obtain ⟨other, inside, same⟩ := List.mem_map.mp inside
      exact Piece.plain.inj same ▸ visible other inside
    · cases List.mem_singleton.mp isCredential
  value := by
    intro front back split
    have member : .value ∈ chars six ++ [.credential] := by rw [split]; simp
    rcases List.mem_append.mp member with inside | isCredential
    · obtain ⟨_, _, same⟩ := List.mem_map.mp inside
      cases same
    · cases List.mem_singleton.mp isCredential
  credential := fun _ => ⟨six, isSix, rfl⟩

/-- "Authorization: Bearer 123456", a secret, and another header. -/
def twoHeaders : Document := .last {
  words := [([], chars "Authorization:".toList), ([' '], chars "Bearer".toList),
    ([' '], chars "123456".toList ++ [.credential]), ([' '], chars "authorization:".toList),
    ([' '], chars "Basic".toList), ([' '], chars "abcdef".toList)]
  trailing := []
  skeletons := by
    simp only [List.forall_mem_cons]
    have plain : ∀ text : Text, text ≠ [] → text.all (!isBlank ·) = true → IsSkeleton (chars text) :=
      fun text nonempty visible => isSkeleton_chars nonempty (forall_visible visible)
    exact ⟨plain _ (by decide) (by decide), plain _ (by decide) (by decide),
      isSkeleton_credential (by decide) (forall_visible (by decide)), plain _ (by decide) (by decide),
      plain _ (by decide) (by decide), plain _ (by decide) (by decide), by simp⟩
  gaps := by
    have none : AreBlanks [] := by simp [AreBlanks]
    have space : AreBlanks [' '] := by
      intro char member
      cases List.mem_singleton.mp member
      decide
    simp [none, space]
  separated := by simp
  blanks := by simp [AreBlanks]
  credentials := by
    intro front word back split marked
    match front with
    | [] =>
        obtain ⟨rfl, rfl⟩ := List.cons.inj split
        exact absurd marked (by decide)
    | [_] =>
        obtain ⟨-, rest⟩ := List.cons.inj split
        obtain ⟨rfl, rfl⟩ := List.cons.inj rest
        exact absurd marked (by decide)
    | [first, second] =>
        obtain ⟨isFirst, rest⟩ := List.cons.inj split
        obtain ⟨isSecond, rest⟩ := List.cons.inj rest
        obtain ⟨rfl, rfl⟩ := List.cons.inj rest
        rw [← isFirst, ← isSecond]
        exact ⟨[], _, _, rfl, by decide, by decide⟩
    | _ :: _ :: _ :: front =>
        have behind := (List.cons.inj (List.cons.inj (List.cons.inj split).2).2).2
        have member : word ∈ [([' '], chars "authorization:".toList), ([' '], chars "Basic".toList),
            ([' '], chars "abcdef".toList)] := by
          rw [behind]
          simp
        simp only [List.mem_cons, List.not_mem_nil, or_false] at member
        rcases member with rfl | rfl | rfl
        · exact absurd marked (by decide)
        · exact absurd marked (by decide)
        · exact absurd marked (by decide) }

theorem twoHeaders_told :
    ∃ text text', Fills twoHeaders.pieces text ∧ Fills twoHeaders.pieces text' ∧
      text = "Authorization: Bearer 123456A authorization: Basic abcdef".toList ∧
      text' = "Authorization: Bearer 123456B authorization: Basic abcdef".toList ∧
      scrubSecrets text ≠ scrubSecrets text' :=
  ⟨fillWith ['A'] twoHeaders.pieces, fillWith ['B'] twoHeaders.pieces,
    fills_fillWith (List.all_eq_true.mp (by decide)) _,
    fills_fillWith (List.all_eq_true.mp (by decide)) _, by decide, by decide, by decide +kernel⟩

end Cuttlefish.Web.ScrubSecrets
