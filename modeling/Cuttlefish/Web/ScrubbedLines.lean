import Cuttlefish.Web.ScrubSecrets

/-! # Scrubbed lines

What is logged of a text, line after line and word after word. -/

namespace Cuttlefish.Web.ScrubSecrets

open GreedyRegex Repeat

/-! ## Words -/

def write : List (Text × Text) → Text → Text
  | [], behind => behind
  | (gap, word) :: words, behind => gap ++ (word ++ write words behind)

structure IsWord (word : Text × Text) : Prop where
  gap : ∀ char ∈ word.1, isBlank char = true ∧ isLineEnd char = false
  nonempty : word.2 ≠ []
  visible : ∀ char ∈ word.2, isBlank char = false

def Separated (words : List (Text × Text)) : Prop :=
  ∀ word ∈ words, IsWord word ∧ word.1 ≠ []

def EndsLine (behind : Text) : Prop :=
  ∀ char ∈ behind.takeWhile (¬ isLineEnd ·), isBlank char = true

theorem isBlank_of_isLineEnd {char : Char} (lineEnd : isLineEnd char = true) :
    isBlank char = true := by
  rcases of_decide_eq_true lineEnd with rfl | rfl <;> decide

theorem EndsLine.stops {behind : Text} (ends : EndsLine behind) : Stops behind := by
  intro char isFirst
  cases behind with
  | nil => cases isFirst
  | cons first behind =>
      cases isFirst
      by_cases lineEnd : isLineEnd char = true
      · exact isBlank_of_isLineEnd lineEnd
      · exact ends char (by rw [List.takeWhile_cons_of_pos (by simpa using lineEnd)]; simp)

theorem stops_nil : Stops [] := by
  intro char isFirst
  cases isFirst

theorem stops_lineEnd {char : Char} (lineEnd : isLineEnd char = true) (text : Text) :
    Stops (char :: text) := by
  intro first isFirst
  cases isFirst
  exact isBlank_of_isLineEnd lineEnd

theorem stops_write {words : List (Text × Text)} {behind : Text} (separated : Separated words)
    (ends : Stops behind) : Stops (write words behind) := by
  cases words with
  | nil => exact ends
  | cons word words =>
      obtain ⟨isWord, nonempty⟩ := separated word List.mem_cons_self
      intro char isFirst
      cases gap : word.1 with
      | nil => exact absurd gap nonempty
      | cons first gap' =>
          rw [write, gap] at isFirst
          cases isFirst
          exact (isWord.gap char (by rw [gap]; simp)).1

theorem write_append (words : List (Text × Text)) (front behind : Text) :
    write words (front ++ behind) = write words front ++ behind := by
  induction words with
  | nil => rfl
  | cons word words induction => simp only [write, induction, List.append_assoc]

theorem write_concat (front back : List (Text × Text)) (behind : Text) :
    write (front ++ back) behind = write front (write back behind) := by
  induction front with
  | nil => rfl
  | cons word words induction => rw [List.cons_append, write, write, induction]

theorem append_inj_of_stops {word word' behind behind' : Text}
    (visible : ∀ char ∈ word, isBlank char = false) (visible' : ∀ char ∈ word', isBlank char = false)
    (stops : Stops behind) (stops' : Stops behind') (same : word ++ behind = word' ++ behind') :
    word = word' ∧ behind = behind' := by
  rcases List.append_eq_append_iff.mp same with ⟨overlap, rfl, rfl⟩ | ⟨overlap, rfl, rfl⟩
  · cases overlap with
    | nil => exact ⟨(List.append_nil word).symm, rfl⟩
    | cons char overlap =>
        have notBlank := visible' char (by simp)
        rw [stops char rfl] at notBlank
        cases notBlank
  · cases overlap with
    | nil => exact ⟨List.append_nil word', rfl⟩
    | cons char overlap =>
        have notBlank := visible char (by simp)
        rw [stops' char rfl] at notBlank
        cases notBlank

theorem write_inj {words words' : List (Text × Text)} {behind behind' : Text}
    (isWord : ∀ word ∈ words, IsWord word) (isWord' : ∀ word ∈ words', IsWord word)
    (separated : Separated words.tail) (separated' : Separated words'.tail) (stops : Stops behind)
    (stops' : Stops behind') (gaps : words.map Prod.fst = words'.map Prod.fst)
    (same : write words behind = write words' behind') : words = words' ∧ behind = behind' := by
  induction words generalizing words' with
  | nil =>
      obtain rfl := List.map_eq_nil_iff.mp gaps.symm
      exact ⟨rfl, same⟩
  | cons word words induction =>
      cases words' with
      | nil => cases gaps
      | cons word' words' =>
          obtain ⟨gap, word⟩ := word
          obtain ⟨gap', word'⟩ := word'
          rw [List.map_cons, List.map_cons, List.cons.injEq] at gaps
          obtain rfl : gap = gap' := gaps.1
          rw [List.forall_mem_cons] at isWord isWord'
          rw [write, write, List.append_cancel_left_eq] at same
          obtain ⟨rfl, rest⟩ := append_inj_of_stops isWord.1.visible isWord'.1.visible
            (stops_write separated stops) (stops_write separated' stops') same
          obtain ⟨rfl, behindSame⟩ := induction isWord.2 isWord'.2
            (fun word member => separated word (List.mem_of_mem_tail member))
            (fun word member => separated' word (List.mem_of_mem_tail member)) gaps.2 rest
          exact ⟨rfl, behindSame⟩

theorem scrubValues_blank {char : Char} (blank : isBlank char = true) (text : Text) :
    scrubValues (char :: text) = char :: scrubValues text := by
  apply scrubValues_cons
  rintro ⟨six, more, split, -⟩
  have first : char = 'c' := (List.cons_eq_cons.mp split).1
  rw [first] at blank
  cases blank

theorem scrubValues_blanks {gap : Text} (blanks : ∀ char ∈ gap, isBlank char = true) (text : Text) :
    scrubValues (gap ++ text) = gap ++ scrubValues text := by
  induction gap with
  | nil => rfl
  | cons char gap induction =>
      rw [List.forall_mem_cons] at blanks
      rw [List.cons_append, scrubValues_blank blanks.1, induction blanks.2, List.cons_append]

theorem scrubValues_write {words : List (Text × Text)} {behind : Text}
    (isWord : ∀ word ∈ words, IsWord word) (separated : Separated words.tail)
    (ends : Stops behind) :
    scrubValues (write words behind) =
      write (words.map fun word => (word.1, scrubValues word.2)) (scrubValues behind) := by
  induction words with
  | nil => rfl
  | cons word words induction =>
      rw [List.forall_mem_cons] at isWord
      have stops : Stops (write words behind) := stops_write separated ends
      have rest : Separated words.tail := fun word member =>
        separated word (List.mem_of_mem_tail member)
      rw [List.map_cons, write, write, scrubValues_blanks fun char member =>
        (isWord.1.gap char member).1, scrubValues_append stops, induction isWord.2 rest]

/-! ## Headers -/

def isFollowed {Element : Type} : List (Text × List Element) → Bool
  | (gap, _) :: (secondGap, word) :: _ =>
      gap.all (· = ' ') && secondGap.all (· = ' ') && decide (6 ≤ word.length)
  | _ => false

def endsAuthorization (word : Text) : Bool :=
  "Authorization:".toList <:+ word ∨ "authorization:".toList <:+ word

def cut : List (Text × Text) → Option (List (Text × Text) × List (Text × Text))
  | scheme :: (secondGap, word) :: words =>
      if isFollowed (scheme :: (secondGap, word) :: words) then
        some ([scheme, (secondGap, word.take 6 ++ "...".toList)], words)
      else none
  | _ => none

def lastHeader : List (Text × Text) → Option (List (Text × Text) × List (Text × Text))
  | [] => none
  | word :: words =>
      ((lastHeader words).or (if endsAuthorization word.2 then cut words else none)).map
        fun found => (word :: found.1, found.2)

def scrubLine (words : List (Text × Text)) : List (Text × Text) :=
  ((lastHeader words).map fun found => found.1 ++ found.2).getD words

section Spaces

variable {items : List (Repeat Char)}
  (fails : ∀ text, Stops text → matchPieces items text = none)

include fails

theorem disjoint_spaces {char : Char} (text : Text) (isSpace : decide (char = ' ') = true) :
    matchPieces items (char :: text) = none := by
  apply fails
  intro first isFirst
  cases isFirst
  rw [of_decide_eq_true isSpace]
  rfl

theorem matchPieces_spaces_eq_none {text : Text} (stops : Stops (text.dropWhile (· = ' '))) :
    matchPieces (atLeastOne (· = ' ') :: items) text = none := by
  have notSpace : ∀ char ∈ (text.dropWhile (· = ' ')).head?, decide (char = ' ') = false := by
    intro char isFirst
    have first := List.head?_dropWhile_not (fun char => decide (char = ' ')) text
    rw [Option.mem_def.mp isFirst] at first
    exact first
  have split : text.takeWhile (· = ' ') ++ text.dropWhile (· = ' ') = text :=
    List.takeWhile_append_dropWhile
  have spaces : ∀ char ∈ text.takeWhile (· = ' '), decide (char = ' ') = true :=
    fun char member => by simpa using List.mem_takeWhile_imp member
  by_cases nonempty : text.takeWhile (· = ' ') = []
  · rw [nonempty, List.nil_append] at split
    rw [split] at notSpace
    exact matchPieces_atLeastOne_eq_none notSpace
  · rw [← split, matchPieces_atLeastOne_of_disjoint (fun _ => disjoint_spaces fails) nonempty spaces
      notSpace, fails _ stops, Option.map_none]

theorem matchPieces_spaces {gap rest : Text} (blanks : ∀ char ∈ gap, isBlank char = true)
    (nonempty : gap ≠ []) (visible : ∀ char ∈ rest.head?, isBlank char = false) :
    matchPieces (atLeastOne (· = ' ') :: items) (gap ++ rest) =
      if gap.all (· = ' ') then (matchPieces items rest).map (withPiece gap) else none := by
  split
  · next all =>
    refine matchPieces_atLeastOne_of_disjoint (fun _ => disjoint_spaces fails) nonempty (by simpa using all) ?_
    intro char isFirst
    rw [decide_eq_false_iff_not]
    rintro rfl
    have notBlank := visible _ isFirst
    cases notBlank
  · next notAll =>
    apply matchPieces_spaces_eq_none fails
    have overlap : gap.dropWhile (· = ' ') ≠ [] := by
      rw [Ne, List.dropWhile_eq_nil_iff]
      exact fun all => notAll (List.all_eq_true.mpr all)
    have behind : (gap ++ rest).dropWhile (· = ' ') = gap.dropWhile (· = ' ') ++ rest := by
      rw [List.dropWhile_append, if_neg (by simpa using overlap)]
    intro char isFirst
    rw [behind, List.head?_append_of_ne_nil _ overlap] at isFirst
    exact blanks char ((List.dropWhile_suffix _).subset (List.mem_of_mem_head? isFirst))

theorem matchPieces_spaces_of_endsLine {behind : Text} (ends : EndsLine behind) :
    matchPieces (atLeastOne (· = ' ') :: items) behind = none := by
  apply matchPieces_spaces_eq_none fails
  induction behind with
  | nil => exact ends.stops
  | cons char behind induction =>
      by_cases isSpace : char = ' '
      · rw [List.dropWhile_cons_of_pos (by simpa using isSpace)]
        apply induction
        intro other member
        apply ends
        rw [List.takeWhile_cons_of_pos (by rw [isSpace]; rfl)]
        exact List.mem_cons_of_mem _ member
      · rw [List.dropWhile_cons_of_neg (by simpa using isSpace)]
        exact ends.stops

end Spaces

section Visible

variable {items : List (Repeat Char)}

theorem matchPieces_visible_of_stops {text : Text} (stops : Stops text) :
    matchPieces (atLeastOne (¬ isBlank ·) :: items) text = none := by
  apply matchPieces_atLeastOne_eq_none
  intro char isFirst
  simp [stops char isFirst]

theorem matchPieces_visible {word : Text × Text} (isWord : IsWord word) {rest : Text}
    (stops : Stops rest) :
    matchPieces (atLeastOne (¬ isBlank ·) :: atLeastOne (· = ' ') :: items) (word.2 ++ rest) =
      (matchPieces (atLeastOne (· = ' ') :: items) rest).map (withPiece word.2) := by
  refine matchPieces_atLeastOne_of_disjoint ?_ isWord.nonempty ?_ ?_
  · intro char text visible
    apply matchPieces_atLeastOne_eq_none
    intro first isFirst
    cases isFirst
    rw [decide_eq_false_iff_not]
    rintro rfl
    cases visible
  · intro char member
    simp [isWord.visible char member]
  · intro char isFirst
    simp [stops char isFirst]

theorem matchPieces_six_of_stops {text : Text} (stops : Stops text) :
    matchPieces (exactly 6 (¬ isBlank ·) :: items) text = none := by
  apply matchPieces_exactly_eq_none
  rintro ⟨long, visible⟩
  cases text with
  | nil => simp at long
  | cons char text =>
      have blank := stops char rfl
      have notBlank := visible char (by simp)
      rw [blank] at notBlank
      cases notBlank

theorem matchPieces_secret {word behind : Text} (visible : ∀ char ∈ word, isBlank char = false)
    (stops : Stops behind) :
    matchPieces [exactly 6 (¬ isBlank ·), anyNumber (¬ isBlank ·)] (word ++ behind) =
      if 6 ≤ word.length then some ([word.take 6, word.drop 6], behind) else none := by
  split
  · next long =>
    have first : (word ++ behind).take 6 = word.take 6 := List.take_append_of_le_length long
    have others : (word ++ behind).drop 6 = word.drop 6 ++ behind :=
      List.drop_append_of_le_length long
    have accepted : ∀ char ∈ word.drop 6, (decide ¬ isBlank char) = true := fun char member => by
      simp [visible char (List.mem_of_mem_drop member)]
    have none : behind.takeWhile (¬ isBlank ·) = [] := by
      cases behind with
      | nil => rfl
      | cons char behind => exact List.takeWhile_cons_of_neg (by simp [stops char rfl])
    have all : behind.dropWhile (¬ isBlank ·) = behind := by
      have split : _ = behind := List.takeWhile_append_dropWhile (p := (¬ isBlank ·))
      rwa [none, List.nil_append] at split
    rw [matchPieces_exactly (by simp; omega), first, others, matchPieces_anyNumber_last,
      List.takeWhile_append_of_pos accepted, List.dropWhile_append_of_pos accepted, none, all,
      List.append_nil]
    · rfl
    · rw [first]
      intro char member
      simp [visible char (List.mem_of_mem_take member)]
  · next short =>
    apply matchPieces_exactly_eq_none
    rintro ⟨long, accepted⟩
    cases behind with
    | nil => exact short (by simpa using long)
    | cons char behind =>
        have member : char ∈ (word ++ char :: behind).take 6 := by
          rw [List.take_append, List.mem_append]
          right
          obtain ⟨more, enough⟩ : ∃ more, 6 - word.length = more + 1 :=
            ⟨5 - word.length, by omega⟩
          rw [enough, List.take_succ_cons]
          exact List.mem_cons_self
        have notBlank := accepted char member
        rw [stops char rfl] at notBlank
        cases notBlank

end Visible

theorem head?_visible {word : Text × Text} (isWord : IsWord word) (rest : Text) :
    ∀ char ∈ (word.2 ++ rest).head?, isBlank char = false := by
  intro char isFirst
  rw [List.head?_append_of_ne_nil _ isWord.nonempty] at isFirst
  exact isWord.visible char (List.mem_of_mem_head? isFirst)

theorem matchPieces_credential {gap scheme secondGap word : Text} {words : List (Text × Text)}
    {behind : Text} (separated : Separated ((gap, scheme) :: (secondGap, word) :: words))
    (ends : Stops behind) :
    matchPieces credential (write ((gap, scheme) :: (secondGap, word) :: words) behind) =
      if isFollowed ((gap, scheme) :: (secondGap, word) :: words) then
        some ([gap, scheme, secondGap, word.take 6, word.drop 6], write words behind)
      else none := by
  rw [Separated, List.forall_mem_cons, List.forall_mem_cons] at separated
  obtain ⟨⟨isScheme, hasGap⟩, ⟨isCredential, hasSecondGap⟩, others⟩ := separated
  have stops : Stops (write words behind) := stops_write others ends
  have stopsSecond : Stops (secondGap ++ (word ++ write words behind)) :=
    @stops_write ((secondGap, word) :: words) behind
      (List.forall_mem_cons.mpr ⟨⟨isCredential, hasSecondGap⟩, others⟩) ends
  rw [write, write, credential, matchPieces_spaces (fun _ => matchPieces_visible_of_stops)
      (fun char member => (isScheme.gap char member).1) hasGap (head?_visible isScheme _),
    matchPieces_visible isScheme stopsSecond, matchPieces_spaces (fun _ => matchPieces_six_of_stops)
      (fun char member => (isCredential.gap char member).1) hasSecondGap
      (head?_visible isCredential _), matchPieces_secret isCredential.visible stops]
  simp only [isFollowed, Bool.and_eq_true, decide_eq_true_eq]
  by_cases first : gap.all (· = ' ') = true <;> by_cases second : secondGap.all (· = ' ') = true <;>
    by_cases long : 6 ≤ word.length <;> simp [first, second, long, withPiece]

theorem matchPieces_credential_eq_none {words : List (Text × Text)} {behind : Text}
    (separated : Separated words) (ends : EndsLine behind) (not : isFollowed words = false) :
    matchPieces credential (write words behind) = none := by
  match words with
  | [] => exact matchPieces_spaces_of_endsLine (fun _ => matchPieces_visible_of_stops) ends
  | [(gap, scheme)] =>
      obtain ⟨isScheme, hasGap⟩ := separated _ List.mem_cons_self
      rw [write, write, credential, matchPieces_spaces (fun _ => matchPieces_visible_of_stops)
          (fun char member => (isScheme.gap char member).1) hasGap (head?_visible isScheme _),
        matchPieces_visible isScheme ends.stops,
        matchPieces_spaces_of_endsLine (fun _ => matchPieces_six_of_stops) ends]
      simp
  | (gap, scheme) :: (secondGap, word) :: words =>
      rw [matchPieces_credential separated ends.stops, not]
      rfl

def IsAuthorization (start : Text) : Prop :=
  start = "Authorization:".toList ∨ start = "authorization:".toList

theorem matchPieces_header {start : Text} (isStart : IsAuthorization start) (rest : Text) :
    matchPieces header (start ++ rest) =
      (matchPieces credential rest).map fun found => (start.map ([·]) ++ found.1, found.2) := by
  have split : ∃ first, start = first :: "uthorization:".toList ∧ (first = 'A' ∨ first = 'a') :=
    isStart.elim (fun upper => ⟨'A', upper, .inl rfl⟩) (fun lower => ⟨'a', lower, .inr rfl⟩)
  obtain ⟨first, rfl, isFirst⟩ := split
  rw [header, List.cons_append, matchPieces_one (by simpa using isFirst), matchPieces_literal,
    Option.map_map]
  rfl

theorem matchPieces_header_eq_none {text : Text}
    (not : ∀ start, IsAuthorization start → ¬ start <+: text) : matchPieces header text = none := by
  cases text with
  | nil => exact matchPieces_one_of_not (by simp)
  | cons char text =>
      by_cases first : char = 'A' ∨ char = 'a'
      · have isStart : IsAuthorization (char :: "uthorization:".toList) := by
          rcases first with rfl | rfl
          · exact .inl rfl
          · exact .inr rfl
        have more : ¬ "uthorization:".toList <+: text := fun isPrefix =>
          not _ isStart (List.cons_prefix_cons.mpr ⟨rfl, isPrefix⟩)
        rw [header, matchPieces_one (by simpa using first), matchPieces_literal_eq_none more]
        rfl
      · apply matchPieces_one_of_not
        intro other isFirst
        cases isFirst
        exact decide_eq_false first

theorem visible_of_isAuthorization {start : Text} (isStart : IsAuthorization start) :
    ∀ char ∈ start, isBlank char = false := by
  rcases isStart with rfl | rfl
  · exact forall_visible (by decide)
  · exact forall_visible (by decide)

theorem matchPieces_header_of_not {word rest : Text} (visible : ∀ char ∈ word, isBlank char = false)
    (stops : Stops rest) (not : ¬ IsAuthorization word) :
    matchPieces header (word ++ rest) = none := by
  by_cases begins : ∃ start, IsAuthorization start ∧ start <+: word ++ rest
  · obtain ⟨start, isStart, behind, split⟩ := begins
    have noSpace : ∀ char ∈ behind.head?, decide (char = ' ') = false := by
      intro char isFirst
      rw [decide_eq_false_iff_not]
      rintro rfl
      rcases List.append_eq_append_iff.mp split with ⟨overlap, front, others⟩ | ⟨overlap, front, others⟩
      · cases overlap with
        | nil =>
            rw [front, List.append_nil] at not
            exact not isStart
        | cons first overlap =>
            rw [others] at isFirst
            cases isFirst
            have notBlank := visible ' ' (by rw [front]; simp)
            cases notBlank
      · cases overlap with
        | nil =>
            rw [List.append_nil] at front
            exact not (front ▸ isStart)
        | cons first overlap =>
            have blank := stops first (by rw [others]; rfl)
            have notBlank := visible_of_isAuthorization isStart first (by rw [front]; simp)
            rw [blank] at notBlank
            cases notBlank
    rw [← split, matchPieces_header isStart, credential, matchPieces_atLeastOne_eq_none noSpace,
      Option.map_none]
  · exact matchPieces_header_eq_none fun start isStart isPrefix => begins ⟨start, isStart, isPrefix⟩

theorem endsAuthorization_cons (char : Char) (word : Text) :
    endsAuthorization (char :: word) = true ↔
      endsAuthorization word = true ∨ IsAuthorization (char :: word) := by
  rw [endsAuthorization, endsAuthorization, decide_eq_true_eq, decide_eq_true_eq,
    List.suffix_cons_iff, List.suffix_cons_iff, IsAuthorization, eq_comm (a := char :: word),
    eq_comm (a := char :: word), or_or_or_comm, or_comm]

def output (items : List (Repeat Char)) (text : Text) : Option (Text × Text) :=
  (matchPieces items text).map fun found => (scrubbed found.1, found.2)

theorem output_header {start : Text} (isStart : IsAuthorization start) {words : List (Text × Text)}
    {behind : Text} (separated : Separated words) (ends : EndsLine behind) :
    output header (start ++ write words behind) =
      (cut words).map fun found => (start ++ write found.1 [], write found.2 behind) := by
  rw [output, matchPieces_header isStart, Option.map_map]
  by_cases followed : isFollowed words = true
  · rcases words with _ | ⟨⟨gap, scheme⟩, _ | ⟨⟨secondGap, word⟩, words⟩⟩
    · cases followed
    · cases followed
    · rw [matchPieces_credential separated ends.stops, cut, if_pos followed, if_pos followed]
      have pieces : scrubbed (start.map ([·]) ++
          [gap, scheme, secondGap, word.take 6, word.drop 6]) =
            start ++ (gap ++ (scheme ++ (secondGap ++ (word.take 6 ++ "...".toList)))) := by
        rw [scrubbed, List.dropLast_append_of_ne_nil (List.cons_ne_nil _ _), List.flatten_append,
          flatten_singletons]
        simp [List.append_assoc]
      simp only [Option.map_some, Function.comp_apply, pieces, write, List.append_nil]
  · rw [matchPieces_credential_eq_none separated ends (Bool.eq_false_iff.mpr followed)]
    have notCut : cut words = none := by
      rcases words with _ | ⟨first, _ | ⟨second, words⟩⟩
      · rfl
      · rfl
      · exact if_neg followed
    rw [notCut]
    rfl

theorem output_header_of_not {word rest : Text} (visible : ∀ char ∈ word, isBlank char = false)
    (stops : Stops rest) (not : ¬ IsAuthorization word) : output header (word ++ rest) = none := by
  rw [output, matchPieces_header_of_not visible stops not, Option.map_none]

theorem scrubbed_longer {pieces : List Text} (many : 2 ≤ pieces.length) (char : Char) :
    scrubbed ((char :: pieces.headD []) :: pieces.tail) = char :: scrubbed pieces := by
  match pieces, many with
  | _ :: _ :: _, _ => rfl

theorem scrubbed_nil_cons {pieces : List Text} (many : 1 ≤ pieces.length) :
    scrubbed ([] :: pieces) = scrubbed pieces := by
  match pieces, many with
  | _ :: _, _ => rfl

theorem output_authorization_cons {char : Char} (notEnd : isLineEnd char = false) (text : Text) :
    output authorization (char :: text) =
      ((output authorization text).map fun found => (char :: found.1, found.2)).or
        (output header (char :: text)) := by
  have step : matchPieces authorization (char :: text) =
      ((matchPieces authorization text).map (lengthen char)).or
        ((matchPieces header (char :: text)).map (withPiece [])) :=
    @matchPieces_anyNumber_cons _ (¬ isLineEnd ·) header char (by simp [notEnd]) text
  rw [output, output, output, step]
  cases longer : matchPieces authorization text with
  | some found =>
      have many : 2 ≤ found.1.length := by
        rw [length_pieces_of_matchPieces longer]
        decide
      simp only [Option.map_some, Option.some_or, lengthen, scrubbed_longer many]
  | none =>
      cases here : matchPieces header (char :: text) with
      | none => rfl
      | some found =>
          have many : 1 ≤ found.1.length := by
            rw [length_pieces_of_matchPieces here]
            decide
          simp only [Option.map_some, Option.map_none, Option.none_or, withPiece,
            scrubbed_nil_cons many]

theorem output_authorization_blank {char : Char} (blank : isBlank char = true)
    (notEnd : isLineEnd char = false) (text : Text) :
    output authorization (char :: text) =
      (output authorization text).map fun found => (char :: found.1, found.2) := by
  have stops : Stops (char :: text) := by
    intro first isFirst
    cases isFirst
    exact blank
  have none : output header (char :: text) = none :=
    @output_header_of_not [] _ (by simp) stops (by simp [IsAuthorization])
  rw [output_authorization_cons notEnd, none, Option.or_none]

theorem output_authorization_blanks {gap : Text}
    (blanks : ∀ char ∈ gap, isBlank char = true ∧ isLineEnd char = false) (text : Text) :
    output authorization (gap ++ text) =
      (output authorization text).map fun found => (gap ++ found.1, found.2) := by
  induction gap with
  | nil => simp
  | cons char gap induction =>
      rw [List.forall_mem_cons] at blanks
      rw [List.cons_append, output_authorization_blank blanks.1.1 blanks.1.2, induction blanks.2,
        Option.map_map]
      rfl

theorem isLineEnd_of_visible {char : Char} (visible : isBlank char = false) :
    isLineEnd char = false := by
  by_contra lineEnd
  rw [isBlank_of_isLineEnd (by simpa using lineEnd)] at visible
  cases visible

theorem output_authorization_word {words : List (Text × Text)} {behind word : Text}
    (separated : Separated words) (ends : EndsLine behind)
    (visible : ∀ char ∈ word, isBlank char = false) :
    output authorization (word ++ write words behind) =
      ((output authorization (write words behind)).or
        (if endsAuthorization word then
          (cut words).map fun found => (write found.1 [], write found.2 behind)
        else none)).map fun found => (word ++ found.1, found.2) := by
  have stops : Stops (write words behind) := stops_write separated ends.stops
  induction word with
  | nil =>
      have short : endsAuthorization [] = false := by decide
      rw [short, if_neg Bool.false_ne_true, Option.or_none]
      simp
  | cons char word induction =>
      rw [List.forall_mem_cons] at visible
      rw [List.cons_append, output_authorization_cons (isLineEnd_of_visible visible.1),
        induction visible.2, Option.map_map]
      have split : char :: (word ++ write words behind) = (char :: word) ++ write words behind := rfl
      have all : ∀ other ∈ char :: word, isBlank other = false := List.forall_mem_cons.mpr visible
      by_cases isStart : IsAuthorization (char :: word)
      · rw [split, output_header isStart separated ends,
          if_pos ((endsAuthorization_cons char word).mpr (.inr isStart))]
        cases output authorization (write words behind) with
        | some found => rfl
        | none => cases cut words <;> cases endsAuthorization word <;> rfl
      · have same : endsAuthorization (char :: word) = endsAuthorization word := by
          rw [Bool.eq_iff_iff, endsAuthorization_cons, or_iff_left isStart]
        rw [split, output_header_of_not all stops isStart, Option.or_none, same]
        rfl

theorem output_authorization_endsLine {behind : Text} (ends : EndsLine behind) :
    output authorization behind = none := by
  induction behind with
  | nil => rfl
  | cons char behind induction =>
      have stops : Stops (char :: behind) := ends.stops
      have notHeader : output header (char :: behind) = none :=
        @output_header_of_not [] _ (by simp) stops (by simp [IsAuthorization])
      cases lineEnd : isLineEnd char with
      | true =>
          have step : matchPieces authorization (char :: behind) =
              (matchPieces header (char :: behind)).map (withPiece []) :=
            @matchPieces_anyNumber_of_not _ (¬ isLineEnd ·) header char (by simp [lineEnd]) behind
          rw [output, Option.map_eq_none_iff] at notHeader
          rw [output, step, notHeader]
          rfl
      | false =>
          have behindEnds : EndsLine behind := by
            intro other member
            apply ends
            rw [List.takeWhile_cons_of_pos (by simp [lineEnd])]
            exact List.mem_cons_of_mem _ member
          rw [output_authorization_cons lineEnd, notHeader, induction behindEnds]
          rfl

theorem output_authorization {words : List (Text × Text)} {behind : Text}
    (isWord : ∀ word ∈ words, IsWord word) (separated : Separated words.tail)
    (ends : EndsLine behind) :
    output authorization (write words behind) =
      (lastHeader words).map fun found => (write found.1 [], write found.2 behind) := by
  induction words with
  | nil => exact output_authorization_endsLine ends
  | cons word words induction =>
      obtain ⟨gap, word⟩ := word
      rw [List.forall_mem_cons] at isWord
      rw [List.tail_cons] at separated
      have rest : Separated words.tail := fun word member =>
        separated word (List.mem_of_mem_tail member)
      have here := output_authorization_word separated ends isWord.1.visible
      rw [write, output_authorization_blanks isWord.1.gap, here, induction isWord.2 rest, lastHeader]
      cases lastHeader words with
      | some found => rfl
      | none => cases endsAuthorization word <;> cases cut words <;> rfl

/-! ## Which word is scrubbed -/

def anyHeader {Element : Type} (begins : List Element → Bool) : List (Text × List Element) → Bool
  | [] => false
  | word :: words => anyHeader begins words || (begins word.2 && isFollowed words)

def isLast (word : Text) (words : List (Text × Text)) : Bool :=
  !anyHeader endsAuthorization words && (endsAuthorization word && isFollowed words)

def cutWord (word : Text × Text) : Text × Text := (word.1, word.2.take 6 ++ "...".toList)

def scrubMarked : Bool → Bool → List (Text × Text) → List (Text × Text)
  | _, _, [] => []
  | here, next, word :: words =>
      (if here then cutWord word else word) :: scrubMarked next (isLast word.2 words) words

theorem cut_eq (words : List (Text × Text)) :
    (cut words).map (fun found => found.1 ++ found.2) =
      if isFollowed words then some (words.modify 1 cutWord) else none := by
  match words with
  | [] => rfl
  | [_] => rfl
  | scheme :: (secondGap, word) :: words =>
      rw [cut]
      split
      · rfl
      · rfl

theorem cut_eq_none_iff (words : List (Text × Text)) : cut words = none ↔ isFollowed words = false := by
  rw [← Option.map_eq_none_iff, cut_eq]
  cases isFollowed words <;> simp

theorem lastHeader_eq_none_iff (words : List (Text × Text)) :
    lastHeader words = none ↔ anyHeader endsAuthorization words = false := by
  induction words with
  | nil => simp [lastHeader, anyHeader]
  | cons word words induction =>
      rw [lastHeader, Option.map_eq_none_iff, Option.or_eq_none_iff, induction, anyHeader,
        Bool.or_eq_false_iff]
      cases endsAuthorization word.2 <;> simp [cut_eq_none_iff]

theorem isLast_of_none {word : Text × Text} {words : List (Text × Text)}
    (missing : anyHeader endsAuthorization (word :: words) = false) : isLast word.2 words = false := by
  rw [anyHeader, Bool.or_eq_false_iff] at missing
  rw [isLast, missing.2, Bool.and_false]

theorem scrubMarked_of_none {words : List (Text × Text)}
    (missing : anyHeader endsAuthorization words = false) :
    scrubMarked false false words = words := by
  induction words with
  | nil => rfl
  | cons word words induction =>
      have notLast := isLast_of_none missing
      rw [anyHeader, Bool.or_eq_false_iff] at missing
      rw [scrubMarked, notLast, induction missing.1]
      rfl

theorem scrubMarked_of_isLast {words : List (Text × Text)}
    (missing : anyHeader endsAuthorization words = false) (followed : isFollowed words = true) :
    scrubMarked false true words = words.modify 1 cutWord := by
  match words with
  | [] => rfl
  | [_] => rfl
  | scheme :: credential :: words =>
      have later := missing
      rw [anyHeader, Bool.or_eq_false_iff] at later
      have rest := later.1
      rw [anyHeader, Bool.or_eq_false_iff] at rest
      rw [scrubMarked, isLast_of_none missing, scrubMarked, isLast_of_none later.1,
        scrubMarked_of_none rest.1]
      rfl

theorem scrubLine_eq (words : List (Text × Text)) :
    scrubLine words = scrubMarked false false words := by
  induction words with
  | nil => rfl
  | cons word words induction =>
      rw [scrubMarked]
      cases later : lastHeader words with
      | some found =>
          have many : anyHeader endsAuthorization words = true := by
            by_contra none
            rw [Bool.not_eq_true, ← lastHeader_eq_none_iff, later] at none
            cases none
          rw [scrubLine, later] at induction
          rw [isLast, many, scrubLine, lastHeader, later]
          exact congrArg (word :: ·) induction
      | none =>
          have few := (lastHeader_eq_none_iff words).mp later
          rw [scrubLine, lastHeader, later, isLast, few, Option.none_or]
          cases endsAuthorization word.2 with
          | false => exact congrArg (word :: ·) (scrubMarked_of_none few).symm
          | true =>
              have same : ((cut words).map fun found => (word :: found.1, found.2)).map
                  (fun found => found.1 ++ found.2) =
                    ((cut words).map fun found => found.1 ++ found.2).map (word :: ·) := by
                rw [Option.map_map, Option.map_map]
                rfl
              rw [if_pos rfl, same, cut_eq]
              cases followed : isFollowed words with
              | false => exact congrArg (word :: ·) (scrubMarked_of_none few).symm
              | true => exact congrArg (word :: ·) (scrubMarked_of_isLast few followed).symm

/-! ## Lines -/

theorem consumes_authorization : Consumes authorization := by
  have member : exactly 6 (¬ isBlank ·) ∈ authorization := by
    simp [authorization, header, credential]
  exact consumes_of_mem member (Nat.succ_pos 5)

theorem scrubHeaders_of_none {front behind : Text}
    (inLine : ∀ char ∈ front, isLineEnd char = false)
    (missing : output authorization (front ++ behind) = none) :
    scrubHeaders (front ++ behind) = front ++ scrubHeaders behind := by
  induction front with
  | nil => rfl
  | cons char front induction =>
      rw [List.forall_mem_cons] at inLine
      have next : output authorization (front ++ behind) = none := by
        rw [List.cons_append, output_authorization_cons inLine.1, Option.or_eq_none_iff,
          Option.map_eq_none_iff] at missing
        exact missing.1
      rw [output, Option.map_eq_none_iff, List.cons_append] at missing
      rw [scrubHeaders, List.cons_append, replaceAll_of_none missing]
      exact congrArg (char :: ·) (induction inLine.2 next)

theorem cut_behind {words front back : List (Text × Text)} (isCut : cut words = some (front, back)) :
    back <:+ words := by
  match words with
  | [] => cases isCut
  | [_] => cases isCut
  | scheme :: (secondGap, word) :: words =>
      rw [cut] at isCut
      split at isCut
      · cases isCut
        exact (List.suffix_cons _ _).trans (List.suffix_cons _ _)
      · cases isCut

theorem lastHeader_of_suffix {words back : List (Text × Text)} (isSuffix : back <:+ words)
    (missing : lastHeader words = none) : lastHeader back = none := by
  induction words with
  | nil => rwa [List.suffix_nil.mp isSuffix]
  | cons word words induction =>
      rcases List.suffix_cons_iff.mp isSuffix with rfl | isSuffix
      · exact missing
      · rw [lastHeader, Option.map_eq_none_iff, Option.or_eq_none_iff] at missing
        exact induction isSuffix missing.1

theorem lastHeader_behind {words front back : List (Text × Text)}
    (isLast : lastHeader words = some (front, back)) :
    back <:+ words ∧ lastHeader back = none := by
  induction words generalizing front with
  | nil => cases isLast
  | cons word words induction =>
      rw [lastHeader, Option.map_eq_some_iff] at isLast
      obtain ⟨⟨others, behind⟩, found, same⟩ := isLast
      cases same
      cases later : lastHeader words with
      | some found' =>
          rw [later, Option.some_or, Option.some.injEq] at found
          obtain ⟨isSuffix, none⟩ := induction (later.trans (congrArg some found))
          exact ⟨isSuffix.trans (List.suffix_cons _ _), none⟩
      | none =>
          rw [later, Option.none_or] at found
          split at found
          · have isSuffix := cut_behind found
            exact ⟨isSuffix.trans (List.suffix_cons _ _), lastHeader_of_suffix isSuffix later⟩
          · cases found

theorem Separated.of_suffix {words back : List (Text × Text)} (separated : Separated words.tail)
    (isSuffix : back <:+ words) : Separated back.tail := by
  cases words with
  | nil =>
      rw [List.suffix_nil.mp isSuffix]
      exact separated
  | cons word words =>
      rcases List.suffix_cons_iff.mp isSuffix with rfl | isSuffix
      · exact separated
      · exact fun word member => separated word (isSuffix.subset (List.mem_of_mem_tail member))

theorem isLineEnd_of_mem_write {words : List (Text × Text)} (isWord : ∀ word ∈ words, IsWord word) :
    ∀ char ∈ write words [], isLineEnd char = false := by
  induction words with
  | nil => simp [write]
  | cons word words induction =>
      obtain ⟨gap, word⟩ := word
      rw [List.forall_mem_cons] at isWord
      rw [write, List.forall_mem_append, List.forall_mem_append]
      exact ⟨fun char member => (isWord.1.gap char member).2,
        fun char member => isLineEnd_of_visible (isWord.1.visible char member), induction isWord.2⟩

theorem write_eq_append (words : List (Text × Text)) (behind : Text) :
    write words behind = write words [] ++ behind :=
  write_append words [] behind

theorem scrubHeaders_write_of_none {words : List (Text × Text)} {behind : Text}
    (isWord : ∀ word ∈ words, IsWord word) (separated : Separated words.tail)
    (ends : EndsLine behind) (missing : lastHeader words = none) :
    scrubHeaders (write words behind) = write words (scrubHeaders behind) := by
  have none : output authorization (write words behind) = none := by
    rw [output_authorization isWord separated ends, missing]
    rfl
  rw [write_eq_append] at none
  rw [write_eq_append, scrubHeaders_of_none (isLineEnd_of_mem_write isWord) none,
    ← write_eq_append]

theorem scrubHeaders_write {words : List (Text × Text)} {behind : Text}
    (isWord : ∀ word ∈ words, IsWord word) (separated : Separated words.tail)
    (ends : EndsLine behind) :
    scrubHeaders (write words behind) = write (scrubLine words) (scrubHeaders behind) := by
  cases isLast : lastHeader words with
  | none =>
      rw [scrubHeaders_write_of_none isWord separated ends isLast, scrubLine, isLast]
      rfl
  | some found =>
      obtain ⟨front, back⟩ := found
      obtain ⟨isSuffix, none⟩ := lastHeader_behind isLast
      have found := output_authorization isWord separated ends
      rw [isLast, Option.map_some, output, Option.map_eq_some_iff] at found
      obtain ⟨⟨pieces, rest⟩, isMatch, same⟩ := found
      obtain ⟨output, rfl⟩ := Prod.mk.inj same
      have backWord : ∀ word ∈ back, IsWord word := fun word member =>
        isWord word (isSuffix.subset member)
      rw [scrubHeaders, replaceAll_of_some consumes_authorization isMatch, output, ← scrubHeaders,
        scrubHeaders_write_of_none backWord (separated.of_suffix isSuffix) ends none, scrubLine, isLast]
      simp only [Option.map_some, Option.getD_some]
      rw [write_concat, write_eq_append front (write back _)]

theorem IsWord.cutWord {word : Text × Text} (isWord : IsWord word) : IsWord (cutWord word) where
  gap := isWord.gap
  nonempty := List.append_ne_nil_of_right_ne_nil _ (by decide)
  visible := by
    have dots : ∀ char ∈ "...".toList, isBlank char = false := forall_visible (by decide)
    refine List.forall_mem_append.mpr ⟨fun char member => ?_, dots⟩
    exact isWord.visible char (List.mem_of_mem_take member)

theorem forall_mem_scrubMarked {P : Text × Text → Prop} {words : List (Text × Text)}
    (closed : ∀ word, P word → P (cutWord word)) (all : ∀ word ∈ words, P word) (here next : Bool) :
    ∀ word ∈ scrubMarked here next words, P word := by
  induction words generalizing here next with
  | nil => simp [scrubMarked]
  | cons word words induction =>
      rw [List.forall_mem_cons] at all
      rw [scrubMarked, List.forall_mem_cons]
      refine ⟨?_, induction all.2 _ _⟩
      split
      · exact closed word all.1
      · exact all.1

theorem isWord_scrubMarked {words : List (Text × Text)} (isWord : ∀ word ∈ words, IsWord word)
    (here next : Bool) : ∀ word ∈ scrubMarked here next words, IsWord word :=
  forall_mem_scrubMarked (P := IsWord) (fun _ => IsWord.cutWord) isWord here next

theorem separated_scrubMarked {words : List (Text × Text)} (separated : Separated words.tail)
    (here next : Bool) : Separated (scrubMarked here next words).tail := by
  cases words with
  | nil => exact separated
  | cons word words =>
      exact forall_mem_scrubMarked (fun word isWord => ⟨isWord.1.cutWord, isWord.2⟩) separated _ _

def logWord (here : Bool) (word : Text × Text) : Text × Text :=
  (word.1, scrubValues (if here then cutWord word else word).2)

def logWords (here next : Bool) (words : List (Text × Text)) : List (Text × Text) :=
  (scrubMarked here next words).map fun word => (word.1, scrubValues word.2)

theorem logWords_cons (here next : Bool) (word : Text × Text) (words : List (Text × Text)) :
    logWords here next (word :: words) =
      logWord here word :: logWords next (isLast word.2 words) words := by
  rw [logWords, scrubMarked, List.map_cons, logWord, logWords]
  cases here <;> rfl

theorem gaps_logWords (here next : Bool) (words : List (Text × Text)) :
    (logWords here next words).map Prod.fst = words.map Prod.fst := by
  induction words generalizing here next with
  | nil => rfl
  | cons word words induction => rw [logWords_cons, List.map_cons, List.map_cons, induction, logWord]

theorem scrubValues_ne_nil {text : Text} (nonempty : text ≠ []) : scrubValues text ≠ [] := by
  rcases scrubValues_eq_self_or text with same | long
  · rwa [same]
  · rintro empty
    rw [empty] at long
    cases long

theorem IsWord.scrubValues {word : Text × Text} (isWord : IsWord word) :
    IsWord (word.1, scrubValues word.2) :=
  ⟨isWord.gap, scrubValues_ne_nil isWord.nonempty, isBlank_of_mem_scrubValues isWord.visible⟩

theorem isWord_logWords {words : List (Text × Text)} (isWord : ∀ word ∈ words, IsWord word)
    (here next : Bool) : ∀ word ∈ logWords here next words, IsWord word := by
  intro word member
  obtain ⟨scrubbed, inside, rfl⟩ := List.mem_map.mp member
  exact (isWord_scrubMarked isWord here next scrubbed inside).scrubValues

theorem separated_logWords {words : List (Text × Text)} (separated : Separated words.tail)
    (here next : Bool) : Separated (logWords here next words).tail := by
  intro word member
  rw [logWords, ← List.map_tail] at member
  obtain ⟨scrubbed, inside, rfl⟩ := List.mem_map.mp member
  obtain ⟨isWord, nonempty⟩ := separated_scrubMarked separated here next scrubbed inside
  exact ⟨isWord.scrubValues, nonempty⟩

def AreBlanks (trailing : Text) : Prop :=
  ∀ char ∈ trailing, isBlank char = true ∧ isLineEnd char = false

theorem scrubHeaders_trailing {trailing behind : Text} (blanks : AreBlanks trailing)
    (next : ∀ char ∈ behind.head?, isLineEnd char = true) :
    EndsLine (trailing ++ behind) ∧
      scrubHeaders (trailing ++ behind) = trailing ++ scrubHeaders behind := by
  have none : behind.takeWhile (¬ isLineEnd ·) = [] := by
    cases behind with
    | nil => rfl
    | cons char behind => exact List.takeWhile_cons_of_neg (by simp [next char rfl])
  have ends : EndsLine (trailing ++ behind) := by
    have inLine : ∀ char ∈ trailing, decide (¬ isLineEnd char = true) = true := fun char member => by
      simp [(blanks char member).2]
    rw [EndsLine, List.takeWhile_append_of_pos inLine, none, List.append_nil]
    exact fun char member => (blanks char member).1
  exact ⟨ends, scrubHeaders_of_none (fun char member => (blanks char member).2)
    (output_authorization_endsLine ends)⟩

theorem scrubHeaders_lineEnd {char : Char} (lineEnd : isLineEnd char = true) (text : Text) :
    scrubHeaders (char :: text) = char :: scrubHeaders text := by
  have ends : EndsLine (char :: text) := by
    rw [EndsLine, List.takeWhile_cons_of_neg (by simp [lineEnd])]
    simp
  have missing := output_authorization_endsLine ends
  rw [output, Option.map_eq_none_iff] at missing
  exact replaceAll_of_none missing

section Words

variable {words : List (Text × Text)} {trailing : Text} (isWord : ∀ word ∈ words, IsWord word)
  (separated : Separated words.tail) (blanks : AreBlanks trailing)

include isWord separated blanks

theorem scrubSecrets_write {behind : Text} (next : ∀ char ∈ behind.head?, isLineEnd char = true)
    (nextScrubbed : Stops (scrubHeaders behind)) :
    scrubSecrets (write words (trailing ++ behind)) =
      write (logWords false false words) (trailing ++ scrubSecrets behind) := by
  obtain ⟨ends, rest⟩ := scrubHeaders_trailing blanks next
  have stops : Stops (trailing ++ scrubHeaders behind) := by
    cases trailing with
    | nil => exact nextScrubbed
    | cons char trailing =>
        intro first isFirst
        cases isFirst
        exact (blanks char List.mem_cons_self).1
  rw [scrubSecrets, scrubHeaders_write isWord separated ends, scrubLine_eq, rest,
    scrubValues_write (isWord_scrubMarked isWord _ _) (separated_scrubMarked separated _ _) stops,
    scrubValues_blanks fun char member => (blanks char member).1]
  rfl

theorem scrubSecrets_lastLine :
    scrubSecrets (write words trailing) = write (logWords false false words) trailing := by
  have line := @scrubSecrets_write words trailing isWord separated blanks [] (by simp)
    (fun _ isFirst => by cases isFirst)
  rwa [List.append_nil, show scrubSecrets [] = [] from rfl, List.append_nil] at line

theorem scrubSecrets_line {char : Char} (lineEnd : isLineEnd char = true) (text : Text) :
    scrubSecrets (write words (trailing ++ char :: text)) =
      write (logWords false false words) (trailing ++ char :: scrubSecrets text) := by
  have blank := isBlank_of_isLineEnd lineEnd
  rw [scrubSecrets_write isWord separated blanks]
  · rw [scrubSecrets, scrubHeaders_lineEnd lineEnd, scrubValues_blank blank, scrubSecrets]
  · intro first isFirst
    cases isFirst
    exact lineEnd
  · rw [scrubHeaders_lineEnd lineEnd]
    intro first isFirst
    cases isFirst
    exact blank

end Words

end Cuttlefish.Web.ScrubSecrets
