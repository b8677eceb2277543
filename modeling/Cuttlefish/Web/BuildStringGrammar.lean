import Cuttlefish.Web.AndroidBuildString
import Cuttlefish.Foundation.Substrings

/-! # The syntax of build strings

What `ParseBuildString` accepts, against the syntax it reads. -/

namespace Cuttlefish.Web

open FlagParser Substrings

/-! ## The syntax -/

/-- What stands in front of the brackets has paths and a target, or at most two parts. -/
def HasParts (head : Text) : Prop := ':' ∈ head ∨ head.count '/' ≤ 1

structure IsHead (head : Text) : Prop where
  nonempty : head ≠ []
  noOpen : '{' ∉ head
  noClose : '}' ∉ head
  parts : HasParts head

inductive IsBuildString : Text → Prop
  | head {head : Text} (isHead : IsHead head) : IsBuildString head
  | filepath {head path : Text} (isHead : IsHead head) (nonempty : path ≠ [])
      (noOpen : '{' ∉ path) (noClose : '}' ∉ path) :
      IsBuildString (head ++ '{' :: (path ++ ['}']))

def printFilepath (filepath : Option Text) : Text :=
  filepath.elim [] fun path => '{' :: (path ++ ['}'])

def BuildString.print : BuildString → Text
  | .device value =>
      value.branchOrId ++ value.target.elim [] ('/' :: ·) ++ printFilepath value.filepath
  | .directory value =>
      [':'].intercalate (value.paths ++ [value.target]) ++ printFilepath value.filepath

/-- The result has a value when the text is valid, and nothing of the text is lost. -/
def Reads (parsed : Result BuildString) (valid : Prop) (text : Text) : Prop :=
  ((∃ value, parsed = .ok value) ↔ valid) ∧ ∀ value, parsed = .ok value → value.print = text

/-- The text is accepted when it is in the syntax, and printing the parts gives it back. -/
def ParsesExactly (buildString : Text) : Prop :=
  Reads (parseBuildString buildString) (IsBuildString buildString) buildString

theorem reads_ok {value : BuildString} {valid : Prop} {text : Text} (isValid : valid)
    (printed : value.print = text) : Reads (.ok value) valid text := by
  constructor
  · simp [isValid]
  · intro other same
    cases same
    exact printed

theorem reads_error {failure : Failure} {valid : Prop} {text : Text} (notValid : ¬ valid) :
    Reads (.error failure) valid text := by
  constructor
  · simp [notValid]
  · intro value same
    cases same

/-! ## What stands in front of the brackets -/

theorem print_directory (head : Text) (filepath : Option Text) :
    (BuildString.directory (parseDirectoryBuildString head filepath)).print =
      head ++ printFilepath filepath := by
  have split : (head.splitOn ':').dropLast ++ [(head.splitOn ':').getLast?.getD []] =
      head.splitOn ':' := by
    have notEmpty : head.splitOn ':' ≠ [] := List.splitOn_ne_nil _ _
    rw [List.getLast?_eq_some_getLast notEmpty, Option.getD_some,
      List.dropLast_append_getLast notEmpty]
  rw [BuildString.print, parseDirectoryBuildString, split, List.intercalate_splitOn]

theorem reads_parseDeviceBuildString (head : Text) (filepath : Option Text) :
    Reads ((parseDeviceBuildString head filepath).map .device) (head.count '/' ≤ 1)
      (head ++ printFilepath filepath) := by
  by_cases slash : '/' ∈ head
  · rcases List.eq_append_cons_of_mem slash with ⟨first, behind, rfl, noSlash⟩
    have target : (first ++ '/' :: behind).drop (first.length + 1) = behind := by
      rw [← List.drop_drop, List.drop_left, List.drop_one, List.tail_cons]
    have slashes : (first ++ '/' :: behind).count '/' = behind.count '/' + 1 := by
      rw [List.count_append, List.count_eq_zero.mpr noSlash, List.count_cons_self, Nat.zero_add]
    rw [parseDeviceBuildString, findIdx?_append_cons noSlash, slashes]
    simp only [target, List.take_left]
    by_cases another : '/' ∈ behind
    · rcases List.eq_append_cons_of_mem another with ⟨second, rest, rfl, notSecond⟩
      rw [findIdx?_append_cons notSecond]
      apply reads_error
      have : 0 < (second ++ '/' :: rest).count '/' := List.count_pos_iff.mpr another
      omega
    · rw [findIdx?_of_notMem another]
      apply reads_ok
      · rw [List.count_eq_zero.mpr another]
      · simp [BuildString.print]
  · rw [parseDeviceBuildString, findIdx?_of_notMem slash]
    apply reads_ok
    · rw [List.count_eq_zero.mpr slash]
      exact Nat.zero_le 1
    · simp [BuildString.print]

theorem reads_of_parseFilepath {buildString head : Text} {filepath : Option Text}
    (nonempty : buildString ≠ []) (parsed : parseFilepath buildString = .ok (head, filepath)) :
    Reads (parseBuildString buildString) (HasParts head) (head ++ printFilepath filepath) := by
  rw [parseBuildString, if_neg nonempty, parsed]
  change Reads (if ':' ∈ head then _ else _) _ _
  by_cases colon : ':' ∈ head
  · rw [if_pos colon]
    exact reads_ok (.inl colon) (print_directory head filepath)
  · rw [if_neg colon, HasParts, or_iff_right colon]
    exact reads_parseDeviceBuildString head filepath

/-! ## The brackets -/

/-- What stands in front of the first opening bracket, and what stands behind it. -/
def beforeOpen (buildString : Text) : Text := buildString.takeWhile (· ≠ '{')

def behindOpen (buildString : Text) : Text := (buildString.dropWhile (· ≠ '{')).tail

/-- The text is refused whatever its brackets look like behind the path: nothing stands in
front of them or between them, or what stands in front has too many parts. -/
def IsRefused (head behind : Text) : Prop :=
  head = [] ∨ behind = [] ∨ ('}' ∉ head ∧ behind.head? = some '}') ∨ ¬ HasParts head

/-- One bracket of each kind, and the closing one at the very end. -/
structure BracketsInPlace (buildString : Text) : Prop where
  oneOpen : buildString.count '{' = 1
  oneClose : buildString.count '}' = 1
  closed : buildString.getLast? = some '}'

theorem beforeOpen_append {head : Text} (noOpen : '{' ∉ head) (behind : Text) :
    beforeOpen (head ++ '{' :: behind) = head :=
  takeWhile_ne_append noOpen behind

theorem behindOpen_append {head : Text} (noOpen : '{' ∉ head) (behind : Text) :
    behindOpen (head ++ '{' :: behind) = behind :=
  congrArg List.tail (dropWhile_ne_append noOpen behind)

def readFilepath (head behind : Text) : Text :=
  if '}' ∈ head then behind else behind.takeWhile (· ≠ '}')

theorem readFilepath_eq_nil {head behind : Text} :
    readFilepath head behind = [] ↔ behind = [] ∨ ('}' ∉ head ∧ behind.head? = some '}') := by
  rw [readFilepath]
  by_cases inFront : '}' ∈ head
  · simp [inFront]
  · cases behind with
    | nil => simp
    | cons char behind => by_cases closes : char = '}' <;> simp [inFront, closes]

theorem parseFilepath_of_noBrackets {buildString : Text} (noOpen : '{' ∉ buildString)
    (noClose : '}' ∉ buildString) : parseFilepath buildString = .ok (buildString, none) := by
  rw [parseFilepath, findIdx?_of_notMem noOpen, findIdx?_of_notMem noClose]

theorem exists_closeBracket {head behind : Text} (close : '}' ∈ head ++ '{' :: behind) :
    ∃ closeBracket, (head ++ '{' :: behind).findIdx? (· = '}') = some closeBracket ∧
      (if closeBracket < head.length + 1 then behind
        else behind.take (closeBracket - (head.length + 1))) = readFilepath head behind := by
  rw [readFilepath]
  by_cases inFront : '}' ∈ head
  · rw [if_pos inFront]
    rcases List.eq_append_cons_of_mem inFront with ⟨before, after, rfl, noClose⟩
    refine ⟨before.length, ?_, if_pos ?_⟩
    · rw [List.append_assoc, List.cons_append]
      exact findIdx?_append_cons noClose _
    · rw [List.length_append]
      omega
  · rw [if_neg inFront]
    have behindClose : '}' ∈ behind := by simpa [inFront] using close
    rcases List.eq_append_cons_of_mem behindClose with ⟨path, rest, rfl, noClose⟩
    have notBefore : '}' ∉ head ++ '{' :: path := by simp [inFront, noClose]
    refine ⟨(head ++ '{' :: path).length, ?_, ?_⟩
    · rw [← List.cons_append, ← List.append_assoc]
      exact findIdx?_append_cons notBefore rest
    · have position : (head ++ '{' :: path).length = path.length + (head.length + 1) := by
        rw [List.length_append, List.length_cons]
        omega
      rw [position, if_neg (by omega), Nat.add_sub_cancel, List.take_left,
        takeWhile_ne_append noClose]

theorem parseFilepath_of_brackets {head behind : Text} (noOpen : '{' ∉ head)
    (close : '}' ∈ head ++ '{' :: behind) :
    (head = [] ∨ readFilepath head behind = []) ∧
        (∃ failure, parseFilepath (head ++ '{' :: behind) = .error failure) ∨
      (head ≠ [] ∧ readFilepath head behind ≠ []) ∧
        parseFilepath (head ++ '{' :: behind) =
          .ok (head, some (readFilepath head behind)) := by
  have rest : (head ++ '{' :: behind).drop (head.length + 1) = behind := by
    rw [← List.drop_drop, List.drop_left, List.drop_one, List.tail_cons]
  rcases exists_closeBracket close with ⟨closeBracket, found, path⟩
  rw [parseFilepath, findIdx?_append_cons noOpen, found]
  simp only [rest, path, List.take_left]
  by_cases empty : head = []
  · simp [empty]
  · by_cases nothing : readFilepath head behind = [] <;> simp [empty, nothing]

theorem reads_of_brackets {head behind : Text} (noOpen : '{' ∉ head)
    (close : '}' ∈ head ++ '{' :: behind) :
    Reads (parseBuildString (head ++ '{' :: behind)) (¬ IsRefused head behind)
      (head ++ printFilepath (some (readFilepath head behind))) := by
  have nonempty : head ++ '{' :: behind ≠ [] := by simp
  have refused : IsRefused head behind ↔
      (head = [] ∨ readFilepath head behind = []) ∨ ¬ HasParts head := by
    rw [IsRefused, readFilepath_eq_nil]
    tauto
  rcases parseFilepath_of_brackets noOpen close with
    ⟨empty, failure, parsed⟩ | ⟨filled, parsed⟩
  · rw [parseBuildString, if_neg nonempty, parsed]
    apply reads_error
    simp [refused, empty]
  · have valid : ¬ IsRefused head behind ↔ HasParts head := by simp [refused, filled]
    rw [valid]
    exact reads_of_parseFilepath nonempty parsed

theorem parseFilepath_of_oneKind {buildString : Text}
    (oneKind : '{' ∈ buildString ↔ '}' ∉ buildString) :
    ∃ failure, parseFilepath buildString = .error failure := by
  by_cases opens : '{' ∈ buildString
  · rcases List.eq_append_cons_of_mem opens with ⟨head, behind, rfl, noOpen⟩
    rw [parseFilepath, findIdx?_append_cons noOpen, findIdx?_of_notMem (oneKind.mp opens)]
    exact ⟨_, rfl⟩
  · have closes : '}' ∈ buildString := by
      by_contra noClose
      exact opens (oneKind.mpr noClose)
    rcases List.eq_append_cons_of_mem closes with ⟨head, behind, rfl, noClose⟩
    rw [parseFilepath, findIdx?_append_cons noClose, findIdx?_of_notMem opens]
    exact ⟨_, rfl⟩

/-! ## The syntax, by its brackets -/

theorem isBuildString_of_noBrackets {buildString : Text} (noOpen : '{' ∉ buildString)
    (noClose : '}' ∉ buildString) :
    IsBuildString buildString ↔ buildString ≠ [] ∧ HasParts buildString := by
  constructor
  · intro isBuildString
    cases isBuildString with
    | head isHead => exact ⟨isHead.nonempty, isHead.parts⟩
    | filepath isHead => exact absurd (by simp) noOpen
  · intro valid
    exact .head ⟨valid.1, noOpen, noClose, valid.2⟩

theorem IsBuildString.brackets {buildString : Text} (isBuildString : IsBuildString buildString) :
    '{' ∈ buildString ↔ '}' ∈ buildString := by
  cases isBuildString with
  | head isHead => simp [isHead.noOpen, isHead.noClose]
  | filepath isHead => simp

theorem bracketsInPlace_append {head behind : Text} (noOpen : '{' ∉ head) :
    BracketsInPlace (head ++ '{' :: behind) ↔
      ∃ path, behind = path ++ ['}'] ∧ '}' ∉ head ∧ '{' ∉ path ∧ '}' ∉ path := by
  constructor
  · intro inPlace
    rcases List.eq_nil_or_concat' behind with rfl | ⟨path, last, rfl⟩
    · have closed := inPlace.closed
      simp at closed
    · have closed : last = '}' := by
        have atEnd := inPlace.closed
        rw [← List.cons_append, ← List.append_assoc, List.getLast?_append] at atEnd
        exact Option.some.inj atEnd
      subst closed
      have opens := inPlace.oneOpen
      have closes := inPlace.oneClose
      rw [List.count_append, List.count_cons_self, List.count_append] at opens
      rw [List.count_append, List.count_cons_of_ne (by decide), List.count_append,
        List.count_singleton_self] at closes
      refine ⟨path, rfl, ?_, ?_, ?_⟩
      · apply List.count_eq_zero.mp
        omega
      · apply List.count_eq_zero.mp
        omega
      · apply List.count_eq_zero.mp
        omega
  · intro shape
    rcases shape with ⟨path, rfl, noClose, noOpenIn, noCloseIn⟩
    constructor
    · simp [List.count_eq_zero.mpr noOpen, List.count_eq_zero.mpr noOpenIn]
    · simp [List.count_eq_zero.mpr noClose, List.count_eq_zero.mpr noCloseIn]
    · rw [← List.cons_append, ← List.append_assoc, List.getLast?_append]
      rfl

theorem isBuildString_of_brackets {head behind : Text} (noOpen : '{' ∉ head) :
    IsBuildString (head ++ '{' :: behind) ↔
      BracketsInPlace (head ++ '{' :: behind) ∧ ¬ IsRefused head behind := by
  constructor
  · intro isBuildString
    generalize whole : head ++ '{' :: behind = buildString at isBuildString ⊢
    cases isBuildString with
    | head isHead => exact absurd (by simp [← whole]) isHead.noOpen
    | @filepath _ path isHead nonempty noOpenIn noCloseIn =>
        have sameHead := congrArg beforeOpen whole
        have sameBehind := congrArg behindOpen whole
        rw [beforeOpen_append noOpen, beforeOpen_append isHead.noOpen] at sameHead
        rw [behindOpen_append noOpen, behindOpen_append isHead.noOpen] at sameBehind
        subst sameHead sameBehind
        constructor
        · exact (bracketsInPlace_append noOpen).mpr ⟨path, rfl, isHead.noClose, noOpenIn, noCloseIn⟩
        · rw [IsRefused, not_or, not_or, not_or, not_not]
          refine ⟨isHead.nonempty, by simp, ?_, isHead.parts⟩
          intro between
          cases path with
          | nil => exact nonempty rfl
          | cons char path =>
              have closes : char = '}' := Option.some.inj between.2
              exact noCloseIn (closes ▸ List.mem_cons_self)
  · intro valid
    rcases valid with ⟨inPlace, notRefused⟩
    rcases (bracketsInPlace_append noOpen).mp inPlace with
      ⟨path, rfl, noClose, noOpenIn, noCloseIn⟩
    rw [IsRefused, not_or, not_or, not_or, not_not] at notRefused
    rcases notRefused with ⟨nonempty, -, between, parts⟩
    apply IsBuildString.filepath ⟨nonempty, noOpen, noClose, parts⟩ ?_ noOpenIn noCloseIn
    intro nothing
    exact between ⟨noClose, by simp [nothing]⟩

theorem readFilepath_of_inPlace {head behind : Text} (noOpen : '{' ∉ head)
    (inPlace : BracketsInPlace (head ++ '{' :: behind)) :
    head ++ printFilepath (some (readFilepath head behind)) = head ++ '{' :: behind := by
  rcases (bracketsInPlace_append noOpen).mp inPlace with ⟨path, rfl, noClose, -, noCloseIn⟩
  rw [readFilepath, if_neg noClose, takeWhile_ne_append noCloseIn]
  rfl

/-! ## When the parser follows the syntax -/

theorem parsesExactly_of_noBrackets {buildString : Text} (noOpen : '{' ∉ buildString)
    (noClose : '}' ∉ buildString) : ParsesExactly buildString := by
  rw [ParsesExactly, isBuildString_of_noBrackets noOpen noClose]
  by_cases empty : buildString = []
  · rw [parseBuildString, if_pos empty]
    exact reads_error fun valid => valid.1 empty
  · have reads := reads_of_parseFilepath empty (parseFilepath_of_noBrackets noOpen noClose)
    rw [and_iff_right empty]
    rw [printFilepath, Option.elim_none, List.append_nil] at reads
    exact reads

theorem parsesExactly_of_oneKind {buildString : Text}
    (oneKind : '{' ∈ buildString ↔ '}' ∉ buildString) : ParsesExactly buildString := by
  have nonempty : buildString ≠ [] := by
    intro empty
    simp [empty] at oneKind
  have notInSyntax : ¬ IsBuildString buildString := by
    intro isBuildString
    have both := isBuildString.brackets
    tauto
  rcases parseFilepath_of_oneKind oneKind with ⟨failure, parsed⟩
  rw [ParsesExactly, parseBuildString, if_neg nonempty, parsed]
  exact reads_error notInSyntax

theorem parsesExactly_of_brackets {head behind : Text} (noOpen : '{' ∉ head)
    (close : '}' ∈ head ++ '{' :: behind) :
    ParsesExactly (head ++ '{' :: behind) ↔
      BracketsInPlace (head ++ '{' :: behind) ∨ IsRefused head behind := by
  have reads := reads_of_brackets noOpen close
  have inSyntax := @isBuildString_of_brackets head behind noOpen
  constructor
  · intro exactly
    by_cases refused : IsRefused head behind
    · exact .inr refused
    · exact .inl (inSyntax.mp (exactly.1.mp (reads.1.mpr refused))).1
  · intro inPlaceOrRefused
    constructor
    · rw [reads.1, inSyntax]
      tauto
    · intro value parsed
      have notRefused : ¬ IsRefused head behind := reads.1.mp ⟨value, parsed⟩
      have inPlace := inPlaceOrRefused.resolve_right notRefused
      rw [reads.2 value parsed, readFilepath_of_inPlace noOpen inPlace]

theorem parsesExactly_iff (buildString : Text) :
    ParsesExactly buildString ↔
      ('{' ∈ buildString → '}' ∈ buildString →
        BracketsInPlace buildString ∨
          IsRefused (beforeOpen buildString) (behindOpen buildString)) := by
  by_cases opens : '{' ∈ buildString <;> by_cases closes : '}' ∈ buildString
  · rcases List.eq_append_cons_of_mem opens with ⟨head, behind, rfl, noOpen⟩
    rw [imp_iff_right opens, imp_iff_right closes, beforeOpen_append noOpen,
      behindOpen_append noOpen]
    exact parsesExactly_of_brackets noOpen closes
  · have exactly := parsesExactly_of_oneKind (iff_of_true opens closes)
    exact iff_of_true exactly fun _ close => absurd close closes
  · have exactly := parsesExactly_of_oneKind (iff_of_false opens (not_not_intro closes))
    exact iff_of_true exactly fun brackets => absurd brackets opens
  · have exactly := parsesExactly_of_noBrackets opens closes
    exact iff_of_true exactly fun brackets => absurd brackets opens

/-- What stands behind the path is lost. -/
theorem text_behind_filepath_lost :
    ¬ ParsesExactly ['a', '{', 'b', '}', 'c'] := by
  intro exactly
  have parsed : parseBuildString ['a', '{', 'b', '}', 'c'] =
      .ok (.device ⟨['a'], none, some ['b']⟩) := rfl
  have printed := exactly.2 _ parsed
  revert printed
  decide

end Cuttlefish.Web
