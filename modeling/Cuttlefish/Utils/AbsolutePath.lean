import Cuttlefish.Foundation.LexicalPath
import Cuttlefish.Result

/-! # Absolute paths of another process

`EmulateAbsolutePath` of `utils/files.cpp`. -/

namespace Cuttlefish.Utils.AbsolutePath

/-! ## The conversion -/

structure InputPathForm where
  currentWorkingDir : Option Text
  homeDir : Option Text
  pathToConvert : Text
  followSymlink : Bool

/-- What the process asks the system: its own directory, the home of its user if there is one, and
where the links of a path lead. -/
structure Surroundings where
  currentDirectory : Text
  systemWideUserHome : Option Text
  fileExists : Text → Bool
  realpath : Text → Option Text

def tilde : Text := ['~']

/-- `absl::StrSplit` at slashes with `SkipEmpty`. -/
def split (path : Text) : List Text := (path.splitOn '/').filter fun token => !token.isEmpty

def join (components : List Text) : Text := ['/'].intercalate components

/-- `path == "~" || absl::StartsWith(path, "~/")`. -/
def isHomePath (path : Text) : Bool := path = tilde || ['~', '/'].isPrefixOf path

def isAbsolute (path : Text) : Bool := path.head? = some '/'

def foldPath (elements : List Text) (token : Text) : List Text :=
  if token = ['.', '.'] ∧ elements ≠ [] then elements.dropLast
  else if token ∈ [['.'], ['.', '.'], []] then elements
  else elements ++ [token]

section

variable (surroundings : Surroundings)

def workingDir (pathInfo : InputPathForm) : Text :=
  pathInfo.currentWorkingDir.getD surroundings.currentDirectory

def calculatePrefix (pathInfo : InputPathForm) : Result (List Text) :=
  if isHomePath pathInfo.pathToConvert then
    match surroundings.systemWideUserHome with
    | none => .error (.err "Failed to find the home directory")
    | some systemHome => .ok (split (pathInfo.homeDir.getD systemHome))
  else if !isAbsolute pathInfo.pathToConvert then .ok (split (workingDir surroundings pathInfo))
  else .ok []

def removeFirstTilde (tokens : List Text) : List Text :=
  if tokens.head? = some tilde then tokens.drop 1 else tokens

def processComponents (followSymlink : Bool) (components : List Text) : Result Text := do
  cfExpect (tilde ∉ components)
    ("~ is not allowed in the middle of the path: " ++ String.ofList (join components))
  let processedPath := '/' :: join (components.foldl foldPath [])
  if followSymlink && surroundings.fileExists processedPath then
    match surroundings.realpath processedPath with
    | none => .error (.err ("Failed to effectively conduct readpath -f " ++
        String.ofList processedPath))
    | some realPath => .ok realPath
  else .ok processedPath

def emulateAbsolutePath (pathInfo : InputPathForm) : Result Text := do
  cfExpect (isAbsolute (workingDir surroundings pathInfo))
    "Current working directory should be given in an absolute path."
  if pathInfo.pathToConvert = [] then .ok []
  else do
    let front ← calculatePrefix surroundings pathInfo
    processComponents surroundings pathInfo.followSymlink
      (front ++ removeFirstTilde (split pathInfo.pathToConvert))

end

/-! ## What it is for -/

/-- A path with the absolute directories that it may be relative to. -/
structure Request where
  workingDir : Text
  homeDir : Text
  path : Text
  workingDirAbsolute : isAbsolute workingDir = true
  workingDirPlain : tilde ∉ split workingDir
  homeDirAbsolute : isAbsolute homeDir = true
  homeDirPlain : tilde ∉ split homeDir
  nonempty : path ≠ []

namespace Request

variable (request : Request)

def form : InputPathForm := ⟨some request.workingDir, some request.homeDir, request.path, false⟩

def target : Text :=
  if isAbsolute request.path then request.path
  else if isHomePath request.path then request.homeDir ++ request.path.drop 1
  else request.workingDir ++ '/' :: request.path

def plainComponents : List Text :=
  if isHomePath request.path then (split request.path).drop 1 else split request.path

def expected : Option Text :=
  if tilde ∈ request.plainComponents then none
  else some ('/' :: join (CleanPath.clean request.target).parts)

end Request

def Answers (result : Result Text) (expected : Option Text) : Prop :=
  (expected = none → result.ReturnsError) ∧ ∀ text, expected = some text → result = .ok text

/-- The path is normalised, and a normalised path stays as it is. -/
structure Normalises (surroundings : Surroundings) (request : Request) : Prop where
  answers : Answers (emulateAbsolutePath surroundings request.form) request.expected
  again : ∀ text, emulateAbsolutePath surroundings request.form = .ok text →
    emulateAbsolutePath surroundings { request.form with pathToConvert := text } = .ok text

/-! ## The fold -/

theorem foldPath_eq (elements : List Text) (token : Text) :
    foldPath elements token = (CleanPath.enter ⟨.root, elements⟩ token).parts := by
  rw [foldPath, CleanPath.enter]
  by_cases parent : token = ['.', '.']
  · rw [parent]
    by_cases none : elements = []
    · simp [none, CleanPath.parent]
    · simp [none, CleanPath.parent]
  · by_cases here : token = [] ∨ token = ['.']
    · rcases here with empty | dot
      · simp [empty]
      · simp [dot]
    · rw [not_or] at here
      simp [parent, here.1, here.2]

theorem foldl_foldPath (path : CleanPath) (isRoot : path.start = .root) (tokens : List Text) :
    tokens.foldl foldPath path.parts = (tokens.foldl CleanPath.enter path).parts := by
  induction tokens generalizing path with
  | nil => rfl
  | cons token rest induction =>
      have walked : foldPath path.parts token = (path.enter token).parts := by
        rw [foldPath_eq, ← isRoot]
      rw [List.foldl_cons, List.foldl_cons, walked,
        induction _ (CleanPath.start_enter isRoot token)]

theorem foldl_enter_split (path : CleanPath) (text : Text) :
    (split text).foldl CleanPath.enter path = (text.splitOn '/').foldl CleanPath.enter path := by
  rw [split]
  generalize text.splitOn '/' = tokens
  induction tokens generalizing path with
  | nil => rfl
  | cons token rest induction =>
      cases token with
      | nil => exact induction path
      | cons char token => exact induction (path.enter (char :: token))

theorem foldPath_split {text : Text} (absolute : isAbsolute text = true) :
    (split text).foldl foldPath [] = (CleanPath.clean text).parts := by
  have isRoot : text.head? = some '/' := of_decide_eq_true absolute
  rw [CleanPath.clean, isRoot, ← foldl_enter_split]
  exact foldl_foldPath ⟨.root, []⟩ rfl (split text)

theorem split_append (first second : Text) :
    split (first ++ '/' :: second) = split first ++ split second := by
  rw [split, List.splitOn_append_cons_self, List.filter_append]
  rfl

/-! ## The first component -/

theorem split_of_notMem {token : Text} (nonempty : token ≠ []) (noSlash : '/' ∉ token) :
    split token = [token] := by
  rw [split, List.splitOn_eq_singleton noSlash]
  apply List.filter_eq_self.mpr
  simpa using nonempty

theorem exists_first {path : Text} (nonempty : path ≠ []) (relative : isAbsolute path = false) :
    ∃ first, first ≠ [] ∧ '/' ∉ first ∧
      (path = first ∨ ∃ rest, path = first ++ '/' :: rest) := by
  refine ⟨path.takeWhile (· ≠ '/'), ?_, ?_, ?_⟩
  · cases path with
    | nil => exact absurd rfl nonempty
    | cons char rest =>
        have notSlash : char ≠ '/' := by
          intro same
          rw [same] at relative
          cases relative
        simp [notSlash]
  · intro member
    have notSlash := List.mem_takeWhile_imp member
    simp at notSlash
  · have whole := @List.takeWhile_append_dropWhile _ (· ≠ '/') path
    cases behind : path.dropWhile (· ≠ '/') with
    | nil =>
        rw [behind, List.append_nil] at whole
        exact .inl whole.symm
    | cons char rest =>
        have isSlash : char = '/' := by
          have stopped := List.head?_dropWhile_not (· ≠ '/') path
          rw [behind] at stopped
          simpa using stopped
        rw [behind, isSlash] at whole
        exact .inr ⟨rest, whole.symm⟩

theorem split_first {path first : Text} (nonempty : first ≠ []) (noSlash : '/' ∉ first)
    (starts : path = first ∨ ∃ rest, path = first ++ '/' :: rest) :
    (split path).head? = some first := by
  rcases starts with whole | ⟨rest, whole⟩
  · rw [whole, split_of_notMem nonempty noSlash]
    rfl
  · rw [whole, split_append, split_of_notMem nonempty noSlash]
    rfl

theorem isHomePath_iff {path : Text} (nonempty : path ≠ []) :
    isHomePath path = true ↔ isAbsolute path = false ∧ (split path).head? = some tilde := by
  have homes : isHomePath path = true ↔ path = tilde ∨ ∃ rest, path = tilde ++ '/' :: rest := by
    rw [isHomePath, Bool.or_eq_true, decide_eq_true_iff, List.isPrefixOf_iff_prefix]
    apply or_congr_right
    constructor
    · rintro ⟨rest, whole⟩
      exact ⟨rest, whole.symm⟩
    · rintro ⟨rest, whole⟩
      exact ⟨rest, whole.symm⟩
  constructor
  · intro isHome
    have starts := homes.mp isHome
    refine ⟨?_, split_first (by decide) (by decide) starts⟩
    rcases starts with whole | ⟨rest, whole⟩
    · rw [whole]
      decide
    · rw [whole]
      rfl
  · rintro ⟨relative, isTilde⟩
    obtain ⟨first, firstNonempty, noSlash, starts⟩ := exists_first nonempty relative
    have isFirst := split_first firstNonempty noSlash starts
    rw [isTilde] at isFirst
    rw [homes, Option.some.inj isFirst]
    exact starts

/-! ## The result -/

namespace Request

variable (request : Request)

def front : List Text :=
  if isAbsolute request.path then []
  else if isHomePath request.path then split request.homeDir
  else split request.workingDir

theorem tilde_notMem_front : tilde ∉ request.front := by
  rw [front]
  split
  · exact List.not_mem_nil
  · split
    · exact request.homeDirPlain
    · exact request.workingDirPlain

theorem isAbsolute_append {directory : Text} (absolute : isAbsolute directory = true)
    (rest : Text) : isAbsolute (directory ++ rest) = true := by
  cases directory with
  | nil => exact absurd absolute (by decide)
  | cons char directory => exact absolute

theorem isAbsolute_target : isAbsolute request.target = true := by
  rw [target]
  split
  · assumption
  · split
    · exact isAbsolute_append request.homeDirAbsolute _
    · exact isAbsolute_append request.workingDirAbsolute _

theorem split_target : split request.target = request.front ++ request.plainComponents := by
  rw [target, front, plainComponents]
  have homes := isHomePath_iff request.nonempty
  by_cases absolute : isAbsolute request.path = true
  · have notHome : ¬ isHomePath request.path = true := by
      intro isHome
      rw [(homes.mp isHome).1] at absolute
      cases absolute
    rw [if_pos absolute, if_pos absolute, if_neg notHome]
    rfl
  · rw [if_neg absolute, if_neg absolute]
    by_cases isHome : isHomePath request.path = true
    · rw [if_pos isHome, if_pos isHome, if_pos isHome]
      obtain ⟨first, firstNonempty, noSlash, starts⟩ :=
        exists_first request.nonempty (homes.mp isHome).1
      have isTilde := (homes.mp isHome).2
      rw [split_first firstNonempty noSlash starts] at isTilde
      rw [Option.some.inj isTilde] at starts
      rcases starts with whole | ⟨rest, whole⟩
      · rw [whole]
        change split (request.homeDir ++ []) = split request.homeDir ++ []
        rw [List.append_nil, List.append_nil]
      · rw [whole]
        change split (request.homeDir ++ '/' :: rest) = _
        rw [split_append, split_append]
        rfl
    · rw [if_neg isHome, if_neg isHome, if_neg isHome, split_append]

theorem foldPath_components :
    (request.front ++ request.plainComponents).foldl foldPath [] =
      (CleanPath.clean request.target).parts := by
  rw [← split_target]
  exact foldPath_split request.isAbsolute_target

end Request

/-! ## The conversion of requests -/

section

variable {surroundings : Surroundings}

theorem emulateAbsolutePath_eq {pathInfo : InputPathForm} {front : List Text}
    (absolute : isAbsolute (workingDir surroundings pathInfo) = true)
    (nonempty : pathInfo.pathToConvert ≠ [])
    (fronts : calculatePrefix surroundings pathInfo = .ok front) :
    emulateAbsolutePath surroundings pathInfo =
      processComponents surroundings pathInfo.followSymlink
        (front ++ removeFirstTilde (split pathInfo.pathToConvert)) := by
  rw [emulateAbsolutePath, absolute, cfExpect_true, if_neg nonempty, fronts]
  rfl

theorem processComponents_of_tilde {components : List Text} (isTilde : tilde ∈ components)
    (followSymlink : Bool) :
    (processComponents surroundings followSymlink components).ReturnsError := by
  rw [processComponents, decide_eq_false (not_not.mpr isTilde)]
  exact ⟨_, rfl⟩

theorem processComponents_of_plain {components : List Text} (plain : tilde ∉ components) :
    processComponents surroundings false components =
      .ok ('/' :: join (components.foldl foldPath [])) := by
  rw [processComponents, decide_eq_true plain]
  rfl

theorem emulateAbsolutePath_absolute {pathInfo : InputPathForm}
    (absolute : isAbsolute (workingDir surroundings pathInfo) = true)
    (pathAbsolute : isAbsolute pathInfo.pathToConvert = true) :
    emulateAbsolutePath surroundings pathInfo =
      processComponents surroundings pathInfo.followSymlink
        (removeFirstTilde (split pathInfo.pathToConvert)) := by
  have nonempty : pathInfo.pathToConvert ≠ [] := by
    intro empty
    rw [empty] at pathAbsolute
    exact absurd pathAbsolute (by decide)
  have notHome : ¬ isHomePath pathInfo.pathToConvert = true := by
    intro isHome
    rw [((isHomePath_iff nonempty).mp isHome).1] at pathAbsolute
    cases pathAbsolute
  have fronts : calculatePrefix surroundings pathInfo = .ok [] := by
    rw [calculatePrefix, if_neg notHome, pathAbsolute]
    rfl
  rw [emulateAbsolutePath_eq absolute nonempty fronts]
  rfl

theorem split_join {names : List Text} (areNames : ∀ name ∈ names, CleanPath.IsName name) :
    split ('/' :: join names) = names := by
  have splits : split ('/' :: join names) = split (join names) := split_append [] (join names)
  rw [splits]
  by_cases none : names = []
  · rw [none]
    decide
  · rw [split, join, List.splitOn_intercalate '/' (fun name isName => (areNames name isName).noSlash)
      none]
    apply List.filter_eq_self.mpr
    intro name isName
    simpa using (areNames name isName).nonempty

theorem emulateAbsolutePath_again {pathInfo : InputPathForm} {parts : List Text}
    (absolute : isAbsolute (workingDir surroundings pathInfo) = true)
    (noLinks : pathInfo.followSymlink = false)
    (isResult : pathInfo.pathToConvert = '/' :: join parts)
    (areNames : ∀ name ∈ parts, CleanPath.IsName name) (plain : tilde ∉ parts) :
    emulateAbsolutePath surroundings pathInfo = .ok pathInfo.pathToConvert := by
  have notTilde : parts.head? ≠ some tilde := fun isFirst => plain (List.mem_of_head? isFirst)
  have walked : parts.foldl foldPath [] = parts := by
    have walks := foldl_foldPath ⟨.root, []⟩ rfl parts
    rw [CleanPath.foldl_enter_names _ areNames] at walks
    exact walks
  rw [emulateAbsolutePath_absolute absolute (by rw [isResult]; rfl), isResult, split_join areNames,
    removeFirstTilde, if_neg notTilde, noLinks, processComponents_of_plain plain, walked]

variable {request : Request}

theorem calculatePrefix_form
    (found : isHomePath request.path = true → surroundings.systemWideUserHome ≠ none) :
    calculatePrefix surroundings request.form = .ok request.front := by
  have homes := isHomePath_iff request.nonempty
  rw [calculatePrefix, Request.front]
  by_cases isHome : isHomePath request.path = true
  · obtain ⟨systemHome, isSystemHome⟩ := Option.ne_none_iff_exists'.mp (found isHome)
    have notAbsolute : ¬ isAbsolute request.path = true := by simp [(homes.mp isHome).1]
    rw [if_neg notAbsolute, if_pos isHome, isSystemHome]
    exact if_pos isHome
  · refine (if_neg isHome).trans ?_
    by_cases absolute : isAbsolute request.path = true
    · rw [if_pos absolute]
      exact if_neg (by simp [Request.form, absolute])
    · rw [if_neg absolute, if_neg isHome]
      exact if_pos (by simpa [Request.form] using absolute)

/-- The path is one whose first `~` is dropped although it means no home directory, or the home
directory is given and looked up in vain. -/
def Slips (surroundings : Surroundings) (request : Request) : Prop :=
  (split request.path).head? = some tilde ∧ tilde ∉ (split request.path).drop 1 ∧
    (isAbsolute request.path = true ∨ surroundings.systemWideUserHome = none)

theorem removeFirstTilde_eq
    (noSlip : isAbsolute request.path = true → (split request.path).head? ≠ some tilde) :
    removeFirstTilde (split request.path) = request.plainComponents := by
  have homes := isHomePath_iff request.nonempty
  rw [removeFirstTilde, Request.plainComponents]
  by_cases isHome : isHomePath request.path = true
  · rw [if_pos isHome, if_pos (homes.mp isHome).2]
  · rw [if_neg isHome]
    apply if_neg
    intro isTilde
    by_cases absolute : isAbsolute request.path = true
    · exact noSlip absolute isTilde
    · exact isHome (homes.mpr ⟨by simpa using absolute, isTilde⟩)

theorem normalises_of_found
    (found : isHomePath request.path = true → surroundings.systemWideUserHome ≠ none)
    (noSlip : isAbsolute request.path = true → (split request.path).head? ≠ some tilde) :
    Answers (emulateAbsolutePath surroundings request.form) request.expected := by
  have converted := emulateAbsolutePath_eq
    (show isAbsolute (workingDir surroundings request.form) = true from request.workingDirAbsolute)
    (show request.form.pathToConvert ≠ [] from request.nonempty) (calculatePrefix_form found)
  change emulateAbsolutePath surroundings request.form =
    processComponents surroundings false (request.front ++ removeFirstTilde (split request.path))
    at converted
  rw [removeFirstTilde_eq noSlip] at converted
  rw [converted, Answers, Request.expected]
  by_cases isTilde : tilde ∈ request.plainComponents
  · rw [if_pos isTilde]
    refine ⟨fun _ => processComponents_of_tilde (List.mem_append_right _ isTilde) false, ?_⟩
    intro text isText
    cases isText
  · have plain : tilde ∉ request.front ++ request.plainComponents := by
      rw [List.mem_append]
      exact not_or.mpr ⟨request.tilde_notMem_front, isTilde⟩
    rw [if_neg isTilde, processComponents_of_plain plain, request.foldPath_components]
    constructor
    · intro isNone
      cases isNone
    · intro text isText
      rw [Option.some.inj isText]

theorem answers_of_absolute (absolute : isAbsolute request.path = true)
    (isTilde : (split request.path).head? = some tilde) :
    Answers (emulateAbsolutePath surroundings request.form) request.expected ↔
      tilde ∈ (split request.path).drop 1 := by
  have notHome : ¬ isHomePath request.path = true := by
    intro isHome
    rw [((isHomePath_iff request.nonempty).mp isHome).1] at absolute
    cases absolute
  have isError : request.expected = none := by
    rw [Request.expected, Request.plainComponents, if_neg notHome]
    exact if_pos (List.mem_of_head? isTilde)
  have converted := emulateAbsolutePath_absolute
    (show isAbsolute (workingDir surroundings request.form) = true from request.workingDirAbsolute)
    (show isAbsolute request.form.pathToConvert = true from absolute)
  change emulateAbsolutePath surroundings request.form =
    processComponents surroundings false (removeFirstTilde (split request.path)) at converted
  rw [removeFirstTilde, if_pos isTilde] at converted
  rw [converted, Answers, isError]
  constructor
  · intro answers
    apply Classical.byContradiction
    intro plain
    have failed := answers.1 rfl
    rw [processComponents_of_plain plain] at failed
    exact absurd failed (Result.returnsError_ok _)
  · intro isIn
    refine ⟨fun _ => processComponents_of_tilde isIn false, ?_⟩
    intro text isText
    cases isText

theorem emulateAbsolutePath_of_none (isHome : isHomePath request.path = true)
    (noHome : surroundings.systemWideUserHome = none) :
    emulateAbsolutePath surroundings request.form =
      .error (.err "Failed to find the home directory") := by
  have failed : calculatePrefix surroundings request.form =
      .error (.err "Failed to find the home directory") := by
    rw [calculatePrefix, noHome]
    exact if_pos isHome
  have absolute : isAbsolute (workingDir surroundings request.form) = true :=
    request.workingDirAbsolute
  have nonempty : request.form.pathToConvert ≠ [] := request.nonempty
  rw [emulateAbsolutePath, absolute, cfExpect_true, failed]
  exact if_neg nonempty

theorem answers_of_none (isHome : isHomePath request.path = true)
    (noHome : surroundings.systemWideUserHome = none) :
    Answers (emulateAbsolutePath surroundings request.form) request.expected ↔
      tilde ∈ (split request.path).drop 1 := by
  rw [emulateAbsolutePath_of_none isHome noHome, Answers, Request.expected,
    Request.plainComponents, if_pos isHome]
  simp

theorem answers_iff :
    Answers (emulateAbsolutePath surroundings request.form) request.expected ↔
      ¬ Slips surroundings request := by
  have homes := isHomePath_iff request.nonempty
  by_cases isTilde : (split request.path).head? = some tilde
  · by_cases absolute : isAbsolute request.path = true
    · rw [answers_of_absolute absolute isTilde, Slips]
      simp [isTilde, absolute]
    · have isHome : isHomePath request.path = true := homes.mpr ⟨by simpa using absolute, isTilde⟩
      cases home : surroundings.systemWideUserHome with
      | none =>
          rw [answers_of_none isHome home, Slips]
          simp [isTilde, home]
      | some systemHome =>
          have answers : Answers (emulateAbsolutePath surroundings request.form)
              request.expected :=
            normalises_of_found (fun _ => by simp [home]) fun isAbs => absurd isAbs absolute
          simp [answers, Slips, absolute, home]
  · have notHome : ¬ isHomePath request.path = true := fun isHome => isTilde (homes.mp isHome).2
    have answers : Answers (emulateAbsolutePath surroundings request.form) request.expected :=
      normalises_of_found (fun isHome => absurd isHome notHome) fun _ => isTilde
    simp [answers, Slips, isTilde]

/-! ## A second conversion -/

theorem notMem_of_mem_split {path token : Text} (member : token ∈ split path) : '/' ∉ token :=
  Substrings.notMem_of_mem_splitOn (List.mem_of_mem_filter member)

theorem mem_of_mem_foldPath {elements components : List Text} {part : Text}
    (member : part ∈ components.foldl foldPath elements) : part ∈ elements ++ components := by
  induction components generalizing elements with
  | nil => simpa using member
  | cons token rest induction =>
      rcases List.mem_append.mp (induction member) with isOld | inRest
      · have fromToken : part ∈ elements ∨ part = token := by
          rw [foldPath] at isOld
          split at isOld
          · exact .inl (List.dropLast_subset _ isOld)
          · split at isOld
            · exact .inl isOld
            · simpa using isOld
        rcases fromToken with isElement | isToken
        · exact List.mem_append_left _ isElement
        · rw [isToken]
          simp
      · exact List.mem_append_right _ (List.mem_cons_of_mem _ inRest)

theorem exists_parts {text : Text}
    (converted : emulateAbsolutePath surroundings request.form = .ok text) :
    ∃ parts, text = '/' :: join parts ∧ (∀ name ∈ parts, CleanPath.IsName name) ∧
      tilde ∉ parts := by
  have found : isHomePath request.path = true → surroundings.systemWideUserHome ≠ none := by
    intro isHome noHome
    rw [emulateAbsolutePath_of_none isHome noHome] at converted
    cases converted
  have processed := emulateAbsolutePath_eq
    (show isAbsolute (workingDir surroundings request.form) = true from request.workingDirAbsolute)
    (show request.form.pathToConvert ≠ [] from request.nonempty) (calculatePrefix_form found)
  change emulateAbsolutePath surroundings request.form =
    processComponents surroundings false (request.front ++ removeFirstTilde (split request.path))
    at processed
  have noSlash : ∀ token ∈ request.front ++ removeFirstTilde (split request.path),
      '/' ∉ token := by
    intro token member
    rcases List.mem_append.mp member with inFront | inPath
    · rw [Request.front] at inFront
      split at inFront
      · cases inFront
      · split at inFront
        · exact notMem_of_mem_split inFront
        · exact notMem_of_mem_split inFront
    · rw [removeFirstTilde] at inPath
      split at inPath
      · exact notMem_of_mem_split (List.mem_of_mem_drop inPath)
      · exact notMem_of_mem_split inPath
  generalize request.front ++ removeFirstTilde (split request.path) = components
    at processed noSlash
  by_cases isTilde : tilde ∈ components
  · have failed := @processComponents_of_tilde surroundings _ isTilde false
    rw [← processed, converted] at failed
    exact absurd failed (Result.returnsError_ok _)
  · rw [processComponents_of_plain isTilde, converted] at processed
    refine ⟨components.foldl foldPath [], Except.ok.inj processed, ?_, ?_⟩
    · rw [show components.foldl foldPath [] = _ from foldl_foldPath ⟨.root, []⟩ rfl components]
      apply CleanPath.names_foldl_enter
      · intro part member
        cases member
      · exact noSlash
    · intro member
      exact isTilde (mem_of_mem_foldPath member)

/-- A request is normalised unless the code slips. -/
theorem normalises_iff (surroundings : Surroundings) (request : Request) :
    Normalises surroundings request ↔ ¬ Slips surroundings request := by
  rw [← answers_iff]
  constructor
  · intro normalises
    exact normalises.answers
  · intro answers
    refine ⟨answers, ?_⟩
    intro text converted
    obtain ⟨parts, isText, areNames, plain⟩ := exists_parts converted
    exact emulateAbsolutePath_again request.workingDirAbsolute rfl isText areNames plain

end

def ordinary : Surroundings := ⟨['/'], some ['/', 'h'], fun _ => false, fun _ => none⟩

/-- The path of something in a directory `~` below the root. -/
def belowTilde : Request where
  workingDir := ['/']
  homeDir := ['/', 'h']
  path := ['/', '~', '/', 'x']
  workingDirAbsolute := by decide
  workingDirPlain := by decide
  homeDirAbsolute := by decide
  homeDirPlain := by decide
  nonempty := by decide

/-- It is taken for the one of something below the root itself. -/
theorem belowTilde_converted :
    emulateAbsolutePath ordinary belowTilde.form = .ok ['/', 'x'] ∧
      ¬ Normalises ordinary belowTilde := by
  have converted : emulateAbsolutePath ordinary belowTilde.form = .ok ['/', 'x'] := by decide
  refine ⟨converted, ?_⟩
  intro normalises
  have failed := normalises.answers.1 (by decide)
  rw [converted] at failed
  exact absurd failed (Result.returnsError_ok _)

end Cuttlefish.Utils.AbsolutePath
