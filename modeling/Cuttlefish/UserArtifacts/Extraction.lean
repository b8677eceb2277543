import Mathlib.Data.List.Infix
import Cuttlefish.Foundation.LexicalPath

/-! # Extracting user artifacts

`untar` and `unzip` of `userartifacts.go`: the paths they create or write to, for every
archive and everything the system may answer, and when these lie in the destination. -/

namespace Cuttlefish.UserArtifacts

open CleanPath

/-! ## Walking through an archive -/

section

variable {Entry Answer Effect : Type} (process : Entry → Answer → List Effect × Bool)

def walk : List (Entry × Answer) → List Effect
  | [] => []
  | (entry, answer) :: rest =>
      (process entry answer).1 ++ if (process entry answer).2 then walk rest else []

/-- `Keeps` is true of all entries before the first one that ends every walk. -/
def KeepsUntil (Ends Keeps : Entry → Prop) : List Entry → Prop
  | [] => True
  | entry :: rest => Ends entry ∨ Keeps entry ∧ KeepsUntil Ends Keeps rest

instance KeepsUntil.decidable (Ends Keeps : Entry → Prop) [DecidablePred Ends]
    [DecidablePred Keeps] : DecidablePred (KeepsUntil Ends Keeps)
  | [] => isTrue trivial
  | _ :: rest =>
      have : Decidable (KeepsUntil Ends Keeps rest) := KeepsUntil.decidable Ends Keeps rest
      inferInstanceAs (Decidable (_ ∨ _ ∧ _))

variable {process}

theorem walk_good_cons {Good : Effect → Prop} {Possible : Answer → Prop} {entry : Entry}
    {rest : List Entry}
    (goesOn : ∃ answer, Possible answer ∧ (process entry answer).2 = true)
    (good : ∀ steps, steps.map Prod.fst = entry :: rest → (∀ step ∈ steps, Possible step.2) →
      ∀ effect ∈ walk process steps, Good effect) :
    (∀ answer, Possible answer → ∀ effect ∈ (process entry answer).1, Good effect) ∧
      ∀ steps, steps.map Prod.fst = rest → (∀ step ∈ steps, Possible step.2) →
        ∀ effect ∈ walk process steps, Good effect := by
  rcases goesOn with ⟨permitting, permitted, continues⟩
  have goodSteps : ∀ answer steps, Possible answer → steps.map Prod.fst = rest →
      (∀ step ∈ steps, Possible step.2) →
      ∀ effect ∈ walk process ((entry, answer) :: steps), Good effect := by
    intro answer steps possible isRest others
    refine good _ (by rw [List.map_cons, isRest]) ?_
    intro step member
    rcases List.mem_cons.mp member with rfl | later
    · exact possible
    · exact others step later
  constructor
  · intro answer possible effect member
    have answered : (rest.map fun entry => (entry, permitting)).map Prod.fst = rest := by
      rw [List.map_map]
      exact List.map_id rest
    refine goodSteps answer _ possible answered ?_ effect (List.mem_append_left _ member)
    intro step inRest
    rcases List.mem_map.mp inRest with ⟨entry, -, rfl⟩
    exact permitted
  · intro steps isRest others effect member
    refine goodSteps permitting steps permitted isRest others effect ?_
    rw [walk, continues]
    exact List.mem_append_right _ member

theorem good_walk_cons {Good : Effect → Prop} {Possible : Answer → Prop} {entry : Entry}
    {rest : List Entry}
    (good : (∀ answer, Possible answer → ∀ effect ∈ (process entry answer).1, Good effect) ∧
      ∀ steps, steps.map Prod.fst = rest → (∀ step ∈ steps, Possible step.2) →
        ∀ effect ∈ walk process steps, Good effect)
    (steps : List (Entry × Answer)) (isCons : steps.map Prod.fst = entry :: rest)
    (possible : ∀ step ∈ steps, Possible step.2) : ∀ effect ∈ walk process steps, Good effect := by
  rcases List.map_eq_cons_iff.mp isCons with ⟨⟨first, answer⟩, later, rfl, rfl, isRest⟩
  intro effect member
  rcases List.mem_append.mp member with now | afterwards
  · exact good.1 answer (possible _ List.mem_cons_self) effect now
  · split at afterwards
    · exact good.2 later isRest (fun step inLater => possible step (List.mem_cons_of_mem _ inLater))
        effect afterwards
    · exact absurd afterwards List.not_mem_nil

theorem walk_good_iff {Good : Effect → Prop} {Possible : Answer → Prop} {Ends Keeps : Entry → Prop}
    (ends : ∀ entry answer, Ends entry → Possible answer → process entry answer = ([], false))
    (keeps : ∀ entry, ¬ Ends entry → (Keeps entry ↔ ∀ answer, Possible answer →
      ∀ effect ∈ (process entry answer).1, Good effect))
    (goesOn : ∀ entry, ¬ Ends entry → ∃ answer, Possible answer ∧ (process entry answer).2 = true)
    (entries : List Entry) :
    (∀ steps, steps.map Prod.fst = entries → (∀ step ∈ steps, Possible step.2) →
        ∀ effect ∈ walk process steps, Good effect) ↔
      KeepsUntil Ends Keeps entries := by
  induction entries with
  | nil =>
      refine iff_of_true ?_ trivial
      intro steps isNil _ effect member
      rw [List.map_eq_nil_iff.mp isNil] at member
      exact absurd member List.not_mem_nil
  | cons entry rest induction =>
      by_cases ended : Ends entry
      · refine iff_of_true ?_ (.inl ended)
        intro steps isCons possible effect member
        rcases List.map_eq_cons_iff.mp isCons with ⟨⟨first, answer⟩, later, rfl, rfl, -⟩
        have nothing := ends first answer ended (possible _ List.mem_cons_self)
        simp [walk, nothing] at member
      · have next : KeepsUntil Ends Keeps (entry :: rest) ↔
            Keeps entry ∧ KeepsUntil Ends Keeps rest := or_iff_right ended
        rw [next, keeps entry ended, ← induction]
        exact ⟨walk_good_cons (goesOn entry ended), good_walk_cons⟩

end

/-! ## The operations -/

inductive FileKind
  | directory
  | other
  deriving DecidableEq

inductive Effect
  | makesDir (path : CleanPath)
  | writesFile (path : CleanPath) (mode : Nat)
  | makesLink (path : CleanPath) (linkname : Text)
  deriving DecidableEq

def Effect.path : Effect → CleanPath
  | .makesDir path | .writesFile path _ | .makesLink path _ => path

structure Answer where
  readable : Bool
  stat : CleanPath → Option FileKind
  madeAll : Bool
  made : Nat
  opened : Bool
  copied : Bool
  linked : Bool

def missingDirs (answer : Answer) (target : CleanPath) : List CleanPath :=
  ((target.parts.inits.filter (· ≠ [])).map (CleanPath.mk target.start)).filter
    fun path => (answer.stat path).isNone

inductive Typeflag
  | dir
  | reg
  | symlink
  | other
  deriving DecidableEq

/-- The fields of `tar.Header` that `untar` reads. -/
structure TarHeader where
  name : Text
  typeflag : Typeflag
  mode : Nat
  linkname : Text
  deriving DecidableEq

/-- Something is created or opened for writing, which fails at a directory. -/
def create (effect : Effect) (created goesOn : Bool) (answer : Answer) : List Effect × Bool :=
  if answer.stat effect.path = some .directory ∨ created = false then ([], false)
  else ([effect], goesOn)

def writeFile (target : CleanPath) (mode : Nat) (answer : Answer) : List Effect × Bool :=
  create (.writesFile target mode) answer.opened answer.copied answer

def makeDir (target : CleanPath) (answer : Answer) : List Effect × Bool :=
  if (answer.stat target).isSome then ([], true)
  else
    let missing := (missingDirs answer target).map .makesDir
    (if answer.madeAll then missing else missing.take answer.made, answer.madeAll)

/-- One round of the loop in `untar`: what it does, and whether the loop goes on. -/
def untarEntry (dst : Text) (header : TarHeader) (answer : Answer) : List Effect × Bool :=
  if answer.readable = false then ([], false)
  else
    match header.typeflag with
    | .dir => makeDir (join dst header.name) answer
    | .reg => writeFile (join dst header.name) header.mode answer
    | .symlink => create (.makesLink (join dst header.name) header.linkname) answer.linked true answer
    | .other => ([], true)

def untar (dst : Text) : List (TarHeader × Answer) → List Effect := walk (untarEntry dst)

/-- The name of a `zip.File`, and whether its header has the mode of a directory. -/
structure ZipFile where
  name : Text
  modeDir : Bool
  deriving DecidableEq

/-- `f.Mode().IsDir()`: a name with a slash at its end is that of a directory too. -/
def ZipFile.isDir (file : ZipFile) : Bool := file.modeDir || file.name.getLast? == some '/'

def unzipFile (dstDir : Text) (file : ZipFile) (answer : Answer) : List Effect × Bool :=
  if file.isDir then ([], true)
  else if answer.readable = false then ([], false)
  else writeFile (join dstDir file.name) 0o755 answer

def unzip (dstDir : Text) : List (ZipFile × Answer) → List Effect := walk (unzipFile dstDir)

/-! ## Effects in the destination -/

/-- The destination and the directories it lies in exist. -/
def Possible (dst : Text) (answer : Answer) : Prop :=
  ∀ path, Encloses path (clean dst) → answer.stat path = some .directory

/-- Nothing else exists, and everything succeeds. -/
def permissive (dst : Text) : Answer where
  readable := true
  stat path := if Encloses path (clean dst) then some .directory else none
  madeAll := true
  made := 0
  opened := true
  copied := true
  linked := true

theorem possible_permissive (dst : Text) : Possible dst (permissive dst) := by
  intro path encloses
  exact if_pos encloses

theorem readable_permissive (dst : Text) : (permissive dst).readable ≠ false := nofun

theorem under_join_iff {dst : Text} (nonempty : dst ≠ []) (name : Text) :
    Under (clean dst) (join dst name) ↔ (Relative.clean name).StaysIn (clean dst) := by
  rw [join_eq_follow nonempty, under_follow_iff]

theorem encloses_join_iff {dst : Text} (nonempty : dst ≠ []) (name : Text) :
    Encloses (join dst name) (clean dst) ↔ (Relative.clean name).LeadsAbove (clean dst) := by
  rw [join_eq_follow nonempty, encloses_follow_iff]

theorem mem_missingDirs {answer : Answer} {target path : CleanPath} :
    path ∈ missingDirs answer target ↔ path.start = target.start ∧ path.parts <+: target.parts ∧
      path.parts ≠ [] ∧ answer.stat path = none := by
  simp only [missingDirs, List.mem_filter, List.mem_map, List.mem_inits, decide_eq_true_eq,
    Option.isNone_iff_eq_none]
  constructor
  · rintro ⟨⟨parts, ⟨initial, some⟩, rfl⟩, missing⟩
    exact ⟨rfl, initial, some, missing⟩
  · rintro ⟨sameStart, initial, some, missing⟩
    refine ⟨⟨path.parts, ⟨initial, some⟩, ?_⟩, missing⟩
    rw [← sameStart]

theorem under_of_mem_missingDirs {dst : Text} {answer : Answer} {target path : CleanPath}
    (possible : Possible dst answer) (inside : Under (clean dst) target)
    (member : path ∈ missingDirs answer target) : Under (clean dst) path := by
  rcases mem_missingDirs.mp member with ⟨sameStart, initial, -, missing⟩
  have start := sameStart.trans inside.1
  refine ⟨start, (List.prefix_or_prefix_of_prefix inside.2 initial).resolve_right ?_⟩
  intro above
  rw [possible path (.inl ⟨start, above⟩)] at missing
  exact nomatch missing

theorem parts_ne_nil_of_not_encloses {directory : CleanPath} {relative : Relative}
    (outside : ¬ Encloses (directory.follow relative) directory) :
    (directory.follow relative).parts ≠ [] := by
  intro none
  apply outside
  rw [Encloses, none, start_follow]
  cases directory.start with
  | root => exact .inl ⟨rfl, List.nil_prefix⟩
  | up count =>
      rcases Nat.eq_zero_or_pos (relative.ups - directory.parts.length) with same | above
      · exact .inl ⟨by rw [same, PathStart.raise, Nat.add_zero], List.nil_prefix⟩
      · exact .inr ⟨by simp [PathStart.raise, PathStart.isAbove, above], rfl⟩

theorem under_of_mem_create {dst : Text} (effect : Effect) (inside : Under (clean dst) effect.path)
    {made : Effect} {created goesOn : Bool} {answer : Answer}
    (member : made ∈ (create effect created goesOn answer).1) : Under (clean dst) made.path := by
  rw [create] at member
  split at member
  · exact absurd member List.not_mem_nil
  · rw [List.mem_singleton.mp member]
    exact inside

theorem create_of_encloses {dst : Text} {effect : Effect} {created goesOn : Bool} {answer : Answer}
    (possible : Possible dst answer) (encloses : Encloses effect.path (clean dst)) :
    create effect created goesOn answer = ([], false) :=
  if_pos (.inl (possible _ encloses))

theorem create_permissive {dst : Text} (effect : Effect)
    (outside : ¬ Encloses effect.path (clean dst)) :
    create effect true true (permissive dst) = ([effect], true) := by
  simp [create, permissive, outside]

theorem mem_create_permissive {dst : Text} (effect : Effect)
    (outside : ¬ Encloses effect.path (clean dst)) :
    effect ∈ (create effect true true (permissive dst)).1 := by
  rw [create_permissive effect outside]
  exact List.mem_singleton_self effect

theorem under_of_mem_makeDir {dst : Text} {target : CleanPath} {made : Effect} {answer : Answer}
    (possible : Possible dst answer)
    (known : Under (clean dst) target ∨ Encloses target (clean dst))
    (member : made ∈ (makeDir target answer).1) : Under (clean dst) made.path := by
  rw [makeDir] at member
  split at member
  · exact absurd member List.not_mem_nil
  · next isMissing =>
    have inside : Under (clean dst) target := known.resolve_right fun encloses => by
      rw [possible target encloses] at isMissing
      exact isMissing rfl
    have some : made ∈ (missingDirs answer target).map .makesDir := by
      dsimp only at member
      split at member
      · exact member
      · exact List.mem_of_mem_take member
    rcases List.mem_map.mp some with ⟨path, missing, rfl⟩
    exact under_of_mem_missingDirs possible inside missing

theorem makeDir_permissive {dst : Text} {target : CleanPath}
    (outside : ¬ Encloses target (clean dst)) (some : target.parts ≠ []) :
    .makesDir target ∈ (makeDir target (permissive dst)).1 := by
  have isMissing : (permissive dst).stat target = none := if_neg outside
  have missing : target ∈ missingDirs (permissive dst) target :=
    mem_missingDirs.mpr ⟨rfl, List.prefix_rfl, some, isMissing⟩
  rw [makeDir, isMissing]
  exact List.mem_map_of_mem missing

theorem snd_makeDir_permissive (dst : Text) (target : CleanPath) :
    (makeDir target (permissive dst)).2 = true := by
  rw [makeDir]
  split
  · rfl
  · rfl

/-! ### Tar -/

/-- An entry that cannot be created, since a directory above the destination is there. -/
def TarHeader.Ends (dst : Text) (header : TarHeader) : Prop :=
  (header.typeflag = .reg ∨ header.typeflag = .symlink) ∧
    (Relative.clean header.name).LeadsAbove (clean dst)

/-- The name of the entry stays in the destination. A directory above it is there already,
and entries of other types are skipped. -/
def TarHeader.Keeps (dst : Text) (header : TarHeader) : Prop :=
  header.typeflag = .other ∨ (Relative.clean header.name).StaysIn (clean dst) ∨
    header.typeflag = .dir ∧ (Relative.clean header.name).LeadsAbove (clean dst)

instance (dst : Text) : DecidablePred (TarHeader.Ends dst) :=
  fun _ => inferInstanceAs (Decidable (_ ∧ _))

instance (dst : Text) : DecidablePred (TarHeader.Keeps dst) :=
  fun _ => inferInstanceAs (Decidable (_ ∨ _ ∨ _))

theorem untarEntry_of_ends {dst : Text} (nonempty : dst ≠ []) (header : TarHeader)
    (answer : Answer) (ends : header.Ends dst) (possible : Possible dst answer) :
    untarEntry dst header answer = ([], false) := by
  rcases ends with ⟨isType, leads⟩
  have encloses := (encloses_join_iff nonempty header.name).mpr leads
  rw [untarEntry]
  split
  · rfl
  · rcases isType with isReg | isSymlink
    · rw [isReg]
      exact create_of_encloses possible encloses
    · rw [isSymlink]
      exact create_of_encloses possible encloses

theorem snd_untarEntry_permissive {dst : Text} (nonempty : dst ≠ []) {header : TarHeader}
    (goesOn : ¬ header.Ends dst) : (untarEntry dst header (permissive dst)).2 = true := by
  have outside : header.typeflag = .reg ∨ header.typeflag = .symlink →
      ¬ Encloses (join dst header.name) (clean dst) := by
    intro isType encloses
    exact goesOn ⟨isType, (encloses_join_iff nonempty header.name).mp encloses⟩
  rw [untarEntry, if_neg (readable_permissive dst)]
  cases isType : header.typeflag with
  | dir => exact snd_makeDir_permissive dst _
  | reg => exact congrArg Prod.snd (create_permissive (.writesFile _ _) (outside (.inl isType)))
  | symlink => exact congrArg Prod.snd (create_permissive (.makesLink _ _) (outside (.inr isType)))
  | other => rfl

theorem under_of_mem_untarEntry {dst : Text} (nonempty : dst ≠ []) {header : TarHeader}
    (keeps : header.Keeps dst) {answer : Answer}
    (possible : Possible dst answer) {made : Effect}
    (member : made ∈ (untarEntry dst header answer).1) : Under (clean dst) made.path := by
  rw [TarHeader.Keeps] at keeps
  rw [← under_join_iff nonempty, ← encloses_join_iff nonempty] at keeps
  rw [untarEntry] at member
  split at member
  · exact absurd member List.not_mem_nil
  · cases isType : header.typeflag with
    | dir =>
        simp only [isType, reduceCtorEq, true_and, false_or] at keeps member
        exact under_of_mem_makeDir possible keeps member
    | reg =>
        simp only [isType, reduceCtorEq, false_and, or_false, false_or] at keeps member
        exact under_of_mem_create (.writesFile _ _) keeps member
    | symlink =>
        simp only [isType, reduceCtorEq, false_and, or_false, false_or] at keeps member
        exact under_of_mem_create (.makesLink _ _) keeps member
    | other =>
        rw [isType] at member
        exact absurd member List.not_mem_nil

theorem keeps_of_untarEntry_permissive {dst : Text} (nonempty : dst ≠ []) {header : TarHeader}
    (goesOn : ¬ header.Ends dst)
    (good : ∀ made ∈ (untarEntry dst header (permissive dst)).1, Under (clean dst) made.path) :
    header.Keeps dst := by
  rw [untarEntry, if_neg (readable_permissive dst)] at good
  have outside : header.typeflag = .reg ∨ header.typeflag = .symlink →
      ¬ Encloses (join dst header.name) (clean dst) := by
    intro isType encloses
    exact goesOn ⟨isType, (encloses_join_iff nonempty header.name).mp encloses⟩
  rw [TarHeader.Keeps]
  rw [← under_join_iff nonempty, ← encloses_join_iff nonempty]
  cases isType : header.typeflag with
  | dir =>
      by_cases encloses : Encloses (join dst header.name) (clean dst)
      · exact .inr (.inr ⟨rfl, encloses⟩)
      · have some : (join dst header.name).parts ≠ [] := by
          rw [join_eq_follow nonempty] at encloses ⊢
          exact parts_ne_nil_of_not_encloses encloses
        rw [isType] at good
        exact .inr (.inl (good _ (makeDir_permissive encloses some)))
  | reg =>
      let written := Effect.writesFile (join dst header.name) header.mode
      rw [isType] at good
      exact .inr (.inl (good written (mem_create_permissive written (outside (.inl isType)))))
  | symlink =>
      let linked := Effect.makesLink (join dst header.name) header.linkname
      rw [isType] at good
      exact .inr (.inl (good linked (mem_create_permissive linked (outside (.inr isType)))))
  | other => exact .inl rfl

theorem untar_good_iff {dst : Text} (nonempty : dst ≠ []) (headers : List TarHeader) :
    (∀ steps, steps.map Prod.fst = headers → (∀ step ∈ steps, Possible dst step.2) →
        ∀ effect ∈ untar dst steps, Under (clean dst) effect.path) ↔
      KeepsUntil (TarHeader.Ends dst) (TarHeader.Keeps dst) headers := by
  apply walk_good_iff
  · exact untarEntry_of_ends nonempty
  · intro header goesOn
    constructor
    · intro keeps answer possible effect member
      exact under_of_mem_untarEntry nonempty keeps possible member
    · intro good
      exact keeps_of_untarEntry_permissive nonempty goesOn
        (good (permissive dst) (possible_permissive dst))
  · intro header goesOn
    exact ⟨permissive dst, possible_permissive dst, snd_untarEntry_permissive nonempty goesOn⟩

/-! ### Zip -/

def ZipFile.Ends (dstDir : Text) (file : ZipFile) : Prop :=
  file.isDir = false ∧ (Relative.clean file.name).LeadsAbove (clean dstDir)

/-- The name of the file stays in the destination; directories are skipped. -/
def ZipFile.Keeps (dstDir : Text) (file : ZipFile) : Prop :=
  file.isDir = true ∨ (Relative.clean file.name).StaysIn (clean dstDir)

instance (dstDir : Text) : DecidablePred (ZipFile.Ends dstDir) :=
  fun _ => inferInstanceAs (Decidable (_ ∧ _))

instance (dstDir : Text) : DecidablePred (ZipFile.Keeps dstDir) :=
  fun _ => inferInstanceAs (Decidable (_ ∨ _))

theorem unzipFile_of_ends {dstDir : Text} (nonempty : dstDir ≠ []) (file : ZipFile)
    (answer : Answer) (ends : file.Ends dstDir) (possible : Possible dstDir answer) :
    unzipFile dstDir file answer = ([], false) := by
  rcases ends with ⟨isFile, leads⟩
  rw [unzipFile, isFile, if_neg Bool.false_ne_true]
  split
  · rfl
  · exact create_of_encloses possible ((encloses_join_iff nonempty file.name).mpr leads)

theorem unzipFile_permissive {dstDir : Text} (nonempty : dstDir ≠ []) {file : ZipFile}
    (isFile : file.isDir = false) (goesOn : ¬ file.Ends dstDir) :
    unzipFile dstDir file (permissive dstDir) =
      ([.writesFile (join dstDir file.name) 0o755], true) := by
  have outside : ¬ Encloses (join dstDir file.name) (clean dstDir) := by
    intro encloses
    exact goesOn ⟨isFile, (encloses_join_iff nonempty file.name).mp encloses⟩
  rw [unzipFile, isFile, if_neg Bool.false_ne_true, if_neg (readable_permissive dstDir)]
  exact create_permissive (.writesFile _ _) outside

theorem unzip_good_iff {dstDir : Text} (nonempty : dstDir ≠ []) (files : List ZipFile) :
    (∀ steps, steps.map Prod.fst = files → (∀ step ∈ steps, Possible dstDir step.2) →
        ∀ effect ∈ unzip dstDir steps, Under (clean dstDir) effect.path) ↔
      KeepsUntil (ZipFile.Ends dstDir) (ZipFile.Keeps dstDir) files := by
  apply walk_good_iff
  · exact unzipFile_of_ends nonempty
  · intro file goesOn
    cases isDir : file.isDir with
    | true =>
        refine iff_of_true (.inl isDir) ?_
        intro answer _ effect member
        rw [unzipFile, isDir] at member
        exact absurd member List.not_mem_nil
    | false =>
        rw [ZipFile.Keeps, isDir, or_iff_right Bool.false_ne_true, ← under_join_iff nonempty]
        constructor
        · intro inside answer _ effect member
          rw [unzipFile, isDir, if_neg Bool.false_ne_true] at member
          split at member
          · exact absurd member List.not_mem_nil
          · exact under_of_mem_create (.writesFile _ _) inside member
        · intro good
          refine good (permissive dstDir) (possible_permissive dstDir) (.writesFile _ 0o755) ?_
          rw [unzipFile_permissive nonempty isDir goesOn]
          exact List.mem_singleton_self _
  · intro file goesOn
    refine ⟨permissive dstDir, possible_permissive dstDir, ?_⟩
    cases isDir : file.isDir with
    | true => rw [unzipFile, isDir, if_pos rfl]
    | false => rw [unzipFile_permissive nonempty isDir goesOn]

/-- What `untar` and `unzip` create or write to lies in the destination, whatever the
system answers, exactly if the entries they can reach have names that stay there: neither
of them checks the names. -/
theorem extraction_stays_in_destination (dst : Text) (nonempty : dst ≠ []) :
    (∀ headers, (∀ steps, steps.map Prod.fst = headers → (∀ step ∈ steps, Possible dst step.2) →
        ∀ effect ∈ untar dst steps, Under (clean dst) effect.path) ↔
      KeepsUntil (TarHeader.Ends dst) (TarHeader.Keeps dst) headers) ∧
    ∀ files, (∀ steps, steps.map Prod.fst = files → (∀ step ∈ steps, Possible dst step.2) →
        ∀ effect ∈ unzip dst steps, Under (clean dst) effect.path) ↔
      KeepsUntil (ZipFile.Ends dst) (ZipFile.Keeps dst) files :=
  ⟨untar_good_iff nonempty, unzip_good_iff nonempty⟩

def sampleDir : Text := "/tmp/x".toList

theorem extraction_stays_in_sample_dir :
    (∀ steps, steps.map Prod.fst = [⟨"./".toList, .dir, 0o755, []⟩,
          ⟨"../x/a".toList, .reg, 0o644, []⟩] →
        (∀ step ∈ steps, Possible sampleDir step.2) →
        ∀ effect ∈ untar sampleDir steps, Under (clean sampleDir) effect.path) ∧
      ¬ ∀ steps, steps.map Prod.fst = [⟨"../y".toList, false⟩] →
        (∀ step ∈ steps, Possible sampleDir step.2) →
        ∀ effect ∈ unzip sampleDir steps, Under (clean sampleDir) effect.path := by
  have stays := extraction_stays_in_destination sampleDir (by decide)
  exact ⟨(stays.1 _).mpr (by decide +kernel), mt (stays.2 _).mp (by decide +kernel)⟩

/-- Archives with one file `../y`, extracted where everything succeeds. -/
theorem extraction_leaves_destination :
    (∀ step ∈ [((⟨"../y".toList, .reg, 0o644, []⟩ : TarHeader), permissive sampleDir)],
        Possible sampleDir step.2) ∧
      untar sampleDir [(⟨"../y".toList, .reg, 0o644, []⟩, permissive sampleDir)] =
        [.writesFile (clean "/tmp/y".toList) 0o644] ∧
      unzip sampleDir [(⟨"../y".toList, false⟩, permissive sampleDir)] =
        [.writesFile (clean "/tmp/y".toList) 0o755] ∧
      ¬ Under (clean sampleDir) (clean "/tmp/y".toList) := by
  refine ⟨?_, by decide +kernel, by decide +kernel, by decide +kernel⟩
  intro step member
  rw [List.mem_singleton.mp member]
  exact possible_permissive sampleDir

end Cuttlefish.UserArtifacts
