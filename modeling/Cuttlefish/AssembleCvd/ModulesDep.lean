import Cuttlefish.AssembleCvd.RamdiskModules
import Cuttlefish.Foundation.SortedMap
import Cuttlefish.Foundation.Substrings
import Mathlib.Data.Char
import Mathlib.Data.List.Lex

/-! # `modules.dep` and `modules.load`

How `vendor_dlkm_utils.cc` reads and writes the lists of a ramdisk, and where that ends with an
exception. -/

namespace Cuttlefish.AssembleCvd.RamdiskModules

/-! ## The files -/

def ModuleDeps.ofMap (map : SortedMap Text (List Text)) : ModuleDeps := ⟨map.entries, map.sorted⟩

def ModuleDeps.toMap (deps : ModuleDeps) : SortedMap Text (List Text) := ⟨deps.entries, deps.sorted⟩

def writeDepsToFile (deps : ModuleDeps) : Text :=
  deps.entries.flatMap fun entry =>
    entry.1 ++ ':' :: (entry.2.flatMap fun dep => ' ' :: dep) ++ ['\n']

/-- `line.substr(0, line.find(":"))`. -/
def modName (line : Text) : Text := line.takeWhile (· ≠ ':')

def splitSkipEmpty (separator : Char) (text : Text) : List Text :=
  (text.splitOn separator).filter fun part => !part.isEmpty

def entryOf (line : Text) : Text × List Text :=
  (modName line, splitSkipEmpty ' ' (line.drop ((modName line).length + 1)))

def loadLine (line : Text) : Result (Text × List Text) :=
  if line.length < (modName line).length + 1 then .error (.abort "std::out_of_range")
  else .ok (entryOf line)

def loadLines (dependencyMap : SortedMap Text (List Text)) :
    List Text → Result (SortedMap Text (List Text))
  | [] => .ok dependencyMap
  | line :: rest => do
      let entry ← loadLine line
      loadLines (dependencyMap.emplace entry.1 entry.2) rest

def depLines (contents : Text) : List Text :=
  (Substrings.strip Decimal.isSpace contents).splitOn '\n'

def loadModuleDeps (contents : Text) : Result ModuleDeps := do
  let dependencyMap ← loadLines .empty (depLines contents)
  return .ofMap dependencyMap

def moduleSet (contents : Text) : SortedMap Text Unit :=
  .ofEntries ((splitSkipEmpty '\n' contents).map fun line => (line, ()))

/-- What is found in an unpacked ramdisk: the two lists, and of each path below them whether it is
a file and whether that is a signed module. -/
structure RamdiskFiles where
  modulesLoad : Text
  modulesDep : Text
  fileExists : Text → Bool
  isKernelModuleSigned : Text → Bool

def RamdiskFiles.moduleList (files : RamdiskFiles) : List Text :=
  (moduleSet files.modulesLoad).entries.map (·.1)

def splitRamdiskFiles (files : RamdiskFiles) : Result Split := do
  let deps ← loadModuleDeps files.modulesDep
  Ramdisk.splitRamdiskModules
    ⟨files.moduleList, deps, files.fileExists, files.isKernelModuleSigned⟩

/-! ## What the files say -/

def NoException {Value : Type} (result : Result Value) : Prop :=
  ∀ message, result ≠ .error (.abort message)

def dependencies (contents modulePath : Text) : Option (List Text) :=
  ((depLines contents).find? fun line => modName line = modulePath).map fun line =>
    (entryOf line).2

namespace RamdiskFiles

variable (files : RamdiskFiles)

def DependsOn (modulePath dep : Text) : Prop :=
  ∃ named, dependencies files.modulesDep modulePath = some named ∧ dep ∈ named

/-- A module of `modules.load` that the modules of the first stage do not need. -/
def Leaves (modulePath : Text) : Prop :=
  modulePath ∈ splitSkipEmpty '\n' files.modulesLoad ∧ files.fileExists modulePath ∧
    ¬ ∃ root ∈ splitSkipEmpty '\n' files.modulesLoad, basename root ∈ kRamdiskModules ∧
      Relation.ReflTransGen files.DependsOn root modulePath

def MovesToSystem (modulePath : Text) : Prop :=
  files.Leaves modulePath ∧ files.isKernelModuleSigned modulePath = true

def MovesToVendor (modulePath : Text) : Prop :=
  files.Leaves modulePath ∧ files.isKernelModuleSigned modulePath = false

/-- Every line of `modules.dep` has a colon, and a signed module that moves has a line, or in front
of it there is one that depends on a module of `vendor_dlkm`, which is reported first. -/
structure Readable : Prop where
  colons : ∀ line ∈ depLines files.modulesDep, ':' ∈ line
  listed : ∀ modulePath, files.MovesToSystem modulePath →
    dependencies files.modulesDep modulePath = none →
    ∃ earlier dep, files.MovesToSystem earlier ∧ earlier < modulePath ∧
      files.DependsOn earlier dep ∧ files.MovesToVendor dep

end RamdiskFiles

/-! ## Lines -/

theorem loadLine_cases (line : Text) :
    (':' ∈ line ∧ loadLine line = .ok (entryOf line)) ∨
    ':' ∉ line ∧ loadLine line = .error (.abort "std::out_of_range") := by
  have whole := @List.takeWhile_append_dropWhile _ (· ≠ ':') line
  rw [loadLine]
  by_cases colon : ':' ∈ line
  · left
    refine ⟨colon, if_neg ?_⟩
    have behind : line.dropWhile (· ≠ ':') ≠ [] := by
      intro none
      have notColon := List.dropWhile_eq_nil_iff.mp none ':' colon
      simp at notColon
    have positive := List.length_pos_iff.mpr behind
    have lengths := congrArg List.length whole
    rw [List.length_append] at lengths
    rw [modName]
    omega
  · right
    refine ⟨colon, if_pos ?_⟩
    have all : modName line = line := by
      apply List.takeWhile_eq_self_iff.mpr
      intro char member
      exact decide_eq_true fun same => colon (same ▸ member)
    rw [all]
    omega

theorem loadLines_cases (map : SortedMap Text (List Text)) (lines : List Text) :
    ((∀ line ∈ lines, ':' ∈ line) ∧ loadLines map lines =
      .ok ((lines.map entryOf).foldl (fun map entry => map.emplace entry.1 entry.2) map)) ∨
    (¬ ∀ line ∈ lines, ':' ∈ line) ∧
      loadLines map lines = .error (.abort "std::out_of_range") := by
  induction lines generalizing map with
  | nil => exact .inl ⟨fun line member => absurd member List.not_mem_nil, rfl⟩
  | cons line rest induction =>
      rw [loadLines, List.forall_mem_cons]
      rcases loadLine_cases line with ⟨colon, loaded⟩ | ⟨noColon, thrown⟩
      · rw [loaded]
        rcases induction (map.emplace (entryOf line).1 (entryOf line).2) with
          ⟨all, loadedRest⟩ | ⟨notAll, thrownRest⟩
        · exact .inl ⟨⟨colon, all⟩, loadedRest⟩
        · exact .inr ⟨fun both => notAll both.2, thrownRest⟩
      · rw [thrown]
        exact .inr ⟨fun both => noColon both.1, rfl⟩

theorem loadModuleDeps_cases (contents : Text) :
    ((∀ line ∈ depLines contents, ':' ∈ line) ∧ loadModuleDeps contents =
      .ok (.ofMap (.ofEntries ((depLines contents).map entryOf)))) ∨
    (¬ ∀ line ∈ depLines contents, ':' ∈ line) ∧
      loadModuleDeps contents = .error (.abort "std::out_of_range") := by
  rw [loadModuleDeps]
  rcases loadLines_cases .empty (depLines contents) with ⟨all, loaded⟩ | ⟨notAll, thrown⟩
  · rw [loaded]
    exact .inl ⟨all, rfl⟩
  · rw [thrown]
    exact .inr ⟨notAll, rfl⟩

theorem ModuleDeps.find_ofMap (map : SortedMap Text (List Text)) (modulePath : Text) :
    (ModuleDeps.ofMap map).find modulePath = map.find modulePath := by
  apply Option.ext
  intro named
  rw [ModuleDeps.find_eq_some, SortedMap.find_eq_some]
  rfl

theorem find_loaded (contents modulePath : Text) :
    (ModuleDeps.ofMap (.ofEntries ((depLines contents).map entryOf))).find modulePath =
      dependencies contents modulePath := by
  rw [ModuleDeps.find_ofMap, SortedMap.find_ofEntries, List.find?_map, Option.map_map,
    dependencies]
  -- equality of texts is decided by two instances
  congr 2
  funext line
  exact decide_eq_decide.mpr Iff.rfl

/-! ## The check of the dependencies -/

theorem NoException.of_err {Value : Type} (message : String) :
    NoException (.error (.err message) : Result Value) := by
  intro other same
  cases same

theorem noException_checkGKIModules (deps : ModuleDeps) (vendorDlkmModules gkiModules : List Text) :
    NoException (checkGKIModules deps vendorDlkmModules gkiModules) ↔
      ∀ before gkiModule after, gkiModules = before ++ gkiModule :: after →
        deps.find gkiModule = none →
        ∃ earlier ∈ before, ∃ dep ∈ deps.children earlier, dep ∈ vendorDlkmModules := by
  induction gkiModules with
  | nil =>
      constructor
      · intro _ before gkiModule after split
        simp at split
      · intro _ message same
        cases same
  | cons first rest induction =>
      rw [checkGKIModules]
      cases found : deps.find first with
      | none =>
          constructor
          · intro noException
            exact absurd rfl (noException "map::at")
          · intro all
            obtain ⟨earlier, isEarlier, _⟩ := all [] first rest rfl found
            cases isEarlier
      | some children =>
          dsimp only
          cases isFound : children.find? (· ∈ vendorDlkmModules) with
          | some dep =>
              refine ⟨fun _ => ?_, fun _ => .of_err _⟩
              intro before gkiModule after split missing
              have isVendor : dep ∈ vendorDlkmModules := by simpa using List.find?_some isFound
              have isDep : dep ∈ deps.children first := by
                rw [deps.children_of_find found]
                exact List.mem_of_find?_eq_some isFound
              cases before with
              | nil =>
                  rw [List.nil_append] at split
                  rw [(List.cons.inj split).1, missing] at found
                  cases found
              | cons head before =>
                  rw [List.cons_append] at split
                  rw [← (List.cons.inj split).1]
                  exact ⟨first, List.mem_cons_self, dep, isDep, isVendor⟩
          | none =>
              dsimp only
              rw [induction]
              have none : ¬ ∃ dep ∈ deps.children first, dep ∈ vendorDlkmModules := by
                rw [deps.children_of_find found]
                simpa using isFound
              constructor
              · intro all before gkiModule after split missing
                cases before with
                | nil =>
                    rw [List.nil_append] at split
                    rw [(List.cons.inj split).1, missing] at found
                    cases found
                | cons head before =>
                    rw [List.cons_append] at split
                    obtain ⟨earlier, isEarlier, isDep⟩ :=
                      all before gkiModule after (List.cons.inj split).2 missing
                    exact ⟨earlier, List.mem_cons_of_mem _ isEarlier, isDep⟩
              · intro all before gkiModule after split missing
                obtain ⟨earlier, isEarlier, isDep⟩ :=
                  all (first :: before) gkiModule after (by rw [split]; rfl) missing
                rcases List.mem_cons.mp isEarlier with isFirst | inBefore
                · rw [isFirst] at isDep
                  exact absurd isDep none
                · exact ⟨earlier, inBefore, isDep⟩

theorem noException_bind {First Value : Type} {first : Result First} {next : First → Result Value}
    (continues : ∀ value, NoException (next value)) :
    NoException (first >>= next) ↔ NoException first := by
  cases first with
  | error failure =>
      constructor
      · intro noException message same
        exact noException message (by rw [Except.error.inj same]; rfl)
      · intro noException message same
        exact noException message (by rw [Except.error.inj same])
  | ok value =>
      constructor
      · intro _ message same
        cases same
      · intro _
        exact continues value

/-! ## The modules that move -/

theorem mem_moduleList (files : RamdiskFiles) (modulePath : Text) :
    modulePath ∈ files.moduleList ↔ modulePath ∈ splitSkipEmpty '\n' files.modulesLoad := by
  have isKey : modulePath ∈ files.moduleList ↔
      ((moduleSet files.modulesLoad).find modulePath).isSome := by
    rw [RamdiskFiles.moduleList, List.mem_map, Option.isSome_iff_exists]
    constructor
    · rintro ⟨entry, member, isPath⟩
      rw [← isPath]
      exact ⟨entry.2, SortedMap.find_eq_some.mpr member⟩
    · rintro ⟨value, found⟩
      exact ⟨(modulePath, value), SortedMap.find_eq_some.mp found, rfl⟩
  rw [isKey, moduleSet, SortedMap.find_ofEntries, Option.isSome_map, List.find?_isSome]
  simp

section

variable (files : RamdiskFiles)

def RamdiskFiles.ramdisk : Ramdisk :=
  ⟨files.moduleList, .ofMap (.ofEntries ((depLines files.modulesDep).map entryOf)),
    files.fileExists, files.isKernelModuleSigned⟩

variable {files}

theorem mem_children {modulePath dep : Text} :
    dep ∈ files.ramdisk.deps.children modulePath ↔ files.DependsOn modulePath dep := by
  have found := find_loaded files.modulesDep modulePath
  rw [ModuleDeps.children, RamdiskFiles.ramdisk, found, RamdiskFiles.DependsOn]
  cases dependencies files.modulesDep modulePath with
  | none => simp
  | some named => simp

theorem mem_moved {modulePath : Text} :
    modulePath ∈ files.ramdisk.movedModules ↔ files.Leaves modulePath := by
  have reached : modulePath ∈ files.ramdisk.ramdiskModules ↔
      ∃ root ∈ splitSkipEmpty '\n' files.modulesLoad, basename root ∈ kRamdiskModules ∧
        Relation.ReflTransGen files.DependsOn root modulePath := by
    rw [Ramdisk.ramdiskModules, mem_computeTransitiveClosure]
    simp only [mem_children]
    constructor
    · rintro ⟨root, isRoot, path⟩
      rw [getRamdiskModules, List.mem_filter] at isRoot
      exact ⟨root, (mem_moduleList files root).mp isRoot.1, of_decide_eq_true isRoot.2, path⟩
    · rintro ⟨root, isListed, isRamdisk, path⟩
      refine ⟨root, ?_, path⟩
      rw [getRamdiskModules, List.mem_filter]
      exact ⟨(mem_moduleList files root).mpr isListed, decide_eq_true isRamdisk⟩
  have listed : modulePath ∈ files.ramdisk.moduleList ↔
      modulePath ∈ splitSkipEmpty '\n' files.modulesLoad := mem_moduleList files modulePath
  have exists_ : files.ramdisk.fileExists modulePath = files.fileExists modulePath := rfl
  rw [mem_movedModules, RamdiskFiles.Leaves, reached, listed, exists_]
  exact and_congr_right fun _ => and_comm

theorem mem_system {modulePath : Text} :
    modulePath ∈ files.ramdisk.systemDlkmModules ↔ files.MovesToSystem modulePath := by
  rw [mem_systemDlkmModules, mem_moved]
  rfl

theorem mem_vendor {modulePath : Text} :
    modulePath ∈ files.ramdisk.vendorDlkmModules ↔ files.MovesToVendor modulePath := by
  rw [mem_vendorDlkmModules, mem_moved]
  rfl

theorem pairwise_system :
    files.ramdisk.systemDlkmModules.Pairwise fun modulePath next => modulePath < next := by
  apply List.Pairwise.filter
  apply List.Pairwise.filter
  exact List.pairwise_map.mpr (moduleSet files.modulesLoad).sorted

theorem noException_check :
    NoException (checkGKIModules files.ramdisk.deps files.ramdisk.vendorDlkmModules
        files.ramdisk.systemDlkmModules) ↔
      ∀ modulePath, files.MovesToSystem modulePath →
        dependencies files.modulesDep modulePath = none →
        ∃ earlier dep, files.MovesToSystem earlier ∧ earlier < modulePath ∧
          files.DependsOn earlier dep ∧ files.MovesToVendor dep := by
  have sorted := @pairwise_system files
  rw [noException_checkGKIModules]
  constructor
  · intro all modulePath moves missing
    obtain ⟨before, after, split⟩ := List.append_of_mem (mem_system.mpr moves)
    have noEntry : files.ramdisk.deps.find modulePath = none :=
      (find_loaded files.modulesDep modulePath).trans missing
    obtain ⟨earlier, isEarlier, dep, isDep, isVendor⟩ := all before modulePath after split noEntry
    rw [split, List.pairwise_append] at sorted
    have isSystem : earlier ∈ files.ramdisk.systemDlkmModules := by
      rw [split]
      exact List.mem_append_left _ isEarlier
    exact ⟨earlier, dep, mem_system.mp isSystem,
      sorted.2.2 earlier isEarlier modulePath List.mem_cons_self, mem_children.mp isDep,
      mem_vendor.mp isVendor⟩
  · intro all before modulePath after split noEntry
    have isSystem : modulePath ∈ files.ramdisk.systemDlkmModules := by
      rw [split]
      exact List.mem_append_right _ List.mem_cons_self
    have missing := (find_loaded files.modulesDep modulePath).symm.trans noEntry
    obtain ⟨earlier, dep, moves, less, isDep, isVendor⟩ :=
      all modulePath (mem_system.mp isSystem) missing
    refine ⟨earlier, ?_, dep, mem_children.mpr isDep, mem_vendor.mpr isVendor⟩
    have earlierSystem := mem_system.mpr moves
    rw [split, List.pairwise_append, List.pairwise_cons] at sorted
    rw [split] at earlierSystem
    rcases List.mem_append.mp earlierSystem with isBefore | isLater
    · exact isBefore
    · rcases List.mem_cons.mp isLater with same | isAfter
      · rw [same] at less
        exact absurd less (List.lt_irrefl _)
      · exact absurd (List.lt_trans less (sorted.2.1.1 earlier isAfter)) (List.lt_irrefl _)

theorem noException_splitRamdiskFiles :
    NoException (splitRamdiskFiles files) ↔ files.Readable := by
  rw [splitRamdiskFiles]
  rcases loadModuleDeps_cases files.modulesDep with ⟨all, loaded⟩ | ⟨notAll, thrown⟩
  · rw [loaded]
    change NoException (Ramdisk.splitRamdiskModules files.ramdisk) ↔ _
    rw [Ramdisk.splitRamdiskModules, noException_bind, noException_check]
    · exact ⟨fun listed => ⟨all, listed⟩, fun readable => readable.listed⟩
    · intro _ message same
      cases same
  · rw [thrown]
    constructor
    · intro noException
      exact absurd rfl (noException "std::out_of_range")
    · intro readable
      exact absurd readable.colons notAll

end

/-! ## Writing and reading back -/

def Plain (name : Text) : Prop := ∀ char ∈ name, char ≠ ':' ∧ Decimal.isSpace char = false

/-- A dependency map whose names have neither colons nor white space. -/
structure PlainDeps extends ModuleDeps where
  plain : ∀ entry ∈ entries, Plain entry.1 ∧ ∀ dep ∈ entry.2, Plain dep

def lineOf (entry : Text × List Text) : Text :=
  entry.1 ++ ':' :: entry.2.flatMap fun dep => ' ' :: dep

def readBack (deps : ModuleDeps) : ModuleDeps where
  entries := deps.entries.map fun entry => (entry.1, entry.2.filter fun dep => !dep.isEmpty)
  sorted := List.pairwise_map.mpr deps.sorted

theorem Plain.notMem_colon {name : Text} (plain : Plain name) : ':' ∉ name :=
  fun member => (plain ':' member).1 rfl

theorem Plain.notMem_of_isSpace {name : Text} (plain : Plain name) {char : Char}
    (blank : Decimal.isSpace char = true) : char ∉ name := by
  intro member
  rw [(plain char member).2] at blank
  cases blank

theorem splitSkipEmpty_append (separator : Char) (before after : Text) :
    splitSkipEmpty separator (before ++ separator :: after) =
      splitSkipEmpty separator before ++ splitSkipEmpty separator after := by
  rw [splitSkipEmpty, List.splitOn_append_cons_self, List.filter_append]
  rfl

theorem splitSkipEmpty_append_separators {separator : Char} {separators : Text}
    (all : ∀ char ∈ separators, char = separator) (text : Text) :
    splitSkipEmpty separator (text ++ separators) = splitSkipEmpty separator text := by
  induction separators generalizing text with
  | nil => rw [List.append_nil]
  | cons first rest induction =>
      rw [List.forall_mem_cons] at all
      have none := induction all.2 []
      rw [List.nil_append] at none
      rw [all.1, splitSkipEmpty_append, none]
      simp [splitSkipEmpty]

theorem splitSkipEmpty_deps {deps : List Text} (plain : ∀ dep ∈ deps, Plain dep) :
    splitSkipEmpty ' ' (deps.flatMap fun dep => ' ' :: dep) =
      deps.filter fun dep => !dep.isEmpty := by
  have clean : ∀ dep ∈ deps, ' ' ∉ dep := fun dep member =>
    (plain dep member).notMem_of_isSpace (by decide)
  have splits := Substrings.splitOn_append_flatMap (List.not_mem_nil (a := ' ')) clean
  rw [List.nil_append] at splits
  rw [splitSkipEmpty, splits]
  rfl

theorem splitSkipEmpty_trimmed {deps : List Text} (plain : ∀ dep ∈ deps, Plain dep) :
    splitSkipEmpty ' ' ((deps.flatMap fun dep => ' ' :: dep).rdropWhile Decimal.isSpace) =
      deps.filter fun dep => !dep.isEmpty := by
  have blanks : ∀ char ∈ (deps.flatMap fun dep => ' ' :: dep).rtakeWhile Decimal.isSpace,
      char = ' ' := by
    intro char member
    have isBlank := List.mem_rtakeWhile_imp member
    obtain ⟨dep, isDep, inDep⟩ := List.mem_flatMap.mp (List.rtakeWhile_suffix _ _ |>.subset member)
    rcases List.mem_cons.mp inDep with isSpace | inName
    · exact isSpace
    · exact absurd inName ((plain dep isDep).notMem_of_isSpace isBlank)
  rw [← splitSkipEmpty_append_separators blanks, List.rdropWhile_append_rtakeWhile,
    splitSkipEmpty_deps plain]

theorem entryOf_line {name : Text} (plain : Plain name) (rest : Text) :
    entryOf (name ++ ':' :: rest) = (name, splitSkipEmpty ' ' rest) := by
  have isName : modName (name ++ ':' :: rest) = name :=
    Substrings.takeWhile_ne_append plain.notMem_colon rest
  rw [entryOf, isName, ← List.drop_drop, List.drop_left]
  rfl

theorem Plain.notMem_lineOf {entry : Text × List Text} (plain : Plain entry.1)
    (plainDeps : ∀ dep ∈ entry.2, Plain dep) : '\n' ∉ lineOf entry := by
  intro member
  rcases List.mem_append.mp member with inName | behind
  · exact plain.notMem_of_isSpace (by decide) inName
  · rcases List.mem_cons.mp behind with isColon | inDeps
    · exact absurd isColon (by decide)
    · obtain ⟨dep, isDep, inDep⟩ := List.mem_flatMap.mp inDeps
      rcases List.mem_cons.mp inDep with isSpace | inName
      · exact absurd isSpace (by decide)
      · exact (plainDeps dep isDep).notMem_of_isSpace (by decide) inName

theorem Plain.dropWhile_isSpace {name : Text} (plain : Plain name) (rest : Text) :
    (name ++ ':' :: rest).dropWhile Decimal.isSpace = name ++ ':' :: rest := by
  cases name with
  | nil => exact List.dropWhile_cons_of_neg (by decide)
  | cons first name =>
      have notBlank := (plain first List.mem_cons_self).2
      exact List.dropWhile_cons_of_neg (by simp [notBlank])

theorem depLines_writeDepsToFile (deps : PlainDeps) {front : List (Text × List Text)}
    {last : Text × List Text} (split : deps.entries = front ++ [last]) :
    depLines (writeDepsToFile deps.toModuleDeps) = front.map lineOf ++ [last.1 ++ ':' ::
      (last.2.flatMap fun dep => ' ' :: dep).rdropWhile Decimal.isSpace] := by
  have plain := deps.plain
  rw [split, List.forall_mem_append, List.forall_mem_singleton] at plain
  have written : writeDepsToFile deps.toModuleDeps =
      ((front.flatMap fun entry => lineOf entry ++ ['\n']) ++ last.1) ++
        ':' :: ((last.2.flatMap fun dep => ' ' :: dep) ++ ['\n']) := by
    rw [writeDepsToFile, split, List.flatMap_append, List.flatMap_singleton]
    simp [lineOf]
  have starts : (((front.flatMap fun entry => lineOf entry ++ ['\n']) ++ last.1) ++
      [':']).dropWhile Decimal.isSpace =
        ((front.flatMap fun entry => lineOf entry ++ ['\n']) ++ last.1) ++ [':'] := by
    cases front with
    | nil => exact plain.2.1.dropWhile_isSpace []
    | cons entry front =>
        rw [List.flatMap_cons, lineOf]
        simp only [List.append_assoc, List.cons_append]
        exact (plain.1 entry List.mem_cons_self).1.dropWhile_isSpace _
  have clean : ∀ entry ∈ front, '\n' ∉ lineOf entry := fun entry member =>
    (plain.1 entry member).1.notMem_lineOf (plain.1 entry member).2
  have cleanLast : '\n' ∉ last.1 ++ ':' ::
      (last.2.flatMap fun dep => ' ' :: dep).rdropWhile Decimal.isSpace := by
    intro member
    apply plain.2.1.notMem_lineOf plain.2.2
    rw [lineOf]
    rcases List.mem_append.mp member with inName | behind
    · exact List.mem_append_left _ inName
    · apply List.mem_append_right
      rcases List.mem_cons.mp behind with isColon | inDeps
      · exact isColon ▸ List.mem_cons_self
      · exact List.mem_cons_of_mem _ ((List.rdropWhile_prefix _ _).subset inDeps)
  rw [depLines, written, Substrings.strip_append_cons starts (by decide),
    List.rdropWhile_concat_pos _ _ _ (by decide), List.append_assoc,
    Substrings.splitOn_flatMap_append clean, List.splitOn_eq_singleton cleanLast]

theorem loadModuleDeps_writeDepsToFile (deps : PlainDeps) (nonempty : deps.entries ≠ []) :
    loadModuleDeps (writeDepsToFile deps.toModuleDeps) = .ok (readBack deps.toModuleDeps) := by
  obtain ⟨front, last, split⟩ := (List.eq_nil_or_concat' deps.entries).resolve_left nonempty
  have plain := deps.plain
  have lines := depLines_writeDepsToFile deps split
  rw [split, List.forall_mem_append, List.forall_mem_singleton] at plain
  have entries : (depLines (writeDepsToFile deps.toModuleDeps)).map entryOf =
      (readBack deps.toModuleDeps).toMap.entries := by
    change _ = deps.entries.map _
    rw [lines, split, List.map_append, List.map_append, List.map_map, List.map_singleton,
      List.map_singleton, entryOf_line plain.2.1, splitSkipEmpty_trimmed plain.2.2]
    congr 1
    apply List.map_congr_left
    intro entry member
    change entryOf (lineOf entry) = _
    rw [lineOf, entryOf_line (plain.1 entry member).1, splitSkipEmpty_deps (plain.1 entry member).2]
  have colons : ∀ line ∈ depLines (writeDepsToFile deps.toModuleDeps), ':' ∈ line := by
    intro line member
    rw [lines] at member
    rcases List.mem_append.mp member with inFront | isLast
    · obtain ⟨entry, _, isLine⟩ := List.mem_map.mp inFront
      rw [← isLine, lineOf]
      simp
    · rw [List.mem_singleton.mp isLast]
      simp
  rcases loadModuleDeps_cases (writeDepsToFile deps.toModuleDeps) with ⟨_, loaded⟩ | ⟨notAll, _⟩
  · rw [loaded, entries, SortedMap.ofEntries_entries]
    rfl
  · exact absurd colons notAll

theorem loadModuleDeps_nil :
    loadModuleDeps [] = .error (.abort "std::out_of_range") := rfl

theorem round_trip_iff (deps : PlainDeps) :
    loadModuleDeps (writeDepsToFile deps.toModuleDeps) = .ok deps.toModuleDeps ↔
      deps.entries ≠ [] ∧ ∀ entry ∈ deps.entries, [] ∉ entry.2 := by
  by_cases nonempty : deps.entries ≠ []
  · rw [loadModuleDeps_writeDepsToFile deps nonempty]
    constructor
    · intro same
      refine ⟨nonempty, ?_⟩
      intro entry member isDep
      have sameEntries := congrArg ModuleDeps.entries (Except.ok.inj same)
      have sameEntry := List.map_inj_left.mp (sameEntries.trans (List.map_id _).symm) entry member
      have sameDeps : (entry.2.filter fun dep => !dep.isEmpty) = entry.2 :=
        congrArg Prod.snd sameEntry
      rw [← sameDeps, List.mem_filter] at isDep
      cases isDep.2
    · intro named
      have sameEntries : (readBack deps.toModuleDeps).entries = deps.entries := by
        refine (List.map_congr_left ?_).trans (List.map_id deps.entries)
        intro entry member
        have kept : (entry.2.filter fun dep => !dep.isEmpty) = entry.2 := by
          apply List.filter_eq_self.mpr
          intro dep isDep
          have someName : dep ≠ [] := fun none => named.2 entry member (none ▸ isDep)
          simpa using someName
        rw [kept]
        rfl
      have same : readBack deps.toModuleDeps = deps.toModuleDeps := by
        rw [ModuleDeps.mk.injEq]
        exact sameEntries
      rw [same]
  · have empty : deps.entries = [] := Decidable.not_not.mp nonempty
    have written : writeDepsToFile deps.toModuleDeps = [] := by
      rw [writeDepsToFile, empty]
      rfl
    rw [written, loadModuleDeps_nil]
    constructor
    · intro same
      cases same
    · intro named
      exact absurd empty named.1

/-- When reading the files of a ramdisk raises no exception, and when a dependency map is read back
from the file that is written of it. -/
theorem files_faithful_iff (files : RamdiskFiles) (deps : PlainDeps) :
    (NoException (splitRamdiskFiles files) ↔ files.Readable) ∧
      (loadModuleDeps (writeDepsToFile deps.toModuleDeps) = .ok deps.toModuleDeps ↔
        deps.entries ≠ [] ∧ ∀ entry ∈ deps.entries, [] ∉ entry.2) :=
  ⟨noException_splitRamdiskFiles, round_trip_iff deps⟩

/-- A ramdisk without dependencies: its `modules.dep` is empty. -/
def withoutDeps : RamdiskFiles := ⟨[], [], fun _ => false, fun _ => false⟩

/-- A signed module `a` that `modules.dep` does not know. -/
def unknownModule : RamdiskFiles := ⟨['a', '\n'], ['b', ':', '\n'], fun _ => true, fun _ => true⟩

theorem files_throw :
    splitRamdiskFiles withoutDeps = .error (.abort "std::out_of_range") ∧
      splitRamdiskFiles unknownModule = .error (.abort "map::at") ∧
      ¬ NoException (splitRamdiskFiles withoutDeps) ∧
      ¬ NoException (splitRamdiskFiles unknownModule) := by
  have empty : splitRamdiskFiles withoutDeps = .error (.abort "std::out_of_range") := rfl
  have unknown : splitRamdiskFiles unknownModule = .error (.abort "map::at") := by rfl
  exact ⟨empty, unknown, fun noException => noException _ empty,
    fun noException => noException _ unknown⟩

end Cuttlefish.AssembleCvd.RamdiskModules
