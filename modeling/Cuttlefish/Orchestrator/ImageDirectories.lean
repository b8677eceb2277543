import Cuttlefish.Foundation.Action
import Cuttlefish.Foundation.Run
import Mathlib.Logic.Function.Basic

/-! # Image directories

Directories of symbolic links to the files of other directories, which
`ImageDirectoriesManagerImpl` creates, updates and deletes. -/

namespace Cuttlefish.Orchestrator

abbrev Path := String

def join (dir name : String) : Path := dir ++ "/" ++ name

inductive StatOutcome
  | directory
  | file
  | notExist
  | failed
  deriving DecidableEq

/-- The file system outside of the image directories. `os.Stat` follows links. -/
structure Sources where
  stat : Path → StatOutcome
  readDir : Path → Option (List String)
  distinct : ∀ dir names, readDir dir = some names → names.Nodup

abbrev Links := String → Option Path

structure ImageDirectories where
  images : String → Option Links

/-! ## The manager -/

section Update

variable (sources : Sources)

def dirExists (dir : Path) : Result Bool :=
  match sources.stat dir with
  | .directory => .ok true
  | .file | .notExist => .ok false
  | .failed => .error (.err "failed to check existence of directory")

def fileExist (links : Links) (name : String) : Result Bool :=
  match links name with
  | none => .ok false
  | some target =>
      match sources.stat target with
      | .directory | .file => .ok true
      | .notExist => .ok false
      | .failed => .error (.err "failed to check existence of file")

def symlink (target : Path) (name : String) : Action Links Unit := fun links =>
  match links name with
  | none => (.ok (), Function.update links name (some target))
  | some _ => (.error (.err "failed to create symlink"), links)

def remove (name : String) : Action Links Unit :=
  Action.modify fun links => Function.update links name none

def removeIf (present : Bool) (name : String) : Action Links Unit :=
  if present then remove name else pure ()

def updateEntry (dir : Path) (name : String) : Action Links Unit := do
  let links ← Action.get
  let present ← Action.ofResult (fileExist sources links name)
  removeIf present name
  symlink (join dir name) name

def updateEntries (dir : Path) : List String → Action Links Unit
  | [] => pure ()
  | name :: names => do
      updateEntry sources dir name
      updateEntries dir names

def readDir (dir : Path) : Result (List String) :=
  match sources.readDir dir with
  | some names => .ok names
  | none => .error (.err "failed to read directory")

def notFound (found : Bool) (message : String) : Result Unit :=
  if found then .ok () else .error (.err message)

def updateImageDirectory (image : String) (dir : Path) (directories : ImageDirectories) :
    Result Unit × ImageDirectories :=
  match (do notFound (← dirExists sources dir) "directory not found") with
  | .error failure => (.error failure, directories)
  | .ok () =>
      match directories.images image with
      | none => (.error (.err "image directory not found"), directories)
      | some links =>
          match readDir sources dir with
          | .error failure => (.error failure, directories)
          | .ok names =>
              let (result, links) := updateEntries sources dir names links
              (result, { images := Function.update directories.images image (some links) })

end Update

/-! ## One call -/

variable {sources : Sources} {dir : Path} {links : Links} {name : String} {names : List String}

def NotDangling (sources : Sources) (links : Links) (name : String) : Prop :=
  ∀ target ∈ links name, sources.stat target = .directory ∨ sources.stat target = .file

def linkedTo (dir : Path) (names : List String) (links : Links) : Links := fun name =>
  if name ∈ names then some (join dir name) else links name

theorem fileExist_eq_ok (notDangling : NotDangling sources links name) :
    fileExist sources links name = .ok (links name).isSome := by
  rw [fileExist]
  cases isLink : links name with
  | none => rfl
  | some target => rcases notDangling target isLink with found | found <;> simp [found]

theorem updateEntry_of_notDangling (notDangling : NotDangling sources links name) :
    updateEntry sources dir name links =
      (.ok (), Function.update links name (some (join dir name))) := by
  apply Action.bind_eq_ok.mpr
  refine ⟨links, links, rfl, Action.bind_eq_ok.mpr ⟨(links name).isSome, links,
    Action.ofResult_eq_ok.mpr ⟨fileExist_eq_ok notDangling, rfl⟩, ?_⟩⟩
  cases isLink : links name with
  | none =>
      refine Action.bind_eq_ok.mpr ⟨(), links, rfl, ?_⟩
      rw [symlink, isLink]
  | some target =>
      refine Action.bind_eq_ok.mpr ⟨(), Function.update links name none, rfl, ?_⟩
      rw [symlink, Function.update_self]
      dsimp only
      rw [Function.update_idem]

theorem updateEntry_ne_ok (dangling : ¬ NotDangling sources links name) :
    (updateEntry sources dir name links).1 ≠ .ok () := by
  intro isOk
  apply dangling
  intro target isLink
  have ran : updateEntry sources dir name links =
      (.ok (), (updateEntry sources dir name links).2) := Prod.ext isOk rfl
  rcases Action.bind_eq_ok.mp ran with ⟨_, _, isGet, ran⟩
  rcases Action.get_eq_ok.mp isGet with ⟨rfl, rfl⟩
  rcases Action.bind_eq_ok.mp ran with ⟨present, _, isPresent, ran⟩
  rcases Action.ofResult_eq_ok.mp isPresent with ⟨isExisting, rfl⟩
  rw [fileExist, Option.mem_def.mp isLink] at isExisting
  cases found : sources.stat target with
  | directory => exact .inl rfl
  | file => exact .inr rfl
  | failed =>
      simp only [found] at isExisting
      cases isExisting
  | notExist =>
      simp only [found] at isExisting
      cases isExisting
      rcases Action.bind_eq_ok.mp ran with ⟨_, _, isRemoved, ran⟩
      rcases Action.pure_eq_ok.mp isRemoved with ⟨-, rfl⟩
      rw [symlink, Option.mem_def.mp isLink] at ran
      cases ran

theorem notDangling_update {other : String} (different : other ≠ name) (target : Option Path) :
    NotDangling sources (Function.update links name target) other ↔
      NotDangling sources links other := by
  rw [NotDangling, Function.update_of_ne different, NotDangling]

theorem linkedTo_cons : linkedTo dir names (Function.update links name (some (join dir name))) =
    linkedTo dir (name :: names) links := by
  funext other
  by_cases same : other = name
  · subst same
    simp [linkedTo]
  · simp [linkedTo, same]

theorem updateEntries_of_notDangling (distinct : names.Nodup)
    (notDangling : ∀ name ∈ names, NotDangling sources links name) :
    updateEntries sources dir names links = (.ok (), linkedTo dir names links) := by
  induction names generalizing links with
  | nil => rfl
  | cons name names induction =>
      rcases List.nodup_cons.mp distinct with ⟨notIn, distinct⟩
      rcases List.forall_mem_cons.mp notDangling with ⟨first, others⟩
      refine Action.bind_eq_ok.mpr ⟨(), _, updateEntry_of_notDangling first, ?_⟩
      rw [← linkedTo_cons]
      refine induction distinct fun other isOther => ?_
      have different : other ≠ name := fun same => notIn (same ▸ isOther)
      exact (notDangling_update different _).mpr (others other isOther)

theorem updateEntries_ne_ok (distinct : names.Nodup)
    (dangling : ¬ ∀ name ∈ names, NotDangling sources links name) :
    (updateEntries sources dir names links).1 ≠ .ok () := by
  induction names generalizing links with
  | nil => simp at dangling
  | cons name names induction =>
      rcases List.nodup_cons.mp distinct with ⟨notIn, distinct⟩
      intro isOk
      have ran : updateEntries sources dir (name :: names) links =
          (.ok (), (updateEntries sources dir (name :: names) links).2) := Prod.ext isOk rfl
      rcases Action.bind_eq_ok.mp ran with ⟨_, between, isFirst, isRest⟩
      by_cases first : NotDangling sources links name
      · rw [updateEntry_of_notDangling first] at isFirst
        cases isFirst
        refine induction distinct (fun others => dangling ?_) (congrArg Prod.fst isRest)
        rw [List.forall_mem_cons]
        refine ⟨first, fun other isOther => ?_⟩
        have different : other ≠ name := fun same => notIn (same ▸ isOther)
        exact (notDangling_update different _).mp (others other isOther)
      · exact updateEntry_ne_ok first (congrArg Prod.fst isFirst)

/-! ## Histories -/

structure UpdateReport where
  dir : Path
  names : List String
  before : Links
  result : Result Unit
  after : Links

structure ImageSession where
  sources : Sources
  directories : ImageDirectories
  lastUpdate : Option UpdateReport

inductive ImageEvent
  | external (sources : Sources)
  | create (image : String)
  | delete (image : String)
  | update (image : String) (dir : Path)

def report (session : ImageSession) (image : String) (dir : Path) : Option UpdateReport := do
  let names ← session.sources.readDir dir
  let before ← session.directories.images image
  if session.sources.stat dir = .directory then
    let (result, directories) :=
      updateImageDirectory session.sources image dir session.directories
    let after ← directories.images image
    return { dir, names, before, result, after }
  else none

def ImageSession.step (session : ImageSession) : ImageEvent → Option ImageSession
  | .external sources => some { session with sources, lastUpdate := none }
  | .create image =>
      some { session with
        directories := ⟨Function.update session.directories.images image (some fun _ => none)⟩
        lastUpdate := none }
  | .delete image =>
      some { session with
        directories := ⟨Function.update session.directories.images image none⟩
        lastUpdate := none }
  | .update image dir =>
      some { session with
        directories := (updateImageDirectory session.sources image dir session.directories).2
        lastUpdate := report session image dir }

/-- The call has succeeded, with links to all entries and other links unchanged. -/
def UpdateReport.Repeated (report : UpdateReport) : Prop :=
  report.result = .ok () ∧ report.after = linkedTo report.dir report.names report.before

def ImageSession.Repeatable (session : ImageSession) : Prop :=
  ∀ report ∈ session.lastUpdate, report.Repeated

def ImageSession.Replaceable (session : ImageSession) : ImageEvent → Prop
  | .external _ | .create _ | .delete _ => True
  | .update image dir =>
      session.sources.stat dir = .directory →
        ∀ links ∈ session.directories.images image, ∀ names ∈ session.sources.readDir dir,
          ∀ name ∈ names, NotDangling session.sources links name

theorem updateImageDirectory_eq {image : String} {directories : ImageDirectories}
    (isDirectory : sources.stat dir = .directory) (isRead : sources.readDir dir = some names)
    (isImage : directories.images image = some links) :
    updateImageDirectory sources image dir directories =
      ((updateEntries sources dir names links).1,
        ⟨Function.update directories.images image (updateEntries sources dir names links).2⟩) := by
  have found : (do notFound (← dirExists sources dir) "directory not found") = .ok () := by
    rw [dirExists, isDirectory]
    rfl
  rw [updateImageDirectory, found]
  simp only [isImage, readDir, isRead]

theorem report_eq {session : ImageSession} {image : String}
    (isDirectory : session.sources.stat dir = .directory)
    (isRead : session.sources.readDir dir = some names)
    (isImage : session.directories.images image = some links) :
    report session image dir = some ⟨dir, names, links,
      (updateEntries session.sources dir names links).1,
      (updateEntries session.sources dir names links).2⟩ := by
  rw [report]
  simp [isDirectory, isRead, isImage, updateImageDirectory_eq isDirectory isRead isImage]

theorem exists_of_mem_report {session : ImageSession} {image : String} {made : UpdateReport}
    (isReport : made ∈ report session image dir) :
    session.sources.stat dir = .directory ∧
      ∃ names ∈ session.sources.readDir dir, ∃ links ∈ session.directories.images image,
        made = ⟨dir, names, links, (updateEntries session.sources dir names links).1,
          (updateEntries session.sources dir names links).2⟩ := by
  by_cases isDirectory : session.sources.stat dir = .directory
  · cases isRead : session.sources.readDir dir with
    | none => simp [report, isRead] at isReport
    | some names =>
        cases isImage : session.directories.images image with
        | none => simp [report, isRead, isImage] at isReport
        | some links =>
            rw [report_eq isDirectory isRead isImage] at isReport
            exact ⟨isDirectory, names, rfl, links, rfl, (Option.some.inj isReport).symm⟩
  · cases isRead : session.sources.readDir dir <;>
      cases isImage : session.directories.images image <;>
      simp [report, isRead, isImage, isDirectory] at isReport

theorem repeated_iff (distinct : names.Nodup) (before : Links) :
    (⟨dir, names, before, (updateEntries sources dir names before).1,
        (updateEntries sources dir names before).2⟩ : UpdateReport).Repeated ↔
      ∀ name ∈ names, NotDangling sources before name := by
  constructor
  · intro repeated
    by_contra dangling
    exact updateEntries_ne_ok distinct dangling repeated.1
  · intro notDangling
    rw [UpdateReport.Repeated, updateEntries_of_notDangling distinct notDangling]
    exact ⟨rfl, rfl⟩

theorem ImageSession.repeatable_step {session next : ImageSession} {event : ImageEvent}
    (stepped : session.step event = some next) : next.Repeatable ↔ session.Replaceable event := by
  cases event with
  | external sources =>
      cases stepped
      simp [Repeatable, Replaceable]
  | create image =>
      cases stepped
      simp [Repeatable, Replaceable]
  | delete image =>
      cases stepped
      simp [Repeatable, Replaceable]
  | update image dir =>
      cases stepped
      constructor
      · intro repeatable isDirectory links isImage names isRead
        have distinct := session.sources.distinct dir names isRead
        exact (repeated_iff distinct links).mp
          (repeatable _ (report_eq isDirectory isRead isImage))
      · intro replaceable made isReport
        rcases exists_of_mem_report isReport with ⟨isDirectory, names, isRead, links, isImage, rfl⟩
        have distinct := session.sources.distinct dir names isRead
        exact (repeated_iff distinct links).mpr (replaceable isDirectory links isImage names isRead)

/-- Updates are repeatable in exactly the histories that replace no dangling link. -/
theorem updates_repeatable_iff (sources : Sources) (directories : ImageDirectories)
    (events : List ImageEvent) :
    Run.Always ImageSession.step ImageSession.Repeatable ⟨sources, directories, none⟩ events ↔
      Run.Along ImageSession.step ImageSession.Replaceable ⟨sources, directories, none⟩ events := by
  have nothing : (⟨sources, directories, none⟩ : ImageSession).Repeatable := by
    intro made isReport
    cases isReport
  refine (Run.always_iff_along (fun _ _ _ _ _ _ _ => trivial) ?_ trivial).trans
    (and_iff_right nothing)
  exact fun _ _ _ _ _ stepped => ImageSession.repeatable_step stepped

namespace ImageDirectories

def sourcesWith (dir : Path) : Sources where
  stat path :=
    if path = dir then .directory else if path = join dir "super.img" then .file else .notExist
  readDir path := if path = dir then some ["super.img"] else none
  distinct path names isRead := by
    split at isRead
    · cases isRead
      decide
    · cases isRead

def replacedSource : List ImageEvent :=
  [.create "image", .update "image" "/old", .external (sourcesWith "/new"),
    .update "image" "/new"]

end ImageDirectories

open ImageDirectories in
/-- After the first source directory has been deleted its entry cannot be replaced. -/
theorem dangling_link_not_replaced :
    ¬ ∀ (sources : Sources) (directories : ImageDirectories) (events : List ImageEvent),
      Run.Always ImageSession.step ImageSession.Repeatable ⟨sources, directories, none⟩ events := by
  intro always
  have holds := always (sourcesWith "/old") ⟨fun _ => none⟩ replacedSource
  have failed : ((Run.run ImageSession.step ⟨sourcesWith "/old", ⟨fun _ => none⟩, none⟩
      replacedSource).bind (·.lastUpdate)).map (fun made => made.result.isOk) = some false := by
    decide +kernel
  rcases Option.map_eq_some_iff.mp failed with ⟨made, isMade, notOk⟩
  rcases Option.bind_eq_some_iff.mp isMade with ⟨final, isFinal, isLast⟩
  have repeated := holds.final isFinal made isLast
  rw [repeated.1] at notOk
  cases notOk

end Cuttlefish.Orchestrator
