import Cuttlefish.Config.CustomActions
import Cuttlefish.Foundation.Substrings
import Cuttlefish.Result

/-! # Downloads from content-addressed storage

`CasDownloader` of `web/cas/cas_downloader.cpp`: the command that each `DownloadFile` runs. -/

namespace Cuttlefish.Web.Cas

open Config

/-! ## The downloader -/

structure DeviceBuild where
  id : Text
  branch : Text
  target : Text

structure CasIdentifier where
  casInstance : Text
  casAddr : Text
  digest : Text
  filename : Text

/-- What a downloader is created with. -/
structure Configuration where
  downloaderPath : Text
  flags : List Text
  preferUncompressed : Bool

structure CasDownloader where
  downloaderPath : Text
  flags : List Text
  preferUncompressed : Bool
  buildDesc : Text
  casDigests : Json

def CasDownloader.create (configuration : Configuration) : CasDownloader where
  downloaderPath := configuration.downloaderPath
  flags := configuration.flags
  preferUncompressed := configuration.preferUncompressed
  buildDesc := []
  casDigests := .null

/-- The arguments of `DownloadFile`. What the fetcher does is given by the tree that is parsed out
of the file it fetches. -/
structure Request where
  build : DeviceBuild
  artifactName : Text
  targetDirectory : Text
  statsFilepath : Option Text
  digests : Result Json

def constructBuildDesc (build : DeviceBuild) : Text := build.id ++ ':' :: build.target

def membersOf (value : Json) : Result (List (Text × Json)) :=
  match value.members? with
  | none => .error (.abort "exception of the JSON library")
  | some members => .ok members

def mandatoryKeys : List Text := ["cas_instance", "cas_service", "files"].map String.toList

def checkKeys (casDigests : Json) : List Text → Result Unit
  | [] => .ok ()
  | key :: rest => do
      let members ← membersOf casDigests
      cfExpect (isMember members key) ("cas_digests.json corrupted, missing the '" ++
        String.ofList key ++ "' field")
      checkKeys casDigests rest

section

variable (jsoncpp : Jsoncpp)

def textOf (value : Json) : Result Text :=
  match asString jsoncpp value with
  | none => .error (.abort "exception of the JSON library")
  | some text => .ok text

def artifactPrefixes (preferUncompressed : Bool) : List Text :=
  if preferUncompressed then ["_chunked_dir_", "_chunked_", ""].map String.toList
  else ["_chunked_", ""].map String.toList

def findIdentifier (casDigests : Json) (artifactName : Text) : List Text → Result CasIdentifier
  | [] => .error (.err ("CAS digest for '" ++ String.ofList artifactName ++ "' not found."))
  | artifactPrefix :: rest => do
      let filename := artifactPrefix ++ artifactName
      let members ← membersOf casDigests
      let files ← membersOf (Json.member members "files".toList)
      match files.lookup filename with
      | none => findIdentifier casDigests artifactName rest
      | some value => do
          let digest ← textOf jsoncpp value
          let casInstance ← textOf jsoncpp (Json.member members "cas_instance".toList)
          let casAddr ← textOf jsoncpp (Json.member members "cas_service".toList)
          return { casInstance, casAddr, digest, filename }

def loadDigests (downloader : CasDownloader) (request : Request) : Result CasDownloader :=
  if constructBuildDesc request.build = downloader.buildDesc then .ok downloader
  else do
    let casDigests ← request.digests
    checkKeys casDigests mandatoryKeys
    return { downloader with buildDesc := constructBuildDesc request.build, casDigests }

def getCasIdentifier (downloader : CasDownloader) (request : Request) :
    Result CasIdentifier × CasDownloader :=
  match loadDigests downloader request with
  | .error failure => (.error failure, downloader)
  | .ok downloader =>
      (findIdentifier jsoncpp downloader.casDigests request.artifactName
        (artifactPrefixes downloader.preferUncompressed), downloader)

def buildInfo (build : DeviceBuild) : Text :=
  (if build.id.isEmpty then [] else ",bid=".toList ++ build.id) ++
    (if build.branch.isEmpty then [] else ",branch=".toList ++ build.branch) ++
    (if build.target.isEmpty then [] else ",flavor=".toList ++ build.target)

def isCallerOnly (flag : Text) : Bool :=
  "-invocation-id=caller=".toList.isPrefixOf flag && !flag.contains ','

def appendInfo (info : Text) : List Text → List Text
  | [] => []
  | flag :: rest =>
      if isCallerOnly flag then (flag ++ info) :: rest else flag :: appendInfo info rest

def appendBuildInfoToInvocationId (build : DeviceBuild) (flags : List Text) : List Text :=
  appendInfo (buildInfo build) flags

abbrev Command := List Text

def getCommand (downloaderPath : Text) (flags : List Text) (casIdentifier : CasIdentifier)
    (targetDirectory : Text) (statsFilepath : Option Text) : Command :=
  [downloaderPath, "-cas-instance=".toList ++ casIdentifier.casInstance,
    "-cas-addr=".toList ++ casIdentifier.casAddr, "-digest=".toList ++ casIdentifier.digest,
    "-dir=".toList ++ targetDirectory] ++
    (statsFilepath.toList.map fun path => "-dump-json=".toList ++ path) ++ flags

def downloadDirectory (request : Request) (filename : Text) : Text :=
  if "_chunked_dir_".toList.isPrefixOf filename then
    request.targetDirectory ++ '/' :: request.artifactName
  else request.targetDirectory

/-- `DownloadFile` up to the command that it runs. What becomes of the command does not change the
downloader. -/
def downloadFile (downloader : CasDownloader) (request : Request) :
    Result Command × CasDownloader :=
  match getCasIdentifier jsoncpp downloader request with
  | (.error failure, downloader) => (.error failure, downloader)
  | (.ok casIdentifier, downloader) =>
      let flags := appendBuildInfoToInvocationId request.build downloader.flags
      (.ok (getCommand downloader.downloaderPath flags casIdentifier
        (downloadDirectory request casIdentifier.filename) request.statsFilepath),
        { downloader with flags })

def downloadFiles : CasDownloader → List Request → List (Result Command)
  | _, [] => []
  | downloader, request :: rest =>
      let (command, downloader) := downloadFile jsoncpp downloader request
      command :: downloadFiles downloader rest

/-! ## Keeping no state -/

def identifierOf (configuration : Configuration) (request : Request) : Result CasIdentifier := do
  let casDigests ← request.digests
  checkKeys casDigests mandatoryKeys
  findIdentifier jsoncpp casDigests request.artifactName
    (artifactPrefixes configuration.preferUncompressed)

def isFound (configuration : Configuration) (request : Request) : Bool :=
  (identifierOf jsoncpp configuration request).isOk

end

/-- Calls for builds that keep their digests: a file that was fetched once is fetched again as it
was. -/
structure Session where
  requests : List Request
  plain : ∀ request ∈ requests, ':' ∉ request.build.id ∧ ':' ∉ request.build.target
  unchanged : requests.Pairwise fun request later =>
    request.build.id = later.build.id → request.build.target = later.build.target →
      ∀ casDigests, request.digests = .ok casDigests → later.digests = .ok casDigests

/-- Every call runs the command that it would run as the only one. -/
def KeepsNoState (jsoncpp : Jsoncpp) (configuration : Configuration) (session : Session) : Prop :=
  downloadFiles jsoncpp (.create configuration) session.requests =
    session.requests.map fun request =>
      (downloadFile jsoncpp (.create configuration) request).1

/-! ## The cache of digests -/

theorem constructBuildDesc_inj {first second : DeviceBuild} (plainFirst : ':' ∉ first.id)
    (plainSecond : ':' ∉ second.id)
    (same : constructBuildDesc first = constructBuildDesc second) :
    first.id = second.id ∧ first.target = second.target := by
  have sameId : first.id = second.id := by
    have takes := congrArg (List.takeWhile (· ≠ ':')) same
    rw [constructBuildDesc, constructBuildDesc, Substrings.takeWhile_ne_append plainFirst,
      Substrings.takeWhile_ne_append plainSecond] at takes
    exact takes
  rw [constructBuildDesc, constructBuildDesc, sameId] at same
  exact ⟨sameId, (List.cons.inj (List.append_cancel_left same)).2⟩

theorem constructBuildDesc_ne_nil (build : DeviceBuild) : constructBuildDesc build ≠ [] := by
  simp [constructBuildDesc]

/-- The digests that are kept are those of every later request for the build that they are kept
for. -/
def Serves (downloader : CasDownloader) (requests : List Request) : Prop :=
  ∀ request ∈ requests, constructBuildDesc request.build = downloader.buildDesc →
    request.digests = .ok downloader.casDigests ∧
      checkKeys downloader.casDigests mandatoryKeys = .ok ()

section

variable {jsoncpp : Jsoncpp} {configuration : Configuration} {downloader : CasDownloader}
  {request : Request} {rest : List Request}

theorem serves_create (requests : List Request) :
    Serves (.create configuration) requests := by
  intro request _ same
  exact absurd same (constructBuildDesc_ne_nil request.build)

theorem getCasIdentifier_eq
    (plain : ∀ other ∈ request :: rest, ':' ∉ other.build.id ∧ ':' ∉ other.build.target)
    (unchanged : ∀ later ∈ rest, request.build.id = later.build.id →
      request.build.target = later.build.target →
        ∀ casDigests, request.digests = .ok casDigests → later.digests = .ok casDigests)
    (prefers : downloader.preferUncompressed = configuration.preferUncompressed)
    (serves : Serves downloader (request :: rest)) :
    ∃ next, getCasIdentifier jsoncpp downloader request =
        (identifierOf jsoncpp configuration request, next) ∧
      next.downloaderPath = downloader.downloaderPath ∧ next.flags = downloader.flags ∧
      next.preferUncompressed = downloader.preferUncompressed ∧ Serves next rest := by
  have keeps : Serves downloader rest := fun other member =>
    serves other (List.mem_cons_of_mem _ member)
  rw [getCasIdentifier, loadDigests, identifierOf]
  by_cases same : constructBuildDesc request.build = downloader.buildDesc
  · obtain ⟨isKept, checked⟩ := serves request List.mem_cons_self same
    rw [if_pos same, isKept]
    refine ⟨downloader, ?_, rfl, rfl, rfl, keeps⟩
    simp [bind, Except.bind, checked, prefers]
  · rw [if_neg same]
    cases fetched : request.digests with
    | error failure => exact ⟨downloader, rfl, rfl, rfl, rfl, keeps⟩
    | ok casDigests =>
        cases checked : checkKeys casDigests mandatoryKeys with
        | error failure =>
            refine ⟨downloader, ?_, rfl, rfl, rfl, keeps⟩
            simp [bind, Except.bind, checked]
        | ok done =>
            refine ⟨{ downloader with buildDesc := constructBuildDesc request.build, casDigests },
              ?_, rfl, rfl, rfl, ?_⟩
            · simp [bind, Except.bind, pure, Except.pure, checked, prefers]
            · intro later member sameBuild
              have builds := constructBuildDesc_inj
                (plain later (List.mem_cons_of_mem _ member)).1
                (plain request List.mem_cons_self).1 sameBuild
              exact ⟨unchanged later member builds.1.symm builds.2.symm casDigests fetched,
                checked⟩

end

/-! ## The invocation id -/

theorem appendInfo_nil (flags : List Text) : appendInfo [] flags = flags := by
  induction flags with
  | nil => rfl
  | cons flag rest induction =>
      rw [appendInfo, List.append_nil, induction]
      split <;> rfl

theorem appendInfo_of_none {flags : List Text} (none : flags.countP isCallerOnly = 0)
    (info : Text) : appendInfo info flags = flags := by
  induction flags with
  | nil => rfl
  | cons flag rest induction =>
      rw [List.countP_eq_zero, List.forall_mem_cons] at none
      rw [appendInfo, if_neg none.1, induction (List.countP_eq_zero.mpr none.2)]

theorem appendInfo_eq_self_iff {info : Text} {flags : List Text} :
    appendInfo info flags = flags ↔ info = [] ∨ flags.countP isCallerOnly = 0 := by
  constructor
  · intro same
    induction flags with
    | nil => exact .inr rfl
    | cons flag rest induction =>
        rw [appendInfo] at same
        by_cases isSlot : isCallerOnly flag = true
        · rw [if_pos isSlot] at same
          exact .inl (List.append_right_eq_self.mp (List.cons.inj same).1)
        · rw [if_neg isSlot] at same
          rw [List.countP_cons_of_neg isSlot]
          exact induction (List.cons.inj same).2
  · intro parts
    rcases parts with empty | none
    · rw [empty, appendInfo_nil]
    · exact appendInfo_of_none none info

theorem isCallerOnly_append (flag : Text) {info : Text} (comma : ',' ∈ info) :
    isCallerOnly (flag ++ info) = false := by
  have hasComma : (flag ++ info).contains ',' = true := by
    rw [List.contains_iff_mem]
    exact List.mem_append_right _ comma
  rw [isCallerOnly, hasComma, Bool.not_true, Bool.and_false]

theorem countP_appendInfo {info : Text} (comma : ',' ∈ info) {flags : List Text} {count : Nat}
    (slots : flags.countP isCallerOnly = count + 1) :
    (appendInfo info flags).countP isCallerOnly = count := by
  induction flags with
  | nil => cases slots
  | cons flag rest induction =>
      rw [appendInfo]
      by_cases isSlot : isCallerOnly flag = true
      · rw [List.countP_cons_of_pos isSlot] at slots
        rw [if_pos isSlot, List.countP_cons_of_neg (by simp [isCallerOnly_append flag comma])]
        omega
      · rw [List.countP_cons_of_neg isSlot] at slots
        rw [if_neg isSlot, List.countP_cons_of_neg isSlot]
        exact induction slots

theorem appendInfo_appendInfo_iff {info : Text} (comma : ',' ∈ info) (other : Text)
    {flags : List Text} (slots : 0 < flags.countP isCallerOnly) :
    appendInfo other (appendInfo info flags) = appendInfo other flags ↔
      other = info ∧ flags.countP isCallerOnly = 1 := by
  induction flags with
  | nil => cases slots
  | cons flag rest induction =>
      by_cases isSlot : isCallerOnly flag = true
      · have full : ¬ isCallerOnly (flag ++ info) = true := by
          simp [isCallerOnly_append flag comma]
        rw [appendInfo.eq_2 info, if_pos isSlot, appendInfo, if_neg full, appendInfo,
          if_pos isSlot, List.cons.injEq, List.append_cancel_left_eq, appendInfo_eq_self_iff,
          List.countP_cons_of_pos isSlot]
        constructor
        · rintro ⟨same, empty | none⟩
          · rw [same, empty] at comma
            cases comma
          · exact ⟨same.symm, by omega⟩
        · rintro ⟨same, one⟩
          exact ⟨same.symm, .inr (by omega)⟩
      · rw [List.countP_cons_of_neg isSlot] at slots ⊢
        rw [appendInfo.eq_2 info, if_neg isSlot, appendInfo, if_neg isSlot, appendInfo,
          if_neg isSlot, List.cons.injEq, and_iff_right rfl]
        exact induction slots

theorem comma_mem_buildInfo {build : DeviceBuild} (some : buildInfo build ≠ []) :
    ',' ∈ buildInfo build := by
  have inName : ∀ name : Text, ',' ∈ ",bid=".toList ++ name ∧ ',' ∈ ",branch=".toList ++ name ∧
      ',' ∈ ",flavor=".toList ++ name := by
    intro name
    exact ⟨List.mem_append_left _ (by decide), List.mem_append_left _ (by decide),
      List.mem_append_left _ (by decide)⟩
  rw [buildInfo] at some ⊢
  by_cases id : build.id.isEmpty = true
  · by_cases branch : build.branch.isEmpty = true
    · by_cases target : build.target.isEmpty = true
      · rw [if_pos id, if_pos branch, if_pos target] at some
        exact absurd rfl some
      · rw [if_neg target]
        exact List.mem_append_right _ (inName _).2.2
    · rw [if_neg branch]
      exact List.mem_append_left _ (List.mem_append_right _ (inName _).2.1)
  · rw [if_neg id]
    exact List.mem_append_left _ (List.mem_append_left _ (inName _).1)

def Steps (initial : List Text) : (flags : List Text) → List Text → Prop
  | _, [] => True
  | flags, info :: rest =>
      appendInfo info flags = appendInfo info initial ∧ Steps initial (appendInfo info flags) rest

theorem steps_of_none {initial flags : List Text} (none : flags.countP isCallerOnly = 0)
    (infos : List Text) :
    Steps initial flags infos ↔ ∀ info ∈ infos, flags = appendInfo info initial := by
  induction infos with
  | nil => simp [Steps]
  | cons info rest induction =>
      rw [Steps, appendInfo_of_none none, induction, List.forall_mem_cons]

theorem steps_iff {initial infos : List Text} (commas : ∀ info ∈ infos, info ≠ [] → ',' ∈ info) :
    Steps initial initial infos ↔ initial.countP isCallerOnly = 0 ∨
      infos.Pairwise fun earlier later =>
        earlier ≠ [] → later = earlier ∧ initial.countP isCallerOnly = 1 := by
  by_cases none : initial.countP isCallerOnly = 0
  · rw [steps_of_none none]
    refine ⟨fun _ => .inl none, fun _ => ?_⟩
    intro info _
    exact (appendInfo_of_none none info).symm
  · rw [or_iff_right none]
    induction infos with
    | nil => simp [Steps]
    | cons info rest induction =>
        have restCommas : ∀ other ∈ rest, other ≠ [] → ',' ∈ other := fun other member =>
          commas other (List.mem_cons_of_mem _ member)
        rw [Steps, and_iff_right rfl, List.pairwise_cons]
        by_cases empty : info = []
        · rw [empty, appendInfo_nil, induction restCommas]
          simp
        · have comma := commas info List.mem_cons_self empty
          have place : 0 < initial.countP isCallerOnly := Nat.pos_of_ne_zero none
          constructor
          · intro steps
            cases rest with
            | nil => exact ⟨fun later member => absurd member List.not_mem_nil, .nil⟩
            | cons first others =>
                have isOne := ((appendInfo_appendInfo_iff comma first place).mp steps.1).2
                have full := countP_appendInfo comma isOne
                have all := (steps_of_none full (first :: others)).mp steps
                have same : ∀ later ∈ first :: others, later = info := by
                  intro later member
                  have twice : appendInfo later (appendInfo info initial) =
                      appendInfo later initial := by
                    rw [appendInfo_of_none full]
                    exact all later member
                  exact ((appendInfo_appendInfo_iff comma later place).mp twice).1
                refine ⟨fun later member _ => ⟨same later member, isOne⟩, ?_⟩
                apply List.pairwise_of_forall_mem_list
                intro earlier isEarlier later isLater _
                exact ⟨(same later isLater).trans (same earlier isEarlier).symm, isOne⟩
          · rintro ⟨all, _⟩
            cases rest with
            | nil => trivial
            | cons first others =>
                have isOne := (all first List.mem_cons_self empty).2
                have full := countP_appendInfo comma isOne
                apply (steps_of_none full (first :: others)).mpr
                intro later member
                rw [(all later member empty).1]

/-! ## Whole sequences -/

section

variable {jsoncpp : Jsoncpp} {configuration : Configuration}

def infosOf (jsoncpp : Jsoncpp) (configuration : Configuration) (requests : List Request) :
    List Text :=
  (requests.filter (isFound jsoncpp configuration)).map fun request => buildInfo request.build

theorem downloadFile_eq {downloader : CasDownloader} {request : Request} {rest : List Request}
    (plain : ∀ other ∈ request :: rest, ':' ∉ other.build.id ∧ ':' ∉ other.build.target)
    (unchanged : ∀ later ∈ rest, request.build.id = later.build.id →
      request.build.target = later.build.target →
        ∀ casDigests, request.digests = .ok casDigests → later.digests = .ok casDigests)
    (prefers : downloader.preferUncompressed = configuration.preferUncompressed)
    (serves : Serves downloader (request :: rest)) :
    ∃ next, next.downloaderPath = downloader.downloaderPath ∧
      next.preferUncompressed = downloader.preferUncompressed ∧ Serves next rest ∧
      ((∃ failure, identifierOf jsoncpp configuration request = .error failure ∧
          downloadFile jsoncpp downloader request = (.error failure, next) ∧
          next.flags = downloader.flags) ∨
        ∃ casIdentifier, identifierOf jsoncpp configuration request = .ok casIdentifier ∧
          downloadFile jsoncpp downloader request =
            (.ok (getCommand downloader.downloaderPath
              (appendInfo (buildInfo request.build) downloader.flags) casIdentifier
              (downloadDirectory request casIdentifier.filename) request.statsFilepath), next) ∧
          next.flags = appendInfo (buildInfo request.build) downloader.flags) := by
  obtain ⟨next, loaded, samePath, sameFlags, samePrefers, nextServes⟩ :=
    @getCasIdentifier_eq jsoncpp configuration downloader request rest plain unchanged prefers
      serves
  rw [downloadFile, loaded]
  cases found : identifierOf jsoncpp configuration request with
  | error failure =>
      exact ⟨next, samePath, samePrefers, nextServes, .inl ⟨failure, rfl, rfl, sameFlags⟩⟩
  | ok casIdentifier =>
      refine ⟨{ next with
        flags := appendBuildInfoToInvocationId request.build next.flags }, samePath, samePrefers,
        nextServes, .inr ⟨casIdentifier, rfl, ?_, ?_⟩⟩
      · rw [← samePath, ← sameFlags]
        rfl
      · rw [sameFlags]
        rfl

theorem downloadFile_create (request : Request)
    (plain : ':' ∉ request.build.id ∧ ':' ∉ request.build.target) :
    (∃ failure, identifierOf jsoncpp configuration request = .error failure ∧
        (downloadFile jsoncpp (.create configuration) request).1 = .error failure) ∨
      ∃ casIdentifier, identifierOf jsoncpp configuration request = .ok casIdentifier ∧
        (downloadFile jsoncpp (.create configuration) request).1 =
          .ok (getCommand configuration.downloaderPath
            (appendInfo (buildInfo request.build) configuration.flags) casIdentifier
            (downloadDirectory request casIdentifier.filename) request.statsFilepath) := by
  obtain ⟨next, _, _, _, ⟨failure, notFound, ran, _⟩ | ⟨casIdentifier, found, ran, _⟩⟩ :=
    @downloadFile_eq jsoncpp configuration (.create configuration) request []
      (List.forall_mem_singleton.mpr plain) (fun later member => absurd member List.not_mem_nil)
      rfl (serves_create [request])
  · exact .inl ⟨failure, notFound, by rw [ran]⟩
  · exact .inr ⟨casIdentifier, found, by rw [ran]; rfl⟩

theorem getCommand_inj {path directory : Text} {flags others : List Text}
    {casIdentifier : CasIdentifier} {stats : Option Text} :
    getCommand path flags casIdentifier directory stats =
      getCommand path others casIdentifier directory stats ↔ flags = others := by
  rw [getCommand, getCommand, List.append_cancel_left_eq]

theorem downloadFiles_eq_iff {requests : List Request}
    (plain : ∀ request ∈ requests, ':' ∉ request.build.id ∧ ':' ∉ request.build.target)
    (unchanged : requests.Pairwise fun request later =>
      request.build.id = later.build.id → request.build.target = later.build.target →
        ∀ casDigests, request.digests = .ok casDigests → later.digests = .ok casDigests)
    {downloader : CasDownloader}
    (samePath : downloader.downloaderPath = configuration.downloaderPath)
    (prefers : downloader.preferUncompressed = configuration.preferUncompressed)
    (serves : Serves downloader requests) :
    (downloadFiles jsoncpp downloader requests = requests.map fun request =>
        (downloadFile jsoncpp (.create configuration) request).1) ↔
      Steps configuration.flags downloader.flags (infosOf jsoncpp configuration requests) := by
  induction requests generalizing downloader with
  | nil => simp [downloadFiles, infosOf, Steps]
  | cons request rest induction =>
      rw [List.pairwise_cons] at unchanged
      have restPlain : ∀ other ∈ rest, ':' ∉ other.build.id ∧ ':' ∉ other.build.target :=
        fun other member => plain other (List.mem_cons_of_mem _ member)
      obtain ⟨next, nextPath, nextPrefers, nextServes, outcome⟩ :=
        @downloadFile_eq jsoncpp configuration downloader request rest plain unchanged.1 prefers
          serves
      have later := induction restPlain unchanged.2 (nextPath.trans samePath)
        (nextPrefers.trans prefers) nextServes
      rw [downloadFiles, List.map_cons, infosOf]
      rcases outcome with ⟨failure, notFound, ran, sameFlags⟩ | ⟨casIdentifier, found, ran, flags⟩
      · have skipped : isFound jsoncpp configuration request = false := by
          rw [isFound, notFound]
          rfl
        have fresh : (downloadFile jsoncpp (.create configuration) request).1 =
            .error failure := by
          rcases downloadFile_create request (plain request List.mem_cons_self) with
            ⟨other, isOther, fails⟩ | ⟨casIdentifier, found, _⟩
          · rw [notFound] at isOther
            rw [fails, Except.error.inj isOther]
          · rw [notFound] at found
            cases found
        rw [ran, fresh, List.filter_cons_of_neg (by simp [skipped])]
        dsimp only
        rw [List.cons.injEq, and_iff_right rfl, later, sameFlags]
        rfl
      · have kept : isFound jsoncpp configuration request = true := by
          rw [isFound, found]
          rfl
        have fresh : (downloadFile jsoncpp (.create configuration) request).1 =
            .ok (getCommand configuration.downloaderPath
              (appendInfo (buildInfo request.build) configuration.flags) casIdentifier
              (downloadDirectory request casIdentifier.filename) request.statsFilepath) := by
          rcases downloadFile_create request (plain request List.mem_cons_self) with
            ⟨failure, notFound, _⟩ | ⟨other, isOther, runs⟩
          · rw [found] at notFound
            cases notFound
          · rw [found] at isOther
            rw [runs, Except.ok.inj isOther]
        rw [ran, fresh, List.filter_cons_of_pos kept, List.map_cons, Steps, samePath]
        dsimp only
        rw [List.cons.injEq, Except.ok.injEq, getCommand_inj, later, flags]
        rfl

/-- No flag takes the infos, or the first info that is not empty is the only one from then on, and
there is one place for it. -/
def Steady (jsoncpp : Jsoncpp) (configuration : Configuration) (requests : List Request) : Prop :=
  configuration.flags.countP isCallerOnly = 0 ∨
    (requests.filter (isFound jsoncpp configuration)).Pairwise fun earlier later =>
      buildInfo earlier.build ≠ [] →
        buildInfo later.build = buildInfo earlier.build ∧
          configuration.flags.countP isCallerOnly = 1

theorem keepsNoState_iff (jsoncpp : Jsoncpp) (configuration : Configuration) (session : Session) :
    KeepsNoState jsoncpp configuration session ↔
      Steady jsoncpp configuration session.requests := by
  have run := @downloadFiles_eq_iff jsoncpp configuration session.requests session.plain
    session.unchanged (.create configuration) rfl rfl (serves_create session.requests)
  have commas : ∀ info ∈ infosOf jsoncpp configuration session.requests,
      info ≠ [] → ',' ∈ info := by
    intro info member some
    obtain ⟨request, _, isInfo⟩ := List.mem_map.mp member
    rw [← isInfo] at some ⊢
    exact comma_mem_buildInfo some
  rw [KeepsNoState, run, Steady]
  change Steps configuration.flags configuration.flags _ ↔ _
  rw [steps_iff commas, infosOf, List.pairwise_map]

end

/-! ## Two builds -/

/-- Two builds that are downloaded for one caller. -/
def twoBuilds : Session where
  requests :=
    let digests : Json := .object [("cas_instance".toList, .string ['i']),
      ("cas_service".toList, .string ['s']),
      ("files".toList, .object [("_chunked_x".toList, .string ['d'])])]
    [⟨⟨['1'], [], ['t']⟩, ['x'], ['/'], none, .ok digests⟩,
      ⟨⟨['2'], [], ['t']⟩, ['x'], ['/'], none, .ok digests⟩]
  plain := by
    intro request member
    simp only [List.mem_cons, List.not_mem_nil, or_false] at member
    rcases member with first | second
    · rw [first]
      decide
    · rw [second]
      decide
  unchanged := by
    simp

def oneCaller : Configuration := ⟨['c'], ["-invocation-id=caller=u".toList], false⟩

def withoutReals : Jsoncpp := ⟨fun _ => none, fun _ => [], fun _ => none, fun _ => false⟩

def invocationId (command : Result Command) : Option Text :=
  command.toOption.bind List.getLast?

/-- The second build is downloaded in the name of the first. -/
theorem twoBuilds_named_first :
    (downloadFiles withoutReals (.create oneCaller) twoBuilds.requests).map invocationId =
      [some "-invocation-id=caller=u,bid=1,flavor=t".toList,
        some "-invocation-id=caller=u,bid=1,flavor=t".toList] ∧
    (twoBuilds.requests.map fun request =>
        invocationId (downloadFile withoutReals (.create oneCaller) request).1) =
      [some "-invocation-id=caller=u,bid=1,flavor=t".toList,
        some "-invocation-id=caller=u,bid=2,flavor=t".toList] ∧
    ¬ KeepsNoState withoutReals oneCaller twoBuilds := by
  have run : (downloadFiles withoutReals (.create oneCaller) twoBuilds.requests).map
      invocationId = [some "-invocation-id=caller=u,bid=1,flavor=t".toList,
        some "-invocation-id=caller=u,bid=1,flavor=t".toList] := by
    decide +kernel
  have alone : (twoBuilds.requests.map fun request =>
      invocationId (downloadFile withoutReals (.create oneCaller) request).1) =
        [some "-invocation-id=caller=u,bid=1,flavor=t".toList,
          some "-invocation-id=caller=u,bid=2,flavor=t".toList] := by
    decide +kernel
  refine ⟨run, alone, ?_⟩
  intro keeps
  rw [keeps, List.map_map] at run
  exact absurd (run.symm.trans alone) (by decide +kernel)

end Cuttlefish.Web.Cas
