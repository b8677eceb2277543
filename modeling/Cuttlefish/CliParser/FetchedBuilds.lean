import Cuttlefish.CliParser.FetchConfigParser
import Cuttlefish.Foundation.Substrings
import Mathlib.Data.List.Forall2

/-! # What the vector flags of a fetch carry

The flags that are generated for an environment, as `cvd fetch` reads them. -/

namespace Cuttlefish.CliParser

open FlagParser Web

/-! ## Reading one flag -/

section

variable {Element : Type} {setter : FlagMatch → List Element → Result Unit × List Element}

theorem consume_next {name value : Text} {head after : List (Text × Text)} {vector : List Element}
    {rest : List Text} (isName : IsName name)
    (others : ∀ other ∈ (head ++ after).map (·.1),
      IsName other ∧ normalize name ≠ normalize other) :
    consume (gflagsCompatFlag name setter)
        ((head ++ (name, value) :: after).map fun entry => generateFlag entry.1 entry.2) =
      .ok (vector, rest) ↔
    setter ⟨withEquals (dashes name), value⟩ [] = (.ok (), vector) ∧
      rest = (head ++ after).map fun entry => generateFlag entry.1 entry.2 := by
  rw [List.map_append, List.forall_mem_append] at others
  rw [List.map_append, List.map_cons, consume, parse_generateFlags_append isName others.1]
  cases set : setter ⟨withEquals (dashes name), value⟩ [] with
  | mk status new =>
      cases status with
      | error failure =>
          rcases parse_generateFlag_refused isName value
            (after.map fun entry => generateFlag entry.1 entry.2) set with ⟨failed, parsed⟩
          simp [parsed]
      | ok done =>
          rw [parse_generateFlag_self isName value _ set, parse_generateFlags isName others.2]
          simp [eq_comm]

theorem exists_consume {name value : Text} {head after : List (Text × Text)}
    {P : List Element → List Text → Prop} (isName : IsName name)
    (others : ∀ other ∈ (head ++ after).map (·.1),
      IsName other ∧ normalize name ≠ normalize other) :
    (∃ vector rest, consume (gflagsCompatFlag name setter)
        ((head ++ (name, value) :: after).map fun entry => generateFlag entry.1 entry.2) =
          .ok (vector, rest) ∧ P vector rest) ↔
      ∃ vector, setter ⟨withEquals (dashes name), value⟩ [] = (.ok (), vector) ∧
        P vector ((head ++ after).map fun entry => generateFlag entry.1 entry.2) := by
  refine exists_congr fun vector => ?_
  simp only [consume_next isName others, and_assoc, exists_and_left, exists_eq_left]

end

def elements (value : Text) : List Text := if value = [] then [] else value.splitOn ','

theorem setStrings_eq (value : Text) (vector : List Text) :
    (if value = [] then (.ok (), []) else (.ok (), value.splitOn ',') :
        Result Unit × List Text) = (.ok (), vector) ↔ vector = elements value := by
  rw [elements]
  split <;> simp [eq_comm]

theorem setBuildStrings_eq (found : FlagMatch) (old : List (Option BuildString)) :
    setBuildStrings found old = parseBuildStrings (elements found.value) := by
  rw [setBuildStrings, elements]
  split <;> rfl

/-! ## Reading all flags -/

def fetchNames : List Text :=
  ["target_directory", "api_key", "credential_source", "project_id", "wait_retry_period",
    "keep_downloaded_archives", "api_base_url", "host_package_build"].map String.toList

def vectorEntries (fetched : List (Instance × Text)) : List (Text × Text) :=
  let instances := fetched.map (·.1)
  [("target_subdirectory".toList, joined (fetched.map (·.2))),
    ("default_build".toList, joined (instances.map defaultBuild)),
    ("system_build".toList, joined (instances.map systemBuild)),
    ("kernel_build".toList, joined (instances.map kernelBuild)),
    ("boot_build".toList, joined (instances.map bootBuild)),
    ("bootloader_build".toList, joined (instances.map bootloaderBuild)),
    ("android_efi_loader_build".toList, joined (instances.map androidEfiLoaderBuild)),
    ("otatools_build".toList, joined (instances.map otaToolsBuild)),
    ("download_img_zip".toList, joined (instances.map downloadImgZip)),
    ("download_target_files_zip".toList, joined (instances.map downloadTargetFilesZip))]

/-- The builds of an instance, in the order of the flags. -/
def buildFields : List (Instance → Text) :=
  [defaultBuild, systemBuild, kernelBuild, bootBuild, bootloaderBuild, androidEfiLoaderBuild,
    otaToolsBuild]

def VectorFlags.builds (vectors : VectorFlags) : List (List (Option BuildString)) :=
  [vectors.defaultBuild, vectors.systemBuild, vectors.kernelBuild, vectors.bootBuild,
    vectors.bootloaderBuild, vectors.androidEfiLoaderBuild, vectors.otatoolsBuild]

structure Reads (vectors : VectorFlags) (fetched : List (Instance × Text)) : Prop where
  subdirectories : vectors.targetSubdirectory = elements (joined (fetched.map (·.2)))
  builds : List.Forall₂ (fun vector field =>
    parseBuildStrings (elements (joined ((fetched.map (·.1)).map field))) = (.ok (), vector))
      vectors.builds buildFields

def vectorNames : List Text :=
  ["target_subdirectory", "default_build", "system_build", "kernel_build", "boot_build",
    "bootloader_build", "android_efi_loader_build", "otatools_build", "download_img_zip",
    "download_target_files_zip"].map String.toList

theorem isName_vectorNames : ∀ name ∈ vectorNames, IsName name := by decide

theorem vectorNames_fetchNames : ∀ name ∈ vectorNames, ∀ other ∈ fetchNames,
    IsName other ∧ normalize name ≠ normalize other := by
  decide

theorem vectorNames_pairwise : vectorNames.Pairwise fun name other =>
    IsName other ∧ normalize name ≠ normalize other := by
  decide

theorem vectorNames_others {head after : List (Text × Text)} {name : Text}
    (known : ∀ entry ∈ head, entry.1 ∈ fetchNames)
    (isNext : vectorNames.drop (9 - after.length) = name :: after.map (·.1)) :
    ∀ other ∈ (head ++ after).map (·.1), IsName other ∧ normalize name ≠ normalize other := by
  have later := vectorNames_pairwise.sublist (List.drop_sublist (9 - after.length) _)
  rw [isNext, List.pairwise_cons] at later
  have member : name ∈ vectorNames :=
    List.mem_of_mem_drop (isNext ▸ List.mem_cons_self : name ∈ vectorNames.drop _)
  intro other isOther
  rw [List.map_append, List.mem_append] at isOther
  rcases isOther with inHead | inAfter
  · rcases List.mem_map.mp inHead with ⟨entry, isEntry, rfl⟩
    exact vectorNames_fetchNames name member entry.1 (known entry isEntry)
  · exact later.1 other inAfter

theorem exists_consume_vector {Element : Type}
    {setter : FlagMatch → List Element → Result Unit × List Element} {name value : Text}
    {head after : List (Text × Text)} {P : List Element → List Text → Prop}
    (known : ∀ entry ∈ head, entry.1 ∈ fetchNames)
    (isNext : vectorNames.drop (9 - after.length) = name :: after.map (·.1)) :
    (∃ vector rest, consume (gflagsCompatFlag name setter)
        ((head ++ (name, value) :: after).map fun entry => generateFlag entry.1 entry.2) =
          .ok (vector, rest) ∧ P vector rest) ↔
      ∃ vector, setter ⟨withEquals (dashes name), value⟩ [] = (.ok (), vector) ∧
        P vector ((head ++ after).map fun entry => generateFlag entry.1 entry.2) := by
  have member : name ∈ vectorNames :=
    List.mem_of_mem_drop (isNext ▸ List.mem_cons_self : name ∈ vectorNames.drop _)
  exact exists_consume (isName_vectorNames name member) (vectorNames_others known isNext)

theorem parse_entries {head : List (Text × Text)} (known : ∀ entry ∈ head, entry.1 ∈ fetchNames)
    (fetched : List (Instance × Text)) (vectors : VectorFlags) :
    VectorFlags.parse ((head ++ vectorEntries fetched).map
        fun entry => generateFlag entry.1 entry.2) = .ok vectors ↔ Reads vectors fetched := by
  simp only [VectorFlags.parse, Result.bind_eq_ok, Prod.exists, vectorEntries,
    gflagsCompatStrings, gflagsCompatBuildStrings]
  simp (disch := simp [vectorNames]) only [exists_consume_vector known]
  simp only [setStrings_eq, setBuildStrings_eq, pure, Except.pure, Except.ok.injEq]
  constructor
  · rintro ⟨_, rfl, _, default, _, system, _, kernel, _, boot, _, bootloader, _, efi, _, otatools,
      rfl⟩
    exact ⟨rfl, .cons default (.cons system (.cons kernel (.cons boot (.cons bootloader
      (.cons efi (.cons otatools .nil))))))⟩
  · rintro ⟨subdirectories, builds⟩
    simp only [VectorFlags.builds, buildFields, List.forall₂_cons] at builds
    rcases builds with ⟨default, system, kernel, boot, bootloader, efi, otatools, -⟩
    exact ⟨_, rfl, _, default, _, system, _, kernel, _, boot, _, bootloader, _, efi, _, otatools,
      by rw [← subdirectories]⟩

/-! ## What is to be carried -/

/-- What is fetched for a build string, none for a local path. -/
def stripped (build : Text) : Option Text :=
  if kFetchPrefix <+: build then some (build.drop kFetchPrefix.length) else none

def Represented (config : Instance) : Prop := ∃ field ∈ buildFields, (stripped (field config)).isSome

instance : DecidablePred Represented := fun config =>
  inferInstanceAs (Decidable (∃ field ∈ buildFields, (stripped (field config)).isSome))

/-- The instances with a build that is fetched, and their subdirectories. -/
def represented (config : EnvironmentSpecification) (targetSubdirectories : List Text) :
    List (Instance × Text) :=
  (config.instances.zip targetSubdirectories).filter fun entry => Represented entry.1

def IsBuild (element : Option BuildString) (build : Text) : Prop :=
  match stripped build with
  | none => element = none
  | some text => ∃ value, parseBuildString text = .ok value ∧ element = some value

def CarriesBuilds (vector : List (Option BuildString)) (builds : List Text) : Prop :=
  (vector = [] ∧ ∀ build ∈ builds, stripped build = none) ∨ List.Forall₂ IsBuild vector builds

/-- The vectors hold the subdirectories and the builds of the instances. -/
structure Carries (vectors : VectorFlags) (instances : List (Instance × Text)) : Prop where
  subdirectories : vectors.targetSubdirectory = instances.map (·.2)
  builds : List.Forall₂ (fun vector field =>
    CarriesBuilds vector ((instances.map (·.1)).map field)) vectors.builds buildFields

/-! ## The instances that are fetched -/

theorem getFetchBuildString_eq_ok {build value : Text} :
    getFetchBuildString build = .ok value ↔
      stripped build ≠ some [] ∧ value = (stripped build).getD [] := by
  rw [getFetchBuildString, stripped]
  by_cases isPrefix : kFetchPrefix <+: build
  · rw [if_pos (List.isPrefixOf_iff_prefix.mpr isPrefix), if_pos isPrefix]
    by_cases isNil : build.drop kFetchPrefix.length = []
    · simp [isNil]
    · simp [isNil, eq_comm]
  · have notPrefix : ¬ kFetchPrefix.isPrefixOf build = true := fun isTrue =>
      isPrefix (List.isPrefixOf_iff_prefix.mp isTrue)
    rw [if_neg notPrefix, if_neg isPrefix]
    simp [eq_comm]

def strippedInstance (config : Instance) : Instance where
  boot := {
    kernelBuild := (stripped config.boot.kernelBuild).getD []
    build := (stripped config.boot.build).getD []
    bootloaderBuild := (stripped config.boot.bootloaderBuild).getD []
    androidEfiLoaderBuild := (stripped config.boot.androidEfiLoaderBuild).getD [] }
  disk := { config.disk with
    defaultBuild := (stripped config.disk.defaultBuild).getD []
    superPartitionSystem := (stripped config.disk.superPartitionSystem).getD []
    otatools := (stripped config.disk.otatools).getD [] }

theorem removeNonPrefixedBuildStrings_eq_ok {config result : Instance}
    (removed : removeNonPrefixedBuildStrings config = .ok result) :
    (∀ field ∈ buildFields, stripped (field config) ≠ some []) ∧
      result = strippedInstance config := by
  simp only [removeNonPrefixedBuildStrings, Result.bind_eq_ok, getFetchBuildString_eq_ok, pure,
    Except.pure, Except.ok.injEq] at removed
  obtain ⟨_, ⟨default, rfl⟩, _, ⟨otatools, rfl⟩, _, ⟨system, rfl⟩, _, ⟨boot, rfl⟩, _,
    ⟨kernel, rfl⟩, _, ⟨bootloader, rfl⟩, _, ⟨efi, rfl⟩, rfl⟩ := removed
  refine ⟨?_, rfl⟩
  simp only [buildFields, List.forall_mem_cons]
  exact ⟨default, system, kernel, boot, bootloader, efi, otatools, by simp⟩

theorem field_strippedInstance {field : Instance → Text} (isField : field ∈ buildFields)
    (config : Instance) : field (strippedInstance config) = (stripped (field config)).getD [] := by
  simp only [buildFields, List.mem_cons, List.not_mem_nil, or_false] at isField
  rcases isField with rfl | rfl | rfl | rfl | rfl | rfl | rfl <;> rfl

/-- An instance of which only the EFI loader is fetched. -/
def OnlyEfiLoader (config : Instance) : Prop :=
  (stripped (androidEfiLoaderBuild config)).isSome ∧
    ∀ field ∈ [defaultBuild, systemBuild, kernelBuild, bootBuild, bootloaderBuild, otaToolsBuild],
      stripped (field config) = none

instance : DecidablePred OnlyEfiLoader := fun _ => inferInstanceAs (Decidable (_ ∧ ∀ _ ∈ _, _))

theorem isEmpty_getD_stripped {build : Text} (notEmpty : stripped build ≠ some []) :
    (!((stripped build).getD []).isEmpty) = (stripped build).isSome := by
  cases isText : stripped build with
  | none => rfl
  | some text =>
      cases text with
      | nil => exact absurd isText notEmpty
      | cons char rest => rfl

theorem shouldFetch_strippedInstance {config : Instance}
    (notEmpty : ∀ field ∈ buildFields, stripped (field config) ≠ some []) :
    shouldFetch (strippedInstance config) = true ↔ Represented config ∧ ¬ OnlyEfiLoader config := by
  simp only [buildFields, List.forall_mem_cons] at notEmpty
  rcases notEmpty with ⟨default, system, kernel, boot, bootloader, efi, otatools, -⟩
  have same : shouldFetch (strippedInstance config) =
      [(stripped (defaultBuild config)).isSome, (stripped (systemBuild config)).isSome,
        (stripped (kernelBuild config)).isSome, (stripped (kernelBuild config)).isSome,
        (stripped (bootBuild config)).isSome, (stripped (bootloaderBuild config)).isSome,
        (stripped (otaToolsBuild config)).isSome].any id := by
    rw [← isEmpty_getD_stripped default, ← isEmpty_getD_stripped system,
      ← isEmpty_getD_stripped kernel, ← isEmpty_getD_stripped boot,
      ← isEmpty_getD_stripped bootloader, ← isEmpty_getD_stripped otatools]
    rfl
  have isRepresented : Represented config ↔
      ((stripped (androidEfiLoaderBuild config)).isSome ∨
        shouldFetch (strippedInstance config) = true) := by
    simp only [same, Represented, buildFields, List.any_cons, List.any_nil, Bool.or_eq_true, id,
      List.mem_cons, List.not_mem_nil, exists_eq_or_imp, false_and, exists_false]
    grind
  have isOnly : OnlyEfiLoader config ↔
      ((stripped (androidEfiLoaderBuild config)).isSome ∧
        ¬ shouldFetch (strippedInstance config) = true) := by
    simp only [same, OnlyEfiLoader, List.any_cons, List.any_nil, Bool.or_eq_true, id,
      ← Option.not_isSome_iff_eq_none, List.mem_cons, List.not_mem_nil, forall_eq_or_imp]
    grind
  rw [isRepresented, isOnly]
  grind

def kept (entries : List (Instance × Text)) : List (Instance × Text) :=
  entries.filter fun entry => Represented entry.1 ∧ ¬ OnlyEfiLoader entry.1

theorem fetchInstances_eq_ok {entries fetched : List (Instance × Text)}
    (collected : fetchInstances entries = .ok fetched) :
    (∀ entry ∈ entries, ∀ field ∈ buildFields, stripped (field entry.1) ≠ some []) ∧
      fetched = (kept entries).map fun entry => (strippedInstance entry.1, entry.2) := by
  induction entries generalizing fetched with
  | nil =>
      cases collected
      exact ⟨by simp, rfl⟩
  | cons entry entries induction =>
      rcases entry with ⟨config, subdirectory⟩
      simp only [fetchInstances, Result.bind_eq_ok, pure, Except.pure, Except.ok.injEq] at collected
      rcases collected with ⟨filtered, removed, others, rest, rfl⟩
      rcases removeNonPrefixedBuildStrings_eq_ok removed with ⟨notEmpty, rfl⟩
      rcases induction rest with ⟨restNotEmpty, rfl⟩
      refine ⟨List.forall_mem_cons.mpr ⟨notEmpty, restNotEmpty⟩, ?_⟩
      have fetch := shouldFetch_strippedInstance notEmpty
      by_cases isKept : Represented config ∧ ¬ OnlyEfiLoader config
      · rw [if_pos (fetch.mpr isKept), kept, kept, List.filter_cons_of_pos (by simpa using isKept)]
        rfl
      · rw [if_neg (mt fetch.mp isKept), kept, kept,
          List.filter_cons_of_neg (by simpa using isKept)]

theorem known_fetchFlags (fetchConfig : Fetch) (targetDirectory hostPackageBuild : Text) :
    ∀ entry ∈ fetchFlags fetchConfig targetDirectory hostPackageBuild,
      entry.1 ∈ fetchNames := by
  intro entry isEntry
  simp only [fetchFlags, List.mem_append, List.mem_singleton, Option.mem_toList, Option.map_eq_some_iff] at isEntry
  obtain ((((((rfl | ⟨_, -, rfl⟩) | ⟨_, -, rfl⟩) | ⟨_, -, rfl⟩) | ⟨_, -, rfl⟩) | ⟨_, -, rfl⟩) |
    ⟨_, -, rfl⟩) | rfl := isEntry <;> simp [fetchNames]

theorem parse_nil : VectorFlags.parse [] = .ok ⟨[], [], [], [], [], [], [], []⟩ := by
  simp [VectorFlags.parse, consume, Flag.parse, bind, Except.bind, pure, Except.pure]

theorem parse_parseFetchCvdConfigs {config : EnvironmentSpecification} {targetDirectory : Text}
    {targetSubdirectories flags : List Text}
    (generated : parseFetchCvdConfigs config targetDirectory targetSubdirectories = .ok flags)
    (vectors : VectorFlags) :
    VectorFlags.parse flags = .ok vectors ↔
      Reads vectors ((kept (config.instances.zip targetSubdirectories)).map
        fun entry => (strippedInstance entry.1, entry.2)) := by
  simp only [parseFetchCvdConfigs, Result.bind_eq_ok] at generated
  rcases generated with ⟨_, -, fetched, collected, hostPackageBuild, -, isFlags⟩
  rcases fetchInstances_eq_ok collected with ⟨-, rfl⟩
  split at isFlags
  · next nothing =>
    rcases Except.ok.inj isFlags with rfl
    rw [nothing.1, parse_nil]
    constructor
    · rintro isVectors
      rcases Except.ok.inj isVectors with rfl
      exact ⟨rfl, by repeat constructor⟩
    · rintro ⟨subdirectories, builds⟩
      simp only [VectorFlags.builds, buildFields, List.forall₂_cons] at builds
      rcases builds with ⟨default, system, kernel, boot, bootloader, efi, otatools, -⟩
      rcases vectors with ⟨first, _, _, _, _, _, _, _⟩
      obtain rfl : first = [] := subdirectories
      rcases (Prod.mk.inj default).2 with rfl
      rcases (Prod.mk.inj system).2 with rfl
      rcases (Prod.mk.inj kernel).2 with rfl
      rcases (Prod.mk.inj boot).2 with rfl
      rcases (Prod.mk.inj bootloader).2 with rfl
      rcases (Prod.mk.inj efi).2 with rfl
      rcases (Prod.mk.inj otatools).2 with rfl
      rfl
  · rcases Except.ok.inj isFlags with rfl
    rw [← parse_entries (known_fetchFlags config.fetch targetDirectory hostPackageBuild),
      List.map_append]
    rfl

/-! ## The elements of a vector -/

theorem joined_eq_nil {texts : List Text} : joined texts = [] ↔ texts = [] ∨ texts = [[]] := by
  cases texts with
  | nil => simp [joined]
  | cons text texts =>
      cases texts with
      | nil => simp [joined]
      | cons other texts => simp [joined, List.intercalate_cons_cons]

theorem elements_joined {texts : List Text} (separate : ∀ text ∈ texts, ',' ∉ text) :
    elements (joined texts) = if texts = [[]] then [] else texts := by
  rw [elements]
  by_cases none : texts = []
  · subst none
    rfl
  by_cases single : texts = [[]]
  · rw [if_pos (joined_eq_nil.mpr (.inr single)), if_pos single]
  · have notNil : joined texts ≠ [] := fun isNil => (joined_eq_nil.mp isNil).elim none single
    rw [if_neg notNil, if_neg single]
    exact List.splitOn_intercalate ',' separate none

theorem elements_joined_eq_iff {texts : List Text} :
    elements (joined texts) = texts ↔ (∀ text ∈ texts, ',' ∉ text) ∧ texts ≠ [[]] := by
  constructor
  · intro same
    have notSingle : texts ≠ [[]] := by
      rintro rfl
      cases same
    refine ⟨fun text isText => ?_, notSingle⟩
    rw [← same] at isText
    rw [elements] at isText
    split at isText
    · cases isText
    · exact Substrings.notMem_of_mem_splitOn isText
  · rintro ⟨separate, notSingle⟩
    rw [elements_joined separate, if_neg notSingle]

def IsElement (element : Option BuildString) (text : Text) : Prop :=
  (text = [] ∧ element = none) ∨
    (text ≠ [] ∧ ∃ value, parseBuildString text = .ok value ∧ element = some value)

theorem parseBuildStrings_eq_ok {texts : List Text} {vector : List (Option BuildString)} :
    parseBuildStrings texts = (.ok (), vector) ↔ List.Forall₂ IsElement vector texts := by
  induction texts generalizing vector with
  | nil => simp [parseBuildStrings, eq_comm]
  | cons text texts induction =>
      rw [parseBuildStrings, List.forall₂_cons_right_iff]
      have rest : ∀ {value : Option BuildString},
          ((parseBuildStrings texts).1, value :: (parseBuildStrings texts).2) = (.ok (), vector) ↔
            ∃ values, vector = value :: values ∧ List.Forall₂ IsElement values texts := by
        intro value
        simp only [← induction, Prod.ext_iff]
        constructor
        · rintro ⟨ok, rfl⟩
          exact ⟨_, rfl, ok, rfl⟩
        · rintro ⟨values, rfl, ok, rfl⟩
          exact ⟨ok, rfl⟩
      by_cases empty : text = []
      · rw [if_pos empty]
        refine rest.trans ⟨?_, ?_⟩
        · rintro ⟨values, rfl, all⟩
          exact ⟨none, values, .inl ⟨empty, rfl⟩, all, rfl⟩
        · rintro ⟨_, values, ⟨-, rfl⟩ | ⟨some_, -⟩, all, rfl⟩
          · exact ⟨values, rfl, all⟩
          · exact absurd empty some_
      · rw [if_neg empty]
        cases parsed : parseBuildString text with
        | error failure => simp [Except.map, IsElement, empty, parsed]
        | ok value =>
            refine rest.trans ⟨?_, ?_⟩
            · rintro ⟨values, rfl, all⟩
              exact ⟨some value, values, .inr ⟨empty, value, parsed, rfl⟩, all, rfl⟩
            · rintro ⟨_, values, ⟨none_, -⟩ | ⟨-, other, isOther, rfl⟩, all, rfl⟩
              · exact absurd none_ empty
              · rw [parsed] at isOther
                rcases Except.ok.inj isOther with rfl
                exact ⟨values, rfl, all⟩

theorem exists_parseBuildStrings {texts : List Text}
    (valid : ∀ text ∈ texts, text ≠ [] → ∃ value, parseBuildString text = .ok value) :
    ∃ vector, parseBuildStrings texts = (.ok (), vector) := by
  simp only [parseBuildStrings_eq_ok]
  induction texts with
  | nil => exact ⟨[], .nil⟩
  | cons text texts induction =>
      rw [List.forall_mem_cons] at valid
      rcases induction valid.2 with ⟨vector, all⟩
      by_cases empty : text = []
      · exact ⟨none :: vector, .cons (.inl ⟨empty, rfl⟩) all⟩
      · rcases valid.1 empty with ⟨value, parsed⟩
        exact ⟨some value :: vector, .cons (.inr ⟨empty, value, parsed, rfl⟩) all⟩

/-! ## The main result -/

theorem isElement_stripped {element : Option BuildString} {build : Text}
    (notEmpty : stripped build ≠ some []) :
    IsElement element ((stripped build).getD []) ↔ IsBuild element build := by
  rw [IsElement, IsBuild]
  cases isText : stripped build with
  | none => simp
  | some text =>
      have notNil : text ≠ [] := fun isNil => notEmpty (isText.trans (congrArg some isNil))
      simp [notNil]

theorem comma_notMem_stripped {build : Text} (separate : ',' ∉ build) :
    ',' ∉ (stripped build).getD [] := by
  rw [stripped]
  split
  · exact fun member => separate (List.mem_of_mem_drop member)
  · simp

def flagTexts (builds : List Text) : List Text := builds.map fun build => (stripped build).getD []

theorem comma_notMem_flagTexts {builds : List Text} (separate : ∀ build ∈ builds, ',' ∉ build) :
    ∀ text ∈ flagTexts builds, ',' ∉ text := by
  intro text isText
  rcases List.mem_map.mp isText with ⟨build, isBuild, rfl⟩
  exact comma_notMem_stripped (separate build isBuild)

theorem forall₂_flagTexts {builds : List Text} (notEmpty : ∀ build ∈ builds, stripped build ≠ some [])
    {vector : List (Option BuildString)} :
    List.Forall₂ IsElement vector (flagTexts builds) ↔ List.Forall₂ IsBuild vector builds := by
  induction builds generalizing vector with
  | nil => simp [flagTexts]
  | cons build builds induction =>
      rw [List.forall_mem_cons] at notEmpty
      have rest := @induction notEmpty.2
      simp only [flagTexts, List.map_cons, List.forall₂_cons_right_iff,
        isElement_stripped notEmpty.1] at rest ⊢
      simp only [rest]

theorem carriesBuilds_of_parse {builds : List Text} (separate : ∀ build ∈ builds, ',' ∉ build)
    (notEmpty : ∀ build ∈ builds, stripped build ≠ some []) {vector : List (Option BuildString)}
    (parsed : parseBuildStrings (elements (joined (flagTexts builds))) = (.ok (), vector)) :
    CarriesBuilds vector builds := by
  rw [elements_joined (comma_notMem_flagTexts separate), parseBuildStrings_eq_ok] at parsed
  split at parsed
  · next single =>
    cases parsed
    refine .inl ⟨rfl, fun build isBuild => ?_⟩
    have isNil : (stripped build).getD [] = [] := by
      have member := List.mem_map_of_mem (f := fun build => (stripped build).getD []) isBuild
      rw [← flagTexts, single] at member
      exact List.mem_singleton.mp member
    cases isText : stripped build with
    | none => rfl
    | some text =>
        rw [isText] at isNil
        exact absurd (isText.trans (congrArg some isNil)) (notEmpty build isBuild)
  · exact .inr ((forall₂_flagTexts notEmpty).mp parsed)

theorem represented_of_onlyEfiLoader {config : Instance} (only : OnlyEfiLoader config) :
    Represented config :=
  ⟨androidEfiLoaderBuild, by simp [buildFields], only.1⟩

theorem kept_eq (entries : List (Instance × Text)) :
    kept entries = (entries.filter fun entry => Represented entry.1).filter
      fun entry => ¬ OnlyEfiLoader entry.1 := by
  rw [kept, List.filter_filter]
  refine List.filter_congr fun entry _ => ?_
  rw [← Bool.decide_and]
  exact decide_eq_decide.mpr and_comm

theorem kept_of_none {entries : List (Instance × Text)}
    (none : ∀ entry ∈ entries, ¬ OnlyEfiLoader entry.1) :
    kept entries = entries.filter fun entry => Represented entry.1 := by
  rw [kept_eq, List.filter_eq_self]
  intro entry isEntry
  exact decide_eq_true (none entry (List.mem_of_mem_filter isEntry))

theorem length_kept_lt {entries : List (Instance × Text)} {entry : Instance × Text}
    (isEntry : entry ∈ entries) (only : OnlyEfiLoader entry.1) :
    (kept entries).length < (entries.filter fun entry => Represented entry.1).length := by
  rw [kept_eq, List.length_filter_lt_length_iff_exists]
  exact ⟨entry, List.mem_filter.mpr ⟨isEntry, decide_eq_true (represented_of_onlyEfiLoader only)⟩,
    by simpa using only⟩

theorem texts_kept {field : Instance → Text} (isField : field ∈ buildFields)
    (entries : List (Instance × Text)) :
    (((kept entries).map fun entry => (strippedInstance entry.1, entry.2)).map (·.1)).map field =
      flagTexts (((kept entries).map (·.1)).map field) := by
  simp only [flagTexts, List.map_map]
  exact List.map_congr_left fun entry _ => field_strippedInstance isField entry.1

theorem no_onlyEfiLoader {entries : List (Instance × Text)}
    (separate : ∀ entry ∈ entries, ',' ∉ androidEfiLoaderBuild entry.1)
    {vector : List (Option BuildString)}
    (parsed : parseBuildStrings (elements (joined
      (flagTexts (((kept entries).map (·.1)).map androidEfiLoaderBuild)))) = (.ok (), vector))
    (carries : CarriesBuilds vector
      (((entries.filter fun entry => Represented entry.1).map (·.1)).map androidEfiLoaderBuild)) :
    ∀ entry ∈ entries, ¬ OnlyEfiLoader entry.1 := by
  intro entry isEntry only
  have less := length_kept_lt isEntry only
  rw [elements_joined (comma_notMem_flagTexts (by
    simp only [List.map_map, List.forall_mem_map]
    exact fun entry isKept => separate entry (List.mem_of_mem_filter isKept))),
    parseBuildStrings_eq_ok] at parsed
  have short : vector.length ≤ (kept entries).length := by
    rw [parsed.length_eq]
    split <;> simp [flagTexts]
  rcases carries with ⟨-, absent⟩ | all
  · have isNone := absent (androidEfiLoaderBuild entry.1) (List.mem_map_of_mem (List.mem_map_of_mem
      (List.mem_filter.mpr ⟨isEntry, decide_eq_true (represented_of_onlyEfiLoader only)⟩)))
    have isSome := only.1
    rw [isNone] at isSome
    cases isSome
  · have long := all.length_eq
    simp only [List.length_map] at long
    omega

theorem forall₂_exists_left {First Second : Type} {R : First → Second → Prop} {firsts : List First}
    {seconds : List Second} (all : List.Forall₂ R firsts seconds) {second : Second}
    (member : second ∈ seconds) : ∃ first, R first second := by
  induction all with
  | nil => cases member
  | cons head _ induction =>
      rcases List.mem_cons.mp member with rfl | inRest
      · exact ⟨_, head⟩
      · exact induction inRest

theorem parsed_of_carriesBuilds {vector : List (Option BuildString)} {builds : List Text}
    (carries : CarriesBuilds vector builds) {build text : Text} (isBuild : build ∈ builds)
    (isText : stripped build = some text) : ∃ value, parseBuildString text = .ok value := by
  rcases carries with ⟨-, absent⟩ | all
  · rw [absent build isBuild] at isText
    cases isText
  · rcases forall₂_exists_left all isBuild with ⟨element, holds⟩
    rw [IsBuild] at holds
    rw [isText] at holds
    rcases holds with ⟨value, parsed, -⟩
    exact ⟨value, parsed⟩

theorem exists_read {entries : List (Instance × Text)} {field : Instance → Text}
    (isField : field ∈ buildFields) (separate : ∀ entry ∈ entries, ',' ∉ field entry.1)
    (notEmpty : ∀ entry ∈ entries, stripped (field entry.1) ≠ some [])
    (valid : ∀ entry ∈ entries, ∀ text, stripped (field entry.1) = some text →
      ∃ value, parseBuildString text = .ok value) :
    ∃ vector, parseBuildStrings (elements (joined
        ((((kept entries).map fun entry => (strippedInstance entry.1, entry.2)).map (·.1)).map
          field))) = (.ok (), vector) ∧
      CarriesBuilds vector (((kept entries).map (·.1)).map field) := by
  have inEntries : ∀ {entry}, entry ∈ kept entries → entry ∈ entries := List.mem_of_mem_filter
  have separateBuilds : ∀ build ∈ ((kept entries).map (·.1)).map field, ',' ∉ build := by
    simp only [List.map_map, List.forall_mem_map]
    exact fun entry isKept => separate entry (inEntries isKept)
  have notEmptyBuilds :
      ∀ build ∈ ((kept entries).map (·.1)).map field, stripped build ≠ some [] := by
    simp only [List.map_map, List.forall_mem_map]
    exact fun entry isKept => notEmpty entry (inEntries isKept)
  have validTexts : ∀ text ∈ elements (joined (flagTexts (((kept entries).map (·.1)).map field))),
      text ≠ [] → ∃ value, parseBuildString text = .ok value := by
    rw [elements_joined (comma_notMem_flagTexts separateBuilds)]
    split
    · simp
    · simp only [flagTexts, List.map_map, List.forall_mem_map]
      intro entry isKept notNil
      cases isText : stripped (field entry.1) with
      | none => exact absurd (by simp [isText]) notNil
      | some text => simpa [isText] using valid entry (inEntries isKept) text isText
  rw [texts_kept isField]
  rcases exists_parseBuildStrings validTexts with ⟨vector, parsed⟩
  exact ⟨vector, parsed, carriesBuilds_of_parse separateBuilds notEmptyBuilds parsed⟩

/-- The vectors that are read carry the instances exactly if none has only an EFI loader to fetch,
the build strings can be parsed, and the subdirectories can be told apart. -/
theorem fetch_flags_carry_iff {config : EnvironmentSpecification} {targetDirectory : Text}
    {targetSubdirectories flags : List Text}
    (separate : ∀ inst ∈ config.instances, ∀ field ∈ buildFields, ',' ∉ field inst)
    (generated : parseFetchCvdConfigs config targetDirectory targetSubdirectories = .ok flags) :
    (∃ vectors, VectorFlags.parse flags = .ok vectors ∧
        Carries vectors (represented config targetSubdirectories)) ↔
      (∀ inst ∈ config.instances, ¬ OnlyEfiLoader inst) ∧
      (∀ inst ∈ config.instances, ∀ field ∈ buildFields, ∀ text, stripped (field inst) = some text →
        ∃ value, parseBuildString text = .ok value) ∧
      (∀ entry ∈ represented config targetSubdirectories, ',' ∉ entry.2) ∧
      (represented config targetSubdirectories).map (·.2) ≠ [[]] := by
  have reading := parse_parseFetchCvdConfigs generated
  simp only [parseFetchCvdConfigs, Result.bind_eq_ok, cfExpect_eq_ok, decide_eq_true_eq] at generated
  rcases generated with ⟨_, sizes, fetched, collected, -⟩
  have notEmpty := (fetchInstances_eq_ok collected).1
  generalize isEntries : config.instances.zip targetSubdirectories = entries at *
  have instances : config.instances = entries.map (·.1) := by
    rw [← isEntries, List.map_fst_zip (Nat.le_of_eq sizes)]
  rw [instances] at separate ⊢
  simp only [represented, isEntries, List.forall_mem_map] at separate ⊢
  constructor
  · rintro ⟨vectors, parsed, subdirectories, builds⟩
    rcases (reading vectors).mp parsed with ⟨readSubdirectories, readBuilds⟩
    have noEfi : ∀ entry ∈ entries, ¬ OnlyEfiLoader entry.1 := by
      have isField : androidEfiLoaderBuild ∈ buildFields := by simp [buildFields]
      have carriesEfi := builds
      have readEfi := readBuilds
      simp only [VectorFlags.builds, buildFields, List.forall₂_cons] at carriesEfi readEfi
      have parsedEfi := readEfi.2.2.2.2.2.1
      rw [texts_kept isField] at parsedEfi
      exact no_onlyEfiLoader (fun entry isEntry => separate entry isEntry _ isField) parsedEfi
        carriesEfi.2.2.2.2.2.1
    refine ⟨noEfi, fun entry isEntry field isField text isText => ?_, ?_⟩
    · rcases forall₂_exists_left builds isField with ⟨vector, carries⟩
      refine parsed_of_carriesBuilds carries (List.mem_map_of_mem (List.mem_map_of_mem
        (List.mem_filter.mpr ⟨isEntry, decide_eq_true ⟨field, isField, ?_⟩⟩))) isText
      rw [isText]
      rfl
    · rw [readSubdirectories, List.map_map, kept_of_none noEfi] at subdirectories
      rcases elements_joined_eq_iff.mp subdirectories with ⟨separateAll, notSingle⟩
      exact ⟨fun entry isEntry => separateAll _ (List.mem_map_of_mem isEntry), notSingle⟩
  · rintro ⟨noEfi, valid, separateSubdirectories, notSingle⟩
    have reads := fun field isField => exists_read isField
      (fun entry isEntry => separate entry isEntry field isField)
      (fun entry isEntry => notEmpty entry isEntry field isField)
      (fun entry isEntry => valid entry isEntry field isField)
    rw [← kept_of_none noEfi] at separateSubdirectories notSingle ⊢
    simp only [buildFields, List.forall_mem_cons] at reads
    obtain ⟨⟨defaults, default, hasDefault⟩, ⟨systems, system, hasSystem⟩,
      ⟨kernels, kernel, hasKernel⟩, ⟨boots, boot, hasBoot⟩,
      ⟨bootloaders, bootloader, hasBootloader⟩, ⟨efis, efi, hasEfi⟩,
      ⟨otatoolsBuilds, otatools, hasOtatools⟩, -⟩ := reads
    refine ⟨⟨(kept entries).map (·.2), defaults, systems, kernels, boots, bootloaders, efis,
      otatoolsBuilds⟩, (reading _).mpr ⟨?_, ?_⟩, rfl, ?_⟩
    · rw [List.map_map]
      exact (elements_joined_eq_iff.mpr
        ⟨by simpa only [List.forall_mem_map] using separateSubdirectories, notSingle⟩).symm
    · exact .cons default (.cons system (.cons kernel (.cons boot (.cons bootloader
        (.cons efi (.cons otatools .nil))))))
    · exact .cons hasDefault (.cons hasSystem (.cons hasKernel (.cons hasBoot (.cons hasBootloader
        (.cons hasEfi (.cons hasOtatools .nil))))))

/-- An environment with one instance and nothing else to fetch. -/
def oneInstance (defaultBuild androidEfiLoaderBuild : Text) : EnvironmentSpecification where
  instances := [⟨⟨[], [], [], androidEfiLoaderBuild⟩, ⟨defaultBuild, [], [], none, none⟩⟩]
  hostPackage := []
  fetch := ⟨none, none, none, none, none, none⟩

theorem fetch_flags_carry_iff_one_instance :
    ∃ flags vectors,
      parseFetchCvdConfigs (oneInstance "@ab/main/phone".toList []) "/tmp".toList ["0".toList] =
          .ok flags ∧ VectorFlags.parse flags = .ok vectors ∧
        Carries vectors
          (represented (oneInstance "@ab/main/phone".toList []) ["0".toList]) := by
  have separate : ∀ inst ∈ (oneInstance "@ab/main/phone".toList []).instances,
      ∀ field ∈ buildFields, ',' ∉ field inst := by
    decide
  have generated : ∃ flags, parseFetchCvdConfigs (oneInstance "@ab/main/phone".toList [])
      "/tmp".toList ["0".toList] = .ok flags := ⟨_, rfl⟩
  rcases generated with ⟨flags, isFlags⟩
  have valid : ∀ inst ∈ (oneInstance "@ab/main/phone".toList []).instances,
      ∀ field ∈ buildFields, ∀ text, stripped (field inst) = some text →
        ∃ value, parseBuildString text = .ok value := by
    have none_or : ∀ inst ∈ (oneInstance "@ab/main/phone".toList []).instances,
        ∀ field ∈ buildFields, stripped (field inst) = none ∨
          stripped (field inst) = some "main/phone".toList := by
      decide
    intro inst isInst field isField text isText
    rcases none_or inst isInst field isField with isNone | isSome
    · rw [isNone] at isText
      cases isText
    · rw [isSome] at isText
      cases isText
      exact ⟨.device ⟨"main".toList, some "phone".toList, none⟩, by decide⟩
  rcases (fetch_flags_carry_iff separate isFlags).mpr
    ⟨by decide, valid, by decide, by decide⟩ with ⟨vectors, parsed, carries⟩
  exact ⟨flags, vectors, isFlags, parsed, carries⟩

/-- The only build to fetch is that of the EFI loader, and nothing is fetched. -/
theorem efi_loader_not_fetched :
    ∃ flags,
      parseFetchCvdConfigs (oneInstance [] "@ab/efi".toList) "/tmp".toList ["0".toList] =
          .ok flags ∧
        ¬ ∃ vectors, VectorFlags.parse flags = .ok vectors ∧
          Carries vectors (represented (oneInstance [] "@ab/efi".toList) ["0".toList]) := by
  refine ⟨[], rfl, ?_⟩
  rintro ⟨vectors, parsed, carries⟩
  rw [parse_nil] at parsed
  rcases Except.ok.inj parsed with rfl
  have missing := carries.subdirectories
  have one : (represented (oneInstance [] "@ab/efi".toList) ["0".toList]).map (·.2) =
      ["0".toList] := by
    decide
  rw [one] at missing
  cases missing

end Cuttlefish.CliParser
