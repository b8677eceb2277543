import Cuttlefish.Web.AndroidBuildString

/-! # How many builds a fetch is about

`vector_flags.cc` and `download_flags.cc` of `host/commands/cvd/fetch`: flags that have a value for
every build. -/

namespace Cuttlefish.Fetch

open Web

structure ChromeOsBuilder where
  project : Text
  bucket : Text
  builder : Text
  deriving DecidableEq

inductive ChromeOsBuildString
  | builder (value : ChromeOsBuilder)
  | buildId (value : Text)
  deriving DecidableEq

/-- The vectors behind the flags; one is empty when its flag was not given. -/
structure VectorFlags where
  targetSubdirectory : List Text
  defaultBuild : List (Option BuildString)
  systemBuild : List (Option BuildString)
  kernelBuild : List (Option BuildString)
  bootBuild : List (Option BuildString)
  bootloaderBuild : List (Option BuildString)
  androidEfiLoaderBuild : List (Option BuildString)
  otatoolsBuild : List (Option BuildString)
  testSuitesBuild : List (Option BuildString)
  chromeOsBuild : List (Option ChromeOsBuildString)
  downloadImgZip : List Bool
  downloadTargetFilesZip : List Bool
  bootArtifact : List Text
  dynamicSuperImage : List Bool
  deriving DecidableEq

namespace VectorFlags

/-- What `Flags` declares: the name of each flag, and how many values its vector has. -/
def flags (vectors : VectorFlags) : List (String × Nat) :=
  [("target_subdirectory", vectors.targetSubdirectory.length),
    ("default_build", vectors.defaultBuild.length),
    ("system_build", vectors.systemBuild.length),
    ("kernel_build", vectors.kernelBuild.length),
    ("boot_build", vectors.bootBuild.length),
    ("bootloader_build", vectors.bootloaderBuild.length),
    ("android_efi_loader_build", vectors.androidEfiLoaderBuild.length),
    ("otatools_build", vectors.otatoolsBuild.length),
    ("test_suites_build", vectors.testSuitesBuild.length),
    ("chrome_os_build", vectors.chromeOsBuild.length),
    ("boot_artifact", vectors.bootArtifact.length),
    ("download_img_zip", vectors.downloadImgZip.length),
    ("download_target_files_zip", vectors.downloadTargetFilesZip.length),
    ("dynamic_super_image", vectors.dynamicSuperImage.length)]

/-- The list that `NumberOfBuilds` goes through. The super image flag is not in it. -/
def flagSizes (vectors : VectorFlags) : List Nat :=
  [vectors.defaultBuild.length, vectors.systemBuild.length, vectors.kernelBuild.length,
    vectors.bootBuild.length, vectors.bootloaderBuild.length,
    vectors.androidEfiLoaderBuild.length, vectors.otatoolsBuild.length,
    vectors.testSuitesBuild.length, vectors.chromeOsBuild.length, vectors.bootArtifact.length,
    vectors.downloadImgZip.length, vectors.downloadTargetFilesZip.length,
    vectors.targetSubdirectory.length]

end VectorFlags

def countBuilds (numberOfBuilds : Option Nat) : List Nat → Result (Option Nat)
  | [] => .ok numberOfBuilds
  | flagSize :: rest =>
      if flagSize = 0 then countBuilds numberOfBuilds rest
      else do
        match numberOfBuilds with
        | none => pure ()
        | some number =>
            cfExpect (flagSize = number) s!"Mismatched flag lengths: {number},{flagSize}"
        countBuilds (some flagSize) rest

/-- The count is a `size_t` and is returned as an `int`. -/
def VectorFlags.numberOfBuilds (vectors : VectorFlags) : Result Int := do
  let number ← countBuilds none vectors.flagSizes
  return Decimal.toInt (number.getD 1)

def kDefaultDownloadImgZip : Bool := true
def kDefaultDownloadTargetFilesZip : Bool := false
def kDefaultDynamicSuperImageFragments : Bool := false

def getOptional {Value : Type} (vector : List Value) (index : Nat) : Option Value := vector[index]?

structure DownloadFlags where
  downloadImgZip : Bool
  downloadTargetFilesZip : Bool
  dynamicSuperImage : Bool
  deriving DecidableEq

def DownloadFlags.create (flags : VectorFlags) (index : Nat) : DownloadFlags where
  downloadImgZip := (getOptional flags.downloadImgZip index).getD kDefaultDownloadImgZip
  downloadTargetFilesZip :=
    (getOptional flags.downloadTargetFilesZip index).getD kDefaultDownloadTargetFilesZip
  dynamicSuperImage :=
    (getOptional flags.dynamicSuperImage index).getD kDefaultDynamicSuperImageFragments

/-! ## What the count means -/

/-- The vectors that were given have one length, and it is this number; without any there is one
build. -/
structure Agreed (sizes : List Nat) (number : Nat) : Prop where
  given : ∀ size ∈ sizes, size ≠ 0 → size = number
  default : (∀ size ∈ sizes, size = 0) → number = 1

def Mismatched (sizes : List Nat) : Prop :=
  ∃ size ∈ sizes, ∃ other ∈ sizes, size ≠ 0 ∧ other ≠ 0 ∧ size ≠ other

/-- The count is the number on which all the flags that are declared agree. -/
def CountsBuilds (vectors : VectorFlags) : Prop :=
  ∀ result, vectors.numberOfBuilds = .ok result ↔
    ∃ number : Nat, result = number ∧ Agreed (vectors.flags.map (·.2)) number

theorem Agreed.unique {sizes : List Nat} {number other : Nat} (agreed : Agreed sizes number)
    (isOther : Agreed sizes other) : number = other := by
  by_cases all : ∀ size ∈ sizes, size = 0
  · rw [agreed.default all, isOther.default all]
  · simp only [not_forall] at all
    obtain ⟨size, member, isGiven⟩ := all
    rw [← agreed.given size member isGiven, ← isOther.given size member isGiven]

theorem Agreed.not_mismatched {sizes : List Nat} {number : Nat} (agreed : Agreed sizes number) :
    ¬ Mismatched sizes := by
  rintro ⟨size, member, other, isOther, given, otherGiven, different⟩
  apply different
  rw [agreed.given size member given, agreed.given other isOther otherGiven]

/-! ## The loop -/

section

attribute [local simp] countBuilds

theorem countBuilds_zero (number : Option Nat) (rest : List Nat) :
    countBuilds number (0 :: rest) = countBuilds number rest := by
  simp

theorem countBuilds_none {size : Nat} (isGiven : size ≠ 0) (rest : List Nat) :
    countBuilds none (size :: rest) = countBuilds (some size) rest := by
  simp [isGiven]

theorem countBuilds_same {size : Nat} (isGiven : size ≠ 0) (rest : List Nat) :
    countBuilds (some size) (size :: rest) = countBuilds (some size) rest := by
  simp [isGiven, bind, Except.bind]

theorem countBuilds_different {number size : Nat} (isGiven : size ≠ 0) (different : size ≠ number)
    (rest : List Nat) : ∃ failure, countBuilds (some number) (size :: rest) = .error failure := by
  simp [isGiven, different, bind, Except.bind]

end

theorem countBuilds_some (number : Nat) (sizes : List Nat) :
    ((∀ size ∈ sizes, size ≠ 0 → size = number) ∧
        countBuilds (some number) sizes = .ok (some number)) ∨
      (∃ size ∈ sizes, size ≠ 0 ∧ size ≠ number) ∧
        ∃ failure, countBuilds (some number) sizes = .error failure := by
  induction sizes with
  | nil => exact .inl ⟨fun size member => absurd member List.not_mem_nil, rfl⟩
  | cons first rest induction =>
      by_cases isGiven : first ≠ 0
      · by_cases same : first = number
        · rw [← same] at induction ⊢
          rw [countBuilds_same isGiven]
          rcases induction with ⟨all, counted⟩ | ⟨⟨size, member, isOther⟩, failed⟩
          · refine .inl ⟨?_, counted⟩
            intro size member sizeGiven
            rcases List.mem_cons.mp member with isFirst | inRest
            · exact isFirst
            · exact all size inRest sizeGiven
          · exact .inr ⟨⟨size, List.mem_cons_of_mem _ member, isOther⟩, failed⟩
        · exact .inr ⟨⟨first, List.mem_cons_self, isGiven, same⟩,
            countBuilds_different isGiven same rest⟩
      · have zero : first = 0 := Decidable.not_not.mp isGiven
        rw [zero, countBuilds_zero]
        simpa using induction

theorem countBuilds_cases (sizes : List Nat) :
    (∃ number, Agreed sizes (number.getD 1) ∧ countBuilds none sizes = .ok number) ∨
      Mismatched sizes ∧ ∃ failure, countBuilds none sizes = .error failure := by
  induction sizes with
  | nil =>
      left
      refine ⟨none, ⟨?_, fun _ => rfl⟩, rfl⟩
      intro size member
      exact absurd member List.not_mem_nil
  | cons first rest induction =>
      by_cases isGiven : first ≠ 0
      · rw [countBuilds_none isGiven]
        rcases countBuilds_some first rest with ⟨all, counted⟩ | ⟨⟨size, member, other⟩, failed⟩
        · refine .inl ⟨some first, ⟨?_, ?_⟩, counted⟩
          · intro size member sizeGiven
            rcases List.mem_cons.mp member with isFirst | inRest
            · exact isFirst
            · exact all size inRest sizeGiven
          · intro none
            exact absurd (none first List.mem_cons_self) isGiven
        · exact .inr ⟨⟨size, List.mem_cons_of_mem _ member, first, List.mem_cons_self, other.1,
            isGiven, other.2⟩, failed⟩
      · have zero : first = 0 := Decidable.not_not.mp isGiven
        rw [zero, countBuilds_zero]
        rcases induction with ⟨number, agreed, counted⟩ | ⟨mismatched, failed⟩
        · refine .inl ⟨number, ⟨?_, ?_⟩, counted⟩
          · intro size member sizeGiven
            rcases List.mem_cons.mp member with isFirst | inRest
            · exact absurd isFirst sizeGiven
            · exact agreed.given size inRest sizeGiven
          · intro none
            exact agreed.default fun size member => none size (List.mem_cons_of_mem _ member)
        · obtain ⟨size, member, other, isOther, apart⟩ := mismatched
          exact .inr ⟨⟨size, List.mem_cons_of_mem _ member, other, List.mem_cons_of_mem _ isOther,
            apart⟩, failed⟩

theorem numberOfBuilds_cases (vectors : VectorFlags) :
    (∃ number : Nat, Agreed vectors.flagSizes number ∧
        vectors.numberOfBuilds = .ok (Decimal.toInt number)) ∨
      Mismatched vectors.flagSizes ∧ ∃ failure, vectors.numberOfBuilds = .error failure := by
  rcases countBuilds_cases vectors.flagSizes with ⟨number, agreed, counted⟩ |
    ⟨mismatched, failure, failed⟩
  · refine .inl ⟨number.getD 1, agreed, ?_⟩
    rw [VectorFlags.numberOfBuilds, counted]
    rfl
  · refine .inr ⟨mismatched, failure, ?_⟩
    rw [VectorFlags.numberOfBuilds, failed]
    rfl

/-! ## The flag that is not counted -/

theorem mem_flags (vectors : VectorFlags) (size : Nat) :
    size ∈ vectors.flags.map (·.2) ↔
      size = vectors.dynamicSuperImage.length ∨ size ∈ vectors.flagSizes := by
  simp only [VectorFlags.flags, VectorFlags.flagSizes, List.map_cons, List.map_nil, List.mem_cons,
    List.not_mem_nil, or_false]
  grind

theorem mismatched_flags {vectors : VectorFlags} (mismatched : Mismatched vectors.flagSizes) :
    Mismatched (vectors.flags.map (·.2)) := by
  obtain ⟨size, member, other, isOther, apart⟩ := mismatched
  exact ⟨size, (mem_flags vectors size).mpr (.inr member), other,
    (mem_flags vectors other).mpr (.inr isOther), apart⟩

theorem agreed_flags_iff {vectors : VectorFlags} {number : Nat}
    (agreed : Agreed vectors.flagSizes number) :
    Agreed (vectors.flags.map (·.2)) number ↔
      vectors.dynamicSuperImage.length = 0 ∨ vectors.dynamicSuperImage.length = number := by
  constructor
  · intro all
    by_cases isGiven : vectors.dynamicSuperImage.length = 0
    · exact .inl isGiven
    · exact .inr (all.given _ ((mem_flags vectors _).mpr (.inl rfl)) isGiven)
  · intro fits
    constructor
    · intro size member isGiven
      rcases (mem_flags vectors size).mp member with isSuper | isOther
      · rw [isSuper] at isGiven ⊢
        exact fits.resolve_left isGiven
      · exact agreed.given size isOther isGiven
    · intro none
      exact agreed.default fun size member => none size ((mem_flags vectors size).mpr (.inr member))

theorem Agreed.of_flags {vectors : VectorFlags} {number other : Nat}
    (agreed : Agreed vectors.flagSizes number) (all : Agreed (vectors.flags.map (·.2)) other)
    (isResult : Decimal.toInt number = other) : number = other := by
  by_cases none : ∀ size ∈ vectors.flagSizes, size = 0
  · rw [agreed.default none] at isResult ⊢
    exact Int.ofNat.inj isResult
  · simp only [not_forall] at none
    obtain ⟨size, member, isGiven⟩ := none
    rw [← agreed.given size member isGiven,
      ← all.given size ((mem_flags vectors size).mpr (.inr member)) isGiven]

theorem toInt_eq_self_iff (number : Nat) :
    Decimal.toInt number = number ↔ number < 2147483648 := by
  rw [Decimal.toInt, Int.bmod_def]
  omega

/-- The count is right if the flags that are counted contradict each other already, or if the one
that is not counted agrees with them. -/
theorem countsBuilds_iff (vectors : VectorFlags) :
    CountsBuilds vectors ↔
      Mismatched vectors.flagSizes ∨
        ∃ number < 2147483648, Agreed vectors.flagSizes number ∧
          (vectors.dynamicSuperImage.length = 0 ∨ vectors.dynamicSuperImage.length = number) := by
  constructor
  · intro counts
    rcases numberOfBuilds_cases vectors with ⟨number, agreed, counted⟩ | ⟨mismatched, _⟩
    · obtain ⟨other, isResult, all⟩ := (counts _).mp counted
      have same := agreed.of_flags all isResult
      rw [← same] at isResult all
      exact .inr ⟨number, (toInt_eq_self_iff number).mp isResult, agreed,
        (agreed_flags_iff agreed).mp all⟩
    · exact .inl mismatched
  · intro fits result
    rcases fits with mismatched | ⟨number, small, agreed, isSuper⟩
    · rcases numberOfBuilds_cases vectors with ⟨number, agreed, _⟩ | ⟨_, failure, failed⟩
      · exact absurd mismatched agreed.not_mismatched
      · constructor
        · intro counted
          rw [failed] at counted
          cases counted
        · intro all
          obtain ⟨number, _, agreed⟩ := all
          exact absurd (mismatched_flags mismatched) agreed.not_mismatched
    · have all := (agreed_flags_iff agreed).mpr isSuper
      rcases numberOfBuilds_cases vectors with ⟨other, isOther, counted⟩ | ⟨mismatched, _⟩
      · rw [← agreed.unique isOther, (toInt_eq_self_iff number).mpr small] at counted
        rw [counted]
        constructor
        · intro same
          exact ⟨number, (Except.ok.inj same).symm, all⟩
        · intro isAgreed
          obtain ⟨other, isResult, isOther⟩ := isAgreed
          rw [isResult, all.unique isOther]
      · exact absurd mismatched agreed.not_mismatched

/-- Two builds and one value for the super images. -/
def twoBuilds : VectorFlags where
  targetSubdirectory := []
  defaultBuild := [some (.device ⟨['a'], none, none⟩), some (.device ⟨['b'], none, none⟩)]
  systemBuild := []
  kernelBuild := []
  bootBuild := []
  bootloaderBuild := []
  androidEfiLoaderBuild := []
  otatoolsBuild := []
  testSuitesBuild := []
  chromeOsBuild := []
  downloadImgZip := []
  downloadTargetFilesZip := []
  bootArtifact := []
  dynamicSuperImage := [true]

/-- The lengths differ, nobody complains, and the second build gets the default. -/
theorem twoBuilds_accepted :
    twoBuilds.numberOfBuilds = .ok 2 ∧
      (DownloadFlags.create twoBuilds 1).dynamicSuperImage = false ∧ ¬ CountsBuilds twoBuilds := by
  have counted : twoBuilds.numberOfBuilds = .ok 2 := by decide
  refine ⟨counted, by decide, ?_⟩
  intro counts
  obtain ⟨number, isNumber, agreed⟩ := (counts 2).mp counted
  have one := agreed.given 1 (by decide) (by decide)
  omega

end Cuttlefish.Fetch
