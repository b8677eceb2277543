import Cuttlefish.Foundation.Worklist
import Cuttlefish.Result
import Cuttlefish.Utils.Directories
import Mathlib.Data.List.Induction
import Mathlib.Logic.Function.Basic

/-! # Kernel modules that leave the ramdisk

`SplitRamdiskModules` of `vendor_dlkm_utils.cc`: which of the modules of a ramdisk stay there, which
move to `vendor_dlkm` and which to `system_dlkm`, and the `modules.dep` of each of them. -/

namespace Cuttlefish.AssembleCvd.RamdiskModules

local instance : LawfulBEq Text := inferInstance

structure ModuleDeps where
  entries : List (Text × List Text)
  sorted : entries.Pairwise fun entry next => entry.1 < next.1

namespace ModuleDeps

variable (deps : ModuleDeps)

def find (modName : Text) : Option (List Text) := deps.entries.lookup modName

def children (modName : Text) : List Text := (deps.find modName).getD []

def restrict (keeps : Text → Bool) : ModuleDeps where
  entries := (deps.entries.filter (keeps ·.1)).map fun entry => (entry.1, entry.2.filter keeps)
  sorted := List.pairwise_map.mpr (deps.sorted.filter _)

def filterDependencies (allowList : List Text) : ModuleDeps := deps.restrict (· ∈ allowList)

def filterOutDependencies (blockList : List Text) : ModuleDeps := deps.restrict (· ∉ blockList)

end ModuleDeps

def getNewModName (gkiModules : List Text) (modName : Text) : Text :=
  if modName ∈ gkiModules then "/system/lib/modules/".toList ++ modName else modName

def renamed (gkiModules : List Text) (newDeps : Text → Option (List Text))
    (entry : Text × List Text) : Text → Option (List Text) :=
  Function.update newDeps (getNewModName gkiModules entry.1)
    (some (entry.2.map (getNewModName gkiModules)))

/-- `UpdateGKIModulePaths`. An entry replaces an earlier one of the same new name. -/
def updateGKIModulePaths (deps : ModuleDeps) (gkiModules : List Text) :
    Text → Option (List Text) :=
  deps.entries.foldl (renamed gkiModules) fun _ => none

def kRamdiskModules : List Text := [
  "failover.ko", "nd_virtio.ko", "net_failover.ko", "virtio_blk.ko", "virtio_console.ko",
  "virtio_dma_buf.ko", "virtio-gpu.ko", "virtio_input.ko", "virtio_mmio.ko", "virtio_net.ko",
  "virtio_pci.ko", "virtio_pci_legacy_dev.ko", "virtio_pci_modern_dev.ko", "virtio-rng.ko",
  "vmw_vsock_virtio_transport.ko", "vmw_vsock_virtio_transport_common.ko", "vsock.ko",
  "libarc4.ko", "rfkill.ko", "cfg80211.ko", "mac80211.ko", "mac80211_hwsim.ko"].map String.toList

def getRamdiskModules (allModules : List Text) : List Text :=
  allModules.filter (basename · ∈ kRamdiskModules)

def computeTransitiveClosure (startNodes : List Text) (deps : ModuleDeps) : List Text :=
  Worklist.reached deps.children (deps.entries.map (·.1)) startNodes

/-- An unpacked ramdisk: the modules of `modules.load`, `modules.dep`, and which modules have a
file and are signed. -/
structure Ramdisk where
  moduleList : List Text
  deps : ModuleDeps
  fileExists : Text → Bool
  isKernelModuleSigned : Text → Bool

/-- The lists to load and the dependencies that are written, by the names in them. -/
structure Split where
  ramdiskModules : List Text
  vendorDlkmModules : List Text
  systemDlkmModules : List Text
  ramdiskDeps : Text → Option (List Text)
  vendorDlkmDeps : Text → Option (List Text)
  systemDlkmDeps : Text → Option (List Text)

def checkGKIModules (deps : ModuleDeps) (vendorDlkmModules : List Text) : List Text → Result Unit
  | [] => .ok ()
  | gkiModule :: rest =>
      match deps.find gkiModule with
      | none => .error (.abort "map::at")
      | some children =>
          match children.find? (· ∈ vendorDlkmModules) with
          | some dep => .error (.err ("GKI module '" ++ String.ofList gkiModule ++
              "' depends on vendor_dlkm module '" ++ String.ofList dep ++ "'"))
          | none => checkGKIModules deps vendorDlkmModules rest

namespace Ramdisk

variable (ramdisk : Ramdisk)

def ramdiskModules : List Text :=
  computeTransitiveClosure (getRamdiskModules ramdisk.moduleList) ramdisk.deps

def movedModules : List Text :=
  ramdisk.moduleList.filter fun modulePath =>
    modulePath ∉ ramdisk.ramdiskModules && ramdisk.fileExists modulePath

def systemDlkmModules : List Text :=
  ramdisk.movedModules.filter ramdisk.isKernelModuleSigned

def vendorDlkmModules : List Text :=
  ramdisk.movedModules.filter fun modulePath => !ramdisk.isKernelModuleSigned modulePath

def split : Split where
  ramdiskModules := ramdisk.ramdiskModules
  vendorDlkmModules := ramdisk.vendorDlkmModules
  systemDlkmModules := ramdisk.systemDlkmModules
  ramdiskDeps := (ramdisk.deps.filterDependencies ramdisk.ramdiskModules).find
  vendorDlkmDeps := updateGKIModulePaths
    (ramdisk.deps.filterOutDependencies ramdisk.ramdiskModules) ramdisk.systemDlkmModules
  systemDlkmDeps := (ramdisk.deps.filterDependencies ramdisk.systemDlkmModules).find

@[simp] theorem split_ramdiskModules : ramdisk.split.ramdiskModules = ramdisk.ramdiskModules := rfl

@[simp] theorem split_vendorDlkmModules :
    ramdisk.split.vendorDlkmModules = ramdisk.vendorDlkmModules := rfl

@[simp] theorem split_systemDlkmModules :
    ramdisk.split.systemDlkmModules = ramdisk.systemDlkmModules := rfl

def splitRamdiskModules : Result Split := do
  checkGKIModules ramdisk.deps ramdisk.vendorDlkmModules ramdisk.systemDlkmModules
  return ramdisk.split

/-- What a module depends on has an entry and a file. -/
def Complete : Prop :=
  ∀ modName, ∀ dep ∈ ramdisk.deps.children modName,
    (ramdisk.deps.find dep).isSome ∧ ramdisk.fileExists dep

/-- All that a module which moves depends on stays in the ramdisk or is to be loaded, and no entry
of a `vendor_dlkm` module is replaced by one of a `system_dlkm` module that gets its name, unless
that names the same dependencies. -/
structure SplitsWhole : Prop where
  listed : ∀ modName ∈ ramdisk.movedModules, ∀ dep ∈ ramdisk.deps.children modName,
    dep ∈ ramdisk.ramdiskModules ∨ dep ∈ ramdisk.moduleList
  distinct : ∀ gkiModule ∈ ramdisk.systemDlkmModules,
    "/system/lib/modules/".toList ++ gkiModule ∈ ramdisk.vendorDlkmModules →
    "/system/lib/modules/".toList ++ gkiModule < gkiModule →
    ∀ dep ∈ ramdisk.deps.children ("/system/lib/modules/".toList ++ gkiModule),
      dep ∉ ramdisk.ramdiskModules → ∃ other ∈ ramdisk.deps.children gkiModule,
        other ∉ ramdisk.ramdiskModules ∧
          getNewModName ramdisk.systemDlkmModules other =
            getNewModName ramdisk.systemDlkmModules dep

end Ramdisk

def Names (deps : Text → Option (List Text)) (modName path : Text) : Prop :=
  ∃ named, deps modName = some named ∧ path ∈ named

/-- Each module is loaded from one partition, and finds what it depends on. -/
structure KeepsLoadable (ramdisk : Ramdisk) (split : Split) : Prop where
  inOne : ∀ modName ∈ ramdisk.moduleList, ramdisk.fileExists modName →
    [split.ramdiskModules, split.vendorDlkmModules, split.systemDlkmModules].countP
      (modName ∈ ·) = 1
  closed : ∀ modName ∈ split.ramdiskModules, ∀ dep ∈ ramdisk.deps.children modName,
    dep ∈ split.ramdiskModules
  apart : ∀ modName ∈ split.systemDlkmModules, ∀ dep ∈ ramdisk.deps.children modName,
    dep ∉ split.vendorDlkmModules
  vendorDlkm : ∀ modName ∈ split.vendorDlkmModules, ∀ dep ∈ ramdisk.deps.children modName,
    dep ∈ split.ramdiskModules ∨
      (dep ∈ split.vendorDlkmModules ∧ Names split.vendorDlkmDeps modName dep) ∨
      (dep ∈ split.systemDlkmModules ∧
        Names split.vendorDlkmDeps modName ("/system/lib/modules/".toList ++ dep))
  systemDlkm : ∀ modName ∈ split.systemDlkmModules, ∀ dep ∈ ramdisk.deps.children modName,
    dep ∈ split.ramdiskModules ∨
      (dep ∈ split.systemDlkmModules ∧ Names split.systemDlkmDeps modName dep)

/-! ## The dependencies -/

namespace ModuleDeps

variable (deps : ModuleDeps) {modName dep : Text}

theorem lookup_restrict (keeps : Text → Bool) (entries : List (Text × List Text)) :
    ((entries.filter (keeps ·.1)).map fun entry => (entry.1, entry.2.filter keeps)).lookup modName =
      if keeps modName then (entries.lookup modName).map (List.filter keeps) else none := by
  induction entries with
  | nil => split <;> rfl
  | cons entry entries induction =>
      rcases entry with ⟨first, children⟩
      rw [List.filter_cons, List.lookup_cons]
      by_cases same : modName = first
      · subst same
        by_cases kept : keeps modName = true
        · simp [kept]
        · rw [if_neg kept, induction, if_neg kept, if_neg kept]
      · have different : (modName == first) = false := beq_false_of_ne same
        rw [different]
        split
        · rw [List.map_cons, List.lookup_cons, different]
          exact induction
        · exact induction

theorem find_restrict (keeps : Text → Bool) :
    (deps.restrict keeps).find modName =
      if keeps modName then (deps.find modName).map (List.filter keeps) else none :=
  lookup_restrict keeps deps.entries

theorem find_eq_some {children : List Text} :
    deps.find modName = some children ↔ (modName, children) ∈ deps.entries := by
  rcases deps with ⟨entries, sorted⟩
  change entries.lookup modName = some children ↔ (modName, children) ∈ entries
  induction entries with
  | nil => simp
  | cons entry entries induction =>
      rcases entry with ⟨first, firstChildren⟩
      rw [List.pairwise_cons] at sorted
      rw [List.lookup_cons]
      by_cases same : modName = first
      · subst same
        have later : (modName, children) ∉ entries := fun member =>
          List.lt_irrefl modName (sorted.1 _ member)
        simp [later, eq_comm]
      · have different : (modName == first) = false := beq_false_of_ne same
        rw [different]
        simpa [same] using induction sorted.2

theorem children_of_find {children : List Text} (found : deps.find modName = some children) :
    deps.children modName = children := by
  rw [ModuleDeps.children, found, Option.getD_some]

theorem mem_entries_of_mem_children (isDep : dep ∈ deps.children modName) :
    (modName, deps.children modName) ∈ deps.entries := by
  cases found : deps.find modName with
  | none =>
      rw [ModuleDeps.children, found] at isDep
      cases isDep
  | some children =>
      rw [deps.children_of_find found]
      exact deps.find_eq_some.mp found

theorem children_restrict (keeps : Text → Bool) (kept : keeps modName = true) :
    (deps.restrict keeps).children modName = (deps.children modName).filter keeps := by
  rw [ModuleDeps.children, ModuleDeps.children, find_restrict, if_pos kept]
  cases deps.find modName with
  | none => rfl
  | some children => rfl

end ModuleDeps

theorem mem_computeTransitiveClosure {startNodes : List Text} {deps : ModuleDeps}
    {modName : Text} :
    modName ∈ computeTransitiveClosure startNodes deps ↔ ∃ root ∈ startNodes,
      Relation.ReflTransGen (fun node dep => dep ∈ deps.children node) root modName := by
  apply Worklist.mem_reached
  intro node notEntry
  apply List.eq_nil_iff_forall_not_mem.mpr
  intro dep isDep
  exact notEntry (List.mem_map_of_mem (deps.mem_entries_of_mem_children isDep))

theorem children_mem_ramdiskModules {ramdisk : Ramdisk} {modName dep : Text}
    (stays : modName ∈ ramdisk.ramdiskModules) (isDep : dep ∈ ramdisk.deps.children modName) :
    dep ∈ ramdisk.ramdiskModules := by
  rcases mem_computeTransitiveClosure.mp stays with ⟨root, isRoot, path⟩
  exact mem_computeTransitiveClosure.mpr ⟨root, isRoot, path.tail isDep⟩

/-! ## The renamed dependencies -/

section

variable {gkiModules : List Text} {entries front back : List (Text × List Text)}
  {entry : Text × List Text} {name : Text}

theorem foldl_renamed_of_ne (newDeps : Text → Option (List Text))
    (others : ∀ other ∈ entries, getNewModName gkiModules other.1 ≠ name) :
    entries.foldl (renamed gkiModules) newDeps name = newDeps name := by
  induction entries generalizing newDeps with
  | nil => rfl
  | cons first entries induction =>
      rw [List.forall_mem_cons] at others
      rw [List.foldl_cons, induction _ others.2, renamed,
        Function.update_of_ne (Ne.symm others.1)]

theorem foldl_renamed_last (newDeps : Text → Option (List Text))
    (isName : getNewModName gkiModules entry.1 = name)
    (others : ∀ other ∈ back, getNewModName gkiModules other.1 ≠ name) :
    (front ++ entry :: back).foldl (renamed gkiModules) newDeps name =
      some (entry.2.map (getNewModName gkiModules)) := by
  rw [List.foldl_append, List.foldl_cons, foldl_renamed_of_ne _ others, renamed, isName,
    Function.update_self]

theorem exists_last (member : entry ∈ entries)
    (isName : getNewModName gkiModules entry.1 = name) :
    ∃ front last back, entries = front ++ last :: back ∧
      getNewModName gkiModules last.1 = name ∧
        ∀ other ∈ back, getNewModName gkiModules other.1 ≠ name := by
  induction entries using List.reverseRecOn with
  | nil => cases member
  | append_singleton entries next induction =>
      by_cases isNext : getNewModName gkiModules next.1 = name
      · exact ⟨entries, next, [], rfl, isNext, List.forall_mem_nil _⟩
      · have before : entry ∈ entries := by
          rcases List.mem_append.mp member with before | isLast
          · exact before
          · rw [List.mem_singleton.mp isLast] at isName
            exact absurd isName isNext
        rcases induction before with ⟨front, last, back, rfl, isLast, others⟩
        refine ⟨front, last, back ++ [next], by simp, isLast, ?_⟩
        intro other isOther
        rcases List.mem_append.mp isOther with between | isEnd
        · exact others other between
        · rw [List.mem_singleton.mp isEnd]
          exact isNext

end

/-! ## Where a module is -/

section

variable {ramdisk : Ramdisk} {modName gkiModule dep : Text}

theorem mem_movedModules : modName ∈ ramdisk.movedModules ↔
    modName ∈ ramdisk.moduleList ∧ modName ∉ ramdisk.ramdiskModules ∧
      ramdisk.fileExists modName = true := by
  simp [Ramdisk.movedModules]

theorem mem_systemDlkmModules : modName ∈ ramdisk.systemDlkmModules ↔
    modName ∈ ramdisk.movedModules ∧ ramdisk.isKernelModuleSigned modName = true :=
  List.mem_filter

theorem mem_vendorDlkmModules : modName ∈ ramdisk.vendorDlkmModules ↔
    modName ∈ ramdisk.movedModules ∧ ramdisk.isKernelModuleSigned modName = false := by
  simp [Ramdisk.vendorDlkmModules]

theorem not_mem_systemDlkmModules (isVendor : modName ∈ ramdisk.vendorDlkmModules) :
    modName ∉ ramdisk.systemDlkmModules := by
  intro isSystem
  have signed := (mem_systemDlkmModules.mp isSystem).2
  rw [(mem_vendorDlkmModules.mp isVendor).2] at signed
  cases signed

theorem mem_vendor_or_system (moves : modName ∈ ramdisk.movedModules) :
    modName ∈ ramdisk.vendorDlkmModules ∨ modName ∈ ramdisk.systemDlkmModules := by
  cases signed : ramdisk.isKernelModuleSigned modName with
  | false => exact .inl (mem_vendorDlkmModules.mpr ⟨moves, signed⟩)
  | true => exact .inr (mem_systemDlkmModules.mpr ⟨moves, signed⟩)

theorem checkGKIModules_eq_ok {deps : ModuleDeps} {vendorDlkmModules gkiModules : List Text} :
    checkGKIModules deps vendorDlkmModules gkiModules = .ok () ↔
      ∀ gkiModule ∈ gkiModules, ∃ children, deps.find gkiModule = some children ∧
        ∀ dep ∈ children, dep ∉ vendorDlkmModules := by
  induction gkiModules with
  | nil => exact iff_of_true rfl (List.forall_mem_nil _)
  | cons gkiModule rest induction =>
      rw [List.forall_mem_cons, checkGKIModules]
      cases found : deps.find gkiModule with
      | none => simp
      | some children =>
          dsimp only
          cases isVendor : children.find? (· ∈ vendorDlkmModules) with
          | none =>
              have apart : ∀ dep ∈ children, dep ∉ vendorDlkmModules := by
                simpa using isVendor
              simp only [induction, Option.some.injEq, exists_eq_left']
              exact (and_iff_right apart).symm
          | some dep =>
              have inVendor : dep ∈ vendorDlkmModules := by
                simpa using List.find?_some isVendor
              have isDep : dep ∈ children := List.mem_of_find?_eq_some isVendor
              simp only [reduceCtorEq, Option.some.injEq, exists_eq_left', false_iff, not_and]
              intro apart
              exact absurd inVendor (apart dep isDep)

theorem splitRamdiskModules_eq_ok {split : Split}
    (success : ramdisk.splitRamdiskModules = .ok split) :
    split = ramdisk.split ∧ ∀ gkiModule ∈ ramdisk.systemDlkmModules,
      (ramdisk.deps.find gkiModule).isSome ∧
        ∀ dep ∈ ramdisk.deps.children gkiModule, dep ∉ ramdisk.vendorDlkmModules := by
  rcases Result.bind_eq_ok.mp success with ⟨_, checked, returned⟩
  constructor
  · exact (Except.ok.inj returned).symm
  · intro gkiModule isSystem
    rcases checkGKIModules_eq_ok.mp checked gkiModule isSystem with ⟨children, found, apart⟩
    rw [ramdisk.deps.children_of_find found, found]
    exact ⟨rfl, apart⟩

theorem in_one_list (isListed : modName ∈ ramdisk.moduleList)
    (hasFile : ramdisk.fileExists modName = true) :
    [ramdisk.ramdiskModules, ramdisk.vendorDlkmModules, ramdisk.systemDlkmModules].countP
      (modName ∈ ·) = 1 := by
  by_cases stays : modName ∈ ramdisk.ramdiskModules
  · have notMoved : modName ∉ ramdisk.movedModules := fun moves =>
      (mem_movedModules.mp moves).2.1 stays
    have notVendor : modName ∉ ramdisk.vendorDlkmModules := fun isVendor =>
      notMoved (mem_vendorDlkmModules.mp isVendor).1
    have notSystem : modName ∉ ramdisk.systemDlkmModules := fun isSystem =>
      notMoved (mem_systemDlkmModules.mp isSystem).1
    simp [stays, notVendor, notSystem]
  · rcases mem_vendor_or_system (mem_movedModules.mpr ⟨isListed, stays, hasFile⟩) with
      isVendor | isSystem
    · have notSystem := not_mem_systemDlkmModules isVendor
      simp [stays, isVendor, notSystem]
    · have notVendor : modName ∉ ramdisk.vendorDlkmModules := fun isVendor =>
        not_mem_systemDlkmModules isVendor isSystem
      simp [stays, isSystem, notVendor]

/-! ## What the dependencies of `vendor_dlkm` name -/

theorem getNewModName_of_not_mem {gkiModules : List Text} (notGKI : modName ∉ gkiModules) :
    getNewModName gkiModules modName = modName :=
  if_neg notGKI

theorem getNewModName_of_mem {gkiModules : List Text} (isGKI : modName ∈ gkiModules) :
    getNewModName gkiModules modName = "/system/lib/modules/".toList ++ modName :=
  if_pos isGKI

/-- The entries that are written for `vendor_dlkm`, before their modules get new names. -/
abbrev leaving (ramdisk : Ramdisk) : ModuleDeps :=
  ramdisk.deps.filterOutDependencies ramdisk.ramdiskModules

theorem children_leaving (leaves : modName ∉ ramdisk.ramdiskModules) :
    dep ∈ (leaving ramdisk).children modName ↔
      dep ∈ ramdisk.deps.children modName ∧ dep ∉ ramdisk.ramdiskModules := by
  rw [leaving, ModuleDeps.filterOutDependencies, ramdisk.deps.children_restrict _ (by simpa)]
  simp

theorem leaves_of_moved (moves : modName ∈ ramdisk.movedModules) :
    modName ∉ ramdisk.ramdiskModules :=
  (mem_movedModules.mp moves).2.1

theorem exists_written {entry : Text × List Text} (isEntry : entry ∈ (leaving ramdisk).entries)
    (isName : getNewModName ramdisk.systemDlkmModules entry.1 = modName) :
    ∃ last ∈ (leaving ramdisk).entries,
      getNewModName ramdisk.systemDlkmModules last.1 = modName ∧
      ramdisk.split.vendorDlkmDeps modName =
        some (last.2.map (getNewModName ramdisk.systemDlkmModules)) ∧
      ∀ other ∈ (leaving ramdisk).entries,
        getNewModName ramdisk.systemDlkmModules other.1 = modName → other.1 ≠ last.1 →
          other.1 < last.1 := by
  rcases exists_last isEntry isName with ⟨front, last, back, isEntries, isLast, others⟩
  have lastEntry : last ∈ (leaving ramdisk).entries := by
    rw [isEntries]
    exact List.mem_append_right _ List.mem_cons_self
  refine ⟨last, lastEntry, isLast, ?_, ?_⟩
  · change (leaving ramdisk).entries.foldl (renamed ramdisk.systemDlkmModules) (fun _ => none)
      modName = _
    rw [isEntries]
    exact foldl_renamed_last _ isLast others
  · intro other isOther sameName different
    have sorted := (leaving ramdisk).sorted
    rw [isEntries] at isOther sorted
    rcases List.mem_append.mp isOther with before | later
    · exact (List.pairwise_append.mp sorted).2.2 other before last List.mem_cons_self
    · rcases List.mem_cons.mp later with rfl | behind
      · exact absurd rfl different
      · exact absurd sameName (others other behind)

theorem names_vendorDlkmDeps_iff
    (entries : ∀ gkiModule ∈ ramdisk.systemDlkmModules, (ramdisk.deps.find gkiModule).isSome)
    (isVendor : modName ∈ ramdisk.vendorDlkmModules)
    (isDep : dep ∈ ramdisk.deps.children modName) (leaves : dep ∉ ramdisk.ramdiskModules) :
    Names ramdisk.split.vendorDlkmDeps modName (getNewModName ramdisk.systemDlkmModules dep) ↔
      ∀ gkiModule ∈ ramdisk.systemDlkmModules,
        "/system/lib/modules/".toList ++ gkiModule = modName → modName < gkiModule →
          ∃ other ∈ ramdisk.deps.children gkiModule, other ∉ ramdisk.ramdiskModules ∧
            getNewModName ramdisk.systemDlkmModules other =
              getNewModName ramdisk.systemDlkmModules dep := by
  have notGKI := not_mem_systemDlkmModules isVendor
  have own := getNewModName_of_not_mem notGKI
  have modLeaves := leaves_of_moved (mem_vendorDlkmModules.mp isVendor).1
  have isKept : dep ∈ (leaving ramdisk).children modName :=
    (children_leaving modLeaves).mpr ⟨isDep, leaves⟩
  have ownEntry := (leaving ramdisk).mem_entries_of_mem_children isKept
  rcases exists_written ownEntry own with ⟨last, lastEntry, isLast, written, earlier⟩
  have lastChildren : (leaving ramdisk).children last.1 = last.2 :=
    (leaving ramdisk).children_of_find ((leaving ramdisk).find_eq_some.mpr lastEntry)
  have names : Names ramdisk.split.vendorDlkmDeps modName
      (getNewModName ramdisk.systemDlkmModules dep) ↔ ∃ other ∈ last.2,
        getNewModName ramdisk.systemDlkmModules other =
          getNewModName ramdisk.systemDlkmModules dep := by
    simp only [Names, written, Option.some.injEq, exists_eq_left', List.mem_map]
  rw [names]
  by_cases isGKI : last.1 ∈ ramdisk.systemDlkmModules
  · have replaced : "/system/lib/modules/".toList ++ last.1 = modName :=
      (getNewModName_of_mem isGKI).symm.trans isLast
    have behind : modName < last.1 :=
      earlier _ ownEntry own fun same =>
        notGKI ((show modName = last.1 from same) ▸ isGKI)
    have lastLeaves := leaves_of_moved (mem_systemDlkmModules.mp isGKI).1
    rw [← lastChildren]
    constructor
    · rintro ⟨other, isOther, same⟩ gkiModule - isReplaced -
      obtain rfl : last.1 = gkiModule := List.append_cancel_left (replaced.trans isReplaced.symm)
      rcases (children_leaving lastLeaves).mp isOther with ⟨inChildren, otherLeaves⟩
      exact ⟨other, inChildren, otherLeaves, same⟩
    · intro all
      rcases all last.1 isGKI replaced behind with ⟨other, inChildren, otherLeaves, same⟩
      exact ⟨other, (children_leaving lastLeaves).mpr ⟨inChildren, otherLeaves⟩, same⟩
  · have isOwn : last.1 = modName := (getNewModName_of_not_mem isGKI).symm.trans isLast
    apply iff_of_true
    · rw [← lastChildren, isOwn]
      exact ⟨dep, isKept, rfl⟩
    · -- an entry that gets the name is in front of the last one
      intro gkiModule isSystem replaces behind
      rcases Option.isSome_iff_exists.mp (entries gkiModule isSystem) with ⟨children, found⟩
      have gkiLeaves := leaves_of_moved (mem_systemDlkmModules.mp isSystem).1
      have inLeaving : (gkiModule, children.filter (· ∉ ramdisk.ramdiskModules)) ∈
          (leaving ramdisk).entries := by
        apply (leaving ramdisk).find_eq_some.mp
        rw [leaving, ModuleDeps.filterOutDependencies, ModuleDeps.find_restrict,
          if_pos (by simpa using gkiLeaves), found]
        rfl
      have before : gkiModule < last.1 :=
        earlier _ inLeaving ((getNewModName_of_mem isSystem).trans replaces) fun same =>
          isGKI ((show gkiModule = last.1 from same) ▸ isSystem)
      rw [isOwn] at before
      exact absurd before (List.lt_asymm behind)

theorem names_systemDlkmDeps {gkiModule : Text} (isSystem : gkiModule ∈ ramdisk.systemDlkmModules)
    (isDep : dep ∈ ramdisk.deps.children gkiModule)
    (depSystem : dep ∈ ramdisk.systemDlkmModules) :
    Names ramdisk.split.systemDlkmDeps gkiModule dep := by
  have found := (ramdisk.deps.find_eq_some).mpr (ramdisk.deps.mem_entries_of_mem_children isDep)
  refine ⟨(ramdisk.deps.children gkiModule).filter (· ∈ ramdisk.systemDlkmModules), ?_, ?_⟩
  · change (ramdisk.deps.restrict _).find gkiModule = _
    rw [ModuleDeps.find_restrict, if_pos (by simpa using isSystem), found]
    rfl
  · exact List.mem_filter.mpr ⟨isDep, by simpa using depSystem⟩

theorem splitsWhole_of_keepsLoadable
    (entries : ∀ gkiModule ∈ ramdisk.systemDlkmModules, (ramdisk.deps.find gkiModule).isSome)
    (loadable : KeepsLoadable ramdisk ramdisk.split) : ramdisk.SplitsWhole := by
  have inList : ∀ dep, dep ∈ ramdisk.vendorDlkmModules ∨ dep ∈ ramdisk.systemDlkmModules →
      dep ∈ ramdisk.moduleList := by
    rintro dep (isVendor | isSystem)
    · exact (mem_movedModules.mp (mem_vendorDlkmModules.mp isVendor).1).1
    · exact (mem_movedModules.mp (mem_systemDlkmModules.mp isSystem).1).1
  constructor
  · intro modName moves dep isDep
    rcases mem_vendor_or_system moves with isVendor | isSystem
    · rcases loadable.vendorDlkm modName isVendor dep isDep with stays | ⟨moved, -⟩ | ⟨moved, -⟩
      · exact .inl stays
      · exact .inr (inList dep (.inl moved))
      · exact .inr (inList dep (.inr moved))
    · rcases loadable.systemDlkm modName isSystem dep isDep with stays | ⟨moved, -⟩
      · exact .inl stays
      · exact .inr (inList dep (.inr moved))
  · intro gkiModule isSystem isVendor behind dep isDep leaves
    have named : Names ramdisk.split.vendorDlkmDeps
        ("/system/lib/modules/".toList ++ gkiModule)
        (getNewModName ramdisk.systemDlkmModules dep) := by
      rcases loadable.vendorDlkm _ isVendor dep isDep with stays | ⟨moved, named⟩ | ⟨moved, named⟩
      · exact absurd stays leaves
      · rw [Ramdisk.split_vendorDlkmModules] at moved
        rw [getNewModName_of_not_mem (not_mem_systemDlkmModules moved)]
        exact named
      · rw [Ramdisk.split_systemDlkmModules] at moved
        rw [getNewModName_of_mem moved]
        exact named
    have names := names_vendorDlkmDeps_iff entries isVendor isDep leaves
    exact names.mp named gkiModule isSystem rfl behind

theorem keepsLoadable_of_splitsWhole (complete : ramdisk.Complete)
    (checked : ∀ gkiModule ∈ ramdisk.systemDlkmModules, (ramdisk.deps.find gkiModule).isSome ∧
      ∀ dep ∈ ramdisk.deps.children gkiModule, dep ∉ ramdisk.vendorDlkmModules)
    (whole : ramdisk.SplitsWhole) : KeepsLoadable ramdisk ramdisk.split := by
  have moved : ∀ modName ∈ ramdisk.movedModules, ∀ dep ∈ ramdisk.deps.children modName,
      dep ∉ ramdisk.ramdiskModules → dep ∈ ramdisk.movedModules := by
    intro modName moves dep isDep leaves
    rcases whole.listed modName moves dep isDep with stays | isListed
    · exact absurd stays leaves
    · exact mem_movedModules.mpr ⟨isListed, leaves, (complete modName dep isDep).2⟩
  constructor
  · exact fun modName => in_one_list
  · intro modName stays dep isDep
    exact children_mem_ramdiskModules stays isDep
  · intro gkiModule isSystem
    exact (checked gkiModule isSystem).2
  · intro modName isVendor dep isDep
    by_cases leaves : dep ∈ ramdisk.ramdiskModules
    · exact .inl leaves
    · have named : Names ramdisk.split.vendorDlkmDeps modName
          (getNewModName ramdisk.systemDlkmModules dep) := by
        apply (names_vendorDlkmDeps_iff
          (fun gkiModule isSystem => (checked gkiModule isSystem).1) isVendor isDep leaves).mpr
        rintro gkiModule isSystem rfl behind
        exact whole.distinct gkiModule isSystem isVendor behind dep isDep leaves
      have moves := moved modName (mem_vendorDlkmModules.mp isVendor).1 dep isDep leaves
      rcases mem_vendor_or_system moves with depVendor | depSystem
      · rw [getNewModName_of_not_mem (not_mem_systemDlkmModules depVendor)] at named
        exact .inr (.inl ⟨depVendor, named⟩)
      · rw [getNewModName_of_mem depSystem] at named
        exact .inr (.inr ⟨depSystem, named⟩)
  · intro modName isSystem dep isDep
    by_cases leaves : dep ∈ ramdisk.ramdiskModules
    · exact .inl leaves
    · have moves := moved modName (mem_systemDlkmModules.mp isSystem).1 dep isDep leaves
      rcases mem_vendor_or_system moves with depVendor | depSystem
      · exact absurd depVendor ((checked modName isSystem).2 dep isDep)
      · exact .inr ⟨depSystem, names_systemDlkmDeps isSystem isDep depSystem⟩

end

/-- The modules are split so that each finds its dependencies exactly where all that leaves the
ramdisk is listed, and no entry is replaced. -/
theorem splitRamdiskModules_keeps_loadable_iff {ramdisk : Ramdisk} {split : Split}
    (complete : ramdisk.Complete) (success : ramdisk.splitRamdiskModules = .ok split) :
    KeepsLoadable ramdisk split ↔ ramdisk.SplitsWhole := by
  rcases splitRamdiskModules_eq_ok success with ⟨rfl, checked⟩
  constructor
  · exact splitsWhole_of_keepsLoadable fun gkiModule isSystem => (checked gkiModule isSystem).1
  · exact keepsLoadable_of_splitsWhole complete checked

/-! ## A dependency that is not listed -/

/-- A sound driver and the codec that it depends on, with these to be loaded. -/
def soundRamdisk (moduleList : List String) : Ramdisk where
  moduleList := moduleList.map String.toList
  deps := ⟨[("snd-ac97-codec.ko".toList, []),
    ("snd-intel8x0.ko".toList, ["snd-ac97-codec.ko".toList])], by decide +kernel⟩
  fileExists := fun _ => true
  isKernelModuleSigned := fun _ => false

theorem dep_soundRamdisk {moduleList : List String} {modName dep : Text}
    (isDep : dep ∈ (soundRamdisk moduleList).deps.children modName) :
    dep = "snd-ac97-codec.ko".toList := by
  have member := (soundRamdisk moduleList).deps.mem_entries_of_mem_children isDep
  rcases List.mem_cons.mp member with isCodec | isDriver
  · rw [(Prod.mk.inj isCodec).2] at isDep
    cases isDep
  · rw [(Prod.mk.inj (List.mem_singleton.mp isDriver)).2] at isDep
    exact List.mem_singleton.mp isDep

theorem complete_soundRamdisk (moduleList : List String) :
    (soundRamdisk moduleList).Complete := by
  intro modName dep isDep
  rw [dep_soundRamdisk isDep]
  exact ⟨rfl, rfl⟩

theorem vendorDlkmModules_soundRamdisk {moduleList : List String}
    (isSound : moduleList ⊆ ["snd-ac97-codec.ko", "snd-intel8x0.ko"]) :
    (soundRamdisk moduleList).ramdiskModules = [] ∧
      (soundRamdisk moduleList).vendorDlkmModules = moduleList.map String.toList := by
  have others : ∀ name ∈ ["snd-ac97-codec.ko", "snd-intel8x0.ko"],
      basename name.toList ∉ kRamdiskModules := by
    rw [kRamdiskModules]
    simp only [List.map_cons, List.map_nil, List.forall_mem_cons]
    -- the kernel is slow to decode literals
    repeat rw [String.toList_ofList]
    decide +kernel
  have noStart : getRamdiskModules (moduleList.map String.toList) = [] := by
    apply List.filter_eq_nil_iff.mpr
    intro modName isMember
    rcases List.mem_map.mp isMember with ⟨name, isName, rfl⟩
    simpa using others name (isSound isName)
  have stays : (soundRamdisk moduleList).ramdiskModules = [] := by
    change computeTransitiveClosure (getRamdiskModules (moduleList.map String.toList)) _ = []
    rw [noStart]
    rfl
  refine ⟨stays, ?_⟩
  rw [Ramdisk.vendorDlkmModules, Ramdisk.movedModules, stays]
  change ((moduleList.map String.toList).filter fun modulePath => modulePath ∉ [] && true).filter
    (fun _ => true) = _
  simp

theorem systemDlkmModules_soundRamdisk (moduleList : List String) :
    (soundRamdisk moduleList).systemDlkmModules = [] :=
  List.filter_eq_nil_iff.mpr fun _ _ => Bool.false_ne_true

theorem splitRamdiskModules_soundRamdisk (moduleList : List String) :
    (soundRamdisk moduleList).splitRamdiskModules = .ok (soundRamdisk moduleList).split := by
  rw [Ramdisk.splitRamdiskModules, systemDlkmModules_soundRamdisk]
  rfl

theorem splitRamdiskModules_keeps_loadable_sound :
    KeepsLoadable (soundRamdisk ["snd-ac97-codec.ko", "snd-intel8x0.ko"])
      (soundRamdisk ["snd-ac97-codec.ko", "snd-intel8x0.ko"]).split := by
  apply (splitRamdiskModules_keeps_loadable_iff (complete_soundRamdisk _)
    (splitRamdiskModules_soundRamdisk _)).mpr
  constructor
  · intro modName _ dep isDep
    rw [dep_soundRamdisk isDep]
    exact .inr List.mem_cons_self
  · intro gkiModule isSystem
    rw [systemDlkmModules_soundRamdisk] at isSystem
    cases isSystem

/-- The driver moves, and its codec is in no list. -/
theorem unlisted_dependency_lost :
    (soundRamdisk ["snd-intel8x0.ko"]).Complete ∧
      (soundRamdisk ["snd-intel8x0.ko"]).splitRamdiskModules =
        .ok (soundRamdisk ["snd-intel8x0.ko"]).split ∧
      ¬ KeepsLoadable (soundRamdisk ["snd-intel8x0.ko"])
        (soundRamdisk ["snd-intel8x0.ko"]).split := by
  refine ⟨complete_soundRamdisk _, splitRamdiskModules_soundRamdisk _, ?_⟩
  intro loadable
  have isSound : ["snd-intel8x0.ko"] ⊆ ["snd-ac97-codec.ko", "snd-intel8x0.ko"] := by simp
  rcases vendorDlkmModules_soundRamdisk isSound with ⟨noRamdisk, isVendorDlkm⟩
  have driver : "snd-intel8x0.ko".toList ∈
      (soundRamdisk ["snd-intel8x0.ko"]).split.vendorDlkmModules := by
    rw [Ramdisk.split_vendorDlkmModules, isVendorDlkm]
    exact List.mem_singleton_self _
  rcases loadable.vendorDlkm _ driver "snd-ac97-codec.ko".toList List.mem_cons_self with
    stays | ⟨isVendor, -⟩ | ⟨isSystem, -⟩
  · rw [Ramdisk.split_ramdiskModules, noRamdisk] at stays
    cases stays
  · rw [Ramdisk.split_vendorDlkmModules, isVendorDlkm] at isVendor
    simp at isVendor
  · rw [Ramdisk.split_systemDlkmModules, systemDlkmModules_soundRamdisk] at isSystem
    cases isSystem

end Cuttlefish.AssembleCvd.RamdiskModules
