import Cuttlefish.ImageAggregator.PartitionTable

/-! # Composite super images

The components that `CompositeSuperImageBuilder::WriteToDirectory` puts between and behind the
images of the logical partitions, so that every byte of the block device is mapped to something. -/

namespace Cuttlefish.ImageAggregator.CompositeSuperImageBuilder

open Fs

variable {host : Host} {files : FileSystem} {headerPath : Path} {size : UInt64}

/-- `ComponentDisk` of `cdisk_spec.proto`, with the path of its file. All components of a super
image are `READ_WRITE`. -/
structure Component where
  filePath : Path
  offset : UInt64
  deriving DecidableEq, Repr

def headerComponent (headerPath : Path) : Component := ⟨headerPath, 0⟩

/-- The loop over the components from `it` on, which inserts components behind `it` while there is
a hole. -/
def fillHoles (host : Host) (files : FileSystem) (headerPath : Path) (size : UInt64) :
    (fuel : Nat) → (it : Component) → (rest : List Component) → Option (Result (List Component))
  | 0, _, _ => none
  | fuel + 1, it, rest =>
      match expandedStorageSize host files it.filePath with
      | .error failure => some (.error failure)
      | .ok partSize =>
          let finish := it.offset + partSize
          let nextOffset := match rest with
            | [] => size
            | next :: _ => next.offset
          if finish < nextOffset then
            (fillHoles host files headerPath size fuel ⟨headerPath, finish⟩ rest).map
              (·.map (it :: ·))
          else
            match rest with
            | [] => some (.ok [it])
            | next :: rest =>
                (fillHoles host files headerPath size fuel next rest).map (·.map (it :: ·))

/-! ## What the loop leaves behind -/

def Component.Maps (host : Host) (files : FileSystem) (component : Component) (byte : Nat) : Prop :=
  ∃ partSize, expandedStorageSize host files component.filePath = .ok partSize ∧
    component.offset.toNat ≤ byte ∧ byte < component.offset.toNat + partSize.toNat

/-- The components are in order, the original ones are among them, and together they map every
byte from `start` to the end. -/
structure Filled (host : Host) (files : FileSystem) (size : UInt64) (start : Nat)
    (originals filled : List Component) : Prop where
  sorted : filled.Pairwise fun first second => first.offset.toNat ≤ second.offset.toNat
  behind : ∀ component ∈ filled, start ≤ component.offset.toNat
  originals : originals.Sublist filled
  covered : ∀ byte, start ≤ byte → byte < size.toNat →
    ∃ component ∈ filled, component.Maps host files byte

/-- The loop ends at some time with components that fill what is behind `it`. -/
def Fills (host : Host) (files : FileSystem) (headerPath : Path) (size : UInt64)
    (it : Component) (rest : List Component) : Prop :=
  ∃ fuel filled, fillHoles host files headerPath size fuel it rest = some (.ok filled) ∧
    Filled host files size it.offset.toNat (it :: rest) filled

/-- The file of a component is known, and it ends below 2^64. -/
structure Ends (host : Host) (files : FileSystem) (it : Component) (finish : Nat) : Prop where
  known : ∃ partSize, expandedStorageSize host files it.filePath = .ok partSize ∧
    finish = it.offset.toNat + partSize.toNat
  fits : finish < 18446744073709551616

theorem Ends.sum {it : Component} {finish : Nat} (ends : Ends host files it finish) :
    ∃ partSize, expandedStorageSize host files it.filePath = .ok partSize ∧
      (it.offset + partSize).toNat = finish ∧ finish = it.offset.toNat + partSize.toNat := by
  rcases ends.known with ⟨partSize, isKnown, isFinish⟩
  refine ⟨partSize, isKnown, ?_, isFinish⟩
  have fits := ends.fits
  rw [UInt64.toNat_add, ← isFinish]
  exact Nat.mod_eq_of_lt fits

theorem Filled.cons {it : Component} {finish start : Nat} {originals rest filled : List Component}
    (ends : Ends host files it finish) (later : Filled host files size start originals filled)
    (starts : it.offset.toNat ≤ start) (reaches : start ≤ finish)
    (kept : rest.Sublist filled) :
    Filled host files size it.offset.toNat (it :: rest) (it :: filled) := by
  constructor
  · refine List.pairwise_cons.mpr ⟨?_, later.sorted⟩
    intro component member
    exact Nat.le_trans starts (later.behind component member)
  · refine List.forall_mem_cons.mpr ⟨Nat.le_refl _, ?_⟩
    intro component member
    exact Nat.le_trans starts (later.behind component member)
  · exact kept.cons_cons it
  · intro byte first inside
    by_cases mapped : byte < start
    · rcases ends.known with ⟨partSize, isKnown, isFinish⟩
      exact ⟨it, List.mem_cons_self, partSize, isKnown, first, by omega⟩
    · rcases later.covered byte (Nat.not_lt.mp mapped) inside with ⟨component, member, maps⟩
      exact ⟨component, List.mem_cons_of_mem it member, maps⟩

/-! ## One step of the loop -/

def nextOffset (size : UInt64) (rest : List Component) : Nat :=
  ((rest.map Component.offset).headD size).toNat

theorem fills_last {it : Component} {finish : Nat} (ends : Ends host files it finish)
    (reaches : size.toNat ≤ finish) : Fills host files headerPath size it [] := by
  rcases ends.sum with ⟨partSize, isKnown, sum, isFinish⟩
  have noHole : ¬ it.offset + partSize < size := by
    rw [UInt64.lt_iff_toNat_lt, sum]
    omega
  refine ⟨1, [it], ?_, ?_⟩
  · rw [fillHoles, isKnown]
    exact if_neg noHole
  · refine ⟨List.pairwise_singleton _ it, ?_, List.Sublist.refl _, ?_⟩
    · intro component member
      exact Nat.le_of_eq (congrArg (·.offset.toNat) (List.mem_singleton.mp member).symm)
    · intro byte first inside
      exact ⟨it, List.mem_singleton_self it, partSize, isKnown, first, by omega⟩

theorem fills_next {it next : Component} {rest : List Component} {finish : Nat}
    (ends : Ends host files it finish) (starts : it.offset.toNat ≤ next.offset.toNat)
    (reaches : next.offset.toNat ≤ finish) (later : Fills host files headerPath size next rest) :
    Fills host files headerPath size it (next :: rest) := by
  rcases ends.sum with ⟨partSize, isKnown, sum, -⟩
  rcases later with ⟨fuel, filled, runs, isFilled⟩
  have noHole : ¬ it.offset + partSize < next.offset := by
    rw [UInt64.lt_iff_toNat_lt, sum]
    omega
  refine ⟨fuel + 1, it :: filled, ?_, isFilled.cons ends starts reaches isFilled.originals⟩
  rw [fillHoles, isKnown]
  dsimp only
  rw [if_neg noHole, runs]
  rfl

theorem fills_hole {it : Component} {rest : List Component} {finish : Nat}
    (ends : Ends host files it finish)
    (hole : finish < nextOffset size rest)
    (later : Fills host files headerPath size ⟨headerPath, .ofNat finish⟩ rest) :
    Fills host files headerPath size it rest := by
  rcases ends.sum with ⟨partSize, isKnown, sum, isFinish⟩
  rcases later with ⟨fuel, filled, runs, isFilled⟩
  have isEnd : UInt64.ofNat finish = it.offset + partSize := by
    rw [← sum, UInt64.ofNat_toNat]
  have start : (UInt64.ofNat finish).toNat = finish := by rw [isEnd, sum]
  have starts : it.offset.toNat ≤ (UInt64.ofNat finish).toNat := by omega
  refine ⟨fuel + 1, it :: filled, ?_, isFilled.cons ends starts (Nat.le_of_eq start) ?_⟩
  · rw [isEnd] at runs
    cases rest with
    | nil =>
        have less : it.offset + partSize < size := by
          rw [UInt64.lt_iff_toNat_lt, sum]
          exact hole
        rw [fillHoles, isKnown]
        simp only [if_pos less, runs]
        rfl
    | cons next rest =>
        have less : it.offset + partSize < next.offset := by
          rw [UInt64.lt_iff_toNat_lt, sum]
          exact hole
        rw [fillHoles, isKnown]
        simp only [if_pos less, runs]
        rfl
  · exact (List.sublist_cons_self _ rest).trans isFilled.originals

/-! ## The whole loop -/

section

variable {headerSize : UInt64}
  (headerKnown : expandedStorageSize host files headerPath = .ok headerSize)
  (positive : 0 < headerSize.toNat)
  (fits : size.toNat + headerSize.toNat ≤ 18446744073709551616)

include headerKnown positive fits in
theorem fills_headers {rest : List Component} (inside : nextOffset size rest ≤ size.toNat)
    (reached : ∀ it finish, Ends host files it finish → it.offset.toNat ≤ nextOffset size rest →
      nextOffset size rest ≤ finish → Fills host files headerPath size it rest)
    {start : Nat} (hole : start < nextOffset size rest) :
    Fills host files headerPath size ⟨headerPath, .ofNat start⟩ rest := by
  obtain ⟨left, isLeft⟩ : ∃ left, nextOffset size rest - start = left := ⟨_, rfl⟩
  induction left using Nat.strongRecOn generalizing start with
  | ind left induction =>
      have small := size.toNat_lt
      have isStart : (UInt64.ofNat start).toNat = start := by
        rw [UInt64.toNat_ofNat']
        exact Nat.mod_eq_of_lt (by omega)
      have ends : Ends host files ⟨headerPath, .ofNat start⟩ (start + headerSize.toNat) :=
        ⟨⟨headerSize, headerKnown, by rw [isStart]⟩, by omega⟩
      by_cases again : start + headerSize.toNat < nextOffset size rest
      · apply fills_hole ends again
        exact induction (nextOffset size rest - (start + headerSize.toNat)) (by omega) again rfl
      · apply reached _ _ ends
        · rw [isStart]
          exact Nat.le_of_lt hole
        · exact Nat.not_lt.mp again

include headerKnown positive fits in
theorem fills_of_ends {rest : List Component}
    (sorted : rest.Pairwise fun first second => first.offset.toNat ≤ second.offset.toNat)
    (placed : ∀ component ∈ rest, ∃ finish, Ends host files component finish ∧
      finish ≤ size.toNat)
    {it : Component} {finish : Nat} (ends : Ends host files it finish)
    (starts : it.offset.toNat ≤ nextOffset size rest) :
    Fills host files headerPath size it rest := by
  induction rest generalizing it finish with
  | nil =>
      by_cases hole : finish < nextOffset size []
      · apply fills_hole ends hole
        apply fills_headers headerKnown positive fits (Nat.le_refl _) _ hole
        intro other end_ otherEnds _ reaches
        exact fills_last otherEnds reaches
      · exact fills_last ends (Nat.not_lt.mp hole)
  | cons next rest induction =>
      rcases List.pairwise_cons.mp sorted with ⟨first, sortedRest⟩
      rcases List.forall_mem_cons.mp placed with ⟨placedNext, placedRest⟩
      rcases placedNext with ⟨nextEnd, nextEnds, nextInside⟩
      have inside : nextOffset size (next :: rest) ≤ size.toNat := by
        rcases nextEnds.known with ⟨partSize, -, isEnd⟩
        change next.offset.toNat ≤ size.toNat
        omega
      have before : next.offset.toNat ≤ nextOffset size rest := by
        cases rest with
        | nil => exact inside
        | cons other rest => exact first other List.mem_cons_self
      have later := induction sortedRest placedRest nextEnds before
      by_cases hole : finish < nextOffset size (next :: rest)
      · apply fills_hole ends hole
        apply fills_headers headerKnown positive fits inside _ hole
        intro other end_ otherEnds otherStarts reaches
        exact fills_next otherEnds otherStarts reaches later
      · exact fills_next ends starts (Nat.not_lt.mp hole) later

end

structure FileSize where
  bytes : UInt64
  isOff : bytes.toNat ≤ maxFileSize

/-- Whatever the sizes of the block device and of the header are, the loop ends, and the
components it leaves are in order, have the original ones among them and leave out no byte. -/
theorem fillHoles_fills (host : Host) (files : FileSystem) (headerPath : Path)
    (size headerSize : FileSize)
    (headerKnown : expandedStorageSize host files headerPath = .ok headerSize.bytes)
    (positive : 0 < headerSize.bytes) {components : List Component}
    (sorted : components.Pairwise fun first second => first.offset ≤ second.offset)
    (placed : ∀ component ∈ components, ∃ partSize,
      expandedStorageSize host files component.filePath = .ok partSize ∧
        component.offset.toNat + partSize.toNat ≤ size.bytes.toNat) :
    ∃ fuel filled, fillHoles host files headerPath size.bytes fuel (headerComponent headerPath)
        components = some (.ok filled) ∧
      Filled host files size.bytes 0 (headerComponent headerPath :: components) filled := by
  have sizeBound : size.bytes.toNat ≤ 9223372036854775807 := size.isOff
  have headerBound : headerSize.bytes.toNat ≤ 9223372036854775807 := headerSize.isOff
  have ends : Ends host files (headerComponent headerPath) headerSize.bytes.toNat :=
    ⟨⟨headerSize.bytes, headerKnown, (Nat.zero_add _).symm⟩, by omega⟩
  apply fills_of_ends headerKnown (UInt64.lt_iff_toNat_lt.mp positive) (by omega) _ _ ends
    (Nat.zero_le _)
  · exact sorted.imp UInt64.le_iff_toNat_le.mp
  · intro component member
    rcases placed component member with ⟨partSize, isKnown, inside⟩
    exact ⟨_, ⟨⟨partSize, isKnown, rfl⟩, by omega⟩, inside⟩

def superFiles : FileSystem where
  content path :=
    if path = "/super_header.img" then some (sampleImage 3)
    else if path = "/system.img" then some (sampleImage 1)
    else none

theorem fillHoles_fills_super :
    ∃ fuel filled, fillHoles sampleHost superFiles "/super_header.img" 8 fuel
        (headerComponent "/super_header.img") [⟨"/system.img", 5⟩] = some (.ok filled) ∧
      Filled sampleHost superFiles 8 0
        [headerComponent "/super_header.img", ⟨"/system.img", 5⟩] filled := by
  have placed : ∀ component ∈ [(⟨"/system.img", 5⟩ : Component)], ∃ partSize,
      expandedStorageSize sampleHost superFiles component.filePath = .ok partSize ∧
        component.offset.toNat + partSize.toNat ≤ (8 : UInt64).toNat := by
    intro component member
    rw [List.mem_singleton.mp member]
    exact ⟨1, rfl, by decide⟩
  exact fillHoles_fills sampleHost superFiles "/super_header.img" ⟨8, by decide⟩ ⟨3, by decide⟩ rfl
    (by decide) (List.pairwise_singleton _ _) placed

end Cuttlefish.ImageAggregator.CompositeSuperImageBuilder
