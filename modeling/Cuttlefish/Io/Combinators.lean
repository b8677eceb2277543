import Cuttlefish.Foundation.MachineInt
import Cuttlefish.Foundation.OrderedMap
import Cuttlefish.Io.FileCursor
import Cuttlefish.Io.InMemory

/-! # Readers made from readers

`ReadWindowView` and `ConcatReaderSeeker` only implement `PRead`; their cursor is
that of `ReaderFakeSeeker`. A tree of them over readers in memory denotes a byte
string, and reads as that byte string. -/

namespace Cuttlefish.Io

abbrev PRead := (count offset : Nat) → Result Bytes

structure ReaderFakeSeeker where
  pread : PRead
  length : Nat
  seekPos : Nat

namespace ReaderFakeSeeker

def ofLength (pread : PRead) (length : Nat) : ReaderFakeSeeker := ⟨pread, length, 0⟩

def read (seeker : ReaderFakeSeeker) (count : Nat) : Result Bytes × ReaderFakeSeeker :=
  match seeker.pread count seeker.seekPos with
  | .error failure => (.error failure, seeker)
  | .ok bytes =>
      (.ok bytes,
        { seeker with seekPos := (seeker.seekPos + bytes.length) % 18446744073709551616 })

def seekSet (seeker : ReaderFakeSeeker) (offset : Nat) : Result Nat × ReaderFakeSeeker :=
  (.ok (min offset seeker.length), { seeker with seekPos := min offset seeker.length })

def seekFrom (seeker : ReaderFakeSeeker) (start : Nat) (off : Int) :
    Result Nat × ReaderFakeSeeker :=
  seeker.seekSet (toUInt64 (max (toInt64 start + off) 0))

def reader : ReaderSeeker ReaderFakeSeeker where
  read := read
  seekSet := seekSet
  seekCur seeker off := seeker.seekFrom seeker.seekPos off
  seekEnd seeker off := seeker.seekFrom seeker.length off
  pread seeker := seeker.pread

end ReaderFakeSeeker

/-- A `std::unique_ptr<ReaderSeeker>` to one of the classes. -/
inductive OpenReader
  | inMemory (io : InMemoryIo)
  | fakeSeeker (seeker : ReaderFakeSeeker)

namespace OpenReader

def reader : ReaderSeeker OpenReader where
  read
    | .inMemory io, count => (InMemoryIo.reader.read io count).map id .inMemory
    | .fakeSeeker seeker, count => (ReaderFakeSeeker.reader.read seeker count).map id .fakeSeeker
  seekSet
    | .inMemory io, offset => (InMemoryIo.reader.seekSet io offset).map id .inMemory
    | .fakeSeeker seeker, offset =>
        (ReaderFakeSeeker.reader.seekSet seeker offset).map id .fakeSeeker
  seekCur
    | .inMemory io, offset => (InMemoryIo.reader.seekCur io offset).map id .inMemory
    | .fakeSeeker seeker, offset =>
        (ReaderFakeSeeker.reader.seekCur seeker offset).map id .fakeSeeker
  seekEnd
    | .inMemory io, offset => (InMemoryIo.reader.seekEnd io offset).map id .inMemory
    | .fakeSeeker seeker, offset =>
        (ReaderFakeSeeker.reader.seekEnd seeker offset).map id .fakeSeeker
  pread
    | .inMemory io => InMemoryIo.reader.pread io
    | .fakeSeeker seeker => ReaderFakeSeeker.reader.pread seeker

end OpenReader

namespace ReadWindowView

def pread (dataProvider : PRead) (start length : Nat) : PRead := fun count offset =>
  if length ≤ offset then .ok []
  else dataProvider (min count (length - offset)) ((offset + start) % 18446744073709551616)

def create (dataProvider : OpenReader) (start length : Nat) : OpenReader :=
  .fakeSeeker (.ofLength (pread (OpenReader.reader.pread dataProvider) start length) length)

end ReadWindowView

namespace ConcatReaderSeeker

def pread (offToReader : OrderedMap PRead) : PRead := fun count offset =>
  match offToReader.floor offset with
  | none => .error (.err "Could not find first reader")
  | some (first, reader) => reader count (offset - first).toNat

def addReaders : List (Option OpenReader) → (offset : Nat) → OrderedMap PRead →
    Result (OrderedMap PRead × Nat)
  | [], offset, offToReader => .ok (offToReader, offset)
  | none :: _, _, _ => .error (.err "reader.get()")
  | some reader :: rest, offset, offToReader =>
      match OpenReader.reader.length reader with
      | (.error failure, _) => .error failure
      | (.ok length, reader) =>
          addReaders rest ((offset + length) % 18446744073709551616)
            (offToReader.insert offset (OpenReader.reader.pread reader))

def create (readers : List (Option OpenReader)) : Result OpenReader := do
  cfExpect (!readers.isEmpty) "Received empty list"
  let (offToReader, length) ← addReaders readers 0 .empty
  return .fakeSeeker (.ofLength (pread offToReader) length)

end ConcatReaderSeeker

/-! ## Trees of readers -/

inductive ReaderTree
  | inMemory (data : Bytes)
  | window (start length : Nat) (underlying : ReaderTree)
  | concat (members : List ReaderTree)

namespace ReaderTree

def denote : ReaderTree → Bytes
  | .inMemory data => data
  | .window start length underlying => underlying.denote.readAt start length
  | .concat members => denoteAll members
where
  denoteAll : List ReaderTree → Bytes
    | [] => []
    | member :: rest => member.denote ++ denoteAll rest

/-- Make the readers of a tree from the leaves up. -/
def build : ReaderTree → Result OpenReader
  | .inMemory data => .ok (.inMemory (.ofData data))
  | .window start length underlying => do
      let dataProvider ← underlying.build
      return ReadWindowView.create dataProvider start length
  | .concat members => do
      let readers ← buildAll members
      ConcatReaderSeeker.create readers
where
  buildAll : List ReaderTree → Result (List (Option OpenReader))
    | [] => .ok []
    | member :: rest => do
        let reader ← member.build
        let readers ← buildAll rest
        return some reader :: readers

def Inside : ReaderTree → Prop
  | .inMemory _ => True
  | .window start length underlying =>
      start + length ≤ underlying.denote.length ∧ underlying.Inside
  | .concat members => AllInside members
where
  AllInside : List ReaderTree → Prop
    | [] => True
    | member :: rest => member.Inside ∧ AllInside rest

/-- Concatenations have members, and positions fit in an `int64_t`. -/
def Representable : ReaderTree → Prop
  | .inMemory data => data.length < 9223372036854775808
  | .window _ _ underlying => underlying.Representable
  | .concat members =>
      members ≠ [] ∧ (denote.denoteAll members).length < 9223372036854775808 ∧
        AllRepresentable members
where
  AllRepresentable : List ReaderTree → Prop
    | [] => True
    | member :: rest => member.Representable ∧ AllRepresentable rest

end ReaderTree

/-! ## Each class serves its content -/

def PReads (pread : PRead) (content : Bytes) : Prop :=
  ∀ count offset, ∃ bytes, pread count offset = .ok bytes ∧
    ReadsFrom content offset count bytes

namespace ReaderFakeSeeker

theorem seekSet_within {seeker : ReaderFakeSeeker} {offset : Nat}
    (within : offset ≤ seeker.length) :
    seeker.seekSet offset = (.ok offset, { seeker with seekPos := offset }) := by
  rw [seekSet, Nat.min_eq_left within]

theorem seekFrom_zero {seeker : ReaderFakeSeeker} {start : Nat}
    (within : start ≤ seeker.length) (fits : seeker.length < 9223372036854775808) :
    seeker.seekFrom start 0 = (.ok start, { seeker with seekPos := start }) := by
  have target : toUInt64 (max (toInt64 start + 0) 0) = start := by
    rw [toInt64, if_pos (by omega), toUInt64]
    omega
  rw [seekFrom, target, seekSet_within within]

def serves (content : Bytes) : Serves reader content where
  Valid seeker := PReads seeker.pread content ∧ seeker.length = content.length ∧
    seeker.seekPos ≤ content.length ∧ content.length < 9223372036854775808
  position := seekPos
  position_le _ valid := valid.2.2.1
  read seeker count valid := by
    rcases valid with ⟨preads, isLength, bound, fits⟩
    rcases preads count seeker.seekPos with ⟨bytes, returned, reads⟩
    have within := reads.within bound
    have position : (seeker.seekPos + bytes.length) % 18446744073709551616 =
        seeker.seekPos + bytes.length := Nat.mod_eq_of_lt (by omega)
    refine ⟨bytes, { seeker with seekPos := seeker.seekPos + bytes.length }, ?_, reads,
      ⟨preads, isLength, within, fits⟩, rfl⟩
    simp only [reader, read, returned, position]
  seekSet seeker offset valid within := by
    rcases valid with ⟨preads, isLength, bound, fits⟩
    exact ⟨_, seekSet_within (isLength ▸ within), ⟨preads, isLength, within, fits⟩, rfl⟩
  seekCur seeker valid := by
    rcases valid with ⟨preads, isLength, bound, fits⟩
    exact ⟨_, seekFrom_zero (by omega) (by omega), ⟨preads, isLength, bound, fits⟩, rfl⟩
  seekEnd seeker valid := by
    rcases valid with ⟨preads, isLength, bound, fits⟩
    refine ⟨{ seeker with seekPos := seeker.length }, ?_,
      ⟨preads, isLength, Nat.le_of_eq isLength, fits⟩, isLength⟩
    rw [← isLength]
    exact seekFrom_zero (Nat.le_refl _) (by omega)
  pread seeker count offset valid := valid.1 count offset

end ReaderFakeSeeker

namespace OpenReader

/-- A call to an object through its interface is the call to its class. -/
def serves (content : Bytes) : Serves reader content where
  Valid
    | .inMemory io => (InMemoryIo.serves content).Valid io
    | .fakeSeeker seeker => (ReaderFakeSeeker.serves content).Valid seeker
  position
    | .inMemory io => (InMemoryIo.serves content).position io
    | .fakeSeeker seeker => (ReaderFakeSeeker.serves content).position seeker
  position_le opened valid := by
    cases opened with
    | inMemory io => exact (InMemoryIo.serves content).position_le io valid
    | fakeSeeker seeker => exact (ReaderFakeSeeker.serves content).position_le seeker valid
  read opened count valid := by
    cases opened with
    | inMemory io =>
        rcases (InMemoryIo.serves content).read io count valid with ⟨bytes, next, read, rest⟩
        exact ⟨bytes, .inMemory next, by simp only [reader, read, Prod.map_apply, id], rest⟩
    | fakeSeeker seeker =>
        rcases (ReaderFakeSeeker.serves content).read seeker count valid with
          ⟨bytes, next, read, rest⟩
        exact ⟨bytes, .fakeSeeker next, by simp only [reader, read, Prod.map_apply, id], rest⟩
  seekSet opened offset valid within := by
    cases opened with
    | inMemory io =>
        rcases (InMemoryIo.serves content).seekSet io offset valid within with
          ⟨next, set, rest⟩
        exact ⟨.inMemory next, by simp only [reader, set, Prod.map_apply, id], rest⟩
    | fakeSeeker seeker =>
        rcases (ReaderFakeSeeker.serves content).seekSet seeker offset valid within with
          ⟨next, set, rest⟩
        exact ⟨.fakeSeeker next, by simp only [reader, set, Prod.map_apply, id], rest⟩
  seekCur opened valid := by
    cases opened with
    | inMemory io =>
        rcases (InMemoryIo.serves content).seekCur io valid with ⟨next, cur, rest⟩
        exact ⟨.inMemory next, by simp only [reader, cur, Prod.map_apply, id], rest⟩
    | fakeSeeker seeker =>
        rcases (ReaderFakeSeeker.serves content).seekCur seeker valid with ⟨next, cur, rest⟩
        exact ⟨.fakeSeeker next, by simp only [reader, cur, Prod.map_apply, id], rest⟩
  seekEnd opened valid := by
    cases opened with
    | inMemory io =>
        rcases (InMemoryIo.serves content).seekEnd io valid with ⟨next, last, rest⟩
        exact ⟨.inMemory next, by simp only [reader, last, Prod.map_apply, id], rest⟩
    | fakeSeeker seeker =>
        rcases (ReaderFakeSeeker.serves content).seekEnd seeker valid with ⟨next, last, rest⟩
        exact ⟨.fakeSeeker next, by simp only [reader, last, Prod.map_apply, id], rest⟩
  pread opened count offset valid := by
    cases opened with
    | inMemory io => exact (InMemoryIo.serves content).pread io count offset valid
    | fakeSeeker seeker => exact (ReaderFakeSeeker.serves content).pread seeker count offset valid

theorem preads {content : Bytes} {opened : OpenReader}
    (valid : (serves content).Valid opened) : PReads (reader.pread opened) content :=
  fun count offset => (serves content).pread opened count offset valid

theorem valid_ofLength {content : Bytes} {pread : PRead} {length : Nat}
    (preads : PReads pread content) (isLength : length = content.length)
    (fits : content.length < 9223372036854775808) :
    (serves content).Valid (.fakeSeeker (.ofLength pread length)) ∧
      (serves content).position (.fakeSeeker (.ofLength pread length)) = 0 :=
  ⟨⟨preads, isLength, Nat.zero_le _, fits⟩, rfl⟩

end OpenReader

/-! ## Windows -/

theorem ReadsFrom.slice {content bytes : Bytes} {start length count offset : Nat}
    (inside : start + length ≤ content.length) (before : offset < length)
    (reads : ReadsFrom content (offset + start) (min count (length - offset)) bytes) :
    ReadsFrom (content.readAt start length) offset count bytes where
  isSlice := by
    have bound := reads.length_le
    rw [Bytes.readAt_readAt content start length (by omega), Nat.add_comm start offset]
    exact reads.isSlice
  length_le := by
    have bound := reads.length_le
    omega
  eq_nil empty := by
    rcases reads.eq_nil empty with none | passed
    · exact .inl (by omega)
    · omega

theorem ReadsFrom.atEnd {content : Bytes} {offset : Nat} (count : Nat)
    (passed : content.length ≤ offset) : ReadsFrom content offset count [] where
  isSlice := by simp [Bytes.readAt]
  length_le := Nat.zero_le _
  eq_nil _ := .inr passed

theorem ReadWindowView.preads {dataProvider : PRead} {content : Bytes} {start length : Nat}
    (provided : PReads dataProvider content) (inside : start + length ≤ content.length)
    (fits : content.length < 9223372036854775808) :
    PReads (ReadWindowView.pread dataProvider start length)
      (content.readAt start length) := by
  intro count offset
  have sliceLength : (content.readAt start length).length = length := by
    rw [Bytes.readAt_length]
    omega
  rw [ReadWindowView.pread]
  split
  · rename_i passed
    exact ⟨[], rfl, ReadsFrom.atEnd count (by omega)⟩
  · rename_i notPassed
    have target : (offset + start) % 18446744073709551616 = offset + start :=
      Nat.mod_eq_of_lt (by omega)
    rcases provided (min count (length - offset)) (offset + start) with
      ⟨bytes, returned, reads⟩
    rw [target]
    exact ⟨bytes, returned, reads.slice inside (by omega)⟩

/-! ## Concatenations -/

theorem ReadsFrom.append_left {front bytes : Bytes} {offset count : Nat} (content : Bytes)
    (before : offset < front.length) (reads : ReadsFrom front offset count bytes) :
    ReadsFrom (front ++ content) offset count bytes where
  isSlice := by
    have within := reads.within (by omega)
    rw [Bytes.readAt_append_left content within]
    exact reads.isSlice
  length_le := reads.length_le
  eq_nil empty := by
    rcases reads.eq_nil empty with none | passed
    · exact .inl none
    · omega

theorem ReadsFrom.append_right {content bytes : Bytes} {offset count : Nat} (front : Bytes)
    (reached : front.length ≤ offset)
    (reads : ReadsFrom content (offset - front.length) count bytes) :
    ReadsFrom (front ++ content) offset count bytes where
  isSlice := by
    have isOffset : offset = front.length + (offset - front.length) := by omega
    rw [isOffset, Bytes.readAt_append_right]
    exact reads.isSlice
  length_le := reads.length_le
  eq_nil empty := by
    rcases reads.eq_nil empty with none | passed
    · exact .inl none
    · refine .inr ?_
      rw [List.length_append]
      omega

namespace ConcatReaderSeeker

/-- The readers that the loop of `Create` has put into the map read the content
that they have together. Behind it there may be no reader yet. -/
structure Holds (offToReader : OrderedMap PRead) (content : Bytes) : Prop where
  before : ∀ entry ∈ offToReader.entries, entry.1 ≤ content.length
  reads : ∀ count offset, offset < content.length → ∃ bytes,
    pread offToReader count offset = .ok bytes ∧ ReadsFrom content offset count bytes

theorem holds_empty : Holds .empty [] where
  before entry member := by cases member
  reads count offset less := absurd less (Nat.not_lt_zero offset)

theorem Holds.insert {offToReader : OrderedMap PRead} {front content : Bytes}
    {reader : PRead} (holds : Holds offToReader front) (preads : PReads reader content) :
    PReads (pread (offToReader.insert front.length reader)) (front ++ content) := by
  intro count offset
  by_cases less : offset < front.length
  · rcases holds.reads count offset less with ⟨bytes, returned, reads⟩
    refine ⟨bytes, ?_, reads.append_left content less⟩
    rw [pread, OrderedMap.floor_insert_of_lt offToReader reader (by omega)]
    exact returned
  · rcases preads count (offset - front.length) with ⟨bytes, returned, reads⟩
    refine ⟨bytes, ?_, reads.append_right front (by omega)⟩
    have segmentBegin : ((offset : Int) - (front.length : Int)).toNat =
        offset - front.length := by omega
    rw [pread, OrderedMap.floor_insert_of_le offToReader reader holds.before (by omega)]
    simp only [segmentBegin]
    exact returned

theorem Holds.insert_holds {offToReader : OrderedMap PRead} {front content : Bytes}
    {reader : PRead} (holds : Holds offToReader front) (preads : PReads reader content) :
    Holds (offToReader.insert front.length reader) (front ++ content) where
  before entry member := by
    rw [List.length_append]
    rcases OrderedMap.mem_of_mem_insert member with isNew | old
    · rw [isNew]
      dsimp only
      omega
    · have bound := holds.before entry old
      omega
  reads count offset _ := holds.insert preads count offset

inductive Opened : List (Option OpenReader) → List Bytes → Prop
  | nil : Opened [] []
  | cons {reader : OpenReader} {content : Bytes} {readers : List (Option OpenReader)}
      {contents : List Bytes} (valid : (OpenReader.serves content).Valid reader)
      (rest : Opened readers contents) :
      Opened (some reader :: readers) (content :: contents)

theorem addReaders_opened {readers : List (Option OpenReader)} {contents : List Bytes}
    (opened : Opened readers contents) {front : Bytes} {offToReader : OrderedMap PRead}
    (holds : Holds offToReader front)
    (fits : (front ++ contents.flatten).length < 18446744073709551616) :
    ∃ final, addReaders readers front.length offToReader =
        .ok (final, (front ++ contents.flatten).length) ∧
      Holds final (front ++ contents.flatten) ∧
      (readers ≠ [] → PReads (pread final) (front ++ contents.flatten)) := by
  induction opened generalizing front offToReader with
  | nil =>
      rw [List.flatten_nil, List.append_nil]
      exact ⟨offToReader, rfl, holds, fun some => absurd rfl some⟩
  | @cons reader content readers contents valid rest induction =>
      rcases (OpenReader.serves content).length valid with ⟨next, isLength, validNext, -⟩
      have preads := OpenReader.preads validNext
      have inserted := holds.insert_holds preads
      have whole : front ++ (content :: contents).flatten =
          (front ++ content) ++ contents.flatten := by
        rw [List.flatten_cons, List.append_assoc]
      rw [whole] at fits ⊢
      have offset : (front.length + content.length) % 18446744073709551616 =
          (front ++ content).length := by
        rw [List.length_append] at fits
        rw [List.length_append, Nat.mod_eq_of_lt]
        rw [List.length_append] at fits
        omega
      rcases induction inserted fits with ⟨final, added, holdsFinal, readsFinal⟩
      refine ⟨final, ?_, holdsFinal, fun _ => ?_⟩
      · simp only [addReaders, isLength, offset]
        exact added
      · cases rest with
        | nil =>
            rw [addReaders, Except.ok.injEq, Prod.mk.injEq] at added
            rw [← added.1, List.flatten_nil, List.append_nil]
            exact holds.insert preads
        | cons => exact readsFinal (List.cons_ne_nil _ _)

theorem create_opened {readers : List (Option OpenReader)} {contents : List Bytes}
    (opened : Opened readers contents) (some : readers ≠ [])
    (fits : contents.flatten.length < 18446744073709551616) :
    ∃ offToReader, PReads (pread offToReader) contents.flatten ∧
      create readers = .ok (.fakeSeeker (.ofLength (pread offToReader) contents.flatten.length))
      := by
  rcases addReaders_opened opened holds_empty fits with ⟨final, added, -, readsFinal⟩
  refine ⟨final, readsFinal some, ?_⟩
  have notEmpty : (!readers.isEmpty) = true := by
    rw [Bool.not_eq_true', List.isEmpty_eq_false_iff]
    exact some
  rw [create, notEmpty]
  have added : addReaders readers 0 .empty = .ok (final, contents.flatten.length) := added
  simp only [cfExpect_true, added, bind, Except.bind, pure, Except.pure]

end ConcatReaderSeeker

/-! ## Trees -/

namespace ReaderTree

open ConcatReaderSeeker

theorem length_lt {tree : ReaderTree} (inside : tree.Inside)
    (representable : tree.Representable) : tree.denote.length < 9223372036854775808 := by
  cases tree with
  | inMemory data => exact representable
  | concat members => exact representable.2.1
  | window start length underlying =>
      have below := length_lt inside.2 representable
      rw [denote, Bytes.readAt_length]
      omega

theorem build_valid (tree : ReaderTree) (inside : tree.Inside)
    (representable : tree.Representable) :
    ∃ opened, tree.build = .ok opened ∧
      (OpenReader.serves tree.denote).Valid opened ∧
      (OpenReader.serves tree.denote).position opened = 0 := by
  match tree with
  | .inMemory data =>
      rw [build]
      exact ⟨_, rfl, ⟨rfl, Nat.zero_le _⟩, rfl⟩
  | .window start length underlying =>
      rcases build_valid underlying inside.2 representable with ⟨opened, built, valid, -⟩
      have isLength : length = (underlying.denote.readAt start length).length := by
        have bound := inside.1
        rw [Bytes.readAt_length]
        omega
      have fits := length_lt inside.2 representable
      have preads := ReadWindowView.preads (OpenReader.preads valid) inside.1 fits
      have sliceFits : (ReaderTree.window start length underlying).denote.length <
          9223372036854775808 := length_lt inside representable
      refine ⟨ReadWindowView.create opened start length, ?_,
        OpenReader.valid_ofLength preads isLength sliceFits⟩
      rw [build, built]
      rfl
  | .concat members =>
      rcases buildAll_opened members inside representable.2.2 with
        ⟨readers, contents, built, opened, together, some⟩
      have fits := representable.2.1
      rw [← together] at fits
      rcases create_opened opened (some representable.1) (by omega) with
        ⟨offToReader, preads, created⟩
      have isBuilt : (ReaderTree.concat members).build =
          .ok (.fakeSeeker (.ofLength (pread offToReader) contents.flatten.length)) := by
        rw [build, built]
        exact created
      refine ⟨_, isBuilt, ?_⟩
      rw [denote, ← together]
      exact OpenReader.valid_ofLength preads rfl fits
where
  buildAll_opened (members : List ReaderTree) (inside : Inside.AllInside members)
      (representable : Representable.AllRepresentable members) :
      ∃ readers contents, build.buildAll members = .ok readers ∧ Opened readers contents ∧
        contents.flatten = denote.denoteAll members ∧ (members ≠ [] → readers ≠ []) := by
    match members with
    | [] => exact ⟨[], [], rfl, .nil, rfl, fun some => absurd rfl some⟩
    | member :: rest =>
        rcases build_valid member inside.1 representable.1 with ⟨opened, built, valid, -⟩
        rcases buildAll_opened rest inside.2 representable.2 with
          ⟨readers, contents, builtAll, openedAll, together, -⟩
        refine ⟨some opened :: readers, member.denote :: contents, ?_, .cons valid openedAll,
          ?_, fun _ => List.cons_ne_nil _ _⟩
        · rw [build.buildAll, built, builtAll]
          rfl
        · rw [List.flatten_cons, together, denote.denoteAll]

/-- Whatever calls within the byte string were made before, `SeekEnd(0)` returns its
length, and reads from any position return it from there on: every answer is that
of a cursor over it, the bytes of the `Read`s follow one another, and are all there
are once the reads have got to the end. -/
theorem reads_as_slice (tree : ReaderTree) (inside : tree.Inside)
    (representable : tree.Representable) :
    ∃ opened, tree.build = .ok opened ∧
      ∀ earlier, (∀ call ∈ earlier, call.Within tree.denote) →
        ∃ answers state,
          Refinement.perform (FileCall.make OpenReader.reader) opened earlier =
            some (answers, state) ∧
          (∃ next, OpenReader.reader.seekEnd state 0 = (.ok tree.denote.length, next)) ∧
          ∀ start ≤ tree.denote.length, ∀ calls, (∀ call ∈ calls, call.IsRead) →
            ∃ results final last,
              Refinement.perform (FileCall.make OpenReader.reader) state
                (.seekSet start :: calls) = some (.moved start :: results, final) ∧
              Refinement.PermitsAll (FileCursor tree.denote) start calls results last ∧
              start ≤ last ∧ last ≤ tree.denote.length ∧
              FileCursor.returned calls results = tree.denote.readAt start (last - start) ∧
              (FileCursor.ReadToEnd tree.denote start calls results →
                FileCursor.returned calls results = tree.denote.drop start) := by
  rcases build_valid tree inside representable with ⟨opened, built, valid, atStart⟩
  have simulates := (OpenReader.serves tree.denote).simulates
  refine ⟨opened, built, ?_⟩
  intro earlier within
  rcases simulates.perform within ⟨valid, atStart⟩ with
    ⟨answers, state, position, performed, -, validState, -⟩
  refine ⟨answers, state, performed, ?_, ?_⟩
  · rcases (OpenReader.serves tree.denote).seekEnd state validState with ⟨next, last, -⟩
    exact ⟨next, last⟩
  · intro start bound calls reading
    have mayCall : ∀ call ∈ FileCall.seekSet start :: calls, call.Within tree.denote := by
      intro call member
      rcases List.mem_cons.mp member with isSeek | isRead
      · rw [isSeek]
        exact bound
      · have isRead := reading call isRead
        cases call with
        | seekSet => cases isRead
        | _ => trivial
    rcases simulates.perform mayCall ⟨validState, rfl⟩ with
      ⟨results, final, last, performedReads, permitted, -⟩
    cases permitted with
    | cons first permitted =>
        cases first
        rename_i results
        rcases FileCursor.returned_of_reads bound reading permitted with
          ⟨forward, lastBound, isReturned⟩
        exact ⟨results, final, last, performedReads, permitted, forward, lastBound, isReturned,
          FileCursor.returned_of_readToEnd bound reading permitted⟩

def sample : ReaderTree :=
  .concat [.inMemory [104, 105], .window 1 2 (.inMemory [1, 2, 3, 4]), .inMemory []]

theorem reads_as_slice_sample :
    sample.Inside ∧ sample.Representable ∧
      ∃ opened, sample.build = .ok opened ∧ ∃ results final,
        Refinement.perform (FileCall.make OpenReader.reader) opened
            [.seekSet 1, .read 10, .read 10, .pread 1 0, .read 10] =
          some (.moved 1 :: results, final) ∧
        FileCursor.returned [.read 10, .read 10, .pread 1 0, .read 10] results =
          [105, 2, 3] := by
  have inside : sample.Inside := ⟨trivial, ⟨by decide, trivial⟩, trivial, trivial⟩
  have representable : sample.Representable := by
    simp [sample, Representable, Representable.AllRepresentable, denote, denote.denoteAll,
      Bytes.readAt]
  rcases reads_as_slice sample inside representable with ⟨opened, built, reads⟩
  rcases reads [] (by simp) with ⟨answers, state, performed, -, fromStart⟩
  cases performed
  rcases fromStart 1 (by decide) [.read 10, .read 10, .pread 1 0, .read 10]
      (by simp [FileCall.IsRead]) with
    ⟨results, final, last, performedReads, -, -, -, -, toEnd⟩
  exact ⟨inside, representable, opened, built, results, final, performedReads,
    toEnd (.inr (by decide))⟩

/-- Each half is half as long as an `int64_t` counts to. -/
def halves : ReaderTree :=
  .concat [.inMemory (Bytes.zeros 4611686018427387904),
    .inMemory (Bytes.zeros 4611686018427387904)]

/-- There is no concatenation of nothing, a read of no bytes returns none anywhere,
and `SeekEnd` takes a length that does not fit in an `int64_t` for a negative one. -/
theorem not_every_tree_reads_as_slice :
    ((ReaderTree.concat []).Inside ∧
      (ReaderTree.concat []).build = .error (.err "Received empty list")) ∧
    ((ReaderTree.inMemory [1]).Inside ∧ ∃ opened, (ReaderTree.inMemory [1]).build = .ok opened ∧
      (OpenReader.reader.read opened 0).1 = .ok []) ∧
    halves.Inside ∧ halves.denote.length = 9223372036854775808 ∧
      ∃ opened next, halves.build = .ok opened ∧
        OpenReader.reader.seekEnd opened 0 = (.ok 0, next) := by
  have length : halves.denote.length = 9223372036854775808 := by
    simp [halves, denote, denote.denoteAll]
  refine ⟨⟨trivial, rfl⟩, ⟨trivial, _, rfl, rfl⟩, ⟨trivial, trivial, trivial⟩, length, ?_⟩
  have half : (OpenReader.serves (Bytes.zeros 4611686018427387904)).Valid
      (.inMemory (.ofData (Bytes.zeros 4611686018427387904))) := ⟨rfl, Nat.zero_le _⟩
  have total : [Bytes.zeros 4611686018427387904,
      Bytes.zeros 4611686018427387904].flatten.length = 9223372036854775808 := by simp
  rcases create_opened (.cons half (.cons half .nil)) (List.cons_ne_nil _ _)
      (by simp) with ⟨offToReader, -, created⟩
  rw [total] at created
  have isBuilt : halves.build =
      .ok (.fakeSeeker (.ofLength (pread offToReader) 9223372036854775808)) := by
    rw [halves, build]
    exact created
  exact ⟨_, _, isBuilt, rfl⟩

end ReaderTree

end Cuttlefish.Io
