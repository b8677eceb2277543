import Cuttlefish.Io.Combinators

/-! # Reading everything

`PReadExact` of `io/read_exact.cc` and `ReadToString` of `io/string.cc`: loops over reads that may
be short. -/

namespace Cuttlefish.Io

def pReadExact (pread : PRead) (size offset : Nat) : Result Bytes :=
  if size = 0 then .ok []
  else
    match pread size offset with
    | .error failure => .error failure
    | .ok bytes =>
        if bytes = [] then .error (.err "EOF, still want to read")
        else
          match pReadExact pread (size - bytes.length) (offset + bytes.length) with
          | .error failure => .error failure
          | .ok rest => .ok (bytes ++ rest)
termination_by size
decreasing_by
  have positive := List.length_pos_iff.mpr ‹bytes ≠ []›
  omega

variable {State : Type}

def readToString (reader : ReaderSeeker State) : (fuel : Nat) → State → Option (Result Bytes)
  | 0, _ => none
  | fuel + 1, state =>
      match reader.read state 65536 with
      | (.error failure, _) => some (.error failure)
      | (.ok [], _) => some (.ok [])
      | (.ok (byte :: bytes), next) =>
          (readToString reader fuel next).map fun rest => rest.map (byte :: bytes ++ ·)

/-- What `ReadToString` returns after any number of reads. -/
def ReadsToString (reader : ReaderSeeker State) (state : State) (bytes : Bytes) : Prop :=
  ∃ fuel, readToString reader fuel state = some (.ok bytes)

/-! ## Readers that serve their content -/

theorem pReadExact_eq {pread : PRead} {content : Bytes} (preads : PReads pread content)
    {size offset : Nat} (inside : offset + size ≤ content.length) :
    pReadExact pread size offset = .ok (content.readAt offset size) := by
  induction size using Nat.strongRecOn generalizing offset with
  | ind size induction =>
      rw [pReadExact]
      by_cases none_ : size = 0
      · rw [if_pos none_, none_]
        rfl
      · rcases preads size offset with ⟨bytes, returned, reads⟩
        have some_ : bytes ≠ [] := by
          intro empty
          rcases reads.eq_nil empty with none | passed <;> omega
        have positive := List.length_pos_iff.mpr some_
        have bound := reads.length_le
        have rest := induction (size - bytes.length) (by omega)
          (show offset + bytes.length + (size - bytes.length) ≤ content.length by omega)
        rw [if_neg none_, returned]
        simp only [if_neg some_, rest]
        have split : content.readAt offset size = content.readAt offset bytes.length ++
            content.readAt (offset + bytes.length) (size - bytes.length) := by
          have total : size = bytes.length + (size - bytes.length) := by omega
          calc content.readAt offset size
              = content.readAt offset (bytes.length + (size - bytes.length)) := by rw [← total]
            _ = _ := by rw [Bytes.readAt, List.take_add, List.drop_drop]; rfl
        rw [split, ← reads.isSlice]

theorem readsToString_drop {reader : ReaderSeeker State} {content : Bytes}
    (serves : Serves reader content) {state : State} (valid : serves.Valid state) :
    ReadsToString reader state (content.drop (serves.position state)) := by
  obtain ⟨rest, isRest⟩ : ∃ rest, content.length - serves.position state ≤ rest := ⟨_, Nat.le_refl _⟩
  induction rest generalizing state with
  | zero =>
      rcases serves.read state 65536 valid with ⟨bytes, next, read, reads, -⟩
      have atEnd := reads.within (serves.position_le state valid)
      have none_ : bytes = [] := List.length_eq_zero_iff.mp (by omega)
      refine ⟨1, ?_⟩
      rw [readToString, read, none_, List.drop_eq_nil_of_le (by omega)]
  | succ rest induction =>
      rcases serves.read state 65536 valid with ⟨bytes, next, read, reads, validNext, position⟩
      cases bytes with
      | nil =>
          have atEnd : content.length ≤ serves.position state :=
            (reads.eq_nil rfl).resolve_left (by omega)
          refine ⟨1, ?_⟩
          rw [readToString, read, List.drop_eq_nil_of_le atEnd]
      | cons byte bytes =>
          have moved : content.length - serves.position next ≤ rest := by
            rw [position, List.length_cons]
            omega
          rcases induction validNext moved with ⟨fuel, isRead⟩
          have joined : byte :: bytes ++ content.drop (serves.position next) =
              content.drop (serves.position state) := by
            have isSlice := reads.isSlice
            rw [Bytes.readAt] at isSlice
            rw [position, ← List.drop_drop]
            calc byte :: bytes ++ (content.drop (serves.position state)).drop (byte :: bytes).length
                = (content.drop (serves.position state)).take (byte :: bytes).length ++
                    (content.drop (serves.position state)).drop (byte :: bytes).length := by
                  rw [← isSlice]
              _ = content.drop (serves.position state) := List.take_append_drop _ _
          refine ⟨fuel + 1, ?_⟩
          rw [readToString, read]
          simp only [isRead, Option.map_some, Except.map, joined]

theorem readsToString_content {reader : ReaderSeeker State} {content : Bytes}
    (serves : Serves reader content) {state : State} (valid : serves.Valid state)
    (atStart : serves.position state = 0) : ReadsToString reader state content := by
  have reads := readsToString_drop serves valid
  rwa [atStart, List.drop_zero] at reads

theorem readToString_mono {reader : ReaderSeeker State} {fuel more : Nat} {state : State}
    {result : Result Bytes} (read : readToString reader fuel state = some result)
    (le : fuel ≤ more) : readToString reader more state = some result := by
  induction fuel generalizing more state result with
  | zero => cases read
  | succ fuel induction =>
      obtain ⟨more, rfl⟩ : ∃ less, more = less + 1 := ⟨more - 1, by omega⟩
      rw [readToString] at read ⊢
      split
      · next first => rwa [first] at read
      · next first => rwa [first] at read
      · next first =>
        rw [first] at read
        rcases Option.map_eq_some_iff.mp read with ⟨rest, isRest, isResult⟩
        rw [induction isRest (by omega), Option.map_some, isResult]

theorem ReadsToString.unique {reader : ReaderSeeker State} {state : State} {first second : Bytes}
    (isFirst : ReadsToString reader state first) (isSecond : ReadsToString reader state second) :
    first = second := by
  rcases isFirst with ⟨fuel, isFirst⟩
  rcases isSecond with ⟨more, isSecond⟩
  have read := readToString_mono isFirst (Nat.le_max_left fuel more)
  rw [readToString_mono isSecond (Nat.le_max_right fuel more)] at read
  exact (Except.ok.inj (Option.some.inj read)).symm

/-! ## Reads that stay in their buffer -/

def Bounded (pread : PRead) : Prop :=
  ∀ count offset bytes, pread count offset = .ok bytes → bytes.length ≤ count

theorem PReads.bounded {pread : PRead} {content : Bytes} (preads : PReads pread content) :
    Bounded pread := by
  intro count offset bytes returned
  rcases preads count offset with ⟨_, isReturned, reads⟩
  rw [returned] at isReturned
  exact Except.ok.inj isReturned ▸ reads.length_le

theorem ReadWindowView.readsToString_length {provider : PRead} (bounded : Bounded provider)
    {start length : Nat} (fits : length < 4294967296) {position : Nat} (before : position ≤ length)
    {bytes : Bytes} (reads : ReadsToString ReaderFakeSeeker.reader
      ⟨ReadWindowView.pread provider start length, length, position⟩ bytes) :
    bytes.length ≤ length - position := by
  rcases reads with ⟨fuel, reads⟩
  induction fuel generalizing position bytes with
  | zero => cases reads
  | succ fuel induction =>
      rw [readToString] at reads
      simp only [ReaderFakeSeeker.reader, ReaderFakeSeeker.read] at reads
      cases returned : ReadWindowView.pread provider start length 65536 position with
      | error failure => simp [returned] at reads
      | ok first =>
          have firstBound : first.length ≤ length - position := by
            rw [ReadWindowView.pread] at returned
            split at returned
            · rcases Except.ok.inj returned with rfl
              exact Nat.zero_le _
            · have bound := bounded _ _ _ returned
              omega
          cases first with
          | nil =>
              simp only [returned, Option.some.injEq, Except.ok.injEq] at reads
              rw [← reads]
              exact Nat.zero_le _
          | cons byte first =>
              have inside : (position + (byte :: first).length) % 18446744073709551616 =
                  position + (byte :: first).length := Nat.mod_eq_of_lt (by omega)
              simp only [returned, inside] at reads
              rcases Option.map_eq_some_iff.mp reads with ⟨rest, isRest, isBytes⟩
              cases rest with
              | error failure => cases isBytes
              | ok rest =>
                  have restBound := induction (by omega) isRest
                  rw [← Except.ok.inj isBytes, List.length_append]
                  omega

theorem readToString_fakeSeeker (fuel : Nat) (seeker : ReaderFakeSeeker) :
    readToString OpenReader.reader fuel (.fakeSeeker seeker) =
      readToString ReaderFakeSeeker.reader fuel seeker := by
  induction fuel generalizing seeker with
  | zero => rfl
  | succ fuel induction =>
      have read : OpenReader.reader.read (.fakeSeeker seeker) 65536 =
          (ReaderFakeSeeker.reader.read seeker 65536).map id .fakeSeeker := rfl
      rw [readToString, readToString, read]
      rcases ReaderFakeSeeker.reader.read seeker 65536 with ⟨failure | _ | ⟨byte, bytes⟩, next⟩
      · rfl
      · rfl
      · simp only [Prod.map_apply, id, induction]

theorem ReadWindowView.length_lt {opened : OpenReader}
    (bounded : Bounded (OpenReader.reader.pread opened)) {start : Nat} {length : UInt32}
    {bytes : Bytes} (reads : ReadsToString OpenReader.reader
      (ReadWindowView.create opened start length.toNat) bytes) : bytes.length < 4294967296 := by
  rcases reads with ⟨fuel, reads⟩
  rw [ReadWindowView.create, readToString_fakeSeeker] at reads
  have fits := length.toNat_lt
  have bound := readsToString_length bounded fits (Nat.zero_le _) ⟨fuel, reads⟩
  omega

theorem ReadWindowView.readsToString {opened : OpenReader} {content : Bytes}
    (valid : (OpenReader.serves content).Valid opened)
    (fits : content.length < 9223372036854775808) {start length : Nat}
    (inside : start + length ≤ content.length) :
    ReadsToString OpenReader.reader (ReadWindowView.create opened start length)
      (content.readAt start length) := by
  have preads := ReadWindowView.preads (OpenReader.preads valid) inside fits
  have size : length = (content.readAt start length).length := by
    rw [Bytes.readAt_length]
    omega
  have created := OpenReader.valid_ofLength preads size (by omega)
  exact readsToString_content _ created.1 created.2

namespace ConcatReaderSeeker

theorem Opened.append {readers others : List (Option OpenReader)} {contents rest : List Bytes}
    (opened : Opened readers contents) (behind : Opened others rest) :
    Opened (readers ++ others) (contents ++ rest) := by
  induction opened with
  | nil => exact behind
  | cons valid _ induction => exact .cons valid induction

theorem bounded_pread {offToReader : OrderedMap PRead}
    (bounded : ∀ entry ∈ offToReader.entries, Bounded entry.2) : Bounded (pread offToReader) := by
  intro count offset bytes returned
  rw [pread] at returned
  cases found : offToReader.floor offset with
  | none => simp [found] at returned
  | some entry =>
      have isEntry : entry ∈ offToReader.entries :=
        (List.takeWhile_subset _) (List.mem_of_getLast? found)
      simp only [found] at returned
      exact bounded entry isEntry _ _ _ returned

theorem addReaders_ok {readers : List (Option OpenReader)} {contents : List Bytes}
    (opened : Opened readers contents) (offset : Nat) {offToReader : OrderedMap PRead}
    (bounded : ∀ entry ∈ offToReader.entries, Bounded entry.2) :
    ∃ final total, addReaders readers offset offToReader = .ok (final, total) ∧
      ∀ entry ∈ final.entries, Bounded entry.2 := by
  induction opened generalizing offset offToReader with
  | nil => exact ⟨_, _, rfl, bounded⟩
  | @cons reader content readers contents valid _ induction =>
      rcases (OpenReader.serves content).length valid with ⟨next, isLength, validNext, -⟩
      simp only [addReaders, isLength]
      apply induction
      intro entry isEntry
      rcases OrderedMap.mem_of_mem_insert isEntry with rfl | old
      · exact (OpenReader.preads validNext).bounded
      · exact bounded entry old

theorem create_ok {readers : List (Option OpenReader)} {contents : List Bytes}
    (opened : Opened readers contents) (some_ : readers ≠ []) :
    ∃ stream, create readers = .ok stream ∧ Bounded (OpenReader.reader.pread stream) := by
  have none_ : ∀ entry ∈ (.empty : OrderedMap PRead).entries, Bounded entry.2 := by
    intro entry isEntry
    cases isEntry
  rcases addReaders_ok opened 0 none_ with ⟨final, total, added, bounded⟩
  have notEmpty : (!readers.isEmpty) = true := by simpa using some_
  refine ⟨.fakeSeeker (.ofLength (pread final) total), ?_, bounded_pread bounded⟩
  simp only [create, notEmpty, cfExpect_true, added, bind, Except.bind, pure, Except.pure]

end ConcatReaderSeeker

end Cuttlefish.Io
