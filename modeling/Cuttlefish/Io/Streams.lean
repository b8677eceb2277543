import Cuttlefish.Io.WholeReads

/-! # Readers and writers without a cursor

The interfaces `Reader` and `Writer` of `io/io.h`, and the loops over them: `ReadExact` of
`io/read_exact.cc`, `WriteExact` of `io/write_exact.cc` and `ReadToString` of `io/string.cc`. A
reader may return less than it is asked for and a writer may take less than it is given. -/

namespace Cuttlefish.Io

structure Reader (State : Type) where
  read : State → (count : Nat) → Result Bytes × State

/-- A writer returns how many of the bytes it took. -/
structure Writer (State : Type) where
  write : State → Bytes → Result Nat × State

variable {State : Type}

namespace Reader

def readExact (reader : Reader State) (size : Nat) (state : State) : Result Bytes × State :=
  if size = 0 then (.ok [], state)
  else
    match reader.read state size with
    | (.error failure, state) => (.error failure, state)
    | (.ok bytes, state) =>
        if bytes = [] then (.error (.err "EOF, still want to read"), state)
        else
          match readExact reader (size - bytes.length) state with
          | (.error failure, state) => (.error failure, state)
          | (.ok rest, state) => (.ok (bytes ++ rest), state)
termination_by size
decreasing_by
  have positive := List.length_pos_iff.mpr ‹bytes ≠ []›
  omega

def readToString (reader : Reader State) : (fuel : Nat) → State → Option (Result Bytes)
  | 0, _ => none
  | fuel + 1, state =>
      match reader.read state 65536 with
      | (.error failure, _) => some (.error failure)
      | (.ok [], _) => some (.ok [])
      | (.ok (byte :: bytes), next) =>
          (readToString reader fuel next).map fun rest => rest.map (byte :: bytes ++ ·)

/-- What `ReadToString` returns after any number of reads. -/
def ReadsToString (reader : Reader State) (state : State) (bytes : Bytes) : Prop :=
  ∃ fuel, readToString reader fuel state = some (.ok bytes)

def readSizes (reader : Reader State) : (sizes : List Nat) → State → Result Bytes × State
  | [], state => (.ok [], state)
  | size :: sizes, state =>
      match reader.read state size with
      | (.error failure, state) => (.error failure, state)
      | (.ok bytes, state) =>
          match readSizes reader sizes state with
          | (.error failure, state) => (.error failure, state)
          | (.ok rest, state) => (.ok (bytes ++ rest), state)

end Reader

def ReaderSeeker.toReader (reader : ReaderSeeker State) : Reader State := ⟨reader.read⟩

theorem readToString_toReader (reader : ReaderSeeker State) (fuel : Nat) (state : State) :
    reader.toReader.readToString fuel state = Io.readToString reader fuel state := by
  induction fuel generalizing state with
  | zero => rfl
  | succ fuel induction =>
      rw [Reader.readToString, Io.readToString]
      have same : reader.toReader.read state 65536 = reader.read state 65536 := rfl
      rw [same]
      rcases reader.read state 65536 with ⟨outcome, next⟩
      cases outcome with
      | error failure => rfl
      | ok bytes =>
          cases bytes with
          | nil => rfl
          | cons byte bytes => exact congrArg (Option.map _) (induction next)

def Writer.writeAll (writer : Writer State) (premature : String) (bytes : Bytes) (state : State) :
    Result Unit × State :=
  if bytes = [] then (.ok (), state)
  else
    match writer.write state bytes with
    | (.error failure, state) => (.error failure, state)
    | (.ok written, state) =>
        if written = 0 then (.error (.err premature), state)
        else writeAll writer premature (bytes.drop written) state
termination_by bytes.length
decreasing_by
  have positive := List.length_pos_iff.mpr ‹bytes ≠ []›
  rw [List.length_drop]
  omega

def Writer.writeExact (writer : Writer State) (bytes : Bytes) (state : State) :
    Result Unit × State :=
  writer.writeAll "Write returned 0 before completing" bytes state

/-! ## What is left to read -/

/-- A reader returns what is left in parts of its own choice, and nothing only when nothing
is left or nothing was asked for. -/
structure Streams (reader : Reader State) where
  Left : State → Bytes → Prop
  read : ∀ {state : State} {left : Bytes} (count : Nat), Left state left →
    ∃ bytes rest next, reader.read state count = (.ok bytes, next) ∧ left = bytes ++ rest ∧
      bytes.length ≤ count ∧ (bytes = [] → count = 0 ∨ left = []) ∧ Left next rest

namespace Streams

variable {reader : Reader State} (streams : Streams reader)

theorem readExact {state : State} {bytes rest : Bytes} (left : streams.Left state (bytes ++ rest)) :
    ∃ next, reader.readExact bytes.length state = (.ok bytes, next) ∧ streams.Left next rest := by
  obtain ⟨size, isSize⟩ : ∃ size, bytes.length = size := ⟨_, rfl⟩
  induction size using Nat.strongRecOn generalizing state bytes with
  | ind size induction =>
      rw [isSize, Reader.readExact]
      by_cases none : size = 0
      · have isEmpty := List.length_eq_zero_iff.mp (isSize.trans none)
        rw [isEmpty] at left ⊢
        exact ⟨state, if_pos none, left⟩
      · rcases streams.read size left with ⟨first, later, next, read, split, short, some, nextLeft⟩
        have notEmpty : first ≠ [] := by
          intro isEmpty
          rcases some isEmpty with asked | ended
          · exact none asked
          · rw [(List.append_eq_nil_iff.mp ended).1] at isSize
            exact none isSize.symm
        -- the first part is a part of the bytes
        have front : first <+: bytes :=
          List.prefix_of_prefix_length_le ⟨later, split.symm⟩ (List.prefix_append bytes rest)
            (isSize ▸ short)
        rcases front with ⟨second, isBytes⟩
        rw [← isBytes, List.append_assoc] at split
        rw [← List.append_cancel_left split] at nextLeft
        have positive := List.length_pos_iff.mpr notEmpty
        have lengths : first.length + second.length = size := by
          rw [← isSize, ← isBytes, List.length_append]
        rcases induction second.length (by omega) nextLeft rfl with ⟨last, readRest, lastLeft⟩
        have remaining : size - first.length = second.length := by omega
        refine ⟨last, ?_, lastLeft⟩
        rw [if_neg none, read]
        simp only [if_neg notEmpty, remaining, readRest, isBytes]

theorem readsToString {state : State} {left : Bytes} (isLeft : streams.Left state left) :
    reader.ReadsToString state left := by
  obtain ⟨size, isSize⟩ : ∃ size, left.length = size := ⟨_, rfl⟩
  induction size using Nat.strongRecOn generalizing state left with
  | ind size induction =>
      rcases streams.read 65536 isLeft with ⟨bytes, rest, next, read, split, -, some, nextLeft⟩
      cases bytes with
      | nil =>
          have ended : left = [] := (some rfl).resolve_left (by decide)
          refine ⟨1, ?_⟩
          rw [Reader.readToString, read, ended]
      | cons byte bytes =>
          have shorter : rest.length < size := by
            rw [← isSize, split, List.length_append, List.length_cons]
            omega
          rcases induction rest.length shorter nextLeft rfl with ⟨fuel, readRest⟩
          refine ⟨fuel + 1, ?_⟩
          rw [Reader.readToString, read]
          simp only [readRest, split]
          rfl

theorem readSizes (sizes : List Nat) {state : State} {left : Bytes}
    (isLeft : streams.Left state left) :
    ∃ bytes rest next, reader.readSizes sizes state = (.ok bytes, next) ∧ left = bytes ++ rest ∧
      streams.Left next rest := by
  induction sizes generalizing state left with
  | nil => exact ⟨[], left, state, rfl, rfl, isLeft⟩
  | cons size sizes induction =>
      rcases streams.read size isLeft with ⟨bytes, rest, next, read, split, -, -, nextLeft⟩
      rcases induction nextLeft with ⟨more, last, final, readMore, splitRest, finalLeft⟩
      refine ⟨bytes ++ more, last, final, ?_, ?_, finalLeft⟩
      · rw [Reader.readSizes, read]
        simp only [readMore]
      · rw [split, splitRest, List.append_assoc]

end Streams

/-- A reader of what is left that returns a few bytes at once, at most one more than `limit`. -/
def Reader.inParts (limit : Nat) : Reader Bytes where
  read left count := (.ok (left.take (min count (limit + 1))), left.drop (min count (limit + 1)))

def Streams.inParts (limit : Nat) : Streams (Reader.inParts limit) where
  Left state left := state = left
  read {state left} count isLeft := by
    refine ⟨left.take (min count (limit + 1)), left.drop (min count (limit + 1)), _, isLeft ▸ rfl,
      (List.take_append_drop _ _).symm, ?_, ?_, rfl⟩
    · rw [List.length_take]
      omega
    · intro isEmpty
      rcases List.take_eq_nil_iff.mp isEmpty with none | ended
      · exact .inl (by omega)
      · exact .inr ended

/-! ## What was written -/

/-- A writer takes some of what it is given and appends it to what it received before. -/
structure Receives (writer : Writer State) where
  Received : State → Bytes → Prop
  write : ∀ {state : State} {received : Bytes} (bytes : Bytes), Received state received →
    ∃ written next, writer.write state bytes = (.ok written, next) ∧ written ≤ bytes.length ∧
      (bytes ≠ [] → 0 < written) ∧ Received next (received ++ bytes.take written)

namespace Receives

variable {writer : Writer State} (receives : Receives writer)

theorem writeAll (premature : String) (bytes : Bytes) {state : State} {received : Bytes}
    (before : receives.Received state received) :
    ∃ next, writer.writeAll premature bytes state = (.ok (), next) ∧
      receives.Received next (received ++ bytes) := by
  obtain ⟨size, isSize⟩ : ∃ size, bytes.length = size := ⟨_, rfl⟩
  induction size using Nat.strongRecOn generalizing state bytes received with
  | ind size induction =>
      rw [Writer.writeAll]
      by_cases isEmpty : bytes = []
      · rw [if_pos isEmpty, isEmpty, List.append_nil]
        exact ⟨state, rfl, before⟩
      · rcases receives.write bytes before with ⟨written, next, write, -, some, nextReceived⟩
        have positive := some isEmpty
        have nonempty := List.length_pos_iff.mpr isEmpty
        have shorter : (bytes.drop written).length < size := by
          rw [List.length_drop]
          omega
        rcases induction _ shorter (bytes.drop written) nextReceived rfl with
          ⟨last, writeRest, lastReceived⟩
        rw [List.append_assoc, List.take_append_drop] at lastReceived
        refine ⟨last, ?_, lastReceived⟩
        rw [if_neg isEmpty, write]
        simp only [if_neg (Nat.ne_of_gt positive), writeRest]

end Receives

end Cuttlefish.Io
