import Cuttlefish.Foundation.Bytes
import Cuttlefish.Result

/-! # Readers with a cursor

The interface `ReaderSeeker` of `io/io.h`: an object is a state and the methods
that act on it. A method that returns an error may still have changed the state. -/

namespace Cuttlefish.Io

structure ReaderSeeker (State : Type) where
  read : State → (count : Nat) → Result Bytes × State
  seekSet : State → (offset : Nat) → Result Nat × State
  seekCur : State → (offset : Int) → Result Nat × State
  seekEnd : State → (offset : Int) → Result Nat × State
  pread : State → (count offset : Nat) → Result Bytes

namespace ReaderSeeker

variable {State : Type}

def length (reader : ReaderSeeker State) (state : State) : Result Nat × State :=
  match reader.seekCur state 0 with
  | (.error failure, state) => (.error failure, state)
  | (.ok currentPos, state) =>
      match reader.seekEnd state 0 with
      | (.error failure, state) => (.error failure, state)
      | (.ok fileEnd, state) =>
          match reader.seekSet state currentPos with
          | (.error failure, state) => (.error failure, state)
          | (.ok _, state) => (.ok fileEnd, state)

end ReaderSeeker

/-- What one read of at most `count` bytes at `position` may return: bytes of the
content from there on, and none only at the end of the content or when none were
asked for. -/
structure ReadsFrom (content : Bytes) (position count : Nat) (bytes : Bytes) : Prop where
  isSlice : bytes = content.readAt position bytes.length
  length_le : bytes.length ≤ count
  eq_nil : bytes = [] → count = 0 ∨ content.length ≤ position

namespace ReadsFrom

variable {content bytes : Bytes} {position count : Nat}

theorem within (reads : ReadsFrom content position count bytes)
    (bound : position ≤ content.length) : position + bytes.length ≤ content.length := by
  have length := congrArg List.length reads.isSlice
  rw [Bytes.readAt_length] at length
  omega

theorem readAt (content : Bytes) (position count : Nat) :
    ReadsFrom content position count (content.readAt position count) where
  isSlice := by
    rw [Bytes.readAt_length, Bytes.readAt, Bytes.readAt, List.take_eq_take_iff,
      List.length_drop]
    omega
  length_le := by
    rw [Bytes.readAt_length]
    omega
  eq_nil empty := by
    by_cases none : count = 0
    · exact .inl none
    · exact .inr ((Bytes.readAt_eq_nil_iff content position count (by omega)).mp empty)

theorem take {request : Nat} (reads : ReadsFrom content position request bytes)
    (asked : count = 0 ∨ request ≠ 0 ∨ content.length ≤ position) :
    ReadsFrom content position count (bytes.take count) where
  isSlice := Bytes.take_eq_readAt reads.isSlice count
  length_le := by
    rw [List.length_take]
    omega
  eq_nil empty := by
    rcases List.take_eq_nil_iff.mp empty with none | none
    · exact .inl none
    · rcases reads.eq_nil none with noRequest | atEnd
      · rcases asked with noCount | someRequest | atEnd
        · exact .inl noCount
        · exact absurd noRequest someRequest
        · exact .inr atEnd
      · exact .inr atEnd

end ReadsFrom

/-- A reader of the given content whose reads may be short. The laws are about the
states that calls within the content lead to. -/
structure Serves {State : Type} (reader : ReaderSeeker State) (content : Bytes) where
  Valid : State → Prop
  position : State → Nat
  position_le : ∀ state, Valid state → position state ≤ content.length
  read : ∀ state count, Valid state → ∃ bytes next,
    reader.read state count = (.ok bytes, next) ∧
      ReadsFrom content (position state) count bytes ∧
      Valid next ∧ position next = position state + bytes.length
  seekSet : ∀ state offset, Valid state → offset ≤ content.length → ∃ next,
    reader.seekSet state offset = (.ok offset, next) ∧ Valid next ∧ position next = offset
  seekCur : ∀ state, Valid state → ∃ next,
    reader.seekCur state 0 = (.ok (position state), next) ∧ Valid next ∧
      position next = position state
  seekEnd : ∀ state, Valid state → ∃ next,
    reader.seekEnd state 0 = (.ok content.length, next) ∧ Valid next ∧
      position next = content.length
  pread : ∀ state count offset, Valid state → ∃ bytes,
    reader.pread state count offset = .ok bytes ∧ ReadsFrom content offset count bytes

theorem Serves.length {State : Type} {reader : ReaderSeeker State} {content : Bytes}
    (serves : Serves reader content) {state : State} (valid : serves.Valid state) :
    ∃ next, reader.length state = (.ok content.length, next) ∧ serves.Valid next ∧
      serves.position next = serves.position state := by
  rcases serves.seekCur state valid with ⟨atCur, cur, validCur, -⟩
  rcases serves.seekEnd atCur validCur with ⟨atEnd, last, validEnd, -⟩
  rcases serves.seekSet atEnd _ validEnd (serves.position_le state valid) with
    ⟨next, set, validNext, position⟩
  refine ⟨next, ?_, validNext, position⟩
  simp only [ReaderSeeker.length, cur, last, set]

end Cuttlefish.Io
