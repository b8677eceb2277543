import Cuttlefish.Foundation.Refinement
import Cuttlefish.Io.ReaderSeeker

/-! # A cursor over fixed content

What the readers of this directory and the sources built on them are for: a
position in some content that calls move, and reads of the content from there.
Reads may return less than they are asked for. -/

namespace Cuttlefish.Io

inductive FileCall
  | rewind
  | seekSet (offset : Nat)
  | seekEnd
  | read (count : Nat)
  | pread (count offset : Nat)
  deriving DecidableEq, Repr

inductive FileAnswer
  | done
  | moved (position : Nat)
  | bytes (bytes : Bytes)
  deriving DecidableEq, Repr

/-- The answer and the next position that are right for a call at a position. -/
inductive FileCursor (content : Bytes) : Nat → FileCall → FileAnswer → Nat → Prop
  | rewind (position : Nat) : FileCursor content position .rewind .done 0
  | seekSet (position offset : Nat) :
      FileCursor content position (.seekSet offset) (.moved offset) offset
  | seekEnd (position : Nat) :
      FileCursor content position .seekEnd (.moved content.length) content.length
  | read {position count : Nat} {bytes : Bytes}
      (reads : ReadsFrom content position count bytes) :
      FileCursor content position (.read count) (.bytes bytes) (position + bytes.length)
  | pread (position : Nat) {count offset : Nat} {bytes : Bytes}
      (reads : ReadsFrom content offset count bytes) :
      FileCursor content position (.pread count offset) (.bytes bytes) position

def FileCall.Within (content : Bytes) : FileCall → Prop
  | .seekSet offset => offset ≤ content.length
  | _ => True

/-- A call that reads, at the cursor or elsewhere. -/
def FileCall.IsRead : FileCall → Prop
  | .read _ => True
  | .pread _ _ => True
  | _ => False

def FileCall.Moves : FileCall → Bool
  | .read count => count != 0
  | _ => false

namespace FileCursor

open Refinement

variable {content : Bytes}

/-- The bytes that the `Read`s of a run returned one after another. -/
def returned : List FileCall → List FileAnswer → Bytes
  | .read _ :: calls, .bytes bytes :: answers => bytes ++ returned calls answers
  | _ :: calls, _ :: answers => returned calls answers
  | _, _ => []

theorem returned_of_reads {position final : Nat} {calls : List FileCall}
    {answers : List FileAnswer} (bound : position ≤ content.length)
    (reading : ∀ call ∈ calls, call.IsRead)
    (permitted : PermitsAll (FileCursor content) position calls answers final) :
    position ≤ final ∧ final ≤ content.length ∧
      returned calls answers = content.readAt position (final - position) := by
  induction permitted with
  | nil state => exact ⟨Nat.le_refl _, bound, by simp [returned, Bytes.readAt]⟩
  | @cons position next final call answer calls answers first rest induction =>
      have restReading : ∀ other ∈ calls, other.IsRead := fun other member =>
        reading other (List.mem_cons_of_mem call member)
      have isRead := reading call List.mem_cons_self
      cases first with
      | rewind => cases isRead
      | seekSet => cases isRead
      | seekEnd => cases isRead
      | pread reads => exact induction bound restReading
      | read reads =>
          rename_i count bytes
          rcases induction (reads.within bound) restReading with
            ⟨forward, finalBound, isReturned⟩
          have split : final - position =
              bytes.length + (final - (position + bytes.length)) := by omega
          refine ⟨by omega, finalBound, ?_⟩
          calc returned (.read count :: calls) (.bytes bytes :: answers)
              = content.readAt position bytes.length ++
                  content.readAt (position + bytes.length)
                    (final - (position + bytes.length)) := by
                rw [returned, isReturned, ← reads.isSlice]
            _ = content.readAt position (final - position) := by
                rw [split, Bytes.readAt, Bytes.readAt, Bytes.readAt, List.take_add,
                  List.drop_drop]

theorem final_of_empty_read {position final : Nat} {calls : List FileCall}
    {answers : List FileAnswer} (bound : position ≤ content.length)
    (reading : ∀ call ∈ calls, call.IsRead)
    (permitted : PermitsAll (FileCursor content) position calls answers final)
    {asked : Nat} (someAsked : asked ≠ 0)
    (empty : (FileCall.read asked, FileAnswer.bytes []) ∈ calls.zip answers) :
    final = content.length := by
  induction permitted with
  | nil state => cases empty
  | @cons position next final call answer calls answers first rest induction =>
      have restReading : ∀ other ∈ calls, other.IsRead := fun other member =>
        reading other (List.mem_cons_of_mem call member)
      have isRead := reading call List.mem_cons_self
      rw [List.zip_cons_cons, List.mem_cons] at empty
      cases first with
      | rewind => cases isRead
      | seekSet => cases isRead
      | seekEnd => cases isRead
      | pread reads =>
          rcases empty with isFirst | later
          · cases isFirst
          · exact induction bound restReading later
      | read reads =>
          have within := reads.within bound
          rcases empty with isFirst | later
          · cases isFirst
            rcases returned_of_reads within restReading rest with ⟨forward, finalBound, -⟩
            rcases reads.eq_nil rfl with none | passed
            · exact absurd none someAsked
            · omega
          · exact induction within restReading later

theorem reaches_end {position final : Nat} {calls : List FileCall}
    {answers : List FileAnswer} (bound : position ≤ content.length)
    (reading : ∀ call ∈ calls, call.IsRead)
    (permitted : PermitsAll (FileCursor content) position calls answers final)
    (enough : content.length - position ≤ (calls.filter FileCall.Moves).length) :
    final = content.length := by
  induction permitted with
  | nil state =>
      simp only [List.filter_nil, List.length_nil] at enough
      omega
  | @cons position next final call answer calls answers first rest induction =>
      have restReading : ∀ other ∈ calls, other.IsRead := fun other member =>
        reading other (List.mem_cons_of_mem call member)
      have isRead := reading call List.mem_cons_self
      cases first with
      | rewind => cases isRead
      | seekSet => cases isRead
      | seekEnd => cases isRead
      | pread reads =>
          rw [List.filter_cons_of_neg (by simp [FileCall.Moves])] at enough
          exact induction bound restReading enough
      | read reads =>
          rename_i count bytes
          have within := reads.within bound
          apply induction within restReading
          by_cases none : count = 0
          · rw [List.filter_cons_of_neg (by simp [FileCall.Moves, none])] at enough
            omega
          · rw [List.filter_cons_of_pos (by simp [FileCall.Moves, none]),
              List.length_cons] at enough
            by_cases isEmpty : bytes = []
            · rcases reads.eq_nil isEmpty with noCount | passed
              · exact absurd noCount none
              · omega
            · have positive := List.length_pos_iff.mpr isEmpty
              omega

/-- To have read to the end: a read for some bytes returned none, or there were as
many such reads as there are bytes left. -/
def ReadToEnd (content : Bytes) (position : Nat) (calls : List FileCall)
    (answers : List FileAnswer) : Prop :=
  (∃ asked, asked ≠ 0 ∧ (FileCall.read asked, FileAnswer.bytes []) ∈ calls.zip answers) ∨
    content.length - position ≤ (calls.filter FileCall.Moves).length

theorem returned_of_readToEnd {position final : Nat} {calls : List FileCall}
    {answers : List FileAnswer} (bound : position ≤ content.length)
    (reading : ∀ call ∈ calls, call.IsRead)
    (permitted : PermitsAll (FileCursor content) position calls answers final)
    (toEnd : ReadToEnd content position calls answers) :
    returned calls answers = content.drop position := by
  have isFinal : final = content.length := by
    rcases toEnd with ⟨asked, someAsked, empty⟩ | enough
    · exact final_of_empty_read bound reading permitted someAsked empty
    · exact reaches_end bound reading permitted enough
  rcases returned_of_reads bound reading permitted with ⟨-, -, isReturned⟩
  rw [isReturned, isFinal, Bytes.readAt, List.take_of_length_le (by simp)]

end FileCursor

/-! ## Calls to a reader -/

def FileAnswer.ofResult {State Value : Type} (answer : Value → FileAnswer) :
    Result Value × State → Option (FileAnswer × State)
  | (.ok value, next) => some (answer value, next)
  | (.error _, _) => none

/-- Make a call to a reader. Only calls that succeed have an answer. -/
def FileCall.make {State : Type} (reader : ReaderSeeker State) (state : State) :
    FileCall → Option (FileAnswer × State)
  | .rewind => FileAnswer.ofResult (fun _ => .done) (reader.seekSet state 0)
  | .seekSet offset => FileAnswer.ofResult .moved (reader.seekSet state offset)
  | .seekEnd => FileAnswer.ofResult .moved (reader.seekEnd state 0)
  | .read count => FileAnswer.ofResult .bytes (reader.read state count)
  | .pread count offset => FileAnswer.ofResult .bytes (reader.pread state count offset, state)

theorem Serves.simulates {State : Type} {reader : ReaderSeeker State} {content : Bytes}
    (serves : Serves reader content) :
    Refinement.Simulates (FileCall.make reader) (FileCursor content)
      (FileCall.Within content)
      (fun state position => serves.Valid state ∧ serves.position state = position) := by
  intro state position call related within
  rcases related with ⟨valid, rfl⟩
  cases call with
  | rewind =>
      rcases serves.seekSet state 0 valid (Nat.zero_le _) with ⟨next, set, validNext, isNext⟩
      exact ⟨.done, next, 0, by rw [FileCall.make, set]; rfl, .rewind _, validNext, isNext⟩
  | seekSet offset =>
      rcases serves.seekSet state offset valid within with ⟨next, set, validNext, isNext⟩
      exact ⟨.moved offset, next, offset, by rw [FileCall.make, set]; rfl, .seekSet _ _,
        validNext, isNext⟩
  | seekEnd =>
      rcases serves.seekEnd state valid with ⟨next, last, validNext, isNext⟩
      exact ⟨.moved content.length, next, content.length, by rw [FileCall.make, last]; rfl,
        .seekEnd _, validNext, isNext⟩
  | read count =>
      rcases serves.read state count valid with ⟨bytes, next, read, reads, validNext, isNext⟩
      exact ⟨.bytes bytes, next, _, by rw [FileCall.make, read]; rfl, .read reads,
        validNext, isNext⟩
  | pread count offset =>
      rcases serves.pread state count offset valid with ⟨bytes, read, reads⟩
      exact ⟨.bytes bytes, state, _, by rw [FileCall.make, read]; rfl, .pread _ reads,
        valid, rfl⟩

end Cuttlefish.Io
