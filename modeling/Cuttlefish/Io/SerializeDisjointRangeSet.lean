import Cuttlefish.Foundation.Protobuf
import Cuttlefish.Io.DisjointRangeSet

/-! # Storing sets of numbers

`Serialize` and `DeserializeDisjointRangeSet` of
`io/serialize_disjoint_range_set.cc`. The class of the message is a parameter. -/

namespace Cuttlefish.Io

/-- `DisjointRangeList`: the starts and ends of its members. -/
abbrev DisjointRangeList := List (Nat × Nat)

namespace DisjointRangeList

/-- The class of the message parses what it serialized, and an empty string is the
default message. The fields are of type `uint64`. -/
structure Lawful (codec : MessageCodec DisjointRangeList) : Prop where
  parses_serialized : ∀ (ranges : DisjointRangeList) (str : Bytes),
    (∀ range ∈ ranges, range.1 < 18446744073709551616 ∧ range.2 < 18446744073709551616) →
    codec.serializeToString ranges = some str → codec.parseFromString str = (true, ranges)
  parses_empty : codec.parseFromString [] = (true, [])

/-! ## The message on the wire -/

open Protobuf

def encodeMember (member : Nat × Nat) : Bytes :=
  encodeMessage 10 (encodeNumber 8 member.1 ++ encodeNumber 16 member.2)

def decodeMember (message : Bytes) : Option (Nat × Nat) :=
  match decodeNumber 8 message with
  | none => none
  | some (start, rest) =>
      match decodeNumber 16 rest with
      | some (end_, []) => some (start, end_)
      | _ => none

def decodeMembers : (fuel : Nat) → Bytes → Option DisjointRangeList
  | _, [] => some []
  | 0, _ :: _ => none
  | fuel + 1, bytes =>
      match decodeMessage 10 bytes with
      | none => none
      | some (message, rest) =>
          match decodeMember message, decodeMembers fuel rest with
          | some member, some members => some (member :: members)
          | _, _ => none

/-- Messages of more than `INT_MAX` bytes are not serialized. -/
def wire : MessageCodec DisjointRangeList where
  parseFromString str :=
    match decodeMembers str.length str with
    | none => (false, [])
    | some members => (true, members)
  serializeToString members :=
    if 2147483647 < (members.flatMap encodeMember).length then none
    else some (members.flatMap encodeMember)

theorem decodeMember_encodeMember {member : Nat × Nat}
    (fits : member.1 < 18446744073709551616 ∧ member.2 < 18446744073709551616) :
    decodeMember (encodeNumber 8 member.1 ++ encodeNumber 16 member.2) = some member := by
  have other : ∀ byte ∈ (encodeNumber 16 member.2).head?, byte ≠ 8 := by
    intro byte isHead
    rw [encodeNumber] at isHead
    split at isHead
    · cases isHead
    · cases isHead
      decide
  have start := decodeNumber_encodeNumber other fits.1
  have last : decodeNumber 16 (encodeNumber 16 member.2 ++ []) = some (member.2, []) :=
    decodeNumber_encodeNumber (by simp) fits.2
  rw [List.append_nil] at last
  simp only [decodeMember, start, last]

theorem decodeMembers_flatMap {members : DisjointRangeList}
    (fits : ∀ member ∈ members,
      member.1 < 18446744073709551616 ∧ member.2 < 18446744073709551616)
    {fuel : Nat} (enough : (members.flatMap encodeMember).length ≤ fuel) :
    decodeMembers fuel (members.flatMap encodeMember) = some members := by
  induction members generalizing fuel with
  | nil => simp [decodeMembers]
  | cons first rest induction =>
      have firstFits := fits first List.mem_cons_self
      have short : (encodeNumber 8 first.1 ++ encodeNumber 16 first.2).length <
          18446744073709551616 := by
        have start := length_encodeNumber_le 8 first.1
        have last := length_encodeNumber_le 16 first.2
        rw [List.length_append]
        omega
      rw [List.flatMap_cons] at enough ⊢
      have message := decodeMessage_encodeMessage 10 short (rest.flatMap encodeMember)
      have nonempty : 0 < (encodeMember first).length := by simp [encodeMember, encodeMessage]
      rw [List.length_append] at enough
      cases fuel with
      | zero => omega
      | succ fuel =>
          have later : decodeMembers fuel (rest.flatMap encodeMember) = some rest :=
            induction (fun member isMember =>
              fits member (List.mem_cons_of_mem first isMember)) (by omega)
          rw [encodeMember] at nonempty ⊢
          rw [decodeMembers, message]
          · simp only [decodeMember_encodeMember firstFits, later]
          · intro isNil
            simp [encodeMessage] at isNil

theorem wire_lawful : Lawful wire where
  parses_serialized members str fits stored := by
    simp only [wire] at stored ⊢
    split at stored
    · contradiction
    · rw [← Option.some.inj stored, decodeMembers_flatMap fits (Nat.le_refl _)]
  parses_empty := rfl

end DisjointRangeList

namespace DisjointRangeSet

/-- `Serialize`. `SerializeAsString` returns an empty string when it fails. -/
def serialize (codec : MessageCodec DisjointRangeList) (set : DisjointRangeSet) : Bytes :=
  (codec.serializeToString set.allRanges).getD []

def insertRanges : DisjointRangeSet → DisjointRangeList → Result DisjointRangeSet
  | set, [] => .ok set
  | set, (start, end_) :: rest => do
      let set ← set.insertRange start end_
      insertRanges set rest

def deserialize (codec : MessageCodec DisjointRangeList) (data : Bytes) :
    Result DisjointRangeSet :=
  match codec.parseFromString data with
  | (false, _) => .error (.err "proto.ParseFromString(data)")
  | (true, ranges) => insertRanges empty ranges

/-! ## A set comes back as it was stored -/

theorem insertChecked_behind {front : List Range} {range : Range}
    (separated : Separated (front ++ [range])) :
    insertChecked ⟨front⟩ range = ⟨front ++ [range]⟩ := by
  rcases separated_append.mp separated with ⟨separatedFront, -, apart⟩
  have before : ∀ other ∈ front, other.start ≤ other.end_ ∧ other.end_ < range.start :=
    fun other member => ⟨separatedFront.ordered other member,
      apart other member range (List.mem_singleton_self range)⟩
  have notGreater : ∀ other ∈ front, (!range.less other) = true := by
    intro other member
    have bounds := before other member
    simp only [Range.less, Bool.not_eq_true', Bool.or_eq_false_iff, decide_eq_false_iff_not,
      Bool.and_eq_false_iff]
    omega
  have place : upperBound front range = (front, []) := by
    have taken : (front ++ []).takeWhile (fun other => !range.less other) = front ++ [] :=
      List.takeWhile_append_of_pos notGreater
    have dropped : (front ++ []).dropWhile (fun other => !range.less other) = [] :=
      List.dropWhile_append_of_pos notGreater
    rw [List.append_nil] at taken dropped
    rw [upperBound, taken, dropped]
  have notTouching : ∀ last ∈ front.getLast?,
      last.contains range = false ∧ range.canMerge last = false := by
    intro last isLast
    have bounds := before last (List.mem_of_getLast? isLast)
    simp only [Range.contains, Range.canMerge, Bool.and_eq_false_iff, decide_eq_false_iff_not]
    have ordered := separated.ordered range (by simp)
    omega
  have placed := emplace_separated separated
  rw [List.append_nil] at placed
  unfold insertChecked containsRangeChecked mergePrevious
  simp only [place, mergeFollowing]
  cases last : front.getLast? with
  | none =>
      simp only [Bool.false_eq_true, if_false, List.append_nil]
      rw [placed]
  | some last_ =>
      rcases notTouching last_ last with ⟨notContains, notMerge⟩
      simp only [notContains, notMerge, Bool.false_eq_true, if_false, List.append_nil]
      rw [placed]

theorem insertRanges_separated {front back : List Range}
    (separated : Separated (front ++ back)) :
    insertRanges ⟨front⟩ (allRanges ⟨back⟩) = .ok ⟨front ++ back⟩ := by
  induction back generalizing front with
  | nil => simp [allRanges, insertRanges]
  | cons first rest induction =>
      have split : front ++ first :: rest = (front ++ [first]) ++ rest := by simp
      rw [split] at separated
      have ordered := separated.ordered first (by simp)
      have placed := insertChecked_behind (separated.sublist (List.sublist_append_left _ _))
      have inserted : insertRange ⟨front⟩ first.start first.end_ = .ok ⟨front ++ [first]⟩ := by
        simp only [insertRange, checkRange, ordered, if_true, placed]
        rfl
      have later := induction separated
      rw [← split] at later
      simp only [allRanges, List.map_cons, insertRanges, inserted]
      exact later

theorem deserialize_serialize {codec : MessageCodec DisjointRangeList}
    (lawful : DisjointRangeList.Lawful codec) {set : DisjointRangeSet}
    (separated : Separated set.ranges)
    (fits : ∀ range ∈ set.ranges, range.end_ < 18446744073709551616) :
    deserialize codec (set.serialize codec) = .ok set ∨
      deserialize codec (set.serialize codec) = .ok empty := by
  rw [serialize]
  cases stored : codec.serializeToString set.allRanges with
  | none =>
      right
      simp only [Option.getD_none, deserialize, lawful.parses_empty, insertRanges]
  | some str =>
      left
      have bounds : ∀ range ∈ set.allRanges,
          range.1 < 18446744073709551616 ∧ range.2 < 18446744073709551616 := by
        intro range member
        rcases List.mem_map.mp member with ⟨other, isMember, isRange⟩
        have ordered := separated.ordered other isMember
        have bound := fits other isMember
        rw [← isRange]
        exact ⟨Nat.lt_of_le_of_lt ordered bound, bound⟩
      simp only [Option.getD_some, deserialize,
        lawful.parses_serialized set.allRanges str bounds stored]
      exact insertRanges_separated separated

end DisjointRangeSet

end Cuttlefish.Io
