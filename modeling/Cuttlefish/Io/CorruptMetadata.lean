import Cuttlefish.Io.LazilyLoadedFile
import Cuttlefish.Io.RangeUnion

/-! # Metadata files that say something else

`ReadMetadata` of `io/lazily_loaded_file.cc` and `DeserializeDisjointRangeSet` of
`io/serialize_disjoint_range_set.cc` on a file with any content. -/

namespace Cuttlefish.Io

namespace DisjointRangeSet

/-- The process goes on, and a set that is returned is a valid one. -/
def Survives : Result DisjointRangeSet → Prop
  | .ok set => Separated set.ranges
  | .error (.err _) => True
  | .error (.abort _) => False

theorem insertRanges_abort {set : DisjointRangeSet} {inserted : DisjointRangeList}
    (notOrdered : ¬ inserted.Ordered) :
    insertRanges set inserted =
      .error (.abort "Invalid range: expected start <= end") := by
  induction inserted generalizing set with
  | nil =>
      apply absurd _ notOrdered
      intro range member
      cases member
  | cons first rest induction =>
      rcases first with ⟨start, end_⟩
      rw [insertRanges, insertRange, checkRange]
      by_cases firstOrdered : start ≤ end_
      · rw [if_pos firstOrdered]
        apply induction
        intro restOrdered
        apply notOrdered
        intro range member
        rcases List.mem_cons.mp member with isFirst | inRest
        · exact isFirst ▸ firstOrdered
        · exact restOrdered range inRest
      · rw [if_neg firstOrdered]
        rfl

theorem insertRanges_survives_iff (inserted : DisjointRangeList) :
    Survives (insertRanges empty inserted) ↔ inserted.Ordered := by
  constructor
  · intro survives
    by_contra notOrdered
    rw [insertRanges_abort notOrdered] at survives
    exact survives
  · intro ordered
    rcases insertRanges_empty ordered with ⟨set, isOk, separated, -⟩
    rw [isOk]
    exact separated

/-- What the file parses to, if it parses, has the bounds of its ranges in order. -/
def ParsesOrdered (codec : MessageCodec DisjointRangeList) (data : Bytes) : Prop :=
  ∀ ranges, codec.parseFromString data = (true, ranges) → ranges.Ordered

theorem deserialize_survives_iff (codec : MessageCodec DisjointRangeList) (data : Bytes) :
    Survives (deserialize codec data) ↔ ParsesOrdered codec data := by
  rw [deserialize, ParsesOrdered]
  cases parsed : codec.parseFromString data with
  | mk isParsed ranges =>
      cases isParsed with
      | false => simp [Survives]
      | true =>
          change Survives (insertRanges empty ranges) ↔ _
          rw [insertRanges_survives_iff]
          constructor
          · intro ordered other isOther
            exact (Prod.mk.inj isOther).2 ▸ ordered
          · intro ordered
            exact ordered ranges rfl

end DisjointRangeSet

namespace LazilyLoadedFile

open DisjointRangeSet

theorem parseMetadata_survives {codec : MessageCodec DisjointRangeList} {data : Bytes}
    (survives : Survives (deserialize codec data)) : Survives (parseMetadata codec data) := by
  rw [parseMetadata]
  generalize deserialize codec data = parsed at survives ⊢
  cases parsed with
  | ok set => exact survives
  | error failure =>
      cases failure with
      | err message => exact separated_empty
      | abort message => exact survives.elim

theorem readMetadata_survives {codec : MessageCodec DisjointRangeList} {data : Bytes}
    (survives : Survives (deserialize codec data)) (io : MetadataIo) :
    Survives (readMetadata codec io data) := by
  rw [readMetadata]
  cases io.opens with
  | false => trivial
  | true =>
      cases read : Fs.readAll io.reads data with
      | none => trivial
      | some str =>
          change Survives (parseMetadata codec str)
          rw [Fs.readAll_eq_content read]
          exact parseMetadata_survives survives

/-- Loading a metadata file does not end the process, whatever the system calls do. -/
structure LoadsSafely (codec : MessageCodec DisjointRangeList) (data : Bytes) : Prop where
  deserializes : Survives (deserialize codec data)
  reads : ∀ io, Survives (readMetadata codec io data)

/-- A metadata file is loaded safely unless it parses to a range whose bounds are the
wrong way round. -/
theorem loadsSafely_iff (codec : MessageCodec DisjointRangeList) (data : Bytes) :
    LoadsSafely codec data ↔ ParsesOrdered codec data := by
  rw [← deserialize_survives_iff]
  constructor
  · exact LoadsSafely.deserializes
  · intro survives
    exact ⟨survives, readMetadata_survives survives⟩

/-- The range from 5 to 3, as protobuf stores it, ends the process. -/
theorem corrupt_metadata_aborts :
    ¬ ∀ data, LoadsSafely DisjointRangeList.wire data := by
  intro always
  have parses := (deserialize_survives_iff DisjointRangeList.wire [10, 4, 8, 5, 16, 3]).mp
    (always [10, 4, 8, 5, 16, 3]).deserializes
  have ordered := parses [(5, 3)] (by decide +kernel)
  exact absurd ordered (by decide)

end LazilyLoadedFile

end Cuttlefish.Io
