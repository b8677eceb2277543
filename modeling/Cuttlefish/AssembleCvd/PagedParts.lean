import Mathlib.Data.List.TakeWhile
import Cuttlefish.Io.WholeReads

/-! # Parts on pages

What the builders of boot images and vendor boot images have in common. -/

namespace Cuttlefish.AssembleCvd

open Io ConcatReaderSeeker

/-! ## Texts in arrays -/

def cString (memory : Bytes) : Result Bytes :=
  if 0 ∈ memory then .ok (memory.takeWhile (· ≠ 0))
  else .error (.abort "no null byte in the array")

/-- `snprintf(buffer, sizeof(buffer), "%s", text.c_str())`. -/
def snprintf (buffer text : Bytes) : Bytes :=
  let written := (text.takeWhile (· ≠ 0)).take (buffer.length - 1)
  written ++ 0 :: buffer.drop (written.length + 1)

section Texts

variable {buffer text : Bytes}

theorem snprintf_eq (noNull : 0 ∉ text) (fits : text.length < buffer.length) :
    snprintf buffer text = text ++ 0 :: buffer.drop (text.length + 1) := by
  have whole : text.takeWhile (· ≠ 0) = text :=
    List.takeWhile_eq_self_iff.mpr fun byte isByte =>
      decide_eq_true fun null => noNull (null ▸ isByte)
  rw [snprintf, whole, List.take_of_length_le (by omega)]

theorem length_snprintf (noNull : 0 ∉ text) (fits : text.length < buffer.length) :
    (snprintf buffer text).length = buffer.length := by
  rw [snprintf_eq noNull fits, List.length_append, List.length_cons, List.length_drop]
  omega

theorem cString_snprintf (noNull : 0 ∉ text) (fits : text.length < buffer.length) :
    cString (snprintf buffer text) = .ok text := by
  have text_ : ∀ byte ∈ text, decide (byte ≠ 0) = true :=
    fun byte isByte => decide_eq_true fun null => noNull (null ▸ isByte)
  rw [snprintf_eq noNull fits, cString, if_pos (by simp),
    List.takeWhile_append_of_pos text_]
  simp

end Texts

/-! ## Padding -/

def pagePadding (size pageSize : Nat) : Result OpenReader :=
  if pageSize = 0 then .error (.abort "division by zero")
  else .ok (.inMemory (.ofData (Bytes.zeros ((pageSize - size % pageSize) % pageSize))))

def padded (pageSize : Nat) (content : Bytes) : Bytes :=
  content ++ Bytes.zeros ((pageSize - content.length % pageSize) % pageSize)

def pages (pageSize size : Nat) : Nat := (size + pageSize - 1) / pageSize

theorem pages_mul {pageSize : Nat} (positive : 0 < pageSize) (size : Nat) :
    pages pageSize size * pageSize = size + (pageSize - size % pageSize) % pageSize := by
  have whole := Nat.div_add_mod size pageSize
  have less := Nat.mod_lt size positive
  by_cases aligned : size % pageSize = 0
  · have quotient : (size + pageSize - 1) / pageSize = size / pageSize := by
      rw [Nat.div_eq_iff positive, Nat.mul_comm]
      omega
    rw [pages, quotient, aligned, Nat.sub_zero, Nat.mod_self, Nat.mul_comm]
    omega
  · have quotient : (size + pageSize - 1) / pageSize = size / pageSize + 1 := by
      rw [Nat.div_eq_iff positive, Nat.add_mul, Nat.one_mul, Nat.mul_comm]
      omega
    rw [pages, quotient, Nat.mod_eq_of_lt (by omega : pageSize - size % pageSize < pageSize),
      Nat.add_mul, Nat.one_mul, Nat.mul_comm]
    omega

theorem length_padded {pageSize : Nat} (positive : 0 < pageSize) (content : Bytes) :
    (padded pageSize content).length = pages pageSize content.length * pageSize := by
  rw [padded, List.length_append, Bytes.length_zeros, pages_mul positive]

theorem length_padded_lt {pageSize : Nat} (positive : 0 < pageSize) (content : Bytes) :
    (padded pageSize content).length < content.length + pageSize := by
  have padding := Nat.mod_lt (pageSize - content.length % pageSize) positive
  rw [padded, List.length_append, Bytes.length_zeros]
  omega

theorem le_length_padded (pageSize : Nat) (content : Bytes) :
    content.length ≤ (padded pageSize content).length := by
  rw [padded, List.length_append]
  exact Nat.le_add_right _ _

theorem padded_nil (pageSize : Nat) : padded pageSize [] = [] := by
  simp [padded, Bytes.zeros]

/-! ## Members -/

def Contains : Option OpenReader → Bytes → Prop
  | none, content => content = []
  | some reader, content => (OpenReader.serves content).Valid reader

theorem contains_data (data : Bytes) : Contains (some (.inMemory (.ofData data))) data :=
  ⟨rfl, Nat.zero_le _⟩

def partLength : Option OpenReader → Result (Nat × Option OpenReader)
  | none => .ok (0, none)
  | some reader =>
      match OpenReader.reader.length reader with
      | (.error failure, _) => .error failure
      | (.ok length, reader) => .ok (length, some reader)

def partMembers : Option OpenReader → (padding : Result OpenReader) →
    Result (List (Option OpenReader))
  | none, _ => .ok []
  | some reader, padding => do
      let padding ← padding
      return [some reader, some padding]

theorem partLength_eq {part : Option OpenReader} {content : Bytes}
    (contains : Contains part content) :
    ∃ next, partLength part = .ok (content.length, next) ∧ Contains next content := by
  cases part with
  | none => exact ⟨none, by rw [partLength, show content = [] from contains]; rfl, contains⟩
  | some reader =>
      rcases (OpenReader.serves content).length contains with ⟨next, isLength, validNext, -⟩
      exact ⟨some next, by simp only [partLength, isLength], validNext⟩

theorem opened_data (data : Bytes) : Opened [some (.inMemory (.ofData data))] [data] :=
  .cons ⟨rfl, Nat.zero_le _⟩ .nil

theorem pagePadding_eq {pageSize : Nat} (positive : 0 < pageSize) (size : Nat) :
    pagePadding size pageSize =
      .ok (.inMemory (.ofData (Bytes.zeros ((pageSize - size % pageSize) % pageSize)))) :=
  if_neg (Nat.ne_of_gt positive)

theorem partMembers_opened {part : Option OpenReader} {content : Bytes}
    (contains : Contains part content) {pageSize : Nat} (positive : 0 < pageSize) (size : Nat) :
    ∃ members contents, partMembers part (pagePadding size pageSize) = .ok members ∧
      Opened members contents ∧
      (size = content.length → contents.flatten = padded pageSize content) := by
  cases part with
  | none =>
      refine ⟨[], [], rfl, .nil, fun _ => ?_⟩
      rw [show content = [] from contains, padded_nil]
      rfl
  | some reader =>
      refine ⟨_, [content, _], by rw [pagePadding_eq positive]; rfl,
        .cons contains (opened_data _), fun isSize => ?_⟩
      simp [padded, isSize]

/-! ## Looking at parts -/

theorem readAt_padded {image front behind part : Bytes} {pageSize start : Nat}
    (isImage : image = front ++ (padded pageSize part ++ behind)) (isStart : start = front.length) :
    start + part.length ≤ image.length ∧ image.readAt start part.length = part := by
  have split : image = front ++ (part ++ (Bytes.zeros
      ((pageSize - part.length % pageSize) % pageSize) ++ behind)) := by
    rw [isImage, padded, List.append_assoc]
  constructor
  · rw [split, isStart]
    simp only [List.length_append]
    omega
  · have moved := Bytes.readAt_append_right front
      (part ++ (Bytes.zeros ((pageSize - part.length % pageSize) % pageSize) ++ behind)) 0 part.length
    rw [split, isStart]
    exact moved.trans (Bytes.readAt_zero_length _ _)

theorem readAt_front {front : Bytes} (image : Bytes) (isFront : front <+: image) {count : Nat}
    (le : front.length ≤ count) : ∃ others, image.readAt 0 count = front ++ others := by
  rcases isFront with ⟨behind, rfl⟩
  refine ⟨behind.take (count - front.length), ?_⟩
  rw [Bytes.readAt, List.drop_zero, List.take_append, List.take_of_length_le le]

end Cuttlefish.AssembleCvd
