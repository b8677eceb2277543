/-! # Byte strings

Contents of regular files as lists of bytes, with the effect of one `read(2)`
and one `write(2)` at a file position. -/

namespace Cuttlefish

abbrev Bytes := List UInt8

namespace Bytes

/-- At most `count` bytes from `position` on; nothing at or past the end. -/
def readAt (content : Bytes) (position count : Nat) : Bytes :=
  (content.drop position).take count

/-- Overwrite from `position` on, growing the content where it is too short.
A gap left between the old end and `position` reads as zeros, and writing no
bytes changes nothing. -/
def writeAt (content : Bytes) (position : Nat) (data : Bytes) : Bytes :=
  if data = [] then content
  else
    content.take position ++ List.replicate (position - content.length) 0 ++ data ++
      content.drop (position + data.length)

def zeros (count : Nat) : Bytes := List.replicate count 0

@[simp]
theorem length_zeros (count : Nat) : (zeros count).length = count := List.length_replicate

theorem writeAt_end (content data : Bytes) :
    writeAt content content.length data = content ++ data := by
  by_cases empty : data = []
  · simp [writeAt, empty]
  · simp [writeAt, empty]

theorem writeAt_of_ne_nil (content : Bytes) (position : Nat) {data : Bytes}
    (nonempty : data ≠ []) :
    writeAt content position data =
      (content.take position ++ zeros (position - content.length)) ++
        (data ++ content.drop (position + data.length)) := by
  simp [writeAt, nonempty, zeros]

private theorem length_front (content : Bytes) (position : Nat) :
    (content.take position ++ zeros (position - content.length)).length = position := by
  simp only [List.length_append, List.length_take, length_zeros]
  omega

theorem length_writeAt_of_ne_nil (content : Bytes) (position : Nat) {data : Bytes}
    (nonempty : data ≠ []) :
    (writeAt content position data).length = max content.length (position + data.length) := by
  rw [writeAt_of_ne_nil _ _ nonempty, List.length_append, length_front, List.length_append,
    List.length_drop]
  omega

theorem writeAt_writeAt (content : Bytes) (position : Nat) (first second : Bytes) :
    writeAt (writeAt content position first) (position + first.length) second =
      writeAt content position (first ++ second) := by
  by_cases noFirst : first = []
  · simp [noFirst, writeAt]
  by_cases noSecond : second = []
  · simp [noSecond, writeAt]
  have front := length_front content position
  rw [writeAt_of_ne_nil _ _ noSecond, writeAt_of_ne_nil _ _ noFirst,
    writeAt_of_ne_nil content position (by simp [noFirst])]
  generalize content.take position ++ zeros (position - content.length) = before at front
  have noGap : position + first.length -
      (before ++ (first ++ content.drop (position + first.length))).length = 0 := by
    simp only [List.length_append]
    omega
  have kept : (before ++ (first ++ content.drop (position + first.length))).take
      (position + first.length) = before ++ first := by
    rw [← front, List.take_length_add_append, List.take_left]
  have rest : (before ++ (first ++ content.drop (position + first.length))).drop
      (position + first.length + second.length) =
        content.drop (position + (first ++ second).length) := by
    rw [← List.append_assoc, List.drop_append, List.drop_eq_nil_of_le
      (by simp only [List.length_append]; omega), List.nil_append, List.drop_drop]
    congr 1
    simp only [List.length_append]
    omega
  rw [noGap, kept, rest]
  simp [zeros]

theorem getElem?_writeAt_inside (content data : Bytes) {position index : Nat}
    (after : position ≤ index) (before : index < position + data.length) :
    (writeAt content position data)[index]? = data[index - position]? := by
  have nonempty : data ≠ [] := by
    intro empty
    rw [empty, List.length_nil] at before
    omega
  have front := length_front content position
  rw [writeAt_of_ne_nil _ _ nonempty, List.getElem?_append_right (by omega), front,
    List.getElem?_append_left (by omega)]

theorem getElem?_writeAt_outside (content data : Bytes) {position index : Nat}
    (outside : index < position ∨ position + data.length ≤ index)
    (exists_ : index < content.length) :
    (writeAt content position data)[index]? = content[index]? := by
  by_cases empty : data = []
  · simp [writeAt, empty]
  have front := length_front content position
  rw [writeAt_of_ne_nil _ _ empty]
  rcases outside with before | after
  · rw [List.getElem?_append_left (by omega), List.getElem?_append_left
      (by rw [List.length_take]; omega), List.getElem?_take_of_lt before]
  · rw [List.getElem?_append_right (by omega), front, List.getElem?_append_right (by omega),
      List.getElem?_drop]
    congr 1
    omega

theorem readAt_congr {left right : Bytes} {position count : Nat}
    (agree : ∀ index, position ≤ index → index < position + count →
      left[index]? = right[index]?) :
    readAt left position count = readAt right position count := by
  apply List.ext_getElem?
  intro index
  simp only [readAt, List.getElem?_take, List.getElem?_drop]
  split
  · exact agree (position + index) (by omega) (by omega)
  · rfl

theorem readAt_writeAt (content : Bytes) (position : Nat) (data : Bytes) :
    readAt (writeAt content position data) position data.length = data := by
  apply List.ext_getElem?
  intro index
  simp only [readAt, List.getElem?_take, List.getElem?_drop]
  split
  next inside =>
    rw [getElem?_writeAt_inside content data (by omega) (by omega), Nat.add_sub_cancel_left]
  next outside => rw [List.getElem?_eq_none (by omega)]

theorem readAt_length (content : Bytes) (position count : Nat) :
    (readAt content position count).length = min count (content.length - position) := by
  simp [readAt]

theorem readAt_writeAt_of_disjoint {content data bytes : Bytes} {position start : Nat}
    (isRead : readAt content start bytes.length = bytes)
    (disjoint : start + bytes.length ≤ position ∨ position + data.length ≤ start) :
    readAt (writeAt content position data) start bytes.length = bytes := by
  have length := congrArg List.length isRead
  rw [readAt_length] at length
  refine (readAt_congr ?_).trans isRead
  intro index lower upper
  exact getElem?_writeAt_outside content data (by omega) (by omega)

theorem take_eq_readAt {content bytes : Bytes} {position : Nat}
    (isSlice : bytes = content.readAt position bytes.length) (count : Nat) :
    bytes.take count = content.readAt position (bytes.take count).length := by
  have length : (bytes.take count).length = min count bytes.length := by simp
  calc bytes.take count = (content.readAt position bytes.length).take count :=
        congrArg (List.take count) isSlice
    _ = content.readAt position (min count bytes.length) := by
        rw [readAt, readAt, List.take_take]
    _ = content.readAt position (bytes.take count).length := by rw [length]

theorem take_append_readAt (content : Bytes) (position count : Nat) :
    content.take position ++ readAt content position count =
      content.take (position + count) := by
  rw [readAt, List.take_add]

theorem readAt_eq_nil_iff (content : Bytes) (position count : Nat) (positive : 0 < count) :
    readAt content position count = [] ↔ content.length ≤ position := by
  rw [← List.length_eq_zero_iff, readAt_length]
  omega

theorem readAt_append_right (front content : Bytes) (position count : Nat) :
    readAt (front ++ content) (front.length + position) count =
      readAt content position count := by
  rw [readAt, readAt, ← List.drop_drop, List.drop_left]

theorem readAt_append_left {front : Bytes} (content : Bytes) {position count : Nat}
    (within : position + count ≤ front.length) :
    readAt (front ++ content) position count = readAt front position count := by
  simp only [readAt]
  rw [List.drop_append_of_le_length (by omega), List.take_append_of_le_length (by simp; omega)]

theorem readAt_zero_length (content rest : Bytes) :
    readAt (content ++ rest) 0 content.length = content := by
  simp [readAt]

theorem readAt_field {fields : List Bytes} (index : Nat) {field : Bytes} {position width : Nat}
    (found : fields[index]? = some field)
    (start : (fields.take index).flatten.length = position) (size : field.length = width) :
    readAt fields.flatten position width = field := by
  rcases List.getElem?_eq_some_iff.mp found with ⟨bound, isField⟩
  have split : fields = fields.take index ++ field :: fields.drop (index + 1) := by
    rw [← isField, List.getElem_cons_drop, List.take_append_drop]
  have whole : fields.flatten =
      (fields.take index).flatten ++ (field ++ (fields.drop (index + 1)).flatten) := by
    rw [← List.flatten_cons, ← List.flatten_append, ← split]
  have behind := readAt_append_right (fields.take index).flatten
    (field ++ (fields.drop (index + 1)).flatten) 0 field.length
  rw [whole, ← start, ← size]
  exact behind.trans (readAt_zero_length _ _)

theorem readAt_readAt (content : Bytes) (start size : Nat) {position count : Nat}
    (within : position + count ≤ size) :
    readAt (readAt content start size) position count =
      readAt content (start + position) count := by
  simp only [readAt]
  rw [List.drop_take, List.take_take, List.drop_drop, Nat.min_eq_left (by omega)]

theorem readAt_flatMap {Element : Type} {encode : Element → Bytes} {width : Nat}
    (widths : ∀ element, (encode element).length = width) {elements : List Element}
    {index : Nat} {element : Element} (found : elements[index]? = some element) :
    readAt (elements.flatMap encode) (width * index) width = encode element := by
  induction elements generalizing index with
  | nil => simp at found
  | cons first rest induction =>
      cases index with
      | zero =>
          simp only [List.getElem?_cons_zero, Option.some.injEq] at found
          rw [List.flatMap_cons, found, ← widths element]
          exact readAt_zero_length _ _
      | succ index =>
          have position : width * (index + 1) = (encode first).length + width * index := by
            rw [widths, Nat.mul_succ, Nat.add_comm]
          rw [List.flatMap_cons, position, readAt_append_right]
          exact induction (by simpa using found)

theorem length_flatMap_of_width {Element : Type} {encode : Element → Bytes} {width : Nat}
    (widths : ∀ element, (encode element).length = width) (elements : List Element) :
    (elements.flatMap encode).length = width * elements.length := by
  induction elements with
  | nil => rfl
  | cons first rest induction =>
      rw [List.flatMap_cons, List.length_append, induction, widths, List.length_cons,
        Nat.mul_succ, Nat.add_comm]

end Bytes

end Cuttlefish
