import Mathlib.Data.List.Forall2
import Cuttlefish.Webrtc.FrameSource

/-! # The stream of frames

The frame source takes apart what the raw frame streamer sends as it was put together. -/

namespace Cuttlefish.Webrtc

open ByteStream (Cell plain withFile readAll receiveAll)
open LittleEndian (encodeWords decodeWords)
open FrameSource

/-! ## Headers -/

theorem receiveAll_plain (magic version : UInt32) (fields : List UInt32)
    (rest : List (Cell File)) :
    receiveAll 8 (plain (encodeWords (magic :: version :: fields)) ++ rest) =
      some (encodeWords [magic, version], none, plain (encodeWords fields) ++ rest) := by
  have split : encodeWords (magic :: version :: fields) =
      encodeWords [magic, version] ++ encodeWords fields :=
    LittleEndian.encodeWords_append [magic, version] fields
  rw [split, ByteStream.plain_append, List.append_assoc]
  have received := ByteStream.receiveAll_append
    (plain (encodeWords [magic, version])) (plain (encodeWords fields) ++ rest)
  rwa [ByteStream.bytesOf_plain, ByteStream.findSome?_plain] at received

theorem receiveAll_withFile (file : File) (magic version : UInt32) (fields : List UInt32)
    (rest : List (Cell File)) :
    receiveAll 8 (withFile file (encodeWords (magic :: version :: fields)) ++ rest) =
      some (encodeWords [magic, version], some file, plain (encodeWords fields) ++ rest) := by
  have split : encodeWords (magic :: version :: fields) =
      encodeWords [magic, version] ++ encodeWords fields :=
    LittleEndian.encodeWords_append [magic, version] fields
  have nonempty : encodeWords [magic, version] ≠ [] := nofun
  rw [split, ByteStream.withFile_append file nonempty, List.append_assoc]
  have received := ByteStream.receiveAll_append
    (withFile file (encodeWords [magic, version])) (plain (encodeWords fields) ++ rest)
  rwa [ByteStream.bytesOf_withFile, ByteStream.findSome?_withFile file nonempty] at received

theorem readRemaining_plain (split : Nat → Nat) {count : Nat} {fields : List UInt32}
    (rest : List (Cell File)) (isCount : count = fields.length) :
    readRemaining split count (plain (encodeWords fields) ++ rest) = some (fields, rest) := by
  have read := ByteStream.readAll_append split (plain (encodeWords fields)) rest
  rw [ByteStream.length_plain, LittleEndian.length_encodeWords, ByteStream.bytesOf_plain] at read
  rw [readRemaining, isCount, read, Option.map_some, LittleEndian.decodeWords_encodeWords]

theorem discardAll_append (split : Nat → Nat) (cells rest : List (Cell File)) :
    discardAll split cells.length (cells ++ rest) = some rest := by
  generalize isSize : cells.length = size
  induction size using Nat.strongRecOn generalizing cells with
  | _ size induction =>
      rw [discardAll]
      by_cases zero : size = 0
      · rw [if_pos zero, List.length_eq_zero_iff.mp (isSize.trans zero), List.nil_append]
      · have first : (cells.take (min size 4096)).length = min size 4096 := by
          rw [List.length_take]
          omega
        have read := ByteStream.readAll_append split (cells.take (min size 4096))
          (cells.drop (min size 4096) ++ rest)
        rw [first, ← List.append_assoc, List.take_append_drop] at read
        rw [if_neg zero, read]
        apply induction (size - min size 4096) (by omega)
        rw [List.length_drop, isSize]

theorem decodeWords_common (magic version : UInt32) :
    decodeWords (encodeWords [magic, version]) = [magic, version] :=
  LittleEndian.decodeWords_encodeWords _

/-! ## Messages -/

/-- What the frame source of a display has to do with a message. -/
def Message.event (displayId : UInt32) : Message → Event
  | .shmInit header file => .mapped ⟨file, header.slotCount, header.slotSize⟩
  | .raw header payload =>
      if header.picture.displayNumber = displayId then .pushedRaw header payload
      else .skippedRaw header
  | .shmNotify header slot =>
      if header.picture.displayNumber = displayId then .pushedShared header slot
      else .skippedShared header
  | .dmabuf header file =>
      if header.picture.displayNumber = displayId then .pushedDmabuf header file
      else .skippedDmabuf header

def Message.mappingAfter (mapping : Option Mapping) : Message → Option Mapping
  | .shmInit header file => some ⟨file, header.slotCount, header.slotSize⟩
  | .raw _ _ | .shmNotify _ _ | .dmabuf _ _ => mapping

def Message.Framed : Message → Prop
  | .raw header payload => header.payloadSize.toNat = payload.length
  | .shmInit _ _ | .shmNotify _ _ | .dmabuf _ _ => True

def Message.handled (displayId : UInt32) (mapping : Option Mapping) :
    Message → Except Stop (Event × Option Mapping)
  | .raw header payload =>
      if validateFrame rawFrameMagic rawFrameVersion header = false then .error .rejected
      else .ok (Message.event displayId (.raw header payload), mapping)
  | .shmInit header file =>
      if validateShmInit shmInitMagic shmFrameVersion header = false then .error .rejected
      else
        .ok (Message.event displayId (.shmInit header file),
          some ⟨file, header.slotCount, header.slotSize⟩)
  | .shmNotify header _ =>
      match mapping with
      | none => .error .rejected
      | some shm =>
          if validateShmFrame shmNotifyMagic shmFrameVersion header shm = false then
            .error .rejected
          else
            -- The frame source looks for the slot in its own mapping.
            .ok (Message.event displayId
              (.shmNotify header ⟨shm.file, header.slotIndex.toNat * shm.slotSize.toNat⟩), mapping)
  | .dmabuf header file =>
      if validateDmabufFrame dmabufFrameMagic dmabufFrameVersion header (some file) = false then
        .error .rejected
      else .ok (Message.event displayId (.dmabuf header file), mapping)

section

variable {displayId : UInt32} {split : Nat → Nat}

theorem receiveRaw_plain {header : RawFrameHeader} {payload : Bytes} {mapping : Option Mapping}
    (framed : Message.Framed (.raw header payload)) (rest : List (Cell File)) :
    receiveRaw displayId split mapping rawFrameMagic rawFrameVersion
        (plain (encodeWords [header.picture.displayNumber, header.picture.width,
          header.picture.height, header.picture.fourcc, header.picture.strideBytes,
          header.payloadSize]) ++ (plain payload ++ rest)) =
      (Message.handled displayId mapping (.raw header payload)).map fun done =>
        (done.1, done.2, rest) := by
  have length : header.payloadSize.toNat = (plain payload : List (Cell File)).length := by
    rw [ByteStream.length_plain]
    exact framed
  rw [receiveRaw, readRemaining_plain split]
  case isCount => rfl
  dsimp only [Message.handled]
  split
  · rfl
  · rw [length]
    by_cases own : header.picture.displayNumber = displayId
    · rw [if_neg (absurd own), ByteStream.readAll_append, ByteStream.bytesOf_plain,
        Message.event, if_pos own]
      rfl
    · rw [if_pos own, discardAll_append, Message.event, if_neg own]
      rfl

theorem receiveDmabuf_plain (header : DmabufFrameHeader) (file : File) (mapping : Option Mapping)
    (rest : List (Cell File)) :
    receiveDmabuf displayId split mapping dmabufFrameMagic dmabufFrameVersion (some file)
        (plain (encodeWords [header.picture.displayNumber, header.picture.width,
          header.picture.height, header.picture.fourcc, header.offset, header.picture.strideBytes,
          header.modifierHi, header.modifierLo]) ++ rest) =
      (Message.handled displayId mapping (.dmabuf header file)).map fun done =>
        (done.1, done.2, rest) := by
  rw [receiveDmabuf, readRemaining_plain split]
  case isCount => rfl
  dsimp only [Message.handled]
  split
  · rfl
  · by_cases own : header.picture.displayNumber = displayId
    · rw [if_neg (absurd own), Message.event, if_pos own]
      rfl
    · rw [if_pos own, Message.event, if_neg own]
      rfl

theorem handleShmInit_plain (header : ShmInitHeader) (file : File) (mapping : Option Mapping)
    (rest : List (Cell File)) :
    handleShmInit split shmInitMagic shmFrameVersion (some file)
        (plain (encodeWords [header.slotCount, header.slotSize]) ++ rest) =
      (Message.handled displayId mapping (.shmInit header file)).map fun done =>
        (done.1, done.2, rest) := by
  rw [handleShmInit, readRemaining_plain split]
  case isCount => rfl
  dsimp only [Message.handled]
  split
  · rfl
  · rfl

theorem receiveShmNotify_plain (header : ShmFrameHeader) (slot : Slot) (mapping : Option Mapping)
    (rest : List (Cell File)) :
    receiveShmNotify displayId split mapping shmNotifyMagic shmFrameVersion
        (plain (encodeWords [header.picture.displayNumber, header.picture.width,
          header.picture.height, header.picture.fourcc, header.picture.strideBytes,
          header.payloadSize, header.slotIndex]) ++ rest) =
      (Message.handled displayId mapping (.shmNotify header slot)).map fun done =>
        (done.1, done.2, rest) := by
  rw [receiveShmNotify, readRemaining_plain split]
  case isCount => rfl
  cases mapping with
  | none => rfl
  | some shm =>
      dsimp only [Message.handled]
      split
      · rfl
      · by_cases own : header.picture.displayNumber = displayId
        · rw [if_neg (absurd own), Message.event, if_pos own]
          rfl
        · rw [if_pos own, Message.event, if_neg own]
          rfl

theorem receiveMessage_cells {message : Message} (framed : message.Framed)
    (mapping : Option Mapping) (rest : List (Cell File)) :
    receiveMessage displayId split mapping (message.cells ++ rest) =
      (message.handled displayId mapping).map fun done => (done.1, done.2, rest) := by
  rw [receiveMessage]
  cases message with
  | raw header payload =>
      rw [Message.cells, Message.header, List.append_assoc, receiveAll_plain]
      dsimp only
      rw [decodeWords_common]
      exact receiveRaw_plain framed rest
  | shmInit header file =>
      rw [Message.cells, Message.header, receiveAll_withFile]
      dsimp only
      rw [decodeWords_common]
      exact handleShmInit_plain header file mapping rest
  | shmNotify header slot =>
      rw [Message.cells, Message.header, receiveAll_plain]
      dsimp only
      rw [decodeWords_common]
      exact receiveShmNotify_plain header slot mapping rest
  | dmabuf header file =>
      rw [Message.cells, Message.header, receiveAll_withFile]
      dsimp only
      rw [decodeWords_common]
      exact receiveDmabuf_plain header file mapping rest

end

def Message.Acceptable (mapping : Option Mapping) (message : Message) : Prop :=
  message.Framed ∧ ∀ displayId,
    message.handled displayId mapping = .ok (message.event displayId, message.mappingAfter mapping)

/-! ## Valid frames -/

/-- The rules of the frame source for a picture. -/
structure Picture.Valid (picture : Picture) : Prop where
  format : picture.fourcc ∈ knownFormats
  width : 1 ≤ picture.width.toNat ∧ picture.width.toNat ≤ 65535
  height : 1 ≤ picture.height.toNat ∧ picture.height.toNat ≤ 65535
  stride : 4 * picture.width.toNat ≤ picture.strideBytes.toNat
  size : picture.size ≤ 268435456

/-- A frame as it is published, with a valid picture. -/
def Frame.Valid : Frame → Prop
  | .raw picture pixels => picture.Valid ∧ pixels.length = picture.size
  | .dmabuf picture _ _ _ _ => picture.Valid

instance (picture : Picture) : Decidable picture.Valid :=
  decidable_of_iff (picture.fourcc ∈ knownFormats ∧
      (1 ≤ picture.width.toNat ∧ picture.width.toNat ≤ 65535) ∧
      (1 ≤ picture.height.toNat ∧ picture.height.toNat ≤ 65535) ∧
      4 * picture.width.toNat ≤ picture.strideBytes.toNat ∧ picture.size ≤ 268435456)
    ⟨fun valid => ⟨valid.1, valid.2.1, valid.2.2.1, valid.2.2.2.1, valid.2.2.2.2⟩,
      fun valid => ⟨valid.format, valid.width, valid.height, valid.stride, valid.size⟩⟩

namespace Picture.Valid

variable {picture : Picture} (valid : picture.Valid)

include valid

theorem validDimensions_eq : validDimensions picture = true := by
  rcases valid with ⟨-, width, height, stride, -⟩
  have notZero : ∀ field : UInt32, 1 ≤ field.toNat → decide (field ≠ 0) = true := by
    intro field positive
    rw [decide_eq_true_eq]
    rintro rfl
    exact absurd positive (by decide)
  have small : ∀ field : UInt32, field.toNat ≤ 65535 → decide (field ≤ 0xffff) = true := by
    intro field bound
    rw [decide_eq_true_eq, UInt32.le_iff_toNat_le]
    exact bound
  rw [validDimensions, notZero _ width.1, small _ width.2, notZero _ height.1, small _ height.2,
    notZero _ (by omega)]
  rfl

theorem toNat_mul_four : (picture.width * 4).toNat = 4 * picture.width.toNat := by
  have width := valid.width.2
  have four : (4 : UInt32).toNat = 4 := rfl
  rw [UInt32.toNat_mul, four]
  omega

theorem validStride_eq : validStride picture = true := by
  have wide : picture.width ≤ 0xffffffff / 4 := by
    rw [UInt32.le_iff_toNat_le]
    exact Nat.le_trans valid.width.2 (by decide)
  have stride : picture.width * 4 ≤ picture.strideBytes := by
    rw [UInt32.le_iff_toNat_le, valid.toNat_mul_four]
    exact valid.stride
  simp only [validStride, valid.format, wide, stride, decide_true, Bool.and_self]

theorem stride_pos : 1 ≤ picture.strideBytes.toNat := by
  have width := valid.width.1
  have stride := valid.stride
  omega

theorem size_pos : 1 ≤ picture.size := Nat.mul_pos valid.height.1 valid.stride_pos

theorem toNat_size : (UInt32.ofNat picture.size).toNat = picture.size := by
  have size := valid.size
  rw [UInt32.toNat_ofNat']
  omega

theorem toNat_mul_stride : (picture.height * picture.strideBytes).toNat = picture.size := by
  have size := valid.size
  rw [Picture.size] at size ⊢
  rw [UInt32.toNat_mul]
  omega

theorem validPayload_eq : validPayload picture (UInt32.ofNat picture.size) = true := by
  have noOverflow : picture.height ≤ 0xffffffff / picture.strideBytes := by
    have all : (0xffffffff : UInt32).toNat = 4294967295 := rfl
    have size := valid.size
    rw [Picture.size] at size
    rw [UInt32.le_iff_toNat_le, UInt32.toNat_div, all, Nat.le_div_iff_mul_le valid.stride_pos]
    omega
  have same : (picture.height * picture.strideBytes).toNat = (UInt32.ofNat picture.size).toNat := by
    rw [valid.toNat_mul_stride, valid.toNat_size]
  have enough : picture.height * picture.strideBytes ≤ UInt32.ofNat picture.size :=
    UInt32.le_iff_toNat_le.mpr (Nat.le_of_eq same)
  simp only [validPayload, noOverflow, enough, decide_true, Bool.and_self]

theorem size_ne_zero : decide (UInt32.ofNat picture.size ≠ 0) = true := by
  rw [decide_eq_true_eq]
  intro zero
  have isSize := valid.toNat_size
  rw [zero] at isSize
  exact absurd valid.size_pos (by rw [← isSize]; decide)

theorem size_le_maxPayload : decide (UInt32.ofNat picture.size ≤ frameMaxPayload) = true := by
  rw [decide_eq_true_eq, UInt32.le_iff_toNat_le, valid.toNat_size]
  exact valid.size

end Picture.Valid

/-! ## Sender and receiver in step -/

structure InStep (shm : ClientShm) (mapping : Option Mapping) : Prop where
  slotCount : shm.slotCount = 4
  mapped : mapping = shm.file.map fun file => ⟨file, 4, UInt32.ofNat shm.slotSize⟩
  slotSize : shm.file.isSome → 1 ≤ shm.slotSize ∧ shm.slotSize ≤ 268435456

def AllAcceptable : Option Mapping → List Message → Option Mapping → Prop
  | mapping, [], final => mapping = final
  | mapping, message :: rest, final =>
      message.Acceptable mapping ∧ AllAcceptable (message.mappingAfter mapping) rest final

def Carries : Frame → Message → Prop
  | .raw picture pixels, .raw header payload =>
      header = ⟨picture, UInt32.ofNat pixels.length⟩ ∧ payload = pixels
  | .raw picture pixels, .shmNotify header _ =>
      header.picture = picture ∧ header.payloadSize = UInt32.ofNat pixels.length
  | .dmabuf picture file offset modifierHi modifierLo, .dmabuf header sent =>
      header = ⟨picture, offset, modifierHi, modifierLo⟩ ∧ sent = file
  | _, _ => False

/-- The message is about a frame, not about the memory. -/
def Message.isFrame : Message → Bool
  | .shmInit _ _ => false
  | .raw _ _ | .shmNotify _ _ | .dmabuf _ _ => true

theorem AllAcceptable.append {first second : List Message} {mapping middle final : Option Mapping}
    (before : AllAcceptable mapping first middle) (after : AllAcceptable middle second final) :
    AllAcceptable mapping (first ++ second) final := by
  induction first generalizing mapping with
  | nil =>
      rw [show mapping = middle from before]
      exact after
  | cons message rest induction => exact ⟨before.1, induction before.2⟩

theorem validateShmFrame_eq {picture : Picture} (valid : picture.Valid) {slotSize : Nat}
    (room : picture.size ≤ slotSize) (small : slotSize ≤ 268435456) (file : File)
    (nextSlot : UInt32) :
    validateShmFrame shmNotifyMagic shmFrameVersion
      ⟨picture, UInt32.ofNat picture.size, nextSlot % 4⟩ ⟨file, 4, UInt32.ofNat slotSize⟩ = true := by
  have toNat_slotSize : (UInt32.ofNat slotSize).toNat = slotSize := by
    rw [UInt32.toNat_ofNat']
    omega
  have index : decide (nextSlot % 4 < 4) = true := by
    rw [decide_eq_true_eq, UInt32.lt_iff_toNat_lt, UInt32.toNat_mod]
    exact Nat.mod_lt _ (by decide)
  have payload : decide (UInt32.ofNat picture.size ≤ UInt32.ofNat slotSize) = true := by
    rw [decide_eq_true_eq, UInt32.le_iff_toNat_le, valid.toNat_size, toNat_slotSize]
    exact room
  have notEmpty : decide (UInt32.ofNat slotSize ≠ 0) = true := by
    rw [decide_eq_true_eq]
    intro zero
    rw [zero] at toNat_slotSize
    have positive := valid.size_pos
    exact absurd (Nat.le_trans positive room) (by rw [← toNat_slotSize]; decide)
  rw [validateShmFrame, index, payload, notEmpty, valid.validDimensions_eq, valid.size_ne_zero,
    valid.validStride_eq, valid.validPayload_eq]
  rfl

theorem copyToSlot_inStep {shm : ClientShm} {mapping : Option Mapping} (inStep : InStep shm mapping)
    {picture : Picture} {pixels : Bytes} (valid : Frame.Valid (.raw picture pixels))
    (room : shm.hasRoom pixels = true) :
    ∃ message next, copyToSlot shm picture pixels = some (message, next) ∧
      message.isFrame = true ∧ Carries (.raw picture pixels) message ∧
      message.Acceptable mapping ∧ message.mappingAfter mapping = mapping ∧ InStep next mapping := by
  rcases shm with ⟨memory, slotSize, slotCount, nextSlot⟩
  rcases inStep with ⟨isCount, mapped, bounds⟩
  rcases valid with ⟨isValid, isSize⟩
  rw [ClientShm.hasRoom, Bool.and_eq_true, decide_eq_true_eq] at room
  rcases Option.isSome_iff_exists.mp room.1 with ⟨file, isFile⟩
  rcases bounds room.1 with ⟨positive, small⟩
  dsimp only at isCount isFile mapped room positive small
  subst isCount isFile
  have fits : ¬ (slotSize < pixels.length ∨ (4 : UInt32) = 0) := by
    rintro (larger | zero)
    · exact absurd room.2 (Nat.not_le_of_lt larger)
    · exact absurd zero (by decide)
  have toNat_slotSize : (UInt32.ofNat slotSize).toNat = slotSize := by
    rw [UInt32.toNat_ofNat']
    omega
  have accepted := validateShmFrame_eq isValid (by rw [← isSize]; exact room.2) small file nextSlot
  refine ⟨_, _, if_neg fits, rfl, ⟨rfl, rfl⟩, ⟨trivial, ?_⟩, rfl,
    ⟨rfl, mapped, fun _ => ⟨positive, small⟩⟩⟩
  intro displayId
  rw [mapped, isSize]
  dsimp only [Message.handled, Option.map_some]
  rw [if_neg (by rw [accepted]; decide), toNat_slotSize]
  rfl

theorem sendShmInit_inStep {picture : Picture} (valid : picture.Valid) (file : File)
    (mapping : Option Mapping) :
    ∃ message next, sendShmInit picture.size (some file) = some (message, next) ∧
      message.isFrame = false ∧ next.slotSize = picture.size ∧ next.file = some file ∧
      message.Acceptable mapping ∧ InStep next (message.mappingAfter mapping) := by
  have size := valid.size
  have positive := valid.size_pos
  have slotSize : max picture.size 1 = picture.size := by omega
  rw [sendShmInit, slotSize]
  simp only [if_neg (show ¬ 0xffffffff < picture.size by omega)]
  have accepted : validateShmInit shmInitMagic shmFrameVersion ⟨4, UInt32.ofNat picture.size⟩ =
      true := by
    rw [validateShmInit, valid.size_ne_zero, valid.size_le_maxPayload]
    rfl
  refine ⟨_, _, rfl, rfl, rfl, rfl, ⟨trivial, ?_⟩, rfl, rfl, fun _ => ⟨positive, size⟩⟩
  intro displayId
  exact if_neg (by rw [accepted]; decide)

theorem sendRawFrame_inStep {shm : ClientShm} {mapping : Option Mapping}
    (inStep : InStep shm mapping) {picture : Picture} {pixels : Bytes}
    (valid : Frame.Valid (.raw picture pixels)) (memfd : Option File) :
    ∃ messages next after, sendRawFrame shm picture pixels memfd = some (messages, next) ∧
      List.Forall₂ Carries [.raw picture pixels] (messages.filter Message.isFrame) ∧
      AllAcceptable mapping messages after ∧ InStep next after := by
  rcases valid with ⟨isValid, isSize⟩
  have size := isValid.size
  have positive := isValid.size_pos
  have sendable : ¬ (pixels = [] ∨ picture.size = 0 ∨ 0xffffffff < pixels.length) := by
    rintro (empty | zero | large)
    · rw [empty, List.length_nil] at isSize
      omega
    · omega
    · omega
  rw [sendRawFrame, sendShmFrame, if_neg sendable]
  by_cases room : shm.hasRoom pixels = true
  · rcases copyToSlot_inStep inStep ⟨isValid, isSize⟩ room with
      ⟨message, next, isSent, isFrame, carries, acceptable, after, stays⟩
    rw [if_pos room, isSent]
    refine ⟨_, _, mapping, rfl, ?_, ⟨acceptable, after⟩, stays⟩
    rw [List.filter_cons_of_pos isFrame]
    exact .cons carries .nil
  · rw [if_neg room, isSize]
    cases memfd with
    | none =>
        have unavailable : sendShmInit picture.size none = none := by
          rw [sendShmInit]
          split
          · rfl
          · rfl
        rw [unavailable]
        have accepted : validateFrame rawFrameMagic rawFrameVersion
            ⟨picture, UInt32.ofNat picture.size⟩ = true := by
          rw [validateFrame, isValid.validDimensions_eq, isValid.size_ne_zero,
            isValid.size_le_maxPayload, isValid.validStride_eq, isValid.validPayload_eq]
          rfl
        refine ⟨_, _, mapping, rfl, .cons ⟨by rw [isSize], rfl⟩ .nil, ⟨⟨?_, ?_⟩, rfl⟩, inStep⟩
        · rw [Message.Framed, isSize]
          exact isValid.toNat_size
        · intro displayId
          exact if_neg (by rw [accepted]; decide)
    | some file =>
        rcases sendShmInit_inStep isValid file mapping with
          ⟨setup, memory, isSetup, notFrame, isSlotSize, isFile, setupAcceptable, ready⟩
        have roomNow : memory.hasRoom pixels = true := by
          rw [ClientShm.hasRoom, isFile, isSlotSize, isSize]
          simp
        rcases copyToSlot_inStep ready ⟨isValid, isSize⟩ roomNow with
          ⟨message, next, isSent, isFrame, carries, acceptable, after, stays⟩
        rw [isSetup]
        dsimp only
        rw [isSent]
        refine ⟨_, _, _, rfl, ?_, ⟨setupAcceptable, acceptable, after⟩, stays⟩
        rw [List.filter_cons_of_neg (by rw [notFrame]; decide), List.filter_cons_of_pos isFrame]
        exact .cons carries .nil

theorem sendFrame_inStep {shm : ClientShm} {mapping : Option Mapping} (inStep : InStep shm mapping)
    {frame : Frame} (valid : frame.Valid) (memfd : Option File) :
    ∃ messages next after, sendFrame shm memfd frame = some (messages, next) ∧
      List.Forall₂ Carries [frame] (messages.filter Message.isFrame) ∧
      AllAcceptable mapping messages after ∧ InStep next after := by
  cases frame with
  | raw picture pixels => exact sendRawFrame_inStep inStep valid memfd
  | dmabuf picture file offset modifierHi modifierLo =>
      have isValid : picture.Valid := valid
      have accepted : validateDmabufFrame dmabufFrameMagic dmabufFrameVersion
          ⟨picture, offset, modifierHi, modifierLo⟩ (some file) = true := by
        rw [validateDmabufFrame, isValid.validDimensions_eq, isValid.validStride_eq]
        rfl
      refine ⟨_, shm, mapping, rfl, .cons ⟨rfl, rfl⟩ .nil, ⟨⟨trivial, ?_⟩, rfl⟩, inStep⟩
      intro displayId
      exact if_neg (by rw [accepted]; decide)

theorem sendFrames_inStep {shm : ClientShm} {mapping : Option Mapping} (inStep : InStep shm mapping)
    {frames : List (Frame × Option File)} (valid : ∀ sent ∈ frames, sent.1.Valid) :
    ∃ messages after, sendFrames shm frames = some messages ∧
      List.Forall₂ Carries (frames.map Prod.fst) (messages.filter Message.isFrame) ∧
      AllAcceptable mapping messages after := by
  induction frames generalizing shm mapping with
  | nil => exact ⟨[], mapping, rfl, .nil, rfl⟩
  | cons sent rest induction =>
      rcases sent with ⟨frame, memfd⟩
      rcases sendFrame_inStep inStep (valid (frame, memfd) List.mem_cons_self) memfd with
        ⟨first, next, middle, isFirst, firstCarries, firstAcceptable, stays⟩
      obtain ⟨others, after, areOthers, othersCarry, othersAcceptable⟩ :=
        induction stays fun sent member => valid sent (List.mem_cons_of_mem _ member)
      refine ⟨first ++ others, after, ?_, ?_, firstAcceptable.append othersAcceptable⟩
      · rw [sendFrames, isFirst]
        dsimp only
        rw [areOthers]
        rfl
      · rw [List.filter_append, List.map_cons]
        exact List.rel_append firstCarries othersCarry

/-! ## The connection -/

/-- The events up to the first one for which the host fails. -/
def delivered (host : Nat → Bool) : Nat → List Event → List Event × Stop
  | _, [] => ([], .closed)
  | handled, event :: rest =>
      if event.callsHost && !host handled then ([], .hostFailed)
      else
        let (events, stop) := delivered host (handled + 1) rest
        (event :: events, stop)

theorem receiveMessage_nil (displayId : UInt32) (split : Nat → Nat) (mapping : Option Mapping) :
    receiveMessage displayId split mapping [] = .error .closed := rfl

theorem receiveFrom_messages (displayId : UInt32) (split : Nat → Nat) (host : Nat → Bool)
    {messages : List Message} {mapping after : Option Mapping}
    (acceptable : AllAcceptable mapping messages after) {limit : Nat}
    (enough : messages.length < limit) (handled : Nat) :
    receiveFrom displayId split host limit handled mapping (messages.flatMap Message.cells) =
      delivered host handled (messages.map (Message.event displayId)) := by
  induction messages generalizing mapping limit handled with
  | nil =>
      rcases Nat.exists_eq_add_one_of_ne_zero (Nat.ne_of_gt enough) with ⟨limit, rfl⟩
      rw [List.flatMap_nil, receiveFrom, receiveMessage_nil]
      rfl
  | cons message rest induction =>
      rcases Nat.exists_eq_add_one_of_ne_zero (Nat.ne_zero_of_lt enough) with ⟨limit, rfl⟩
      rw [List.flatMap_cons, receiveFrom, receiveMessage_cells acceptable.1.1,
        acceptable.1.2 displayId, List.map_cons, delivered]
      dsimp only [Except.map]
      split
      · rfl
      · rw [induction acceptable.2 (Nat.lt_of_succ_lt_succ enough)]

theorem length_cells_pos (message : Message) : 1 ≤ message.cells.length := by
  cases message with
  | raw header payload =>
      rw [Message.cells, List.length_append, ByteStream.length_plain,
        LittleEndian.length_encodeWords]
      simp only [Message.header, List.length_cons, List.length_nil]
      omega
  | shmInit header file =>
      rw [Message.cells, ByteStream.length_withFile, LittleEndian.length_encodeWords]
      simp [Message.header]
  | shmNotify header slot =>
      rw [Message.cells, ByteStream.length_plain, LittleEndian.length_encodeWords]
      simp [Message.header]
  | dmabuf header file =>
      rw [Message.cells, ByteStream.length_withFile, LittleEndian.length_encodeWords]
      simp [Message.header]

theorem length_le_length_cells (messages : List Message) :
    messages.length ≤ (messages.flatMap Message.cells).length := by
  induction messages with
  | nil => exact Nat.le_refl 0
  | cons message rest induction =>
      have some := length_cells_pos message
      rw [List.flatMap_cons, List.length_append, List.length_cons]
      omega

/-- Valid frames, whatever mix of shared memory, inline pixels and DMA buffers they are
sent by, make messages that carry them one by one; and from the bytes of these messages,
however they are split into reads, the frame source gets exactly these messages, as far as
its own host lets it. It rejects none of them. -/
theorem frame_stream_decoded (frames : List (Frame × Option File))
    (valid : ∀ sent ∈ frames, sent.1.Valid) :
    ∃ messages, sendFrames ClientShm.initial frames = some messages ∧
      List.Forall₂ Carries (frames.map Prod.fst) (messages.filter Message.isFrame) ∧
      ∀ displayId split host,
        receive displayId split host (messages.flatMap Message.cells) =
          delivered host 0 (messages.map (Message.event displayId)) := by
  have inStep : InStep ClientShm.initial none := ⟨rfl, rfl, nofun⟩
  rcases sendFrames_inStep inStep valid with ⟨messages, after, areSent, carry, acceptable⟩
  refine ⟨messages, areSent, carry, ?_⟩
  intro displayId split host
  have enough := length_le_length_cells messages
  exact receiveFrom_messages displayId split host acceptable (Nat.lt_succ_of_le enough) 0

def samplePicture (displayNumber : UInt32) : Picture :=
  ⟨displayNumber, 1, 1, scFourcc 'A' 'R' '2' '4', 4⟩

theorem two_frames_decoded :
    ∃ messages,
      sendFrames ClientShm.initial
          [(.raw (samplePicture 0) [1, 2, 3, 4], some 7), (.raw (samplePicture 1) [5, 6, 7, 8], none)] =
        some messages ∧
      receive 0 (fun _ => 3) (fun _ => true) (messages.flatMap Message.cells) =
        ([.mapped ⟨7, 4, 4⟩, .pushedShared ⟨samplePicture 0, 4, 0⟩ ⟨7, 0⟩,
          .skippedShared ⟨samplePicture 1, 4, 1⟩], .closed) := by
  rcases frame_stream_decoded
    [(.raw (samplePicture 0) [1, 2, 3, 4], some 7), (.raw (samplePicture 1) [5, 6, 7, 8], none)]
    (by
      intro sent member
      rcases List.mem_pair.mp member with rfl | rfl
      · exact ⟨by decide +kernel, rfl⟩
      · exact ⟨by decide +kernel, rfl⟩) with ⟨messages, areSent, -, decoded⟩
  refine ⟨messages, areSent, ?_⟩
  rw [decoded]
  obtain rfl : _ = messages := Option.some.inj areSent
  decide +kernel

end Cuttlefish.Webrtc
