import Cuttlefish.Foundation.ByteStream
import Cuttlefish.Foundation.LittleEndian

/-! # Raw frame streamer

`RawFrameStreamer` of `host/frontend/webrtc`: how it takes frames, and what it sends to its
client for each of them. A file stands for the open file a descriptor refers to. -/

namespace Cuttlefish.Webrtc

open ByteStream (Cell)

abbrev File := Nat

structure Picture where
  displayNumber : UInt32
  width : UInt32
  height : UInt32
  fourcc : UInt32
  strideBytes : UInt32
  deriving DecidableEq

/-- `static_cast<size_t>(height) * stride_bytes`. -/
def Picture.size (picture : Picture) : Nat := picture.height.toNat * picture.strideBytes.toNat

inductive Frame
  | raw (picture : Picture) (pixels : Bytes)
  | dmabuf (picture : Picture) (file : File) (offset modifierHi modifierLo : UInt32)
  deriving DecidableEq

def Frame.picture : Frame → Picture
  | .raw picture _ | .dmabuf picture _ _ _ _ => picture

/-! ## Taking frames -/

/-- What the threads share under the mutex. -/
structure Streamer where
  generation : UInt64
  suppressNextRawDisplay : Option UInt32
  latestFrame : Option Frame

def Streamer.initial : Streamer := ⟨0, none, none⟩

inductive Taken
  | ignored
  | suppressed
  | published
  deriving DecidableEq

def Streamer.publish (streamer : Streamer) (frame : Frame) : Streamer :=
  { streamer with generation := streamer.generation + 1, latestFrame := some frame }

def Streamer.onFrame (streamer : Streamer) (picture : Picture) (pixels : Option Bytes) :
    Taken × Streamer :=
  match pixels with
  | none => (.ignored, streamer)
  | some pixels =>
      if picture.width = 0 ∨ picture.height = 0 ∨ picture.strideBytes = 0 then
        (.ignored, streamer)
      else if 0xffffffff < picture.size then (.ignored, streamer)
      else if streamer.suppressNextRawDisplay = some picture.displayNumber then
        (.suppressed, { streamer with suppressNextRawDisplay := none })
      else (.published, streamer.publish (.raw picture (pixels.take picture.size)))

/-- `RawFrameStreamer::OnDmabufFrame`, where `duplicated` is the file if its descriptor is
valid and can be duplicated. -/
def Streamer.onDmabufFrame (streamer : Streamer) (picture : Picture) (duplicated : Option File)
    (offset modifierHi modifierLo : UInt32) : Bool × Streamer :=
  match duplicated with
  | none => (false, streamer)
  | some file =>
      if picture.width = 0 ∨ picture.height = 0 ∨ picture.strideBytes = 0 then (false, streamer)
      else
        (true, { streamer.publish (.dmabuf picture file offset modifierHi modifierLo) with
          suppressNextRawDisplay := some picture.displayNumber })

def Streamable (picture : Picture) (pixels : Option Bytes) : Prop :=
  pixels.isSome ∧ picture.width ≠ 0 ∧ picture.height ≠ 0 ∧ picture.strideBytes ≠ 0 ∧
    picture.size ≤ 0xffffffff

instance (picture : Picture) (pixels : Option Bytes) : Decidable (Streamable picture pixels) :=
  inferInstanceAs (Decidable (_ ∧ _ ∧ _ ∧ _ ∧ _))

section

variable (streamer : Streamer) {picture : Picture} {pixels : Option Bytes}

theorem Streamer.onFrame_of_not_streamable (ignored : ¬ Streamable picture pixels) :
    streamer.onFrame picture pixels = (.ignored, streamer) := by
  unfold onFrame
  split
  · rfl
  next pixels =>
    split
    · rfl
    next nonzero =>
      split
      · rfl
      next fits =>
        rw [not_or, not_or] at nonzero
        exact absurd ⟨rfl, nonzero.1, nonzero.2.1, nonzero.2.2, Nat.le_of_not_lt fits⟩ ignored

theorem Streamer.onFrame_of_suppressed (streamable : Streamable picture pixels)
    (suppressed : streamer.suppressNextRawDisplay = some picture.displayNumber) :
    streamer.onFrame picture pixels =
      (.suppressed, { streamer with suppressNextRawDisplay := none }) := by
  rcases streamable with ⟨isSome, width, height, stride, size⟩
  rcases Option.isSome_iff_exists.mp isSome with ⟨pixels, rfl⟩
  have nonzero : ¬ (picture.width = 0 ∨ picture.height = 0 ∨ picture.strideBytes = 0) := by
    simp [width, height, stride]
  rw [onFrame, if_neg nonzero, if_neg (Nat.not_lt.mpr size), if_pos suppressed]

theorem Streamer.onFrame_of_published (streamable : Streamable picture pixels)
    (free : streamer.suppressNextRawDisplay ≠ some picture.displayNumber) :
    streamer.onFrame picture pixels =
      (.published, streamer.publish (.raw picture ((pixels.getD []).take picture.size))) := by
  rcases streamable with ⟨isSome, width, height, stride, size⟩
  rcases Option.isSome_iff_exists.mp isSome with ⟨pixels, rfl⟩
  have nonzero : ¬ (picture.width = 0 ∨ picture.height = 0 ∨ picture.strideBytes = 0) := by
    simp [width, height, stride]
  rw [onFrame, if_neg nonzero, if_neg (Nat.not_lt.mpr size), if_neg free]
  rfl

def StreamableDmabuf (picture : Picture) (duplicated : Option File) : Prop :=
  duplicated.isSome ∧ picture.width ≠ 0 ∧ picture.height ≠ 0 ∧ picture.strideBytes ≠ 0

instance (picture : Picture) (duplicated : Option File) :
    Decidable (StreamableDmabuf picture duplicated) :=
  inferInstanceAs (Decidable (_ ∧ _ ∧ _ ∧ _))

theorem Streamer.onDmabufFrame_of_not_streamable {duplicated : Option File}
    {offset modifierHi modifierLo : UInt32} (refused : ¬ StreamableDmabuf picture duplicated) :
    streamer.onDmabufFrame picture duplicated offset modifierHi modifierLo = (false, streamer) := by
  unfold onDmabufFrame
  split
  · rfl
  · split
    · rfl
    next nonzero =>
      rw [not_or, not_or] at nonzero
      exact absurd ⟨rfl, nonzero⟩ refused

theorem Streamer.onDmabufFrame_of_streamable {duplicated : Option File}
    {offset modifierHi modifierLo : UInt32} (streamable : StreamableDmabuf picture duplicated) :
    ∃ file, streamer.onDmabufFrame picture duplicated offset modifierHi modifierLo =
      (true, { streamer.publish (.dmabuf picture file offset modifierHi modifierLo) with
        suppressNextRawDisplay := some picture.displayNumber }) := by
  rcases streamable with ⟨isSome, width, height, stride⟩
  rcases Option.isSome_iff_exists.mp isSome with ⟨file, rfl⟩
  have nonzero : ¬ (picture.width = 0 ∨ picture.height = 0 ∨ picture.strideBytes = 0) := by
    simp [width, height, stride]
  refine ⟨file, ?_⟩
  rw [onDmabufFrame, if_neg nonzero]

end

/-! ## Messages -/

structure RawFrameHeader where
  picture : Picture
  payloadSize : UInt32
  deriving DecidableEq

structure DmabufFrameHeader where
  picture : Picture
  offset : UInt32
  modifierHi : UInt32
  modifierLo : UInt32
  deriving DecidableEq

structure ShmInitHeader where
  slotCount : UInt32
  slotSize : UInt32
  deriving DecidableEq

structure ShmFrameHeader where
  picture : Picture
  payloadSize : UInt32
  slotIndex : UInt32
  deriving DecidableEq

structure Slot where
  file : File
  offset : Nat
  deriving DecidableEq

/-- What is sent. The slot of a notification is where the pixels have been copied to; it
is not part of the message. -/
inductive Message
  | raw (header : RawFrameHeader) (payload : Bytes)
  | shmInit (header : ShmInitHeader) (file : File)
  | shmNotify (header : ShmFrameHeader) (slot : Slot)
  | dmabuf (header : DmabufFrameHeader) (file : File)
  deriving DecidableEq

def rawFrameMagic : UInt32 := 0x46414b49
def rawFrameVersion : UInt32 := 1
def dmabufFrameMagic : UInt32 := 0x44414b49
def dmabufFrameVersion : UInt32 := 1
def shmInitMagic : UInt32 := 0x53414b49
def shmNotifyMagic : UInt32 := 0x4e414b49
def shmFrameVersion : UInt32 := 1

/-- The fields of the header in the order of the structure. -/
def Message.header : Message → List UInt32
  | .raw header _ =>
      [rawFrameMagic, rawFrameVersion, header.picture.displayNumber, header.picture.width,
        header.picture.height, header.picture.fourcc, header.picture.strideBytes,
        header.payloadSize]
  | .shmInit header _ => [shmInitMagic, shmFrameVersion, header.slotCount, header.slotSize]
  | .shmNotify header _ =>
      [shmNotifyMagic, shmFrameVersion, header.picture.displayNumber, header.picture.width,
        header.picture.height, header.picture.fourcc, header.picture.strideBytes,
        header.payloadSize, header.slotIndex]
  | .dmabuf header _ =>
      [dmabufFrameMagic, dmabufFrameVersion, header.picture.displayNumber, header.picture.width,
        header.picture.height, header.picture.fourcc, header.offset, header.picture.strideBytes,
        header.modifierHi, header.modifierLo]

/-- The bytes on the socket, and the descriptor that comes with the first of them. -/
def Message.cells (message : Message) : List (Cell File) :=
  match message with
  | .raw _ payload =>
      ByteStream.plain (LittleEndian.encodeWords message.header) ++ ByteStream.plain payload
  | .shmNotify _ _ => ByteStream.plain (LittleEndian.encodeWords message.header)
  | .shmInit _ file | .dmabuf _ file =>
      ByteStream.withFile file (LittleEndian.encodeWords message.header)

/-! ## Sending frames -/

structure ClientShm where
  file : Option File
  slotSize : Nat
  slotCount : UInt32
  nextSlot : UInt32
  deriving DecidableEq

def ClientShm.initial : ClientShm := ⟨none, 0, 4, 0⟩

/-- `SendShmInit`, where `memfd` is the new file if it can be created, sized and mapped.
`none` for `kUnavailable`. -/
def sendShmInit (payloadSize : Nat) (memfd : Option File) : Option (Message × ClientShm) :=
  let slotSize := max payloadSize 1
  if 0xffffffff < slotSize then none
  else
    match memfd with
    | none => none
    | some file =>
        some (.shmInit ⟨4, UInt32.ofNat slotSize⟩ file, ⟨some file, slotSize, 4, 0⟩)

/-- The last part of `SendShmFrame`: the pixels are copied to the next slot, and the
message says so. `none` for `kFailed`. -/
def copyToSlot (shm : ClientShm) (picture : Picture) (pixels : Bytes) :
    Option (Message × ClientShm) :=
  match shm.file with
  | none => none
  | some file =>
      if shm.slotSize < pixels.length ∨ shm.slotCount = 0 then none
      else
        let slotIndex := shm.nextSlot % shm.slotCount
        some (.shmNotify ⟨picture, UInt32.ofNat pixels.length, slotIndex⟩
            ⟨file, slotIndex.toNat * shm.slotSize⟩,
          { shm with nextSlot := shm.nextSlot + 1 })

inductive FrameSendResult
  | sent (messages : List Message) (shm : ClientShm)
  | unavailable
  | failed

def ClientShm.hasRoom (shm : ClientShm) (pixels : Bytes) : Bool :=
  shm.file.isSome && decide (pixels.length ≤ shm.slotSize)

def sendShmFrame (shm : ClientShm) (picture : Picture) (pixels : Bytes) (memfd : Option File) :
    FrameSendResult :=
  if pixels = [] ∨ picture.size = 0 ∨ 0xffffffff < pixels.length then .failed
  else if shm.hasRoom pixels then
    match copyToSlot shm picture pixels with
    | none => .failed
    | some (message, shm) => .sent [message] shm
  else
    match sendShmInit pixels.length memfd with
    | none => .unavailable
    | some (setup, shm) =>
        match copyToSlot shm picture pixels with
        | none => .failed
        | some (message, shm) => .sent [setup, message] shm

def sendRawFrame (shm : ClientShm) (picture : Picture) (pixels : Bytes) (memfd : Option File) :
    Option (List Message × ClientShm) :=
  match sendShmFrame shm picture pixels memfd with
  | .sent messages shm => some (messages, shm)
  | .failed => none
  | .unavailable => some ([.raw ⟨picture, UInt32.ofNat picture.size⟩ pixels], shm)

def sendFrame (shm : ClientShm) (memfd : Option File) : Frame → Option (List Message × ClientShm)
  | .raw picture pixels => sendRawFrame shm picture pixels memfd
  | .dmabuf picture file offset modifierHi modifierLo =>
      some ([.dmabuf ⟨picture, offset, modifierHi, modifierLo⟩ file], shm)

/-- The frames of one connection, each with the file that `memfd_create` returns for it if
it is called. -/
def sendFrames : ClientShm → List (Frame × Option File) → Option (List Message)
  | _, [] => some []
  | shm, (frame, memfd) :: rest =>
      match sendFrame shm memfd frame with
      | none => none
      | some (messages, shm) => (sendFrames shm rest).map (messages ++ ·)

end Cuttlefish.Webrtc
