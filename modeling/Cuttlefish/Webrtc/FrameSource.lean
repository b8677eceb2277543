import Cuttlefish.Webrtc.RawFrameStreamer

/-! # Frame source

`cuttlefish_frame_source.c` of scrcpy: how it takes apart what the raw frame streamer
sends over one connection. -/

namespace Cuttlefish.Webrtc

open ByteStream (Cell readAll receiveAll)

namespace FrameSource

def frameMagic : UInt32 := 0x46414b49
def frameVersion : UInt32 := 1
def dmabufFrameMagic : UInt32 := 0x44414b49
def dmabufFrameVersion : UInt32 := 1
def shmInitMagic : UInt32 := 0x53414b49
def shmNotifyMagic : UInt32 := 0x4e414b49
def shmFrameVersion : UInt32 := 1
def frameMaxPayload : UInt32 := 256 * 1024 * 1024

def scFourcc (a b c d : Char) : UInt32 :=
  a.val ||| b.val <<< 8 ||| c.val <<< 16 ||| d.val <<< 24

def knownFormats : List UInt32 :=
  [scFourcc 'X' 'R' '2' '4', scFourcc 'X' 'B' '2' '4', scFourcc 'R' 'X' '2' '4',
    scFourcc 'B' 'X' '2' '4', scFourcc 'A' 'R' '2' '4', scFourcc 'A' 'B' '2' '4',
    scFourcc 'R' 'A' '2' '4', scFourcc 'B' 'A' '2' '4']

structure Mapping where
  file : File
  slotCount : UInt32
  slotSize : UInt32
  deriving DecidableEq

/-! ## Validation -/

def validDimensions (picture : Picture) : Bool :=
  picture.width ≠ 0 && picture.width ≤ 0xffff && picture.height ≠ 0 && picture.height ≤ 0xffff &&
    picture.strideBytes ≠ 0

def validStride (picture : Picture) : Bool :=
  picture.fourcc ∈ knownFormats && picture.width ≤ 0xffffffff / 4 &&
    picture.width * 4 ≤ picture.strideBytes

def validPayload (picture : Picture) (payloadSize : UInt32) : Bool :=
  picture.height ≤ 0xffffffff / picture.strideBytes &&
    picture.height * picture.strideBytes ≤ payloadSize

def validateFrame (magic version : UInt32) (header : RawFrameHeader) : Bool :=
  magic = frameMagic && version = frameVersion && validDimensions header.picture &&
    header.payloadSize ≠ 0 && header.payloadSize ≤ frameMaxPayload &&
    validStride header.picture && validPayload header.picture header.payloadSize

def validateDmabufFrame (magic version : UInt32) (header : DmabufFrameHeader)
    (dmabuf : Option File) : Bool :=
  magic = dmabufFrameMagic && version = dmabufFrameVersion && validDimensions header.picture &&
    dmabuf.isSome && validStride header.picture

def validateShmFrame (magic version : UInt32) (header : ShmFrameHeader) (mapping : Mapping) :
    Bool :=
  magic = shmNotifyMagic && version = shmFrameVersion &&
    mapping.slotCount ≠ 0 && mapping.slotSize ≠ 0 && header.slotIndex < mapping.slotCount &&
    validDimensions header.picture && header.payloadSize ≠ 0 &&
    header.payloadSize ≤ mapping.slotSize && validStride header.picture &&
    validPayload header.picture header.payloadSize

/-- The checks in `sc_cuttlefish_handle_shm_init`. The product of the two numbers cannot
overflow a `size_t`. -/
def validateShmInit (magic version : UInt32) (header : ShmInitHeader) : Bool :=
  magic = shmInitMagic && version = shmFrameVersion && header.slotCount ≠ 0 &&
    header.slotCount ≤ 16 && header.slotSize ≠ 0 && header.slotSize ≤ frameMaxPayload

/-! ## One message -/

inductive Event
  | mapped (mapping : Mapping)
  | pushedRaw (header : RawFrameHeader) (payload : Bytes)
  | pushedShared (header : ShmFrameHeader) (slot : Slot)
  | pushedDmabuf (header : DmabufFrameHeader) (file : File)
  | skippedRaw (header : RawFrameHeader)
  | skippedShared (header : ShmFrameHeader)
  | skippedDmabuf (header : DmabufFrameHeader)
  deriving DecidableEq

inductive Stop
  | closed
  | truncated
  | rejected
  /-- Memory could not be mapped or allocated, or the screen did not take the frame. -/
  | hostFailed
  deriving DecidableEq

def discardAll (split : Nat → Nat) (size : Nat) (stream : List (Cell File)) :
    Option (List (Cell File)) :=
  if size = 0 then some stream
  else
    match readAll split (min size 4096) stream with
    | none => none
    | some (_, rest) => discardAll split (size - min size 4096) rest
  termination_by size

section

variable (displayId : UInt32) (split : Nat → Nat)

def readRemaining (fields : Nat) (stream : List (Cell File)) :
    Option (List UInt32 × List (Cell File)) :=
  (readAll split (4 * fields) stream).map fun read => (LittleEndian.decodeWords read.1, read.2)

def receiveRaw (mapping : Option Mapping) (magic version : UInt32) (stream : List (Cell File)) :
    Except Stop (Event × Option Mapping × List (Cell File)) :=
  match readRemaining split 6 stream with
  | some ([displayNumber, width, height, fourcc, strideBytes, payloadSize], stream) =>
      let header : RawFrameHeader :=
        ⟨⟨displayNumber, width, height, fourcc, strideBytes⟩, payloadSize⟩
      if validateFrame magic version header = false then .error .rejected
      else if displayNumber ≠ displayId then
        match discardAll split payloadSize.toNat stream with
        | none => .error .truncated
        | some rest => .ok (.skippedRaw header, mapping, rest)
      else
        match readAll split payloadSize.toNat stream with
        | none => .error .truncated
        | some (payload, rest) => .ok (.pushedRaw header payload, mapping, rest)
  | _ => .error .truncated

def receiveDmabuf (mapping : Option Mapping) (magic version : UInt32) (received : Option File)
    (stream : List (Cell File)) : Except Stop (Event × Option Mapping × List (Cell File)) :=
  match readRemaining split 8 stream with
  | some ([displayNumber, width, height, fourcc, offset, strideBytes, modifierHi, modifierLo],
      rest) =>
      let header : DmabufFrameHeader :=
        ⟨⟨displayNumber, width, height, fourcc, strideBytes⟩, offset, modifierHi, modifierLo⟩
      match received with
      | none => .error .rejected
      | some file =>
          if validateDmabufFrame magic version header received = false then .error .rejected
          else if displayNumber ≠ displayId then .ok (.skippedDmabuf header, mapping, rest)
          else .ok (.pushedDmabuf header file, mapping, rest)
  | _ => .error .truncated

def handleShmInit (magic version : UInt32) (received : Option File) (stream : List (Cell File)) :
    Except Stop (Event × Option Mapping × List (Cell File)) :=
  match readRemaining split 2 stream with
  | some ([slotCount, slotSize], rest) =>
      match received with
      | none => .error .rejected
      | some file =>
          if validateShmInit magic version ⟨slotCount, slotSize⟩ = false then .error .rejected
          else
            let mapping : Mapping := ⟨file, slotCount, slotSize⟩
            .ok (.mapped mapping, some mapping, rest)
  | _ => .error .truncated

def receiveShmNotify (mapping : Option Mapping) (magic version : UInt32)
    (stream : List (Cell File)) : Except Stop (Event × Option Mapping × List (Cell File)) :=
  match readRemaining split 7 stream with
  | some ([displayNumber, width, height, fourcc, strideBytes, payloadSize, slotIndex], rest) =>
      let header : ShmFrameHeader :=
        ⟨⟨displayNumber, width, height, fourcc, strideBytes⟩, payloadSize, slotIndex⟩
      match mapping with
      | none => .error .rejected
      | some shm =>
          if validateShmFrame magic version header shm = false then .error .rejected
          else if displayNumber ≠ displayId then .ok (.skippedShared header, mapping, rest)
          else
            .ok (.pushedShared header ⟨shm.file, slotIndex.toNat * shm.slotSize.toNat⟩, mapping,
              rest)
  | _ => .error .truncated

def receiveMessage (mapping : Option Mapping) (stream : List (Cell File)) :
    Except Stop (Event × Option Mapping × List (Cell File)) :=
  match receiveAll 8 stream with
  | none => .error (if stream = [] then .closed else .truncated)
  | some (common, received, rest) =>
      match LittleEndian.decodeWords common with
      | [magic, version] =>
          if magic = frameMagic then receiveRaw displayId split mapping magic version rest
          else if magic = dmabufFrameMagic then
            receiveDmabuf displayId split mapping magic version received rest
          else if magic = shmInitMagic then handleShmInit split magic version received rest
          else if magic = shmNotifyMagic then
            receiveShmNotify displayId split mapping magic version rest
          else .error .rejected
      | _ => .error .truncated

/-! ## The connection -/

def Event.callsHost : Event → Bool
  | .mapped _ | .pushedRaw _ _ | .pushedShared _ _ | .pushedDmabuf _ _ => true
  | .skippedRaw _ | .skippedShared _ | .skippedDmabuf _ => false

def receiveFrom (host : Nat → Bool) :
    Nat → Nat → Option Mapping → List (Cell File) → List Event × Stop
  | 0, _, _, _ => ([], .closed)
  | limit + 1, handled, mapping, stream =>
      match receiveMessage displayId split mapping stream with
      | .error stop => ([], stop)
      | .ok (event, mapping, rest) =>
          if event.callsHost && !host handled then ([], .hostFailed)
          else
            let (events, stop) := receiveFrom host limit (handled + 1) mapping rest
            (event :: events, stop)

/-- What is done with all that arrives on a connection: every message takes at least one
byte, and one more round finds the end. -/
def receive (host : Nat → Bool) (stream : List (Cell File)) : List Event × Stop :=
  receiveFrom displayId split host (stream.length + 1) 0 none stream

end

end FrameSource

end Cuttlefish.Webrtc
