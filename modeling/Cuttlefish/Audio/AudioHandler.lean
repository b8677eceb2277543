import Cuttlefish.Audio.AudioMixer
import Cuttlefish.Foundation.Bytes
import Cuttlefish.Foundation.LittleEndian
import Cuttlefish.Foundation.Run

/-! # Audio handler

`AudioClientConnection` of `host/libs/audio_connector` and `AudioHandler` of
`host/frontend/webrtc`: what they do with the messages of the guest. Of the captured audio
only the amounts matter here. A message of no bytes is the end of a connection. -/

namespace Cuttlefish.Audio

/-! ## Streams -/

inductive Direction
  | playback
  | capture
  deriving DecidableEq

structure StreamSettings where
  id : UInt8
  channelsLayout : ChannelsLayout
  direction : Direction
  deriving DecidableEq

/-- `virtio_snd_pcm_info`. The values of new entries of the table are zero, which is the
direction of playback. -/
structure PcmInfo where
  hdaFnNid : UInt32 := 0
  features : UInt32 := 0
  formats : UInt64 := 0
  rates : UInt64 := 0
  direction : Direction := .playback
  channelsMin : Nat := 0
  channelsMax : Nat := 0
  deriving DecidableEq

structure ChmapInfo where
  hdaFnNid : UInt32 := 0
  direction : Direction := .playback
  channels : Nat := 0
  positions : List UInt8 := []
  deriving DecidableEq

def bitMask (bits : List UInt64) : UInt64 :=
  bits.foldl (fun mask bit => mask ||| (1 : UInt64) <<< bit) 0

def getVirtioSndPcmInfo (settings : StreamSettings) : PcmInfo where
  hdaFnNid := settings.id.toUInt32
  formats := bitMask [3, 5, 15, 17]
  rates := bitMask [0, 1, 2, 3, 4, 5, 6, 7, 8, 9, 10, 11, 12, 13]
  direction := settings.direction
  channelsMin := 1
  channelsMax := getChannelsCount settings.channelsLayout

def channelPositions : ChannelsLayout → List UInt8
  | .mono => [2]
  | .stereo => [3, 4]
  | .surround51 => [3, 4, 7, 8, 5, 6]

def getVirtioSndChmapInfo (settings : StreamSettings) : ChmapInfo where
  hdaFnNid := settings.id.toUInt32
  direction := settings.direction
  channels := getChannelsCount settings.channelsLayout
  positions := channelPositions settings.channelsLayout

structure Config where
  streams : List StreamSettings
  mixer : MixerSettings

namespace Config

variable (config : Config)

def streamId (settings : StreamSettings) : Nat :=
  match settings.direction with
  | .capture => settings.id.toNat
  | .playback =>
      settings.id.toNat + config.streams.countP fun other => other.direction = .capture

def table {Info : Type} (empty : Info) (info : StreamSettings → Info) : List Info :=
  config.streams.foldl (fun table settings => table.set (config.streamId settings) (info settings))
    (List.replicate config.streams.length empty)

def pcmInfos : List PcmInfo := config.table {} getVirtioSndPcmInfo

def chmapInfos : List ChmapInfo := config.table {} getVirtioSndChmapInfo

end Config

structure StreamDesc where
  held : Nat
  sampleRate : Nat
  bitsPerSample : Nat
  channels : Nat
  active : Bool
  deriving DecidableEq

def StreamDesc.initial : StreamDesc := ⟨0, 0, 0, 0, false⟩

def bitsPerSample (format : UInt8) : Option Nat :=
  [4, 8, 8, 8, 8, 16, 16, 24, 24, 24, 24, 24, 24, 32, 32, 32, 32, 32, 32, 32, 64, 8, 16, 32,
    32][format.toNat]?

def sampleRate (rate : UInt8) : Option Nat :=
  [5512, 8000, 11025, 16000, 22050, 32000, 44100, 48000, 64000, 88200, 96000, 176400, 192000,
    384000][rate.toNat]?

/-! ## Messages -/

inductive Command
  | pcmInfo (startId count : UInt32)
  | setParams (streamId : UInt32) (channels format rate : UInt8)
  | prepare (streamId : UInt32)
  | release (streamId : UInt32)
  | start (streamId : UInt32)
  | stop (streamId : UInt32)
  | chmapInfo (startId count : UInt32)
  | jackInfo (startId count : UInt32)
  | jackRemap
  | unknown (code : UInt32)
  deriving DecidableEq

def field (message : Bytes) (index : Nat) : UInt32 :=
  UInt32.ofNat (LittleEndian.decode (Bytes.readAt message (4 * index) 4))

def Command.decode (message : Bytes) : Option Command :=
  let sized := fun size command => if message.length < size then none else some command
  let code := field message 0
  let streamId := field message 1
  let infoStart := field message 1
  let infoCount := field message 2
  if message.length < 4 then none
  else if code = 0x0100 then sized 16 (.pcmInfo infoStart infoCount)
  else if code = 0x0101 then
    sized 24 (.setParams streamId (message.getD 20 0) (message.getD 21 0) (message.getD 22 0))
  else if code = 0x0102 then sized 8 (.prepare streamId)
  else if code = 0x0103 then sized 8 (.release streamId)
  else if code = 0x0104 then sized 8 (.start streamId)
  else if code = 0x0105 then sized 8 (.stop streamId)
  else if code = 0x0200 then sized 16 (.chmapInfo infoStart infoCount)
  else if code = 0x0001 then sized 16 (.jackInfo infoStart infoCount)
  else if code = 0x0002 then some .jackRemap
  else some (.unknown code)

def Command.infoSize : Command → Nat
  | .pcmInfo _ count => count.toNat * 32
  | .chmapInfo _ count | .jackInfo _ count => count.toNat * 24
  | .setParams _ _ _ _ | .prepare _ | .release _ | .start _ | .stop _ | .jackRemap
  | .unknown _ => 0

def receiveCommand (message : Bytes) : Except Fault (Option Command) :=
  if 24 < message.length then .error .check else .ok (Command.decode message)

def shmLength : Nat := 262144

structure Transfer where
  streamId : UInt32
  bufferOffset : UInt32
  bufferLength : UInt32
  deriving DecidableEq

def Transfer.decode (message : Bytes) : Transfer :=
  ⟨field message 0, field message 1, field message 2⟩

def Transfer.WithinBounds (transfer : Transfer) : Prop :=
  transfer.bufferOffset.toNat < shmLength ∧
    transfer.bufferLength.toNat ≤ shmLength - transfer.bufferOffset.toNat

instance (transfer : Transfer) : Decidable transfer.WithinBounds :=
  inferInstanceAs (Decidable (_ ∧ _))

def receiveTransfer (message : Bytes) : Except Fault (Option Transfer) :=
  if 12 < message.length then .error .check
  else if message.length < 12 then .ok none
  else if (Transfer.decode message).WithinBounds then .ok (some (Transfer.decode message))
  else .error .check

inductive Status
  | ok
  | badMsg
  | notSupp
  deriving DecidableEq

inductive Reply
  | status (code : Status)
  | pcmInfos (infos : List PcmInfo)
  | chmapInfos (infos : List ChmapInfo)
  deriving DecidableEq

def Reply.code : Reply → Status
  | .status code => code
  | .pcmInfos _ | .chmapInfos _ => .ok

inductive Request
  | command (command : Command)
  | playback (streamId : UInt32)
  | capture (streamId : UInt32)
  deriving DecidableEq

structure FrameCounter where
  frameCount : UInt64
  logAt : UInt64
  deriving DecidableEq

def FrameCounter.next (counter : FrameCounter) : FrameCounter :=
  let frameCount := counter.frameCount + 1
  ⟨frameCount, if counter.logAt ≤ frameCount then counter.logAt * 16 else counter.logAt⟩

inductive Ending
  | tooSmall
  | notSent
  deriving DecidableEq

structure System where
  descs : List StreamDesc
  mixer : Mixer
  mixing : Option Playback
  /-- Three threads insert here, without a lock. A step takes the whole of a message, so that
  none of them meets another one inside the map. -/
  frameCounters : UInt32 → Option FrameCounter
  received : List Request
  replies : List (Request × Reply)
  controlEnd : Option Ending
  playbackEnds : Bool
  captureEnds : Bool
  fault : Option Fault

def System.initial (config : Config) : System where
  descs := List.replicate config.streams.length StreamDesc.initial
  mixer := Mixer.initial config.mixer
  mixing := none
  frameCounters := fun _ => none
  received := []
  replies := []
  controlEnd := none
  playbackEnds := false
  captureEnds := false
  fault := none

/-- What the surroundings grant to a command, by the number of bytes: memory for the entries
of a query and for a reply, and a place for it in the socket. -/
structure Grants where
  entries : Nat → Bool
  reply : Nat → Bool
  sent : Nat → Bool

/-! ## Commands -/

/-- A part of a table, as `StreamsInfo`, `ChmapsInfo` and `JacksInfo` answer it. The sum has
32 bits. -/
def infoRange {Info : Type} (table : List Info) (startId count : UInt32) :
    Except Fault (Option (List Info)) :=
  let infos := (table.drop startId.toNat).take count.toNat
  if table.length ≤ startId.toNat ∨ table.length < (startId + count).toNat then .ok none
  else if table.length < startId.toNat + count.toNat then .error .outOfRange
  else if infos.length ≠ count.toNat then .error .check
  else .ok (some infos)

namespace System

variable (config : Config) (state : System)

def streamsInfo (startId count : UInt32) : Except Fault Reply :=
  (infoRange config.pcmInfos startId count).map fun infos =>
    match infos with
    | none => .status .badMsg
    | some infos => .pcmInfos infos

def chmapsInfo (startId count : UInt32) : Except Fault Reply :=
  (infoRange config.chmapInfos startId count).map fun infos =>
    match infos with
    | none => .status .badMsg
    | some infos => .chmapInfos infos

def jacksInfo (startId count : UInt32) : Except Fault Reply :=
  (infoRange ([] : List Unit) startId count).map fun infos =>
    match infos with
    | none => .status .badMsg
    | some _ => .status .ok

def setStreamParameters (streamId : UInt32) (channels format rate : UInt8) : Reply × System :=
  match config.pcmInfos[streamId.toNat]? with
  | none => (.status .badMsg, state)
  | some info =>
      match bitsPerSample format, sampleRate rate with
      | some bitsPerSample, some sampleRate =>
          if channels.toNat < info.channelsMin ∨ info.channelsMax < channels.toNat then
            (.status .badMsg, state)
          else
            let set := fun desc : StreamDesc =>
              { desc with bitsPerSample, sampleRate, channels := channels.toNat }
            (.status .ok, { state with descs := state.descs.modify streamId.toNat set })
      | _, _ => (.status .badMsg, state)

def controlStream (streamId : UInt32) (next : System) : Reply × System :=
  if config.pcmInfos.length ≤ streamId.toNat then (.status .badMsg, state)
  else (.status .ok, next)

def prepareStream (streamId : UInt32) : Reply × System :=
  state.controlStream config streamId state

def releaseStream (streamId : UInt32) : Reply × System :=
  state.controlStream config streamId state

def startStream (streamId : UInt32) : Reply × System :=
  let set := fun desc : StreamDesc => { desc with active := true }
  state.controlStream config streamId
    { state with descs := state.descs.modify streamId.toNat set }

def stopStream (streamId : UInt32) : Reply × System :=
  let set := fun desc : StreamDesc => { desc with active := false }
  state.controlStream config streamId
    { state with
      descs := state.descs.modify streamId.toNat set
      mixer := state.mixer.onStreamStopped streamId }

def startCounter (streamId : UInt32) : System :=
  { state with
    frameCounters := Function.update state.frameCounters streamId (some ⟨0, 1⟩) }

def execute : Command → Except Fault (Reply × System)
  | .pcmInfo startId count => (streamsInfo config startId count).map (·, state)
  | .setParams streamId channels format rate =>
      .ok (state.setStreamParameters config streamId channels format rate)
  | .prepare streamId => .ok (state.prepareStream config streamId)
  | .release streamId => .ok (state.releaseStream config streamId)
  | .start streamId => .ok ((state.startCounter streamId).startStream config streamId)
  | .stop streamId => .ok (state.stopStream config streamId)
  | .chmapInfo startId count => (chmapsInfo config startId count).map (·, state)
  | .jackInfo startId count => (jacksInfo startId count).map (·, state)
  | .jackRemap => .ok (.status .notSupp, state)
  | .unknown _ => .ok (.status .badMsg, state)

def receive (request : Request) : System :=
  { state with received := state.received ++ [request] }

def reply (request : Request) (reply : Reply) : System :=
  { state with replies := state.replies ++ [(request, reply)] }

def orFault (result : Except Fault System) : System :=
  match result with
  | .error fault => { state with fault := some fault }
  | .ok next => next

def cmdReply (command : Command) (reply : Reply) (grants : Grants) : Except Fault System :=
  let size := 4 + command.infoSize
  if grants.reply size = false then .error .badAlloc
  else if grants.sent size = false then .ok { state with controlEnd := some .notSent }
  else .ok (state.reply (.command command) reply)

/-- `ReceiveCommands`. -/
def control (message : Bytes) (grants : Grants) : Except Fault System :=
  match receiveCommand message with
  | .error fault => .error fault
  | .ok none => .ok { state with controlEnd := some .tooSmall }
  | .ok (some command) =>
      if command.infoSize ≠ 0 ∧ grants.entries command.infoSize = false then .error .badAlloc
      else do
        let done ← (state.receive (.command command)).execute config command
        done.2.cmdReply command done.1 grants

/-! ## Playback -/

def isCapture (streamId : UInt32) : Except Fault Bool :=
  match config.pcmInfos[streamId.toNat]? with
  | none => .error .check
  | some info => .ok (info.direction = .capture)

def sendStatus (request : Request) (code : Status) (sent : Bool) : System :=
  if sent then state.reply request (.status code) else state

def countFrame (streamId : UInt32) : System :=
  let counter := (state.frameCounters streamId).getD ⟨0, 0⟩
  { state with
    frameCounters := Function.update state.frameCounters streamId (some counter.next) }

def onPlaybackBuffer (sent : Bool) (transfer : Transfer) : Except Fault System :=
  let streamId := transfer.streamId
  if config.pcmInfos.length ≤ streamId.toNat then
    .ok (state.sendStatus (.playback streamId) .badMsg sent)
  else do
    let capture ← isCapture config streamId
    if capture then .ok (state.sendStatus (.playback streamId) .badMsg sent)
    else
      match state.descs[streamId.toNat]? with
      | none => .error .outOfRange
      | some desc =>
          if desc.active = false then .ok (state.sendStatus (.playback streamId) .ok sent)
          else
            .ok { state with
              mixing := some ⟨streamId, desc.sampleRate, desc.channels, desc.bitsPerSample,
                transfer.bufferLength.toNat⟩ }

def playback (message : Bytes) (sent : Bool) : Except Fault System :=
  match receiveTransfer message with
  | .error fault => .error fault
  | .ok none => .ok { state with playbackEnds := true }
  | .ok (some transfer) =>
      ((state.receive (.playback transfer.streamId)).countFrame
        transfer.streamId).onPlaybackBuffer config sent transfer

def mix (playback : Playback) (sent : Bool) : Except Fault System := do
  let mixer ← state.mixer.onPlayback config.mixer playback
  return { state with mixer, mixing := none }.sendStatus (.playback playback.streamId) .ok sent

end System

/-! ## Capture -/

inductive Answer
  | failed
  | muted
  | delivered (count : Nat)
  deriving DecidableEq

structure AudioSource where
  answer : (call samplesPerChannel : Nat) → Answer
  bounded : ∀ call samplesPerChannel count,
    answer call samplesPerChannel = .delivered count → count ≤ samplesPerChannel

namespace StreamDesc

variable (desc : StreamDesc) (source : AudioSource) (length : Nat)

def bytesPerSample : Nat := desc.bitsPerSample / 8

def samplesPerChannel : Nat := desc.sampleRate / 100

def bytesPerRequest : Nat := desc.samplesPerChannel * desc.bytesPerSample * desc.channels

/-- `GetMoreAudioData` divides the number of samples by the number of channels. -/
def getMoreAudioData (call : Nat) : Except Fault Answer :=
  match source.answer call desc.samplesPerChannel with
  | .delivered count => if desc.channels = 0 then .error .divisionByZero else .ok (.delivered count)
  | answer => .ok answer

def readBuffer : (rounds call bytesRead : Nat) → Except Fault (Option (Nat × Nat))
  | 0, _, _ => .ok none
  | rounds + 1, call, bytesRead =>
      if length - bytesRead < desc.bytesPerRequest then .ok (some (call, bytesRead))
      else if length < bytesRead + desc.bytesPerRequest then .error .outsideBuffer
      else
        match desc.getMoreAudioData source call with
        | .error fault => .error fault
        | .ok .failed => .ok (some (call + 1, bytesRead))
        | .ok .muted => .ok (some (call + 1, length))
        | .ok (.delivered count) =>
            readBuffer rounds (call + 1)
              (bytesRead + count * desc.bytesPerSample * desc.channels)

def readRest (call bytesRead : Nat) : Except Fault Nat :=
  if length ≤ bytesRead then .ok 0
  else
    match desc.getMoreAudioData source call with
    | .error fault => .error fault
    | .ok .failed | .ok .muted => .ok desc.bytesPerRequest
    | .ok (.delivered _) =>
        if desc.bytesPerRequest < length - bytesRead then .error .outsideBuffer
        else .ok (desc.bytesPerRequest - (length - bytesRead))

def captureAudio (rounds : Nat) : Except Fault (Option Nat) :=
  if length < desc.held then .error .outsideBuffer
  else
    match desc.readBuffer source length rounds 0 desc.held with
    | .error fault => .error fault
    | .ok none => .ok none
    | .ok (some (call, bytesRead)) => (desc.readRest source length call bytesRead).map some

end StreamDesc

namespace System

variable (config : Config) (state : System) (source : AudioSource) (rounds : Nat)

def onCaptureBuffer (sent : Bool) (transfer : Transfer) : Except Fault (Option System) :=
  let streamId := transfer.streamId
  -- The mutex of the stream is locked before anything is checked.
  match state.descs[streamId.toNat]? with
  | none => .error .outOfRange
  | some desc =>
      if config.pcmInfos.length ≤ streamId.toNat then
        .ok (some (state.sendStatus (.capture streamId) .badMsg sent))
      else do
        let capture ← isCapture config streamId
        if capture = false then
          .ok (some (state.sendStatus (.capture streamId) .badMsg sent))
        else if desc.active = false then
          .ok (some (state.sendStatus (.capture streamId) .ok sent))
        else do
          let held ← desc.captureAudio source transfer.bufferLength.toNat rounds
          return held.map fun held =>
            let set := fun desc : StreamDesc => { desc with held }
            { state with descs := state.descs.modify streamId.toNat set }.sendStatus
              (.capture streamId) .ok sent

def capture (message : Bytes) (sent : Bool) : Except Fault (Option System) :=
  match receiveTransfer message with
  | .error fault => .error fault
  | .ok none => .ok (some { state with captureEnds := true })
  | .ok (some transfer) =>
      ((state.receive (.capture transfer.streamId)).countFrame
        transfer.streamId).onCaptureBuffer config source rounds sent transfer

end System

/-! ## The server -/

inductive Label
  | control (message : Bytes) (grants : Grants)
  | playback (message : Bytes) (sent : Bool)
  | mix (sent : Bool)
  | capture (message : Bytes) (source : AudioSource) (rounds : Nat) (sent : Bool)
  | mixerLoop
  | accept

def step (config : Config) (state : System) (label : Label) : Option System :=
  if state.fault.isSome then none
  else
    match label with
    | .control message grants =>
        if state.controlEnd.isSome then none
        else some (state.orFault (state.control config message grants))
    | .playback message sent =>
        if state.playbackEnds ∨ state.mixing.isSome then none
        else some (state.orFault (state.playback config message sent))
    | .mix sent => state.mixing.map fun playback => state.orFault (state.mix config playback sent)
    | .capture message source rounds sent =>
        if state.captureEnds then none
        else
          match state.capture config source rounds message sent with
          | .error fault => some { state with fault := some fault }
          | .ok next => next
    | .mixerLoop =>
        some (state.orFault
          ((state.mixer.mixerLoop config.mixer).map fun mixer => { state with mixer }))
    | .accept =>
        if state.controlEnd.isSome ∧ state.playbackEnds ∧ state.captureEnds then
          some { state with
            controlEnd := none, playbackEnds := false, captureEnds := false
            frameCounters := fun _ => none }
        else none

end Cuttlefish.Audio
