import Cuttlefish.Foundation.DoubleRounding

/-! # Audio mixer

`AudioMixer` of `host/frontend/webrtc`: where it reads and writes when it mixes the buffers
of the playback streams. The samples themselves do not matter to that, so the mixed buffer
is given by its size. Memory can always be allocated. -/

namespace Cuttlefish.Audio

/-- What ends the server. -/
inductive Fault
  | check
  | divisionByZero
  | outOfRange
  | outsideBuffer
  | badAlloc
  deriving DecidableEq

inductive ChannelsLayout
  | mono
  | stereo
  | surround51
  deriving DecidableEq

def getChannelsCount : ChannelsLayout → Nat
  | .mono => 1
  | .stereo => 2
  | .surround51 => 6

structure MixerSettings where
  channelsLayout : ChannelsLayout
  sampleRate : UInt32
  deriving DecidableEq

def mixerSampleSize : Nat := 2

namespace MixerSettings

variable (settings : MixerSettings)

def channelsCount : Nat := getChannelsCount settings.channelsLayout

def frameSize : Nat := mixerSampleSize * settings.channelsCount

def chunkFrames : Nat := settings.sampleRate.toNat / 100

end MixerSettings

/-! ## Conversion -/

def getFramesCount (size channels bitsPerSample : Nat) : Except Fault Nat :=
  if channels * bitsPerSample = 0 then .error .divisionByZero
  else .ok (size * 8 / (channels * bitsPerSample))

def getFrameCountAfterResampling (targetRate sourceRate sourceFrames : Nat) : Except Fault Nat :=
  if targetRate = sourceRate then .ok sourceFrames
  else if sourceRate = 0 then .error .divisionByZero
  else .ok (sourceFrames * targetRate / sourceRate)

def maxChannelsCount : Nat := 6

def directMap : List (List Nat) :=
  [[1, 0, 0, 0, 0, 0],
    [0, 1, 0, 0, 0, 0],
    [0, 0, 1, 0, 0, 0],
    [0, 0, 0, 1, 0, 0],
    [0, 0, 0, 0, 1, 0],
    [0, 0, 0, 0, 0, 1]]

/-- `kConvertAudioStreamFunctionMap`: the size of the source samples, where there is a
function. -/
def convertAudioStreamFunctionMap : List (List (Option Nat)) :=
  [[none, none, none, none, none],
    [none, some 1, some 2, none, some 4],
    [none, some 1, some 2, none, some 4],
    [none, none, none, none, none],
    [none, some 1, some 2, none, some 4]]

def convertFunction (destinationSize sourceSize : Nat) : Except Fault Nat :=
  match convertAudioStreamFunctionMap[destinationSize]? with
  | none => .error .outOfRange
  | some row =>
      match row[sourceSize]? with
      | none => .error .outOfRange
      | some none => .error .check
      | some (some size) => .ok size

def sourceFrame (targetRate sourceRate frame : Nat) : Nat :=
  ⌊DoubleRounding.round
    (DoubleRounding.round frame / DoubleRounding.round (targetRate / sourceRate))⌋₊

structure Conversion where
  targetSize : Nat
  targetFrame : Nat
  targetChannels : Nat
  targetRate : Nat
  sourceSize : Nat
  sampleSize : Nat
  sourceChannels : Nat
  sourceRate : Nat
  sourceFrames : Nat

def convertFrame (conversion : Conversion) (frame : Nat) : Except Fault Unit :=
  let first := sourceFrame conversion.targetRate conversion.sourceRate frame
  let second := min (first + 1) (conversion.sourceFrames - 1)
  let sourceEnd := fun frame => (frame + 1) * conversion.sourceChannels * conversion.sampleSize
  let targetEnd :=
    (conversion.targetFrame + frame + 1) * conversion.targetChannels * mixerSampleSize
  if conversion.sourceSize < sourceEnd first ∨ conversion.sourceSize < sourceEnd second then
    .error .outsideBuffer
  else if conversion.targetSize < targetEnd then .error .outsideBuffer
  else .ok ()

def convertAudioStream (conversion : Conversion) : Except Fault Nat :=
  if maxChannelsCount < conversion.sourceChannels then .error .check
  else if directMap.length < conversion.targetChannels then .error .check
  else if (directMap.take conversion.targetChannels).all
      fun row => conversion.sourceChannels ≤ row.length then do
    let frames ← getFrameCountAfterResampling conversion.targetRate conversion.sourceRate
      conversion.sourceFrames
    (List.range frames).forM (convertFrame conversion)
    return frames
  else .error .check

/-! ## Mixing -/

structure Mixer where
  nextFrame : UInt32 → Option Nat
  lastActiveFrame : Nat
  mixedBufferSize : Nat

def Mixer.initial (settings : MixerSettings) : Mixer :=
  ⟨fun _ => none, 0, settings.chunkFrames * settings.frameSize⟩

structure Playback where
  streamId : UInt32
  sampleRate : Nat
  channels : Nat
  bitsPerSample : Nat
  size : Nat
  deriving DecidableEq

namespace Mixer

variable (settings : MixerSettings) (mixer : Mixer)

def onStreamStopped (streamId : UInt32) : Mixer :=
  { mixer with nextFrame := fun other => if other = streamId then none else mixer.nextFrame other }

def mixAt (playback : Playback) (streamFrames frames nextFrame : Nat) : Except Fault Mixer :=
  let size := max mixer.mixedBufferSize ((nextFrame + frames) * settings.frameSize)
  -- New frames are filled with zeros first.
  if mixer.lastActiveFrame < nextFrame + frames ∧
      size < (nextFrame + frames) * settings.frameSize then
    .error .outsideBuffer
  else do
    let sampleSize ← convertFunction mixerSampleSize (playback.bitsPerSample / 8)
    let filled ← convertAudioStream
      ⟨size, nextFrame, settings.channelsCount, settings.sampleRate.toNat, playback.size,
        sampleSize, playback.channels, playback.sampleRate, streamFrames⟩
    if frames < filled then .error .check
    else
      .ok {
        nextFrame := fun other =>
          if other = playback.streamId then some (nextFrame + filled) else mixer.nextFrame other
        lastActiveFrame := max mixer.lastActiveFrame (nextFrame + filled)
        mixedBufferSize := size }

def onPlayback (playback : Playback) : Except Fault Mixer := do
  let streamFrames ← getFramesCount playback.size playback.channels playback.bitsPerSample
  let frames ← getFrameCountAfterResampling settings.sampleRate.toNat playback.sampleRate
    streamFrames
  mixer.mixAt settings playback streamFrames frames
    ((mixer.nextFrame playback.streamId).getD 0)

def mixerLoop : Except Fault Mixer :=
  let chunkSize := settings.chunkFrames * settings.frameSize
  let lastActiveFrame := mixer.lastActiveFrame - settings.chunkFrames
  if mixer.mixedBufferSize < chunkSize then .error .outsideBuffer
  else if mixer.mixedBufferSize < chunkSize + lastActiveFrame * settings.frameSize ∧
      0 < lastActiveFrame then
    .error .outsideBuffer
  else
    .ok { mixer with
      nextFrame := fun other => (mixer.nextFrame other).map (· - settings.chunkFrames)
      lastActiveFrame }

end Mixer

/-! ## Frames of the source -/

theorem sourceFrame_zero (targetRate sourceRate : Nat) : sourceFrame targetRate sourceRate 0 = 0 := by
  rw [sourceFrame, Nat.cast_zero, DoubleRounding.round_zero, zero_div, DoubleRounding.round_zero,
    Nat.floor_zero]

theorem sourceFrame_lt {targetRate sourceRate frame frames : Nat} (sourcePos : 0 < sourceRate)
    (inside : (frame + 1) * sourceRate ≤ frames * targetRate)
    (small : frames * targetRate ≤ 2 ^ 50) :
    sourceFrame targetRate sourceRate frame < frames := by
  have product : 0 < frames * targetRate :=
    lt_of_lt_of_le (Nat.mul_pos frame.succ_pos sourcePos) inside
  have framesPos : 0 < frames := Nat.pos_of_mul_pos_right product
  have targetPos : 0 < targetRate := Nat.pos_of_mul_pos_left product
  rcases frame.eq_zero_or_pos with rfl | framePos
  · rw [sourceFrame_zero]
    exact framesPos
  · have frameQ : (0 : ℚ) < frame := Nat.cast_pos.mpr framePos
    have sourceQ : (1 : ℚ) ≤ sourceRate := Nat.one_le_cast.mpr sourcePos
    have targetQ : (0 : ℚ) < targetRate := Nat.cast_pos.mpr targetPos
    have insideQ : ((frame : ℚ) + 1) * sourceRate ≤ frames * targetRate := by exact_mod_cast inside
    have smallQ : (frames : ℚ) * targetRate ≤ 2 ^ 50 := by exact_mod_cast small
    have factorPos : (0 : ℚ) < targetRate / sourceRate := div_pos targetQ (by linarith)
    rw [sourceFrame, Nat.floor_lt' framesPos.ne']
    calc DoubleRounding.round
          (DoubleRounding.round frame / DoubleRounding.round (targetRate / sourceRate))
        ≤ frame / (targetRate / sourceRate) * (1 + 1 / 2 ^ 51) :=
          DoubleRounding.round_div_round_le frameQ factorPos
      _ = frame * sourceRate * (1 + 1 / 2 ^ 51) / targetRate := by
          rw [div_div_eq_mul_div]
          ring
      _ < frames := by
          rw [div_lt_iff₀ targetQ]
          linarith

/-! ## Mixing stays within the buffers -/

theorem forM_ok {Element : Type} {elements : List Element} {action : Element → Except Fault Unit}
    (ok : ∀ element ∈ elements, action element = .ok ()) : elements.forM action = .ok () := by
  induction elements with
  | nil => rfl
  | cons first rest induction =>
      change (action first >>= fun _ => rest.forM action) = .ok ()
      rw [ok first List.mem_cons_self]
      exact induction fun element member => ok element (List.mem_cons_of_mem first member)

theorem getFrameCountAfterResampling_ok (targetRate sourceFrames : Nat) {sourceRate : Nat}
    (sourcePos : 0 < sourceRate) :
    ∃ frames, getFrameCountAfterResampling targetRate sourceRate sourceFrames = .ok frames ∧
      frames * sourceRate ≤ sourceFrames * targetRate := by
  rw [getFrameCountAfterResampling]
  split
  next same => exact ⟨sourceFrames, rfl, same ▸ Nat.le_refl _⟩
  next =>
    rw [if_neg sourcePos.ne']
    exact ⟨_, rfl, Nat.div_mul_le_self _ _⟩

/-- The source and the place in the mixed buffer are large enough. -/
structure Conversion.Fits (conversion : Conversion) (frames : Nat) : Prop where
  sourceChannels : conversion.sourceChannels ≤ 6
  targetChannels : conversion.targetChannels ≤ 6
  sourceRate : 0 < conversion.sourceRate
  source : conversion.sourceFrames * (conversion.sourceChannels * conversion.sampleSize) ≤
    conversion.sourceSize
  small : conversion.sourceFrames * conversion.targetRate ≤ 2 ^ 50
  target : (conversion.targetFrame + frames) * (conversion.targetChannels * mixerSampleSize) ≤
    conversion.targetSize
  resampled : getFrameCountAfterResampling conversion.targetRate conversion.sourceRate
    conversion.sourceFrames = .ok frames
  enough : frames * conversion.sourceRate ≤ conversion.sourceFrames * conversion.targetRate

theorem Conversion.Fits.convertFrame {conversion : Conversion} {frames frame : Nat}
    (fits : conversion.Fits frames) (inside : frame < frames) :
    convertFrame conversion frame = .ok () := by
  have first : sourceFrame conversion.targetRate conversion.sourceRate frame <
      conversion.sourceFrames :=
    sourceFrame_lt fits.sourceRate
      ((Nat.mul_le_mul_right _ inside).trans fits.enough) fits.small
  have within : ∀ index < conversion.sourceFrames,
      (index + 1) * conversion.sourceChannels * conversion.sampleSize ≤ conversion.sourceSize := by
    intro index less
    rw [Nat.mul_assoc]
    exact (Nat.mul_le_mul_right _ less).trans fits.source
  have second : min (sourceFrame conversion.targetRate conversion.sourceRate frame + 1)
      (conversion.sourceFrames - 1) < conversion.sourceFrames := by omega
  have target : (conversion.targetFrame + frame + 1) * conversion.targetChannels *
      mixerSampleSize ≤ conversion.targetSize := by
    rw [Nat.mul_assoc]
    exact (Nat.mul_le_mul_right _ (by omega)).trans fits.target
  rw [Audio.convertFrame]
  dsimp only
  rw [if_neg, if_neg (Nat.not_lt.mpr target)]
  rw [not_or, Nat.not_lt, Nat.not_lt]
  exact ⟨within _ first, within _ second⟩

theorem Conversion.Fits.convertAudioStream {conversion : Conversion} {frames : Nat}
    (fits : conversion.Fits frames) : convertAudioStream conversion = .ok frames := by
  have rows : ∀ row ∈ directMap, row.length = 6 := by decide
  have wide : ((directMap.take conversion.targetChannels).all
      fun row => conversion.sourceChannels ≤ row.length) = true := by
    rw [List.all_eq_true]
    intro row member
    rw [rows row (List.mem_of_mem_take member)]
    exact decide_eq_true fits.sourceChannels
  have converted : (List.range frames).forM (Audio.convertFrame conversion) = .ok () :=
    forM_ok fun frame member => fits.convertFrame (List.mem_range.mp member)
  have few : ¬ maxChannelsCount < conversion.sourceChannels := Nat.not_lt.mpr fits.sourceChannels
  have mapped : ¬ directMap.length < conversion.targetChannels :=
    Nat.not_lt.mpr fits.targetChannels
  rw [Audio.convertAudioStream]
  rw [if_neg few, if_neg mapped, if_pos wide, fits.resampled]
  change ((List.range frames).forM (Audio.convertFrame conversion) >>= fun _ => _) = _
  rw [converted]
  rfl

structure Playback.Mixable (playback : Playback) : Prop where
  channels : 1 ≤ playback.channels ∧ playback.channels ≤ 6
  sampleRate : 0 < playback.sampleRate
  bits : playback.bitsPerSample ∈ [8, 16, 32]
  size : playback.size ≤ 2 ^ 18

/-- What the mixer knows to be in the mixed buffer is there. -/
structure Mixer.Fits (settings : MixerSettings) (mixer : Mixer) : Prop where
  chunk : settings.chunkFrames * settings.frameSize ≤ mixer.mixedBufferSize
  active : mixer.lastActiveFrame * settings.frameSize ≤ mixer.mixedBufferSize

theorem getChannelsCount_le (layout : ChannelsLayout) : getChannelsCount layout ≤ 6 := by
  cases layout with
  | mono => decide
  | stereo => decide
  | surround51 => decide

theorem convertFunction_ok {bits : Nat} (supported : bits ∈ [8, 16, 32]) :
    convertFunction mixerSampleSize (bits / 8) = .ok (bits / 8) ∧ bits = 8 * (bits / 8) := by
  simp only [List.mem_cons, List.not_mem_nil, or_false] at supported
  rcases supported with rfl | rfl | rfl
  · exact ⟨rfl, rfl⟩
  · exact ⟨rfl, rfl⟩
  · exact ⟨rfl, rfl⟩

theorem getFramesCount_ok {channels bits : Nat} (channelsPos : 1 ≤ channels)
    (supported : bits ∈ [8, 16, 32]) (size : Nat) :
    ∃ frames, getFramesCount size channels bits = .ok frames ∧
      frames * (channels * (bits / 8)) ≤ size ∧ frames ≤ size := by
  have isBits := (convertFunction_ok supported).2
  have bytesPos : 0 < bits / 8 := by
    simp only [List.mem_cons, List.not_mem_nil, or_false] at supported
    omega
  have divisor : channels * bits ≠ 0 := Nat.mul_ne_zero (by omega) (by omega)
  have framePos : 1 ≤ channels * (bits / 8) := Nat.mul_pos channelsPos bytesPos
  have whole : size * 8 / (channels * bits) * (channels * (bits / 8)) ≤ size := by
    have product := Nat.div_mul_le_self (size * 8) (channels * bits)
    have scaled : channels * bits = channels * (bits / 8) * 8 := by
      rw [Nat.mul_assoc, Nat.mul_comm (bits / 8), ← isBits]
    rw [scaled] at product ⊢
    rw [← Nat.mul_assoc] at product
    exact Nat.le_of_mul_le_mul_right product (by decide)
  refine ⟨size * 8 / (channels * bits), ?_, whole, ?_⟩
  · rw [getFramesCount, if_neg divisor]
  · exact (Nat.le_mul_of_pos_right _ framePos).trans whole

namespace Mixer

variable {settings : MixerSettings} {mixer : Mixer}

theorem fits_initial (settings : MixerSettings) : (Mixer.initial settings).Fits settings where
  chunk := Nat.le_refl _
  active := by
    rw [Mixer.initial, Nat.zero_mul]
    exact Nat.zero_le _

def mixed (settings : MixerSettings) (mixer : Mixer) (streamId : UInt32)
    (nextFrame frames : Nat) : Mixer where
  nextFrame := fun other =>
    if other = streamId then some (nextFrame + frames) else mixer.nextFrame other
  lastActiveFrame := max mixer.lastActiveFrame (nextFrame + frames)
  mixedBufferSize := max mixer.mixedBufferSize ((nextFrame + frames) * settings.frameSize)

theorem Fits.mixed (fits : mixer.Fits settings) (streamId : UInt32) (nextFrame frames : Nat) :
    (mixer.mixed settings streamId nextFrame frames).Fits settings := by
  have grown : mixer.mixedBufferSize ≤
      max mixer.mixedBufferSize ((nextFrame + frames) * settings.frameSize) := Nat.le_max_left ..
  refine ⟨fits.chunk.trans grown, ?_⟩
  dsimp only [Mixer.mixed]
  rcases Nat.le_total mixer.lastActiveFrame (nextFrame + frames) with less | less
  · rw [Nat.max_eq_right less]
    exact Nat.le_max_right ..
  · rw [Nat.max_eq_left less]
    exact fits.active.trans grown

theorem mixAt_eq {playback : Playback} {streamFrames frames : Nat} (nextFrame : Nat)
    (bits : playback.bitsPerSample ∈ [8, 16, 32])
    (converts : ∀ targetSize, (nextFrame + frames) * settings.frameSize ≤ targetSize →
      Conversion.Fits ⟨targetSize, nextFrame, settings.channelsCount, settings.sampleRate.toNat,
        playback.size, playback.bitsPerSample / 8, playback.channels, playback.sampleRate,
        streamFrames⟩ frames) :
    mixer.mixAt settings playback streamFrames frames nextFrame =
      .ok (mixer.mixed settings playback.streamId nextFrame frames) := by
  let size := max mixer.mixedBufferSize ((nextFrame + frames) * settings.frameSize)
  have room : (nextFrame + frames) * settings.frameSize ≤ size := Nat.le_max_right ..
  unfold Mixer.mixAt
  dsimp only
  rw [if_neg fun outside => absurd room (Nat.not_le.mpr outside.2), (convertFunction_ok bits).1]
  dsimp only [bind, Except.bind]
  rw [(converts size room).convertAudioStream]
  dsimp only
  rw [if_neg (Nat.lt_irrefl frames)]
  rfl

theorem onPlayback_eq (mixer : Mixer) {playback : Playback} (mixable : playback.Mixable) :
    ∃ streamFrames frames,
      getFramesCount playback.size playback.channels playback.bitsPerSample = .ok streamFrames ∧
      getFrameCountAfterResampling settings.sampleRate.toNat playback.sampleRate streamFrames =
        .ok frames ∧
      mixer.onPlayback settings playback = .ok (mixer.mixed settings playback.streamId
        ((mixer.nextFrame playback.streamId).getD 0) frames) := by
  rcases mixable with ⟨⟨channelsPos, channels⟩, ratePos, bits, size⟩
  rcases getFramesCount_ok channelsPos bits playback.size with
    ⟨streamFrames, isStreamFrames, source, few⟩
  rcases getFrameCountAfterResampling_ok settings.sampleRate.toNat streamFrames ratePos with
    ⟨frames, isFrames, enough⟩
  have small : streamFrames * settings.sampleRate.toNat ≤ 2 ^ 50 := by
    calc streamFrames * settings.sampleRate.toNat
        ≤ 2 ^ 18 * 2 ^ 32 := Nat.mul_le_mul (few.trans size) settings.sampleRate.toNat_lt.le
      _ = 2 ^ 50 := by norm_num
  have called : mixer.onPlayback settings playback = mixer.mixAt settings playback streamFrames
      frames ((mixer.nextFrame playback.streamId).getD 0) := by
    rw [Mixer.onPlayback, isStreamFrames]
    dsimp only [bind, Except.bind]
    rw [isFrames]
  refine ⟨streamFrames, frames, isStreamFrames, isFrames, called.trans (mixAt_eq _ bits ?_)⟩
  intro targetSize room
  refine ⟨channels, getChannelsCount_le _, ratePos, source, small, ?_, isFrames, enough⟩
  rw [Nat.mul_comm settings.channelsCount]
  exact room

theorem Fits.onPlayback (fits : mixer.Fits settings) {playback : Playback}
    (mixable : playback.Mixable) :
    ∃ next, mixer.onPlayback settings playback = .ok next ∧ next.Fits settings := by
  rcases mixer.onPlayback_eq mixable with ⟨_, frames, _, _, mixed⟩
  exact ⟨_, mixed, fits.mixed _ _ frames⟩

theorem Fits.mixerLoop_eq (fits : mixer.Fits settings) :
    mixer.mixerLoop settings = .ok { mixer with
      nextFrame := fun other => (mixer.nextFrame other).map (· - settings.chunkFrames)
      lastActiveFrame := mixer.lastActiveFrame - settings.chunkFrames } := by
  unfold Mixer.mixerLoop
  dsimp only
  rw [if_neg (Nat.not_lt.mpr fits.chunk), if_neg]
  rintro ⟨tooSmall, some_⟩
  rw [← Nat.add_mul] at tooSmall
  have same : settings.chunkFrames + (mixer.lastActiveFrame - settings.chunkFrames) =
      mixer.lastActiveFrame := by omega
  rw [same] at tooSmall
  exact absurd fits.active (Nat.not_le.mpr tooSmall)

theorem Fits.mixerLoop (fits : mixer.Fits settings) :
    ∃ next, mixer.mixerLoop settings = .ok next ∧ next.Fits settings := by
  have fewer : mixer.lastActiveFrame - settings.chunkFrames ≤ mixer.lastActiveFrame :=
    Nat.sub_le ..
  exact ⟨_, fits.mixerLoop_eq, fits.chunk, (Nat.mul_le_mul_right _ fewer).trans fits.active⟩

end Mixer

end Cuttlefish.Audio
