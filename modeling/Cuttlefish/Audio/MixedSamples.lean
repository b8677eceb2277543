import Cuttlefish.Audio.AudioMixer
import Cuttlefish.Foundation.LittleEndian

/-! # Mixed samples

What `AudioMixer` plays of streams with 16 bit samples at its own rate: each frame that it is
given has a place on one line of time, and what is played at a time is the sum of the frames
there. -/

namespace Cuttlefish.Audio

structure SampleBuffer where
  streamId : UInt32
  channels : Nat
  buffer : Bytes
  channels_pos : 1 ≤ channels
  channels_le : channels ≤ maxChannelsCount

namespace SampleBuffer

variable (given : SampleBuffer)

/-- `GetFramesCount`. -/
def frames : Nat := given.buffer.length * 8 / (given.channels * 16)

/-- `src_typed[index]`. -/
def sample (index : Nat) : Int :=
  (UInt16.ofNat (LittleEndian.decode (Bytes.readAt given.buffer (2 * index) 2))).toInt16.toInt

def frameSample (frame channel : Nat) : Int := given.sample (frame * given.channels + channel)

end SampleBuffer

def clampInt16 (value : Int) : Int := max (-32768) (min value 32767)

/-! ## The mixer -/

abbrev Samples := Nat → Nat → Int

def Samples.fill (samples : Samples) (first behind : Nat) : Samples := fun frame channel =>
  if first ≤ frame ∧ frame < behind then 0 else samples frame channel

/-- How `ConvertAudioStream` mixes a frame into a channel. At the rate of the mixer the factor
is one, so that a frame after resampling is the frame of the source. -/
def convertSample (given : SampleBuffer) (frame channel : Nat) (value : Int) : Int :=
  (List.range given.channels).foldl
    (fun value source =>
      clampInt16 (value +
        given.frameSample frame source * ((directMap.getD channel []).getD source 0 : Nat)))
    value

def Samples.convert (samples : Samples) (given : SampleBuffer) (targetFrame : Nat)
    (channels : Nat) : Samples := fun frame channel =>
  if targetFrame ≤ frame ∧ frame < targetFrame + given.frames ∧ channel < channels then
    convertSample given (frame - targetFrame) channel (samples frame channel)
  else samples frame channel

/-- The mixer with the samples in `mixed_buffer_` and with all frames it has played. -/
structure SampleMixer where
  mixer : Mixer
  mixedBuffer : Samples
  played : List (List Int)

inductive MixerLabel
  | playback (given : SampleBuffer)
  | stopped (streamId : UInt32)
  | mixerLoop

namespace SampleMixer

variable (settings : MixerSettings)

def initial : SampleMixer := ⟨Mixer.initial settings, fun _ _ => 0, []⟩

variable (state : SampleMixer)

def onStreamStopped (streamId : UInt32) : SampleMixer :=
  { state with mixer := state.mixer.onStreamStopped streamId }

def onPlayback (given : SampleBuffer) : SampleMixer :=
  let mixer := state.mixer
  let nextFrame := (mixer.nextFrame given.streamId).getD 0
  let behind := nextFrame + given.frames
  let resized : Samples := fun frame channel =>
    if frame * settings.frameSize < mixer.mixedBufferSize then state.mixedBuffer frame channel
    else 0
  let filled :=
    if mixer.lastActiveFrame < behind then resized.fill mixer.lastActiveFrame behind else resized
  { state with
    mixer :=
      { nextFrame := fun other =>
          if other = given.streamId then some behind else mixer.nextFrame other
        lastActiveFrame := max mixer.lastActiveFrame behind
        mixedBufferSize := max mixer.mixedBufferSize (behind * settings.frameSize) }
    mixedBuffer := filled.convert given nextFrame settings.channelsCount }

/-- One round of `MixerLoop`. The loop waits while there are no streams and there is nothing
to play; the rounds that it does not make then would play zeros. -/
def mixerLoop : SampleMixer :=
  let mixer := state.mixer
  let chunk := settings.chunkFrames
  let filled :=
    if mixer.lastActiveFrame < chunk then state.mixedBuffer.fill mixer.lastActiveFrame chunk
    else state.mixedBuffer
  let lastActiveFrame := mixer.lastActiveFrame - chunk
  let moved : Samples := fun frame channel =>
    if frame < lastActiveFrame then filled (frame + chunk) channel else filled frame channel
  { mixer :=
      { mixer with
        nextFrame := fun other => (mixer.nextFrame other).map (· - chunk)
        lastActiveFrame }
    mixedBuffer := if 0 < lastActiveFrame then moved else filled
    played := state.played ++
      (List.range chunk).map fun frame => (List.range settings.channelsCount).map (filled frame) }

def step (state : SampleMixer) : MixerLabel → SampleMixer
  | .playback given => state.onPlayback settings given
  | .stopped streamId => state.onStreamStopped streamId
  | .mixerLoop => state.mixerLoop settings

def after (labels : List MixerLabel) : SampleMixer :=
  labels.foldl (step settings) (initial settings)

end SampleMixer

/-! ## The line of time -/

structure Scheduled where
  given : SampleBuffer
  start : Nat

namespace Scheduled

variable (entry : Scheduled)

def finish : Nat := entry.start + entry.given.frames

def addAt (time channel : Nat) (value : Int) : Int :=
  if entry.start ≤ time ∧ time < entry.finish ∧ channel < entry.given.channels then
    clampInt16 (value + entry.given.frameSample (time - entry.start) channel)
  else value

end Scheduled

def dueAt (scheduled : List Scheduled) (time channel : Nat) : Int :=
  scheduled.foldl (fun value entry => entry.addAt time channel value) 0

/-- Time goes by in frames. The frames of a stream are due one after another; a stream that
has nothing left, or that has been stopped, goes on with what is played next. -/
structure TimeLine where
  now : Nat
  finish : UInt32 → Option Nat
  scheduled : List Scheduled

namespace TimeLine

def initial : TimeLine := ⟨0, fun _ => none, []⟩

variable (line : TimeLine)

def start (streamId : UInt32) : Nat := max line.now ((line.finish streamId).getD 0)

def step (chunk : Nat) (line : TimeLine) : MixerLabel → TimeLine
  | .playback given =>
      let entry : Scheduled := ⟨given, line.start given.streamId⟩
      { line with
        finish := fun other =>
          if other = given.streamId then some entry.finish else line.finish other
        scheduled := line.scheduled ++ [entry] }
  | .stopped streamId =>
      { line with finish := fun other => if other = streamId then none else line.finish other }
  | .mixerLoop => { line with now := line.now + chunk }

def after (chunk : Nat) (labels : List MixerLabel) : TimeLine := labels.foldl (step chunk) initial

end TimeLine

/-! ## Sums -/

def IsInt16 (value : Int) : Prop := -32768 ≤ value ∧ value ≤ 32767

theorem isInt16_clampInt16 (value : Int) : IsInt16 (clampInt16 value) := by
  rw [clampInt16, IsInt16]
  omega

theorem IsInt16.clampInt16_eq {value : Int} (fits : IsInt16 value) : clampInt16 value = value := by
  rw [IsInt16] at fits
  rw [clampInt16]
  omega

theorem directMap_entry : ∀ channel < maxChannelsCount, ∀ source < maxChannelsCount,
    (directMap.getD channel []).getD source 0 = if channel = source then 1 else 0 := by
  decide

theorem convertSample_eq (given : SampleBuffer) (frame : Nat) {channel : Nat} {value : Int}
    (channelLt : channel < maxChannelsCount) (fits : IsInt16 value) :
    convertSample given frame channel value =
      if channel < given.channels then clampInt16 (value + given.frameSample frame channel)
      else value := by
  have upTo : ∀ count ≤ maxChannelsCount,
      (List.range count).foldl
        (fun value source =>
          clampInt16 (value +
            given.frameSample frame source * ((directMap.getD channel []).getD source 0 : Nat)))
        value =
      if channel < count then clampInt16 (value + given.frameSample frame channel) else value := by
    intro count
    induction count with
    | zero => exact fun _ => rfl
    | succ count induction =>
        intro inside
        rw [List.range_succ, List.foldl_append, induction (Nat.le_of_succ_le inside),
          List.foldl_cons, List.foldl_nil, directMap_entry channel channelLt count inside]
        rcases Nat.lt_trichotomy channel count with less | same | greater
        · rw [if_pos less, if_neg less.ne, if_pos (less.trans count.lt_succ_self), Nat.cast_zero,
            Int.mul_zero, Int.add_zero, (isInt16_clampInt16 _).clampInt16_eq]
        · rw [same, if_neg (Nat.lt_irrefl _), if_pos rfl, if_pos count.lt_succ_self, Nat.cast_one,
            Int.mul_one]
        · rw [if_neg (Nat.not_lt.mpr greater.le), if_neg greater.ne', if_neg (by omega),
            Nat.cast_zero, Int.mul_zero, Int.add_zero, fits.clampInt16_eq]
  exact upTo given.channels given.channels_le

theorem Scheduled.isInt16_addAt (entry : Scheduled) (time channel : Nat) {value : Int}
    (fits : IsInt16 value) : IsInt16 (entry.addAt time channel value) := by
  rw [Scheduled.addAt]
  split
  · exact isInt16_clampInt16 _
  · exact fits

theorem Scheduled.addAt_of_not_due {entry : Scheduled} {time : Nat} (channel : Nat) (value : Int)
    (notDue : time < entry.start ∨ entry.finish ≤ time) :
    entry.addAt time channel value = value :=
  if_neg fun due => by omega

theorem dueAt_concat (scheduled : List Scheduled) (entry : Scheduled) (time channel : Nat) :
    dueAt (scheduled ++ [entry]) time channel =
      entry.addAt time channel (dueAt scheduled time channel) := by
  rw [dueAt, List.foldl_append]
  rfl

theorem isInt16_dueAt (scheduled : List Scheduled) (time channel : Nat) :
    IsInt16 (dueAt scheduled time channel) := by
  induction scheduled using List.reverseRecOn with
  | nil => exact (⟨by decide, by decide⟩ : IsInt16 0)
  | append_singleton scheduled entry induction =>
      rw [dueAt_concat]
      exact entry.isInt16_addAt time channel induction

theorem dueAt_eq_zero {scheduled : List Scheduled} {time : Nat} (channel : Nat)
    (tooLate : ∀ entry ∈ scheduled, entry.finish ≤ time) : dueAt scheduled time channel = 0 := by
  induction scheduled using List.reverseRecOn with
  | nil => rfl
  | append_singleton scheduled entry induction =>
      have before : ∀ other ∈ scheduled, other.finish ≤ time := fun other member =>
        tooLate other (List.mem_append_left _ member)
      have last : entry.finish ≤ time :=
        tooLate entry (List.mem_append_right _ (List.mem_singleton_self entry))
      rw [dueAt_concat, induction before, entry.addAt_of_not_due channel 0 (.inr last)]

theorem Samples.convert_eq {samples : Samples} {entry : Scheduled} {now targetFrame frame : Nat}
    {channels channel : Nat} (start : entry.start = now + targetFrame)
    (channelLt : channel < channels) (channelsLe : channels ≤ maxChannelsCount)
    (fits : IsInt16 (samples frame channel)) :
    samples.convert entry.given targetFrame channels frame channel =
      entry.addAt (now + frame) channel (samples frame channel) := by
  rw [Samples.convert, Scheduled.addAt, Scheduled.finish]
  rw [start]
  by_cases due : targetFrame ≤ frame ∧ frame < targetFrame + entry.given.frames
  · have place : now + frame - (now + targetFrame) = frame - targetFrame := by omega
    rw [if_pos ⟨due.1, due.2, channelLt⟩,
      convertSample_eq entry.given _ (channelLt.trans_le channelsLe) fits, place]
    exact if_congr ⟨fun inside => ⟨by omega, by omega, inside⟩, fun inside => inside.2.2⟩ rfl rfl
  · rw [if_neg fun inside => due ⟨inside.1, inside.2.1⟩, if_neg fun inside => due (by omega)]

/-! ## The mixer follows the line of time -/

theorem MixerSettings.frameSize_pos (settings : MixerSettings) : 0 < settings.frameSize := by
  rw [MixerSettings.frameSize, MixerSettings.channelsCount]
  cases settings.channelsLayout with
  | mono => decide
  | stereo => decide
  | surround51 => decide

structure Follows (settings : MixerSettings) (state : SampleMixer) (line : TimeLine) : Prop where
  fits : state.mixer.Fits settings
  next : ∀ id, state.mixer.nextFrame id = (line.finish id).map (· - line.now)
  known : ∀ id finish, line.finish id = some finish →
    finish ≤ line.now + state.mixer.lastActiveFrame
  active : ∀ entry ∈ line.scheduled, entry.finish ≤ line.now + state.mixer.lastActiveFrame
  mixed : ∀ frame < state.mixer.lastActiveFrame, ∀ channel < settings.channelsCount,
    state.mixedBuffer frame channel = dueAt line.scheduled (line.now + frame) channel
  played : state.played =
    (List.range line.now).map fun time =>
      (List.range settings.channelsCount).map (dueAt line.scheduled time)

namespace Follows

variable {settings : MixerSettings} {state : SampleMixer} {line : TimeLine}

theorem initial (settings : MixerSettings) :
    Follows settings (SampleMixer.initial settings) TimeLine.initial where
  fits := Mixer.fits_initial settings
  next _ := rfl
  known _ _ isSome := nomatch isSome
  active _ member := nomatch member
  mixed _ less := nomatch less
  played := rfl

theorem next_le (follows : Follows settings state line) {id : UInt32} {frame : Nat}
    (isNext : state.mixer.nextFrame id = some frame) :
    frame ≤ state.mixer.lastActiveFrame := by
  rw [follows.next, Option.map_eq_some_iff] at isNext
  rcases isNext with ⟨finish, isFinish, rfl⟩
  have known := follows.known id finish isFinish
  omega

theorem start_eq (follows : Follows settings state line) (id : UInt32) :
    line.start id = line.now + (state.mixer.nextFrame id).getD 0 ∧
      (state.mixer.nextFrame id).getD 0 ≤ state.mixer.lastActiveFrame := by
  cases finish : line.finish id with
  | none =>
      have next : state.mixer.nextFrame id = none := by rw [follows.next, finish, Option.map_none]
      rw [TimeLine.start, finish, next, Option.getD_none, Nat.max_eq_left (Nat.zero_le _)]
      exact ⟨rfl, Nat.zero_le _⟩
  | some end_ =>
      have next : state.mixer.nextFrame id = some (end_ - line.now) := by
        rw [follows.next, finish, Option.map_some]
      have known := follows.next_le next
      rw [TimeLine.start, finish, next, Option.getD_some, Option.getD_some]
      exact ⟨by omega, known⟩

theorem onStreamStopped (follows : Follows settings state line) (chunk : Nat) (id : UInt32) :
    Follows settings (state.onStreamStopped id) (line.step chunk (.stopped id)) where
  fits := ⟨follows.fits.chunk, follows.fits.active⟩
  next other := by
    change (if other = id then none else state.mixer.nextFrame other) =
      (if other = id then none else line.finish other).map _
    split
    · rfl
    · exact follows.next other
  known other finish isFinish := by
    change (if other = id then none else line.finish other) = some finish at isFinish
    split at isFinish
    · exact nomatch isFinish
    · exact follows.known other finish isFinish
  active := follows.active
  mixed := follows.mixed
  played := follows.played

theorem filled (follows : Follows settings state line) {frame behind channel : Nat}
    (channelLt : channel < settings.channelsCount)
    (inside : frame < max state.mixer.lastActiveFrame behind) {samples : Samples}
    (same : ∀ frame < state.mixer.lastActiveFrame,
      samples frame channel = state.mixedBuffer frame channel) :
    (if state.mixer.lastActiveFrame < behind then
        samples.fill state.mixer.lastActiveFrame behind else samples) frame channel =
      dueAt line.scheduled (line.now + frame) channel := by
  rcases Nat.lt_or_ge frame state.mixer.lastActiveFrame with less | greater
  · have kept : samples.fill state.mixer.lastActiveFrame behind frame channel =
        samples frame channel := if_neg fun filled => Nat.not_lt.mpr filled.1 less
    rw [← follows.mixed frame less channel channelLt, ← same frame less]
    split
    · exact kept
    · rfl
  · have zero : dueAt line.scheduled (line.now + frame) channel = 0 := by
      refine dueAt_eq_zero channel fun entry member => (follows.active entry member).trans ?_
      omega
    have behindLt : frame < behind := by omega
    rw [if_pos (greater.trans_lt behindLt), zero]
    exact if_pos ⟨greater, behindLt⟩

theorem onPlayback (follows : Follows settings state line) (chunk : Nat) (given : SampleBuffer) :
    Follows settings (state.onPlayback settings given) (line.step chunk (.playback given)) := by
  rcases follows.start_eq given.streamId with ⟨start, nextLe⟩
  let entry : Scheduled := ⟨given, line.start given.streamId⟩
  let nextFrame := (state.mixer.nextFrame given.streamId).getD 0
  let behind := nextFrame + given.frames
  have finish : entry.finish = line.now + behind := by
    change line.start given.streamId + given.frames = line.now + (nextFrame + given.frames)
    rw [start, Nat.add_assoc]
  have lastLe : line.now + state.mixer.lastActiveFrame ≤
      line.now + max state.mixer.lastActiveFrame behind :=
    Nat.add_le_add_left (Nat.le_max_left ..) _
  have behindLe : entry.finish ≤ line.now + max state.mixer.lastActiveFrame behind := by
    rw [finish]
    exact Nat.add_le_add_left (Nat.le_max_right ..) _
  let resized : Samples := fun frame channel =>
    if frame * settings.frameSize < state.mixer.mixedBufferSize then
      state.mixedBuffer frame channel
    else 0
  have kept (channel : Nat) : ∀ frame < state.mixer.lastActiveFrame,
      resized frame channel = state.mixedBuffer frame channel := by
    intro frame less
    refine if_pos (lt_of_lt_of_le ?_ follows.fits.active)
    exact Nat.mul_lt_mul_of_pos_right less settings.frameSize_pos
  exact {
    fits := follows.fits.mixed given.streamId nextFrame given.frames
    next := by
      intro other
      change (if other = given.streamId then some behind else state.mixer.nextFrame other) =
        (if other = given.streamId then some entry.finish else line.finish other).map (· - line.now)
      split
      · rw [finish, Option.map_some, Nat.add_sub_cancel_left]
      · exact follows.next other
    known := by
      intro other end_ isFinish
      change (if other = given.streamId then some entry.finish else line.finish other) =
        some end_ at isFinish
      split at isFinish
      · rw [← Option.some.inj isFinish]
        exact behindLe
      · exact (follows.known other end_ isFinish).trans lastLe
    active := by
      intro other member
      rcases List.mem_append.mp member with earlier | new
      · exact (follows.active other earlier).trans lastLe
      · rw [List.mem_singleton.mp new]
        exact behindLe
    mixed := by
      intro frame inside channel channelLt
      have filled := follows.filled channelLt inside (kept channel)
      have fits := isInt16_dueAt line.scheduled (line.now + frame) channel
      rw [← filled] at fits
      change Samples.convert _ entry.given nextFrame settings.channelsCount frame channel =
        dueAt (line.scheduled ++ [entry]) (line.now + frame) channel
      rw [dueAt_concat, ← filled]
      exact Samples.convert_eq start channelLt (getChannelsCount_le settings.channelsLayout) fits
    played := by
      refine follows.played.trans (List.map_congr_left fun time inside => ?_)
      refine List.map_congr_left fun channel _ => ?_
      -- What has been played was due before the new buffer is.
      have tooLate : time < entry.start :=
        (List.mem_range.mp inside).trans_le (Nat.le_max_left ..)
      exact ((dueAt_concat line.scheduled entry time channel).trans
        (entry.addAt_of_not_due channel _ (.inl tooLate))).symm }

theorem mixerLoop (follows : Follows settings state line) :
    Follows settings (state.mixerLoop settings) (line.step settings.chunkFrames .mixerLoop) := by
  let chunk := settings.chunkFrames
  let last := state.mixer.lastActiveFrame
  let source :=
    if last < chunk then state.mixedBuffer.fill last chunk else state.mixedBuffer
  have filled : ∀ frame < max last chunk, ∀ channel < settings.channelsCount,
      source frame channel = dueAt line.scheduled (line.now + frame) channel :=
    fun frame inside channel channelLt => follows.filled channelLt inside fun _ _ => rfl
  have lastLe : line.now + last ≤ line.now + chunk + (last - chunk) := by omega
  exact {
    fits := by
      refine ⟨follows.fits.chunk, (Nat.mul_le_mul_right _ ?_).trans follows.fits.active⟩
      exact Nat.sub_le last chunk
    next := by
      intro id
      change (state.mixer.nextFrame id).map (· - chunk) =
        (line.finish id).map (· - (line.now + chunk))
      rw [follows.next, Option.map_map]
      congr 1
      funext frame
      exact Nat.sub_sub ..
    known := fun id finish isFinish => (follows.known id finish isFinish).trans lastLe
    active := fun entry member => (follows.active entry member).trans lastLe
    mixed := by
      intro frame inside channel channelLt
      change frame < last - chunk at inside
      have later := filled (frame + chunk) (by omega) channel channelLt
      have time : line.now + chunk + frame = line.now + (frame + chunk) := by omega
      let moved : Samples := fun frame channel =>
        if frame < last - chunk then source (frame + chunk) channel else source frame channel
      change (if 0 < last - chunk then moved else source) frame channel =
        dueAt line.scheduled (line.now + chunk + frame) channel
      rw [if_pos (by omega), time, ← later]
      exact if_pos inside
    played := by
      change state.played ++ _ = (List.range (line.now + chunk)).map fun time =>
        (List.range settings.channelsCount).map (dueAt line.scheduled time)
      rw [List.range_add, List.map_append, List.map_map, ← follows.played]
      congr 1
      refine List.map_congr_left fun frame inside => List.map_congr_left fun channel member => ?_
      have less := List.mem_range.mp inside
      exact filled frame (less.trans_le (Nat.le_max_right ..)) channel (List.mem_range.mp member) }

theorem step (follows : Follows settings state line) (label : MixerLabel) :
    Follows settings (SampleMixer.step settings state label)
      (line.step settings.chunkFrames label) := by
  cases label with
  | playback given => exact follows.onPlayback _ given
  | stopped id => exact follows.onStreamStopped _ id
  | mixerLoop => exact follows.mixerLoop

end Follows

theorem follows_after (settings : MixerSettings) (labels : List MixerLabel) :
    Follows settings (SampleMixer.after settings labels)
      (TimeLine.after settings.chunkFrames labels) := by
  induction labels using List.reverseRecOn with
  | nil => exact .initial settings
  | append_singleton labels label induction =>
      rw [SampleMixer.after, TimeLine.after, List.foldl_append, List.foldl_append]
      exact induction.step label

/-! ## The same mixer -/

def SampleBuffer.playback (settings : MixerSettings) (given : SampleBuffer) : Playback :=
  ⟨given.streamId, settings.sampleRate.toNat, given.channels, 16, given.buffer.length⟩

theorem SampleMixer.mixer_onPlayback {settings : MixerSettings} (state : SampleMixer)
    {given : SampleBuffer} (mixable : (given.playback settings).Mixable) :
    state.mixer.onPlayback settings (given.playback settings) =
      .ok (state.onPlayback settings given).mixer := by
  rcases state.mixer.onPlayback_eq mixable with
    ⟨streamFrames, frames, isStreamFrames, isFrames, mixed⟩
  have divisor : given.channels * 16 ≠ 0 := Nat.mul_ne_zero (by have := given.channels_pos; omega)
    (by decide)
  rw [SampleBuffer.playback, getFramesCount, if_neg divisor] at isStreamFrames
  rw [SampleBuffer.playback, getFrameCountAfterResampling, if_pos rfl] at isFrames
  have same : frames = given.frames :=
    ((Except.ok.inj isStreamFrames).trans (Except.ok.inj isFrames)).symm
  rw [mixed, same]
  rfl

theorem SampleMixer.mixer_mixerLoop {settings : MixerSettings} {state : SampleMixer}
    (fits : state.mixer.Fits settings) :
    state.mixer.mixerLoop settings = .ok (state.mixerLoop settings).mixer :=
  fits.mixerLoop_eq

/-! ## Every frame is played once -/

def MixerLabel.given : MixerLabel → Option SampleBuffer
  | .playback given => some given
  | .stopped _ | .mixerLoop => none

def MixerLabel.streamId : MixerLabel → Option UInt32
  | .playback given => some given.streamId
  | .stopped streamId => some streamId
  | .mixerLoop => none

def DueOnce (chunk : Nat) (labels : List MixerLabel) : Prop :=
  ∀ before given rest, labels = before ++ MixerLabel.playback given :: rest →
    let line := TimeLine.after chunk before
    line.now ≤ line.start given.streamId ∧
      ∃ front back, (TimeLine.after chunk labels).scheduled =
          front ++ ⟨given, line.start given.streamId⟩ :: back ∧
        front.map Scheduled.given = before.filterMap MixerLabel.given

/-- When there is nothing but `Between` between two buffers of a stream, the second follows the
first, without a gap where it has arrived in time. -/
def InOrder (Between : UInt32 → MixerLabel → Prop) (chunk : Nat)
    (labels : List MixerLabel) : Prop :=
  ∀ before first between second rest,
    labels = before ++ MixerLabel.playback first ::
      (between ++ MixerLabel.playback second :: rest) →
    second.streamId = first.streamId → (∀ label ∈ between, Between first.streamId label) →
    let line := TimeLine.after chunk (before ++ MixerLabel.playback first :: between)
    line.start second.streamId =
      max ((TimeLine.after chunk before).start first.streamId + first.frames) line.now

def Consecutive (streamId : UInt32) (label : MixerLabel) : Prop :=
  label.given.map SampleBuffer.streamId ≠ some streamId

def Uninterrupted (streamId : UInt32) (label : MixerLabel) : Prop := label.streamId ≠ some streamId

namespace TimeLine

theorem after_append (chunk : Nat) (before labels : List MixerLabel) :
    after chunk (before ++ labels) = labels.foldl (step chunk) (after chunk before) :=
  List.foldl_append

theorem scheduled_foldl (chunk : Nat) (line : TimeLine) (labels : List MixerLabel) :
    ∃ back, (labels.foldl (step chunk) line).scheduled = line.scheduled ++ back ∧
      back.map Scheduled.given = labels.filterMap MixerLabel.given := by
  induction labels generalizing line with
  | nil => exact ⟨[], (List.append_nil _).symm, rfl⟩
  | cons label labels induction =>
      rcases induction (line.step chunk label) with ⟨back, scheduled, given⟩
      rw [List.foldl_cons]
      cases label with
      | playback buffer =>
          refine ⟨⟨buffer, line.start buffer.streamId⟩ :: back, ?_, congrArg (buffer :: ·) given⟩
          rw [scheduled]
          exact List.append_assoc ..
      | stopped _ => exact ⟨back, scheduled, given⟩
      | mixerLoop => exact ⟨back, scheduled, given⟩

theorem finish_step_of_uninterrupted (chunk : Nat) (line : TimeLine) {streamId : UInt32}
    {label : MixerLabel} (uninterrupted : Uninterrupted streamId label) :
    (line.step chunk label).finish streamId = line.finish streamId := by
  cases label with
  | playback given =>
      exact if_neg fun same => uninterrupted (congrArg some same.symm)
  | stopped other => exact if_neg fun same => uninterrupted (congrArg some same.symm)
  | mixerLoop => rfl

theorem finish_foldl_of_uninterrupted (chunk : Nat) (line : TimeLine) {streamId : UInt32}
    {labels : List MixerLabel} (uninterrupted : ∀ label ∈ labels, Uninterrupted streamId label) :
    (labels.foldl (step chunk) line).finish streamId = line.finish streamId := by
  induction labels generalizing line with
  | nil => rfl
  | cons label labels induction =>
      rw [List.foldl_cons,
        induction (line.step chunk label) fun other member =>
          uninterrupted other (List.mem_cons_of_mem label member),
        finish_step_of_uninterrupted chunk line (uninterrupted label List.mem_cons_self)]

theorem dueOnce (chunk : Nat) (labels : List MixerLabel) : DueOnce chunk labels := by
  rintro before given rest rfl
  refine ⟨Nat.le_max_left .., ?_⟩
  rcases scheduled_foldl chunk initial before with ⟨front, scheduled, isGiven⟩
  rcases scheduled_foldl chunk ((after chunk before).step chunk (.playback given)) rest with
    ⟨back, later, _⟩
  refine ⟨front, back, ?_, isGiven⟩
  have before_scheduled : (after chunk before).scheduled = front := scheduled
  rw [after_append, List.foldl_cons, later, ← before_scheduled]
  exact List.append_assoc ..

theorem inOrder (chunk : Nat) (labels : List MixerLabel) :
    InOrder Uninterrupted chunk labels := by
  rintro before first between second rest - sameStream uninterrupted
  have finish : (after chunk (before ++ .playback first :: between)).finish first.streamId =
      some ((after chunk before).start first.streamId + first.frames) := by
    rw [after_append, List.foldl_cons, finish_foldl_of_uninterrupted chunk _ uninterrupted]
    exact if_pos rfl
  change max _ (((after chunk (before ++ .playback first :: between)).finish
    second.streamId).getD 0) = _
  rw [sameStream, finish, Option.getD_some]
  exact Nat.max_comm ..

end TimeLine

/-- Whatever buffers arrive, streams stop and chunks are played in whatever order, the mixer
plays at each time the sum of what is due there, each buffer is due once, and the buffers of a
stream follow each other until the stream is stopped. -/
theorem frames_played_once (settings : MixerSettings) (labels : List MixerLabel) :
    let state := SampleMixer.after settings labels
    let line := TimeLine.after settings.chunkFrames labels
    (∀ id frame, state.mixer.nextFrame id = some frame → frame ≤ state.mixer.lastActiveFrame) ∧
      max settings.chunkFrames state.mixer.lastActiveFrame * settings.frameSize ≤
        state.mixer.mixedBufferSize ∧
      state.played = (List.range line.now).map (fun time =>
        (List.range settings.channelsCount).map (dueAt line.scheduled time)) ∧
      DueOnce settings.chunkFrames labels ∧ InOrder Uninterrupted settings.chunkFrames labels := by
  have follows := follows_after settings labels
  refine ⟨fun id frame isNext => follows.next_le isNext, ?_, follows.played,
    TimeLine.dueOnce _ labels, TimeLine.inOrder _ labels⟩
  rw [max_mul_of_nonneg _ _ (Nat.zero_le _)]
  exact max_le follows.fits.chunk follows.fits.active

/-- One channel at 100 frames for each second: one frame is played at a time. -/
def slowMono : MixerSettings := ⟨.mono, 100⟩

def threeFrames : SampleBuffer := ⟨1, 1, [1, 0, 2, 0, 3, 0], by decide, by decide⟩

def oneFrame : SampleBuffer := ⟨1, 1, [100, 0], by decide, by decide⟩

/-- A stream that is stopped and goes on while two frames of it are still to be played. -/
def stoppedStream : List MixerLabel :=
  [.playback threeFrames, .mixerLoop, .stopped 1, .playback oneFrame, .mixerLoop, .mixerLoop]

/-- The frame that came last is played together with the second of the three. -/
theorem stopped_stream_overtakes :
    (SampleMixer.after slowMono stoppedStream).played = [[1], [102], [3]] ∧
      ¬ InOrder Consecutive slowMono.chunkFrames stoppedStream := by
  refine ⟨by decide, fun inOrder => ?_⟩
  have gap := inOrder [] threeFrames [.mixerLoop, .stopped 1] oneFrame [.mixerLoop, .mixerLoop] rfl
    rfl (by simp [Consecutive, MixerLabel.given])
  exact absurd gap (by decide)

end Cuttlefish.Audio
