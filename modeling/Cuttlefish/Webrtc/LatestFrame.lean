import Cuttlefish.Foundation.Run
import Cuttlefish.Webrtc.RawFrameStreamer

/-! # The latest frame

The raw frame streamer keeps one frame for all displays, and the client loop sends the one
that it finds there. -/

namespace Cuttlefish.Webrtc

namespace LatestFrame

/-! ## Producers and the client loop -/

structure System where
  streamer : Streamer
  sentGeneration : UInt64
  shm : ClientShm
  frame : Option Frame
  sent : List Frame
  produced : List Frame
  /-- Those of them that were published since the client loop has made its last copy. -/
  uncopied : List Frame

def System.connected (streamer : Streamer) : System :=
  ⟨streamer, 0, ClientShm.initial, none, [], [], []⟩

inductive Label
  | onFrame (picture : Picture) (pixels : Option Bytes)
  | onDmabufFrame (picture : Picture) (duplicated : Option File)
      (offset modifierHi modifierLo : UInt32)
  | copy
  | send (memfd : Option File)
  deriving DecidableEq

namespace System

def publish (state : System) (streamer : Streamer) : System :=
  { state with
    streamer
    produced := state.produced ++ streamer.latestFrame.toList
    uncopied := state.uncopied ++ streamer.latestFrame.toList }

def onFrame (state : System) (picture : Picture) (pixels : Option Bytes) : System :=
  match state.streamer.onFrame picture pixels with
  | (.published, streamer) => state.publish streamer
  | (.ignored, streamer) | (.suppressed, streamer) => { state with streamer }

def onDmabufFrame (state : System) (picture : Picture) (duplicated : Option File)
    (offset modifierHi modifierLo : UInt32) : System :=
  match state.streamer.onDmabufFrame picture duplicated offset modifierHi modifierLo with
  | (true, streamer) => state.publish streamer
  | (false, streamer) => { state with streamer }

/-- The client loop finds a new generation and copies the latest frame. -/
def copy (state : System) : Option System :=
  match state.frame with
  | some _ => none
  | none =>
      if state.streamer.generation = state.sentGeneration then none
      else
        some { state with
          sentGeneration := state.streamer.generation
          frame := state.streamer.latestFrame
          uncopied := [] }

def send (state : System) (memfd : Option File) : Option System :=
  match state.frame with
  | none => none
  | some frame =>
      match sendFrame state.shm memfd frame with
      | none => none
      | some (_, shm) => some { state with shm, frame := none, sent := state.sent ++ [frame] }

end System

def step (state : System) : Label → Option System
  | .onFrame picture pixels => some (state.onFrame picture pixels)
  | .onDmabufFrame picture duplicated offset modifierHi modifierLo =>
      some (state.onDmabufFrame picture duplicated offset modifierHi modifierLo)
  | .copy => state.copy
  | .send memfd => state.send memfd

/-! ## Frames of one display -/

def lastFor (displayNumber : UInt32) (frames : List Frame) : Option Frame :=
  (frames.filter fun frame => frame.picture.displayNumber = displayNumber).getLast?

/-- When the client loop has sent the current generation, it has sent for every display the
last frame that was produced. -/
def Current (state : System) : Prop :=
  state.frame = none → state.sentGeneration = state.streamer.generation →
    ∀ displayNumber frame, lastFor displayNumber state.produced = some frame →
      lastFor displayNumber state.sent = some frame

/-- The frames that the client loop has not copied yet are all for that display, and the
number of the next generation is not the one that the client loop has seen last. -/
def Room (state : System) (displayNumber : UInt32) : Prop :=
  (∀ frame ∈ state.uncopied, frame.picture.displayNumber = displayNumber) ∧
    state.streamer.generation + 1 ≠ state.sentGeneration

/-- No frame takes the place of one for another display. -/
def Undisturbed (state : System) : Label → Prop
  | .onFrame picture pixels =>
      Streamable picture pixels →
        state.streamer.suppressNextRawDisplay ≠ some picture.displayNumber →
          Room state picture.displayNumber
  | .onDmabufFrame picture duplicated _ _ _ =>
      StreamableDmabuf picture duplicated → Room state picture.displayNumber
  | .copy | .send _ => True

theorem lastFor_append (displayNumber : UInt32) (before after : List Frame) :
    lastFor displayNumber (before ++ after) =
      (lastFor displayNumber after).or (lastFor displayNumber before) := by
  rw [lastFor, List.filter_append, List.getLast?_append]
  rfl

theorem lastFor_eq_getLast? {displayNumber : UInt32} {frames : List Frame}
    (same : ∀ frame ∈ frames, frame.picture.displayNumber = displayNumber) :
    lastFor displayNumber frames = frames.getLast? := by
  rw [lastFor, List.filter_eq_self.mpr]
  intro frame member
  exact decide_eq_true (same frame member)

theorem lastFor_eq_none {displayNumber other : UInt32} {frames : List Frame}
    (same : ∀ frame ∈ frames, frame.picture.displayNumber = displayNumber)
    (isOther : displayNumber ≠ other) : lastFor other frames = none := by
  rw [lastFor, List.filter_eq_nil_iff.mpr]
  · rfl
  · intro frame member isFrame
    exact isOther ((same frame member).symm.trans (of_decide_eq_true isFrame))

/-! ## What the client loop has copied -/

structure Following (copied : List Frame) (state : System) : Prop where
  produced : state.produced = copied ++ state.uncopied
  sent : ∀ displayNumber frame, lastFor displayNumber copied = some frame →
    lastFor displayNumber (state.sent ++ state.frame.toList) = some frame
  latest : state.uncopied ≠ [] → state.uncopied.getLast? = state.streamer.latestFrame
  alike : ∀ first ∈ state.uncopied, ∀ second ∈ state.uncopied,
    first.picture.displayNumber = second.picture.displayNumber
  waiting : state.uncopied ≠ [] → state.streamer.generation ≠ state.sentGeneration
  fresh : state.uncopied = [] → copied ≠ [] → state.streamer.generation = state.sentGeneration

def Follows (state : System) : Prop := ∃ copied, Following copied state

section

variable {copied : List Frame} {state next : System}

theorem following_connected (streamer : Streamer) : Following [] (System.connected streamer) where
  produced := rfl
  sent := nofun
  latest := absurd rfl
  alike := nofun
  waiting := absurd rfl
  fresh _ := absurd rfl

theorem Following.publish (following : Following copied state) {frame : Frame}
    {streamer : Streamer} (isLatest : streamer.latestFrame = some frame)
    (isNext : streamer.generation = state.streamer.generation + 1)
    (room : Room state frame.picture.displayNumber) :
    Following copied (state.publish streamer) := by
  have nonempty : state.uncopied ++ [frame] ≠ [] := by simp
  constructor
  case produced =>
    dsimp only [System.publish]
    rw [following.produced, List.append_assoc]
  case sent => exact following.sent
  case latest =>
    dsimp only [System.publish]
    rw [isLatest]
    intro _
    exact List.getLast?_concat
  case alike =>
    dsimp only [System.publish]
    rw [isLatest]
    have same : ∀ other ∈ state.uncopied ++ [frame],
        other.picture.displayNumber = frame.picture.displayNumber := by
      intro other member
      rcases List.mem_append.mp member with before | now
      · exact room.1 other before
      · rw [List.mem_singleton.mp now]
    intro first isFirst second isSecond
    exact (same first isFirst).trans (same second isSecond).symm
  case waiting =>
    intro _
    dsimp only [System.publish]
    rw [isNext]
    exact room.2
  case fresh =>
    dsimp only [System.publish]
    rw [isLatest]
    intro empty
    exact absurd empty nonempty

theorem Following.copy (following : Following copied state) (stepped : state.copy = some next) :
    Following state.produced next := by
  rw [System.copy] at stepped
  split at stepped
  · exact nomatch stepped
  next isNone =>
    split at stepped
    · exact nomatch stepped
    next isNew =>
      rcases Option.some.inj stepped with rfl
      refine ⟨(List.append_nil _).symm, ?_, absurd rfl, nofun, absurd rfl, fun _ _ => rfl⟩
      intro displayNumber frame isLast
      have before := following.sent displayNumber
      rw [isNone, Option.toList_none, List.append_nil] at before
      rw [following.produced, lastFor_append] at isLast
      dsimp only
      rw [lastFor_append]
      by_cases empty : state.uncopied = []
      · -- The client has just connected, and the latest frame is older than that.
        cases copied with
        | nil =>
            rw [empty] at isLast
            exact nomatch isLast
        | cons first rest => exact absurd (following.fresh empty nofun) isNew
      · rcases Option.isSome_iff_exists.mp
          (List.getLast?_isSome.mpr empty) with ⟨latest, isLatest⟩
        have alike : ∀ other ∈ state.uncopied,
            other.picture.displayNumber = latest.picture.displayNumber := fun other member =>
          following.alike other member latest (List.mem_of_getLast? isLatest)
        have single : ∀ other ∈ [latest],
            other.picture.displayNumber = latest.picture.displayNumber := by
          intro other member
          rw [List.mem_singleton.mp member]
        rw [← following.latest empty, isLatest, Option.toList_some]
        by_cases own : latest.picture.displayNumber = displayNumber
        · subst own
          rw [lastFor_eq_getLast? alike, isLatest] at isLast
          rw [lastFor_eq_getLast? single]
          exact isLast
        · rw [lastFor_eq_none alike own, Option.none_or] at isLast
          rw [lastFor_eq_none single own, Option.none_or]
          exact before frame isLast

theorem Following.send (following : Following copied state) {memfd : Option File}
    (stepped : state.send memfd = some next) : Following copied next := by
  rw [System.send] at stepped
  split at stepped
  · exact nomatch stepped
  next frame isFrame =>
    split at stepped
    · exact nomatch stepped
    · rcases Option.some.inj stepped with rfl
      refine { following with sent := ?_ }
      have sent := following.sent
      rw [isFrame] at sent
      dsimp only
      rw [Option.toList_none, List.append_nil]
      exact sent

theorem Following.onFrame (following : Following copied state) {picture : Picture}
    {pixels : Option Bytes} (undisturbed : Undisturbed state (.onFrame picture pixels)) :
    Following copied (state.onFrame picture pixels) := by
  rw [System.onFrame]
  by_cases streamable : Streamable picture pixels
  · by_cases suppressed : state.streamer.suppressNextRawDisplay = some picture.displayNumber
    · rw [state.streamer.onFrame_of_suppressed streamable suppressed]
      exact { following with }
    · rw [state.streamer.onFrame_of_published streamable suppressed]
      exact following.publish rfl rfl (undisturbed streamable suppressed)
  · rw [state.streamer.onFrame_of_not_streamable streamable]
    exact following

theorem Following.onDmabufFrame (following : Following copied state) {picture : Picture}
    {duplicated : Option File} {offset modifierHi modifierLo : UInt32}
    (undisturbed :
      Undisturbed state (.onDmabufFrame picture duplicated offset modifierHi modifierLo)) :
    Following copied
      (state.onDmabufFrame picture duplicated offset modifierHi modifierLo) := by
  rw [System.onDmabufFrame]
  by_cases streamable : StreamableDmabuf picture duplicated
  · rcases state.streamer.onDmabufFrame_of_streamable streamable with ⟨file, published⟩
    rw [published]
    exact following.publish rfl rfl (undisturbed streamable)
  · rw [state.streamer.onDmabufFrame_of_not_streamable streamable]
    exact following

theorem Following.step (following : Following copied state) {label : Label}
    (undisturbed : Undisturbed state label) (stepped : step state label = some next) :
    Follows next := by
  cases label with
  | onFrame picture pixels =>
      rcases Option.some.inj stepped with rfl
      exact ⟨copied, following.onFrame undisturbed⟩
  | onDmabufFrame picture duplicated offset modifierHi modifierLo =>
      rcases Option.some.inj stepped with rfl
      exact ⟨copied, following.onDmabufFrame undisturbed⟩
  | copy => exact ⟨state.produced, following.copy stepped⟩
  | send memfd => exact ⟨copied, following.send stepped⟩

theorem Following.current (following : Following copied state) : Current state := by
  intro isNone isCurrent displayNumber frame isLast
  have allCopied : state.uncopied = [] := by
    by_cases empty : state.uncopied = []
    · exact empty
    · exact absurd isCurrent.symm (following.waiting empty)
  rw [following.produced, allCopied, List.append_nil] at isLast
  have sent := following.sent displayNumber frame isLast
  rwa [isNone, Option.toList_none, List.append_nil] at sent

end

/-- In every run where no frame takes the place of one for another display, the client has
the last frame of every display whenever the client loop has sent the current generation. -/
theorem latest_frames_sent (streamer : Streamer) (labels : List Label)
    (undisturbed : Run.Along step Undisturbed (System.connected streamer) labels) :
    Run.Always step Current (System.connected streamer) labels := by
  have initial : Follows (System.connected streamer) :=
    ⟨[], following_connected streamer⟩
  refine Run.always_of_along ?_ ?_ initial undisturbed
  · rintro state label next ⟨copied, following⟩ allowed stepped
    exact following.step allowed stepped
  · rintro state ⟨copied, following⟩
    exact following.current

instance (state : System) (displayNumber : UInt32) : Decidable (Room state displayNumber) :=
  inferInstanceAs (Decidable (_ ∧ _))

instance (state : System) : ∀ label, Decidable (Undisturbed state label)
  | .onFrame _ _ => inferInstanceAs (Decidable (_ → _ → _))
  | .onDmabufFrame _ _ _ _ _ => inferInstanceAs (Decidable (_ → _))
  | .copy | .send _ => isTrue trivial

def pixelOn (displayNumber : UInt32) : Picture := ⟨displayNumber, 1, 1, 0x34324241, 4⟩

def oneByOne : List Label :=
  [.onFrame (pixelOn 0) (some [1, 1, 1, 1]), .copy, .send none,
    .onFrame (pixelOn 1) (some [2, 2, 2, 2]), .copy, .send none]

theorem latest_frames_sent_one_by_one :
    Run.Along step Undisturbed (System.connected Streamer.initial) oneByOne ∧
      Run.Always step Current (System.connected Streamer.initial) oneByOne := by
  have undisturbed : Run.Along step Undisturbed (System.connected Streamer.initial) oneByOne := by
    decide
  exact ⟨undisturbed, latest_frames_sent Streamer.initial oneByOne undisturbed⟩

/-- The frame for display 1 is published before the one for display 0 is copied. -/
def atOnce : List Label :=
  [.onFrame (pixelOn 0) (some [1, 1, 1, 1]), .onFrame (pixelOn 1) (some [2, 2, 2, 2]), .copy,
    .send none]

/-- The frame for display 0 is never sent. -/
theorem latest_frame_overwritten :
    ¬ Run.Always step Current (System.connected Streamer.initial) atOnce := by
  intro always
  let final := (Run.run step (System.connected Streamer.initial) atOnce).get (by decide)
  have current : Current final := always.final (Option.some_get _).symm
  have sent := current (by decide) (by decide) 0 (.raw (pixelOn 0) [1, 1, 1, 1]) (by decide)
  exact absurd sent (by decide)

end LatestFrame

end Cuttlefish.Webrtc
