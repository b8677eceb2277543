import Cuttlefish.Foundation.Run
import Cuttlefish.Webrtc.RawFrameStreamer

/-! # Surface commits

How the commits of wayland surfaces, and the frames of confirmation UI, get to the raw frame
streamer, and which of them it discards. The commits are made by one thread, confirmation UI
has its own. -/

namespace Cuttlefish.Webrtc

namespace SurfaceCommits

structure Dmabuf where
  width : UInt32
  height : UInt32
  format : UInt32
  fd : Option File
  offset : UInt32
  stride : UInt32
  modifierHi : UInt32
  modifierLo : UInt32
  deriving DecidableEq

inductive Buffer
  | shm (width height drmFormat stride : UInt32) (data : Option Bytes)
  | dmabuf (dmabuf : Dmabuf)
  deriving DecidableEq

structure Commit where
  scanoutId : Option UInt32
  buffer : Option Buffer
  duplicates : Bool
  mapped : Option Bytes
  deriving DecidableEq

/-- Where a frame for `OnFrame` comes from; commits have numbers. -/
inductive Source
  | shm (commit : Nat)
  | cpuCopy (commit : Nat)
  | confirmationUi
  deriving DecidableEq

structure CpuFrame where
  source : Source
  picture : Picture
  pixels : Bytes

inductive Injection
  | none
  | called (frame : CpuFrame)
  | admitted (frame : CpuFrame)

inductive Arrival
  | dmabuf (commit : Nat) (displayNumber : UInt32)
  | frame (displayNumber : UInt32)

def lastPublished : List Arrival → Option Nat
  | [] => none
  | .dmabuf commit _ :: _ => some commit
  | .frame _ :: rest => lastPublished rest

structure Discard where
  source : Source
  published : Option Nat
  deriving DecidableEq

structure System where
  streamer : Streamer
  numActiveClients : Nat
  confirmationUiMode : Bool
  injection : Injection
  commits : Nat
  arrivals : List Arrival
  discarded : List Discard

def System.initial : System := ⟨Streamer.initial, 0, false, .none, 0, [], []⟩

inductive Label
  | clients (count : Nat)
  | mode (confirmationUi : Bool)
  | commit (commit : Commit)
  | inject
  | deliver
  | render (picture : Picture) (pixels : Option Bytes)
  deriving DecidableEq

def drmFormatAbgr8888 : UInt32 := 0x34324241

namespace System

def arrive (state : System) (source : Source) (picture : Picture) (pixels : Option Bytes) :
    System :=
  let arrivals := .frame picture.displayNumber :: state.arrivals
  match state.streamer.onFrame picture pixels with
  | (.ignored, streamer) => { state with streamer }
  | (.published, streamer) => { state with streamer, arrivals }
  | (.suppressed, streamer) =>
      { state with
        streamer
        arrivals
        discarded := state.discarded ++ [⟨source, lastPublished state.arrivals⟩] }

section

variable (framesAreRgba : Bool)

/-- `HandleSurfaceDmabufFrame` with the callback of `DisplayHandler`: whether the CPU copy
can be skipped. -/
def handleSurfaceDmabufFrame (state : System) (displayNumber : UInt32) (dmabuf : Dmabuf)
    (duplicated : Option File) : Bool × System :=
  let fourcc := if framesAreRgba then drmFormatAbgr8888 else dmabuf.format
  let picture : Picture := ⟨displayNumber, dmabuf.width, dmabuf.height, fourcc, dmabuf.stride⟩
  match state.streamer.onDmabufFrame picture duplicated dmabuf.offset dmabuf.modifierHi
      dmabuf.modifierLo with
  | (false, streamer) => (false, { state with streamer })
  | (true, streamer) =>
      (state.numActiveClients = 0,
        { state with
          streamer
          arrivals := .dmabuf state.commits displayNumber :: state.arrivals })

def handleSurfaceFrame (state : System) (source : Source)
    (displayNumber width height format stride : UInt32) : Option Bytes → System
  | none => state
  | some pixels =>
      let fourcc := if framesAreRgba then drmFormatAbgr8888 else format
      { state with
        injection := .called ⟨source, ⟨displayNumber, width, height, fourcc, stride⟩, pixels⟩ }

def commitBuffer (state : System) (displayNumber : UInt32) (commit : Commit) : Buffer → System
  | .shm width height drmFormat stride data =>
      state.handleSurfaceFrame framesAreRgba (.shm state.commits) displayNumber width height
        drmFormat stride data
  | .dmabuf dmabuf =>
      match dmabuf.fd with
      | none => state
      | some file =>
          match state.handleSurfaceDmabufFrame framesAreRgba displayNumber dmabuf
              (if commit.duplicates then some file else none) with
          | (true, state) => state
          | (false, state) =>
              state.handleSurfaceFrame framesAreRgba (.cpuCopy state.commits) displayNumber
                dmabuf.width dmabuf.height dmabuf.format dmabuf.stride commit.mapped

def commit (state : System) (commit : Commit) : Option System :=
  match state.injection with
  | .called _ | .admitted _ => none
  | .none =>
      match commit.buffer, commit.scanoutId with
      | some buffer, some displayNumber =>
          let next := state.commitBuffer framesAreRgba displayNumber commit buffer
          some { next with commits := state.commits + 1 }
      | _, _ => some { state with commits := state.commits + 1 }

end

def inject (state : System) : Option System :=
  match state.injection with
  | .called frame =>
      some { state with
        injection := if state.confirmationUiMode then .none else .admitted frame }
  | .none | .admitted _ => none

def deliver (state : System) : Option System :=
  match state.injection with
  | .admitted frame =>
      some ({ state with injection := .none }.arrive frame.source frame.picture
        (some frame.pixels))
  | .none | .called _ => none

end System

def step (framesAreRgba : Bool) (state : System) : Label → Option System
  | .clients count => some { state with numActiveClients := count }
  | .mode confirmationUi => some { state with confirmationUiMode := confirmationUi }
  | .commit commit => state.commit framesAreRgba commit
  | .inject => state.inject
  | .deliver => state.deliver
  | .render picture pixels => some (state.arrive .confirmationUi picture pixels)

/-! ## Discarded frames -/

/-- The frame is the CPU copy of the commit whose DMA buffer was published last. -/
def OwnCopy (source : Source) (published : Option Nat) : Prop :=
  match source with
  | .cpuCopy commit => published = some commit
  | .shm _ | .confirmationUi => False

/-- Only CPU copies of what has just been published are discarded. -/
def Excused (state : System) : Prop :=
  ∀ discard ∈ state.discarded, OwnCopy discard.source discard.published

def Unanswered (displayNumber : UInt32) : List Arrival → Prop
  | [] => False
  | .dmabuf _ other :: _ => other = displayNumber
  | .frame other :: rest => other ≠ displayNumber ∧ Unanswered displayNumber rest

/-- Another frame than the CPU copy of the DMA buffer that was published last does not come
first. -/
def Answered (state : System) (source : Source) (picture : Picture) (pixels : Option Bytes) :
    Prop :=
  Streamable picture pixels → Unanswered picture.displayNumber state.arrivals →
    OwnCopy source (lastPublished state.arrivals)

def InOrder (state : System) : Label → Prop
  | .deliver =>
      match state.injection with
      | .admitted frame => Answered state frame.source frame.picture (some frame.pixels)
      | .none | .called _ => True
  | .render picture pixels => Answered state .confirmationUi picture pixels
  | .clients _ | .mode _ | .commit _ | .inject => True

/-! ## The display to suppress -/

def Tracks (state : System) : Prop :=
  ∀ displayNumber, state.streamer.suppressNextRawDisplay = some displayNumber ↔
    Unanswered displayNumber state.arrivals

section

variable {state next : System}

theorem Tracks.onFrame_suppressed (tracks : Tracks state)
    {displayNumber : UInt32}
    (suppressed : state.streamer.suppressNextRawDisplay = some displayNumber) :
    Tracks { state with
      streamer := { state.streamer with suppressNextRawDisplay := none }
      arrivals := .frame displayNumber :: state.arrivals } := by
  intro other
  refine ⟨nofun, ?_⟩
  rintro ⟨isOther, unanswered⟩
  have same := suppressed.symm.trans ((tracks other).mpr unanswered)
  exact absurd (Option.some.inj same) isOther

theorem Tracks.onFrame_published (tracks : Tracks state)
    {displayNumber : UInt32}
    (free : state.streamer.suppressNextRawDisplay ≠ some displayNumber) (frame : Frame) :
    Tracks { state with
      streamer := state.streamer.publish frame
      arrivals := .frame displayNumber :: state.arrivals } := by
  intro other
  constructor
  · intro suppressed
    refine ⟨?_, (tracks other).mp suppressed⟩
    rintro rfl
    exact free suppressed
  · rintro ⟨-, unanswered⟩
    exact (tracks other).mpr unanswered

theorem Excused.append_iff {discarded : List Discard} {discard : Discard}
    (isDiscarded : next.discarded = discarded ++ [discard]) (same : state.discarded = discarded) :
    Excused next ↔ Excused state ∧ OwnCopy discard.source discard.published := by
  simp only [Excused, isDiscarded, same, List.mem_append, List.mem_singleton, or_imp,
    forall_and, forall_eq]

theorem arrive_spec (tracks : Tracks state) (source : Source)
    (picture : Picture) (pixels : Option Bytes) :
    Tracks (state.arrive source picture pixels) ∧
      (Excused (state.arrive source picture pixels) ↔
        Excused state ∧ Answered state source picture pixels) := by
  rw [System.arrive]
  by_cases streamable : Streamable picture pixels
  · by_cases suppressed : state.streamer.suppressNextRawDisplay = some picture.displayNumber
    · rw [state.streamer.onFrame_of_suppressed streamable suppressed]
      refine ⟨tracks.onFrame_suppressed suppressed, ?_⟩
      refine (Excused.append_iff rfl rfl).trans (and_congr_right fun _ => ?_)
      have unanswered := (tracks picture.displayNumber).mp suppressed
      exact ⟨fun own _ _ => own, fun answered => answered streamable unanswered⟩
    · rw [state.streamer.onFrame_of_published streamable suppressed]
      refine ⟨tracks.onFrame_published suppressed _, ?_⟩
      have answered : Answered state source picture pixels := fun _ unanswered =>
        absurd ((tracks picture.displayNumber).mpr unanswered) suppressed
      exact (and_iff_left answered).symm
  · rw [state.streamer.onFrame_of_not_streamable streamable]
    have answered : Answered state source picture pixels := fun isStreamable =>
      absurd isStreamable streamable
    exact ⟨tracks, (and_iff_left answered).symm⟩

theorem handleSurfaceDmabufFrame_spec (framesAreRgba : Bool)
    (tracks : Tracks state) (displayNumber : UInt32) (dmabuf : Dmabuf)
    (duplicated : Option File) :
    let after := (state.handleSurfaceDmabufFrame framesAreRgba displayNumber dmabuf duplicated).2
    Tracks after ∧ after.discarded = state.discarded := by
  dsimp only [System.handleSurfaceDmabufFrame]
  generalize isPicture :
    Picture.mk displayNumber dmabuf.width dmabuf.height _ dmabuf.stride = picture
  by_cases streamable : StreamableDmabuf picture duplicated
  · rcases state.streamer.onDmabufFrame_of_streamable streamable with ⟨file, published⟩
    rw [published, ← isPicture]
    exact ⟨fun other => Option.some_inj, rfl⟩
  · rw [state.streamer.onDmabufFrame_of_not_streamable streamable]
    exact ⟨tracks, rfl⟩

theorem handleSurfaceFrame_spec (framesAreRgba : Bool)
    (tracks : Tracks state) (source : Source)
    (displayNumber width height format stride : UInt32) (pixels : Option Bytes) :
    let after := state.handleSurfaceFrame framesAreRgba source displayNumber width height format
      stride pixels
    Tracks after ∧ after.discarded = state.discarded := by
  cases pixels with
  | none => exact ⟨tracks, rfl⟩
  | some pixels => exact ⟨tracks, rfl⟩

theorem commitBuffer_spec (framesAreRgba : Bool) (tracks : Tracks state)
    (displayNumber : UInt32) (commit : Commit) (buffer : Buffer) :
    let after := state.commitBuffer framesAreRgba displayNumber commit buffer
    Tracks after ∧ after.discarded = state.discarded := by
  cases buffer with
  | shm width height drmFormat stride data =>
      exact handleSurfaceFrame_spec framesAreRgba tracks ..
  | dmabuf dmabuf =>
      dsimp only [System.commitBuffer]
      cases dmabuf.fd with
      | none => exact ⟨tracks, rfl⟩
      | some file =>
          have handled := handleSurfaceDmabufFrame_spec framesAreRgba tracks displayNumber dmabuf
            (if commit.duplicates then some file else none)
          dsimp only at handled ⊢
          split
          next after isSkipped =>
            rw [isSkipped] at handled
            exact handled
          next after isKept =>
            rw [isKept] at handled
            have injected := handleSurfaceFrame_spec framesAreRgba handled.1
              (.cpuCopy after.commits) displayNumber dmabuf.width dmabuf.height dmabuf.format
              dmabuf.stride commit.mapped
            exact ⟨injected.1, injected.2.trans handled.2⟩

theorem commit_spec {framesAreRgba : Bool} {commit : Commit}
    (tracks : Tracks state)
    (stepped : state.commit framesAreRgba commit = some next) :
    Tracks next ∧ next.discarded = state.discarded := by
  rw [System.commit] at stepped
  split at stepped
  · exact nomatch stepped
  · exact nomatch stepped
  · split at stepped
    next buffer displayNumber _ _ =>
      rcases Option.some.inj stepped with rfl
      exact commitBuffer_spec framesAreRgba tracks displayNumber commit buffer
    next =>
      rcases Option.some.inj stepped with rfl
      exact ⟨tracks, rfl⟩

theorem inject_spec (tracks : Tracks state)
    (stepped : state.inject = some next) :
    Tracks next ∧ next.discarded = state.discarded := by
  rw [System.inject] at stepped
  split at stepped
  · rcases Option.some.inj stepped with rfl
    exact ⟨tracks, rfl⟩
  · exact nomatch stepped
  · exact nomatch stepped

theorem excused_congr (same : next.discarded = state.discarded) :
    Excused next ↔ Excused state := by
  rw [Excused, Excused, same]

theorem step_spec {framesAreRgba : Bool} {label : Label}
    (tracks : Tracks state)
    (stepped : step framesAreRgba state label = some next) :
    Tracks next ∧ (Excused next ↔ Excused state ∧ InOrder state label) := by
  cases label with
  | clients count =>
      rcases Option.some.inj stepped with rfl
      exact ⟨tracks, (and_iff_left trivial).symm⟩
  | mode confirmationUi =>
      rcases Option.some.inj stepped with rfl
      exact ⟨tracks, (and_iff_left trivial).symm⟩
  | commit commit =>
      rcases commit_spec tracks stepped with ⟨after, same⟩
      exact ⟨after, (excused_congr same).trans (and_iff_left trivial).symm⟩
  | inject =>
      rcases inject_spec tracks stepped with ⟨after, same⟩
      exact ⟨after, (excused_congr same).trans (and_iff_left trivial).symm⟩
  | deliver =>
      rw [step, System.deliver] at stepped
      split at stepped
      next frame isAdmitted =>
        rcases Option.some.inj stepped with rfl
        rw [InOrder, isAdmitted]
        exact @arrive_spec { state with injection := .none } tracks ..
      · exact nomatch stepped
      · exact nomatch stepped
  | render picture pixels =>
      rcases Option.some.inj stepped with rfl
      exact arrive_spec tracks ..

end

/-- The streamer discards nothing but the CPU copies of what it has just published exactly in
the runs where no other frame for that display comes before the copy. -/
theorem discards_only_copies (framesAreRgba : Bool) (labels : List Label) :
    Run.Always (step framesAreRgba) Excused System.initial labels ↔
      Run.Along (step framesAreRgba) InOrder System.initial labels := by
  have initial : Tracks System.initial := fun _ => ⟨nofun, nofun⟩
  refine (Run.always_iff_along ?_ ?_ initial).trans (and_iff_right nofun)
  · intro state label next tracks _ _ stepped
    exact (step_spec tracks stepped).1
  · intro state label next tracks excused stepped
    exact (step_spec tracks stepped).2.trans (and_iff_right excused)

/-- A DMA buffer is committed while nobody watches, and then shared memory, both for
display 0. -/
def sharedAfterDmabuf : List Label :=
  [.commit ⟨some 0, some (.dmabuf ⟨1, 1, drmFormatAbgr8888, some 7, 0, 4, 0, 0⟩), true, none⟩,
    .commit ⟨some 0, some (.shm 1 1 drmFormatAbgr8888 4 (some [1, 2, 3, 4])), true, none⟩,
    .inject, .deliver]

theorem shared_frame_discarded :
    (Run.run (step false) System.initial sharedAfterDmabuf).map System.discarded =
      some [⟨.shm 1, some 0⟩] := by
  decide

theorem discards_other_frames :
    ¬ Run.Always (step false) Excused System.initial sharedAfterDmabuf := by
  intro always
  rcases Option.map_eq_some_iff.mp shared_frame_discarded with ⟨final, reached, discarded⟩
  have excused := always.final reached
  rw [Excused, discarded] at excused
  exact excused _ (List.mem_singleton.mpr rfl)

end SurfaceCommits

end Cuttlefish.Webrtc
