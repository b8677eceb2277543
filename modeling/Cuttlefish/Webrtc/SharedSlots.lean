import Cuttlefish.Foundation.Run
import Cuttlefish.Webrtc.FrameStream

/-! # Frames in shared memory

The raw frame streamer copies frames into slots of shared memory, and the frame source
copies them out when it gets to the messages about them. Nothing tells the streamer how
far the frame source has got. -/

namespace Cuttlefish.Webrtc

open FrameSource (Event Mapping receiveMessage)

namespace SharedSlots

/-! ## Sender and receiver -/

structure Transit where
  message : Message
  pixels : Bytes

structure Notice where
  header : ShmFrameHeader
  slot : Slot
  pixels : Bytes

structure Pushed where
  header : ShmFrameHeader
  copied : Bytes
  pixels : Bytes
  deriving DecidableEq

inductive Phase
  | idle
  | ready (picture : Picture) (pixels : Bytes)
  | copied (notice : Notice)

structure System where
  shm : ClientShm
  phase : Phase
  nextFile : File
  memory : File → Bytes
  queue : List Transit
  mapping : Option Mapping
  copying : Option Notice
  stopped : Bool
  pushed : List Pushed

def System.initial : System :=
  ⟨ClientShm.initial, .idle, 0, fun _ => [], [], none, none, false, []⟩

def update (memory : File → Bytes) (file : File) (content : Bytes) : File → Bytes :=
  fun other => if other = file then content else memory other

def Published (picture : Picture) (pixels : Bytes) : Prop :=
  pixels.length = picture.size ∧ 1 ≤ picture.size ∧ picture.size ≤ 0xffffffff

instance (picture : Picture) (pixels : Bytes) : Decidable (Published picture pixels) :=
  inferInstanceAs (Decidable (_ ∧ _ ∧ _))

theorem Published.toNat_size {picture : Picture} {pixels : Bytes}
    (published : Published picture pixels) :
    (UInt32.ofNat picture.size).toNat = pixels.length := by
  rcases published with ⟨length, -, small⟩
  rw [UInt32.toNat_ofNat', length]
  omega

inductive Label
  | take (frame : Frame) (memfd : Bool)
  | copy
  | notify
  | receive
  | push
  deriving DecidableEq

namespace System

/-- `SendRawFrame` up to the copy, with new memory if the frame needs it and there is
some. -/
def takeRaw (state : System) (picture : Picture) (pixels : Bytes) (memfd : Bool) : System :=
  if state.shm.hasRoom pixels then { state with phase := .ready picture pixels }
  else
    match sendShmInit pixels.length (if memfd then some state.nextFile else none) with
    | none =>
        { state with
          queue := state.queue ++
            [⟨.raw ⟨picture, UInt32.ofNat picture.size⟩ pixels, pixels⟩] }
    | some (setup, shm) =>
        { state with
          shm
          phase := .ready picture pixels
          nextFile := state.nextFile + 1
          memory := update state.memory state.nextFile
            (Bytes.zeros (shm.slotSize * shm.slotCount.toNat))
          queue := state.queue ++ [⟨setup, []⟩] }

def take (state : System) (frame : Frame) (memfd : Bool) : Option System :=
  match state.phase, frame with
  | .idle, .dmabuf picture file offset modifierHi modifierLo =>
      some { state with
        queue := state.queue ++
          [⟨.dmabuf ⟨picture, offset, modifierHi, modifierLo⟩ file, []⟩] }
  | .idle, .raw picture pixels =>
      if Published picture pixels then some (state.takeRaw picture pixels memfd) else none
  | _, _ => none

def copy (state : System) : Option System :=
  match state.phase with
  | .ready picture pixels =>
      match copyToSlot state.shm picture pixels with
      | some (.shmNotify header slot, shm) =>
          some { state with
            shm
            phase := .copied ⟨header, slot, pixels⟩
            memory := update state.memory slot.file
              (Bytes.writeAt (state.memory slot.file) slot.offset pixels) }
      | _ => none
  | _ => none

def notify (state : System) : Option System :=
  match state.phase with
  | .copied notice =>
      some { state with
        phase := .idle
        queue := state.queue ++ [⟨.shmNotify notice.header notice.slot, notice.pixels⟩] }
  | _ => none

/-- The frame source of a display takes the next message apart. -/
def receive (displayId : UInt32) (split : Nat → Nat) (state : System) : Option System :=
  match state.stopped, state.copying, state.queue with
  | false, none, transit :: queue =>
      match receiveMessage displayId split state.mapping transit.message.cells with
      | .error _ => some { state with queue, stopped := true }
      | .ok (.pushedShared header slot, mapping, _) =>
          some { state with queue, mapping, copying := some ⟨header, slot, transit.pixels⟩ }
      | .ok (_, mapping, _) => some { state with queue, mapping }
  | _, _, _ => none

/-- The frame source copies as many bytes as the header says and pushes them. -/
def push (state : System) : Option System :=
  match state.copying with
  | none => none
  | some notice =>
      some { state with
        copying := none
        pushed := state.pushed ++
          [⟨notice.header,
            Bytes.readAt (state.memory notice.slot.file) notice.slot.offset
              notice.header.payloadSize.toNat,
            notice.pixels⟩] }

end System

def step (displayId : UInt32) (split : Nat → Nat) (state : System) : Label → Option System
  | .take frame memfd => state.take frame memfd
  | .copy => state.copy
  | .notify => state.notify
  | .receive => state.receive displayId split
  | .push => state.push

/-- What has been pushed for a notification are the pixels of its frame. -/
def Untorn (state : System) : Prop := ∀ pushed ∈ state.pushed, pushed.copied = pushed.pixels

/-! ## Free slots -/

def Transit.notice? (transit : Transit) : Option Notice :=
  match transit.message with
  | .shmNotify header slot => some ⟨header, slot, transit.pixels⟩
  | _ => none

def System.awaited (state : System) : List Notice :=
  state.copying.toList ++ state.queue.filterMap Transit.notice?

/-- When the sender copies a frame, the frame source has already copied what it shall
copy of the frames that were in that slot before. -/
def SlotFree (displayId : UInt32) (state : System) (label : Label) : Prop :=
  label = .copy → ∀ notice ∈ state.awaited,
    notice.header.picture.displayNumber = displayId → state.shm.file = some notice.slot.file →
      notice.header.slotIndex ≠ state.shm.nextSlot % state.shm.slotCount

/-! ## The receiver follows the sender -/

/-- The messages on their way lead the receiver to the memory of the sender, and every
notification finds it at the memory it is about. -/
def Follows (shm : ClientShm) : Option Mapping → List Message → Prop
  | mapping, [] => mapping = shm.file.map fun file => ⟨file, 4, UInt32.ofNat shm.slotSize⟩
  | mapping, message :: rest =>
      message.Framed ∧
        (∀ header slot, message = .shmNotify header slot → ∃ mapped, mapping = some mapped ∧
          slot = ⟨mapped.file, header.slotIndex.toNat * mapped.slotSize.toNat⟩) ∧
        Follows shm (message.mappingAfter mapping) rest

theorem Follows.append {shm next : ClientShm} {messages : List Message} {mapping : Option Mapping}
    (follows : Follows shm mapping messages) {more : List Message}
    (later : Follows next (shm.file.map fun file => ⟨file, 4, UInt32.ofNat shm.slotSize⟩) more) :
    Follows next mapping (messages ++ more) := by
  induction messages generalizing mapping with
  | nil =>
      rw [show mapping = _ from follows]
      exact later
  | cons message rest induction => exact ⟨follows.1, follows.2.1, induction follows.2.2⟩

theorem handled_eq_ok {displayId : UInt32} {mapping after : Option Mapping} {message : Message}
    {event : Event} (ok : message.handled displayId mapping = .ok (event, after)) :
    after = message.mappingAfter mapping ∧
      ∀ header slot, event = .pushedShared header slot →
        header.picture.displayNumber = displayId ∧
          ∃ sent mapped, message = .shmNotify header sent ∧ mapping = some mapped ∧
            slot = ⟨mapped.file, header.slotIndex.toNat * mapped.slotSize.toNat⟩ := by
  cases message with
  | raw header payload =>
      rw [Message.handled] at ok
      split at ok
      · cases ok
      · rcases Prod.mk.inj (Except.ok.inj ok) with ⟨rfl, rfl⟩
        refine ⟨rfl, fun header slot isEvent => ?_⟩
        rw [Message.event] at isEvent
        split at isEvent
        · cases isEvent
        · cases isEvent
  | shmInit header file =>
      rw [Message.handled] at ok
      split at ok
      · cases ok
      · rcases Prod.mk.inj (Except.ok.inj ok) with ⟨rfl, rfl⟩
        refine ⟨rfl, fun header slot isEvent => ?_⟩
        cases isEvent
  | dmabuf header file =>
      rw [Message.handled] at ok
      split at ok
      · cases ok
      · rcases Prod.mk.inj (Except.ok.inj ok) with ⟨rfl, rfl⟩
        refine ⟨rfl, fun header slot isEvent => ?_⟩
        rw [Message.event] at isEvent
        split at isEvent
        · cases isEvent
        · cases isEvent
  | shmNotify header sent =>
      cases mapping with
      | none => cases ok
      | some mapped =>
          dsimp only [Message.handled] at ok
          split at ok
          · cases ok
          · rcases Prod.mk.inj (Except.ok.inj ok) with ⟨rfl, rfl⟩
            refine ⟨rfl, fun header slot isEvent => ?_⟩
            rw [Message.event] at isEvent
            split at isEvent
            next own =>
              rcases Event.pushedShared.inj isEvent with ⟨rfl, rfl⟩
              exact ⟨own, sent, mapped, rfl, rfl, rfl⟩
            next => cases isEvent

/-! ## The invariant -/

def Phase.notices : Phase → List Notice
  | .copied notice => [notice]
  | .idle | .ready _ _ => []

def System.notices (state : System) : List Notice := state.awaited ++ state.phase.notices

/-- The slot of a notification still has the pixels of its frame, if the frame source will
look there. -/
structure Notice.Sound (displayId : UInt32) (state : System) (notice : Notice) : Prop where
  size : notice.header.payloadSize.toNat = notice.pixels.length
  known : notice.slot.file < state.nextFile
  aligned : state.shm.file = some notice.slot.file →
    notice.slot.offset = notice.header.slotIndex.toNat * state.shm.slotSize ∧
      notice.pixels.length ≤ state.shm.slotSize
  written : notice.header.picture.displayNumber = displayId →
    Bytes.readAt (state.memory notice.slot.file) notice.slot.offset notice.pixels.length =
      notice.pixels

def Phase.messages (phase : Phase) : List Message :=
  phase.notices.map fun notice => .shmNotify notice.header notice.slot

structure Intact (displayId : UInt32) (state : System) : Prop where
  slotCount : state.shm.slotCount = 4
  slotSize : state.shm.slotSize ≤ 0xffffffff
  known : ∀ file, state.shm.file = some file → file < state.nextFile
  ready : ∀ picture pixels, state.phase = .ready picture pixels →
    Published picture pixels ∧ state.shm.hasRoom pixels = true
  sound : ∀ notice ∈ state.notices, notice.Sound displayId state
  own : ∀ notice, state.copying = some notice →
    notice.header.picture.displayNumber = displayId
  follows : state.stopped = false →
    Follows state.shm state.mapping (state.queue.map Transit.message ++ state.phase.messages)
  untorn : Untorn state

section

variable {displayId : UInt32} {split : Nat → Nat} {state next : System}

theorem intact_initial (displayId : UInt32) : Intact displayId System.initial where
  slotCount := rfl
  slotSize := Nat.zero_le _
  known := nofun
  ready := nofun
  sound := nofun
  own := nofun
  follows _ := rfl
  untorn := nofun

theorem Notice.Sound.transfer {notice : Notice} (sound : notice.Sound displayId state)
    (sameFile : next.shm.file = state.shm.file) (sameSize : next.shm.slotSize = state.shm.slotSize)
    (sameNext : next.nextFile = state.nextFile) (sameMemory : next.memory = state.memory) :
    notice.Sound displayId next where
  size := sound.size
  known := by
    rw [sameNext]
    exact sound.known
  aligned := by
    rw [sameFile, sameSize]
    exact sound.aligned
  written := by
    rw [sameMemory]
    exact sound.written

theorem Intact.push (intact : Intact displayId state) (stepped : state.push = some next) :
    Intact displayId next := by
  rw [System.push] at stepped
  split at stepped
  · cases stepped
  next notice isCopying =>
    rcases Option.some.inj stepped with rfl
    have here : notice ∈ state.notices := by simp [System.notices, System.awaited, isCopying]
    have sound := intact.sound notice here
    refine { intact with own := nofun, sound := ?_, untorn := ?_ }
    · intro other member
      have before : other ∈ state.notices := by
        simp only [System.notices, System.awaited, Option.toList_none, List.nil_append] at member
        simp only [System.notices, System.awaited, List.append_assoc]
        exact List.mem_append_right _ member
      exact (intact.sound other before).transfer rfl rfl rfl rfl
    · intro pushed member
      rcases List.mem_append.mp member with before | now
      · exact intact.untorn pushed before
      · rw [List.mem_singleton.mp now]
        dsimp only
        rw [sound.size]
        exact sound.written (intact.own notice isCopying)

theorem Intact.notify (intact : Intact displayId state) (stepped : state.notify = some next) :
    Intact displayId next := by
  rw [System.notify] at stepped
  split at stepped
  next notice isCopied =>
    rcases Option.some.inj stepped with rfl
    refine { intact with ready := nofun, sound := ?_, follows := ?_ }
    · intro other member
      have before : other ∈ state.notices := by
        simp only [System.notices, System.awaited, isCopied, Phase.notices,
          List.filterMap_append, List.append_nil] at member ⊢
        rw [List.append_assoc]
        exact member
      exact (intact.sound other before).transfer rfl rfl rfl rfl
    · intro running
      have follows := intact.follows running
      simp only [isCopied, Phase.messages, Phase.notices, List.map_append, List.append_nil,
        List.map_cons, List.map_nil] at follows ⊢
      exact follows
  · cases stepped

theorem Intact.enqueue (intact : Intact displayId state) (idle : state.phase = .idle)
    {transit : Transit} (noNotice : transit.notice? = none) (framed : transit.message.Framed)
    (keeps : ∀ mapping, transit.message.mappingAfter mapping = mapping) :
    Intact displayId { state with queue := state.queue ++ [transit] } := by
  refine { intact with sound := ?_, follows := ?_ }
  · intro other member
    have before : other ∈ state.notices := by
      simp only [System.notices, System.awaited, List.filterMap_append, List.filterMap_cons,
        noNotice, List.filterMap_nil, List.append_nil] at member ⊢
      exact member
    exact (intact.sound other before).transfer rfl rfl rfl rfl
  · intro running
    have follows := intact.follows running
    simp only [idle, Phase.messages, Phase.notices, List.map_nil, List.append_nil,
      List.map_append, List.map_cons] at follows ⊢
    refine follows.append ⟨framed, ?_, keeps _⟩
    intro header slot isNotify
    rw [Transit.notice?, isNotify] at noNotice
    cases noNotice

theorem sendShmInit_none (payloadSize : Nat) : sendShmInit payloadSize none = none := by
  rw [sendShmInit]
  exact ite_self none

theorem Intact.setup (intact : Intact displayId state) (idle : state.phase = .idle)
    {picture : Picture} {pixels : Bytes} (published : Published picture pixels)
    {message : Message} {shm : ClientShm}
    (isSetup : sendShmInit pixels.length (some state.nextFile) = some (message, shm))
    (content : Bytes) :
    Intact displayId { state with
      shm
      phase := .ready picture pixels
      nextFile := state.nextFile + 1
      memory := update state.memory state.nextFile content
      queue := state.queue ++ [⟨message, []⟩] } := by
  unfold sendShmInit at isSetup
  dsimp only at isSetup
  split at isSetup
  · cases isSetup
  next small =>
    rcases Prod.mk.inj (Option.some.inj isSetup) with ⟨rfl, rfl⟩
    refine ⟨rfl, Nat.le_of_not_lt small, ?_, ?_, ?_, intact.own, ?_, intact.untorn⟩
    · intro file isFile
      rcases Option.some.inj isFile with rfl
      exact Nat.lt_succ_self _
    · intro picture' pixels' isReady
      rcases Phase.ready.inj isReady with ⟨rfl, rfl⟩
      refine ⟨published, ?_⟩
      rw [ClientShm.hasRoom, Bool.and_eq_true, decide_eq_true_eq]
      exact ⟨rfl, Nat.le_max_left ..⟩
    · intro notice member
      have before : notice ∈ state.notices := by
        simp only [System.notices, System.awaited, idle, Phase.notices, List.filterMap_append,
          List.filterMap_cons, Transit.notice?, List.filterMap_nil, List.append_nil] at member ⊢
        exact member
      have sound := intact.sound notice before
      have other : notice.slot.file ≠ state.nextFile := Nat.ne_of_lt sound.known
      refine ⟨sound.size, Nat.lt_succ_of_lt sound.known, ?_, ?_⟩
      · intro same
        exact absurd (Option.some.inj same).symm other
      · dsimp only [update]
        rw [if_neg other]
        exact sound.written
    · intro running
      have follows := intact.follows running
      simp only [idle, Phase.messages, Phase.notices, List.map_nil, List.append_nil,
        List.map_append, List.map_cons] at follows ⊢
      refine follows.append ⟨trivial, fun header slot isNotify => ?_, rfl⟩
      cases isNotify

theorem Intact.take (intact : Intact displayId state) {frame : Frame} {memfd : Bool}
    (stepped : state.take frame memfd = some next) : Intact displayId next := by
  unfold System.take at stepped
  split at stepped
  next idle =>
    rcases Option.some.inj stepped with rfl
    exact intact.enqueue idle rfl trivial fun _ => rfl
  next picture pixels idle =>
    split at stepped
    next published =>
      rcases Option.some.inj stepped with rfl
      rw [System.takeRaw]
      split
      next room =>
        refine { intact with ready := ?_, sound := ?_, follows := ?_ }
        · intro picture' pixels' isReady
          rcases Phase.ready.inj isReady with ⟨rfl, rfl⟩
          exact ⟨published, room⟩
        · intro notice member
          have before : notice ∈ state.notices := by
            simp only [System.notices, System.awaited, idle, Phase.notices] at member ⊢
            exact member
          exact (intact.sound notice before).transfer rfl rfl rfl rfl
        · intro running
          have follows := intact.follows running
          rw [idle] at follows
          exact follows
      next noRoom =>
        split
        next =>
          exact intact.enqueue idle rfl published.toNat_size fun _ => rfl
        next setup shm isSetup =>
          cases memfd with
          | false => exact absurd isSetup (sendShmInit_none pixels.length ▸ nofun)
          | true => exact intact.setup idle published isSetup _
    next => exact nomatch stepped
  next => exact nomatch stepped

theorem copyToSlot_eq_some {shm after : ClientShm} {picture : Picture} {pixels : Bytes}
    {message : Message} (copied : copyToSlot shm picture pixels = some (message, after)) :
    ∃ file, shm.file = some file ∧ pixels.length ≤ shm.slotSize ∧
      message = .shmNotify ⟨picture, UInt32.ofNat pixels.length, shm.nextSlot % shm.slotCount⟩
        ⟨file, (shm.nextSlot % shm.slotCount).toNat * shm.slotSize⟩ ∧
      after = { shm with nextSlot := shm.nextSlot + 1 } := by
  rw [copyToSlot] at copied
  split at copied
  · exact nomatch copied
  next file isFile =>
    split at copied
    · exact nomatch copied
    next fits =>
      rcases Prod.mk.inj (Option.some.inj copied) with ⟨rfl, rfl⟩
      exact ⟨file, isFile, Nat.le_of_not_lt fun tooLong => fits (.inl tooLong), rfl, rfl⟩

theorem slots_disjoint {first second size firstLength secondLength : Nat} (other : first ≠ second)
    (firstFits : firstLength ≤ size) (secondFits : secondLength ≤ size) :
    first * size + firstLength ≤ second * size ∨ second * size + secondLength ≤ first * size := by
  rcases Nat.lt_or_gt_of_ne other with less | less
  · left
    have := Nat.mul_le_mul_right size less
    rw [Nat.succ_mul] at this
    omega
  · right
    have := Nat.mul_le_mul_right size less
    rw [Nat.succ_mul] at this
    omega

theorem Intact.copy (intact : Intact displayId state) (free : SlotFree displayId state .copy)
    (stepped : state.copy = some next) : Intact displayId next := by
  rw [System.copy] at stepped
  split at stepped
  next picture pixels isReady =>
    split at stepped
    next header slot shm copied =>
      rcases Option.some.inj stepped with rfl
      rcases intact.ready picture pixels isReady with ⟨published, -⟩
      rcases copyToSlot_eq_some copied with ⟨file, isFile, fits, isNotify, rfl⟩
      rcases Message.shmNotify.inj isNotify with ⟨rfl, rfl⟩
      have size : (UInt32.ofNat pixels.length).toNat = pixels.length := by
        rw [published.1]
        exact published.toNat_size.trans published.1
      refine ⟨intact.slotCount, intact.slotSize, intact.known, nofun, ?_, intact.own, ?_,
        intact.untorn⟩
      · intro notice member
        rcases List.mem_append.mp member with before | now
        · have sound := intact.sound notice (List.mem_append_left _ before)
          refine ⟨sound.size, sound.known, sound.aligned, ?_⟩
          intro own
          dsimp only [update]
          split
          next sameFile =>
            -- The slot that is written is another one of the same memory.
            have aligned := sound.aligned (sameFile ▸ isFile)
            have other := free rfl notice before own (sameFile ▸ isFile)
            have written := sound.written own
            rw [sameFile] at written
            apply Bytes.readAt_writeAt_of_disjoint written
            rw [aligned.1]
            exact slots_disjoint (fun same => other (UInt32.toNat_inj.mp same)) aligned.2 fits
          next => exact sound.written own
        · rcases List.mem_singleton.mp now with rfl
          refine ⟨size, intact.known file isFile, fun _ => ⟨rfl, fits⟩, ?_⟩
          intro own
          dsimp only [update]
          rw [if_pos rfl]
          exact Bytes.readAt_writeAt ..
      · intro running
        have follows := intact.follows running
        rw [isReady] at follows
        simp only [Phase.messages, Phase.notices, List.map_nil, List.append_nil] at follows
        refine follows.append ⟨trivial, ?_, ?_⟩
        · intro header slot isHeader
          rcases Message.shmNotify.inj isHeader with ⟨rfl, rfl⟩
          have slotSize : (UInt32.ofNat state.shm.slotSize).toNat = state.shm.slotSize := by
            have := intact.slotSize
            rw [UInt32.toNat_ofNat']
            omega
          refine ⟨⟨file, 4, UInt32.ofNat state.shm.slotSize⟩, ?_, ?_⟩
          · rw [isFile]
            rfl
          · rw [slotSize]
        · rfl
    next => exact nomatch stepped
  next => exact nomatch stepped

theorem Intact.dequeue (intact : Intact displayId state) {transit : Transit}
    {queue : List Transit} (isQueue : state.queue = transit :: queue)
    {mapping : Option Mapping} {copying : Option Notice} {stopped : Bool}
    (awaits : ∀ notice, copying = some notice →
      notice ∈ state.notices ∧ notice.header.picture.displayNumber = displayId)
    (later : stopped = false →
      Follows state.shm mapping (queue.map Transit.message ++ state.phase.messages)) :
    Intact displayId { state with queue, mapping, copying, stopped } := by
  refine { intact with sound := ?_, own := fun notice isCopy => (awaits notice isCopy).2,
                       follows := later }
  intro notice member
  have before : notice ∈ state.notices := by
    simp only [System.notices, System.awaited, List.append_assoc, List.mem_append,
      Option.mem_toList] at member
    rcases member with isCopy | queued | unsent
    · exact (awaits notice isCopy).1
    · rcases List.mem_filterMap.mp queued with ⟨other, isOther, isNotice⟩
      apply List.mem_append_left
      apply List.mem_append_right
      rw [isQueue]
      exact List.mem_filterMap.mpr ⟨other, List.mem_cons_of_mem _ isOther, isNotice⟩
    · exact List.mem_append_right _ unsent
  exact (intact.sound notice before).transfer rfl rfl rfl rfl

theorem Intact.receive (intact : Intact displayId state)
    (stepped : state.receive displayId split = some next) : Intact displayId next := by
  rw [System.receive] at stepped
  split at stepped
  next transit queue running noCopy isQueue =>
    have idle : ∀ notice, state.copying = some notice → notice ∈ state.notices ∧
        notice.header.picture.displayNumber = displayId := by
      rw [noCopy]
      nofun
    have follows := intact.follows running
    rw [isQueue] at follows
    rcases follows with ⟨framed, placed, later⟩
    have received := @receiveMessage_cells displayId split _ framed state.mapping []
    rw [List.append_nil] at received
    rw [received] at stepped
    cases handled : transit.message.handled displayId state.mapping with
    | error stop =>
        rw [handled] at stepped
        rcases Option.some.inj stepped with rfl
        exact intact.dequeue isQueue idle nofun
    | ok done =>
        rcases done with ⟨event, mapping⟩
        rcases handled_eq_ok handled with ⟨rfl, shared⟩
        simp only [handled, Except.map] at stepped
        split at stepped
        next isError => exact nomatch isError
        next header slot after rest isOk =>
          rcases Prod.mk.inj (Except.ok.inj isOk) with ⟨isEvent, isAfter⟩
          rcases Prod.mk.inj isAfter with ⟨rfl, -⟩
          rcases shared header slot isEvent with ⟨own, sent, mapped, isMessage, isMapped, isSlot⟩
          rcases placed header sent isMessage with ⟨sender, isSender, isSent⟩
          obtain rfl : mapped = sender := Option.some.inj (isMapped.symm.trans isSender)
          rcases Option.some.inj stepped with rfl
          refine intact.dequeue isQueue ?_ fun _ => later
          intro notice isCopy
          rcases Option.some.inj isCopy with rfl
          refine ⟨?_, own⟩
          apply List.mem_append_left
          apply List.mem_append_right
          rw [isQueue]
          apply List.mem_filterMap.mpr
          refine ⟨transit, List.mem_cons_self, ?_⟩
          rw [Transit.notice?, isMessage, isSlot, isSent]
        next event' after rest _ isOk =>
          rcases Prod.mk.inj (Except.ok.inj isOk) with ⟨-, isAfter⟩
          rcases Prod.mk.inj isAfter with ⟨rfl, -⟩
          rcases Option.some.inj stepped with rfl
          exact intact.dequeue isQueue idle fun _ => later
  next => exact nomatch stepped

theorem Intact.step (intact : Intact displayId state) {label : Label}
    (free : SlotFree displayId state label)
    (stepped : step displayId split state label = some next) : Intact displayId next := by
  cases label with
  | take frame memfd => exact intact.take stepped
  | copy => exact intact.copy free stepped
  | notify => exact intact.notify stepped
  | receive => exact intact.receive stepped
  | push => exact intact.push stepped

end

/-! ## Pushed frames -/

/-- In every run where the sender finds free slots, what the frame source pushes for a
notification are the pixels of the frame that the notification was sent for. -/
theorem shared_frames_untorn (displayId : UInt32) (split : Nat → Nat) (labels : List Label)
    (free : Run.Along (step displayId split) (SlotFree displayId) System.initial labels) :
    Run.Always (step displayId split) Untorn System.initial labels :=
  Run.always_of_along (fun _ _ _ intact free stepped => intact.step free stepped)
    (fun _ intact => intact.untorn) (intact_initial displayId) free

instance (displayId : UInt32) (state : System) (label : Label) :
    Decidable (SlotFree displayId state label) :=
  inferInstanceAs (Decidable (_ → ∀ notice ∈ state.awaited, _ → _ → _))

instance (state : System) : Decidable (Untorn state) :=
  inferInstanceAs (Decidable (∀ pushed ∈ state.pushed, _))

/-- A frame of one pixel goes through the sender. -/
def sent (value : UInt8) : List Label :=
  [.take (.raw (samplePicture 0) (List.replicate 4 value)) true, .copy, .notify]

def fourFramesBehind : List Label :=
  sent 1 ++ sent 2 ++ sent 3 ++ sent 4 ++ [Label.receive, Label.receive, Label.push] ++ sent 5 ++
    [Label.receive, Label.push]

theorem four_frames_untorn :
    Run.Along (step 0 fun _ => 3) (SlotFree 0) System.initial fourFramesBehind ∧
      Run.Always (step 0 fun _ => 3) Untorn System.initial fourFramesBehind := by
  have free : Run.Along (step 0 fun _ => 3) (SlotFree 0) System.initial fourFramesBehind := by
    decide +kernel
  exact ⟨free, shared_frames_untorn 0 (fun _ => 3) fourFramesBehind free⟩

/-- The fifth frame is sent before the frame source starts. -/
def fiveFramesBehind : List Label :=
  sent 1 ++ sent 2 ++ sent 3 ++ sent 4 ++ sent 5 ++ [Label.receive, Label.receive, Label.push]

theorem fifth_frame_pushed :
    (Run.run (step 0 fun _ => 3) System.initial fiveFramesBehind).map System.pushed =
      some [⟨⟨samplePicture 0, 4, 0⟩, [5, 5, 5, 5], [1, 1, 1, 1]⟩] := by
  decide +kernel

theorem shared_frames_torn :
    ¬ Run.Always (step 0 fun _ => 3) Untorn System.initial fiveFramesBehind := by
  intro always
  rcases Option.map_eq_some_iff.mp fifth_frame_pushed with ⟨final, reached, pushed⟩
  have untorn := always.final reached
  rw [Untorn, pushed] at untorn
  exact absurd (untorn _ (List.mem_singleton.mpr rfl)) (by decide)

end SharedSlots

end Cuttlefish.Webrtc
