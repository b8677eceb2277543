import Cuttlefish.Audio.AudioHandler

/-! # Captured audio as a stream of bytes

What `OnCaptureBuffer` puts into the buffers of an active stream when its source always
delivers 10 ms of samples: the bytes of the source, with what a buffer does not take held for
the next one. -/

namespace Cuttlefish.Audio

/-- A source that delivers all samples it is asked for. -/
structure FullSource (desc : StreamDesc) where
  block : (call : Nat) → Bytes
  length_block : ∀ call, (block call).length = desc.bytesPerRequest

structure CaptureStream where
  holdingBuffer : Bytes
  calls : Nat
  filled : List Bytes
  deriving DecidableEq

def CaptureStream.initial : CaptureStream := ⟨[], 0, []⟩

section

variable {desc : StreamDesc} (source : FullSource desc)

/-- The bytes that the source has delivered by its first calls. -/
def FullSource.produced (calls : Nat) : Bytes := (List.range calls).flatMap source.block

/-- The loop that reads into the buffer, for at most so many rounds; `written` is in the buffer
already. -/
def readBlocks (length : Nat) : (rounds calls : Nat) → (written : Bytes) →
    Except Fault (Option (Nat × Bytes))
  | 0, _, _ => .ok none
  | rounds + 1, calls, written =>
      if length - written.length < desc.bytesPerRequest then .ok (some (calls, written))
      else if desc.channels = 0 then .error .divisionByZero
      else readBlocks length rounds (calls + 1) (written ++ source.block calls)

def readHolding (stream : CaptureStream) (length calls : Nat) (written : Bytes) :
    Except Fault CaptureStream :=
  let bytesToRead := length - written.length
  let block := source.block calls
  if length ≤ written.length then
    .ok ⟨[], calls, stream.filled ++ [written]⟩
  else if desc.channels = 0 then .error .divisionByZero
  else if desc.bytesPerRequest < bytesToRead then .error .outsideBuffer
  else
    .ok ⟨block.drop bytesToRead, calls + 1, stream.filled ++ [written ++ block.take bytesToRead]⟩

def onCaptureBuffer (rounds : Nat) (stream : CaptureStream) (length : Nat) :
    Except Fault (Option CaptureStream) :=
  -- The held bytes are copied without a look at the length.
  if length < stream.holdingBuffer.length then .error .outsideBuffer
  else
    match readBlocks source length rounds stream.calls stream.holdingBuffer with
    | .error fault => .error fault
    | .ok none => .ok none
    | .ok (some (calls, written)) =>
        (readHolding source stream length calls written).map some

def captureAll (rounds : Nat) : CaptureStream → List Nat → Except Fault (Option CaptureStream)
  | stream, [] => .ok (some stream)
  | stream, length :: lengths =>
      match onCaptureBuffer source rounds stream length with
      | .error fault => .error fault
      | .ok none => .ok none
      | .ok (some next) => captureAll rounds next lengths

/-- The buffers have been filled with the bytes of the source, in their order, and the rest of
the last 10 ms is held. -/
structure Delivered (lengths : List Nat) (stream : CaptureStream) : Prop where
  lengths : stream.filled.map List.length = lengths
  bytes : stream.filled.flatten ++ stream.holdingBuffer = source.produced stream.calls
  rest : stream.holdingBuffer = [] ∨ stream.holdingBuffer.length < desc.bytesPerRequest

/-- All calls return, and they have delivered what they should. -/
def CapturesFaithfully (lengths : List Nat) : Prop :=
  ∃ rounds stream, captureAll source rounds .initial lengths = .ok (some stream) ∧
    Delivered source lengths stream

end

/-- How much of the last 10 ms is held when so many bytes have gone to the guest. -/
def heldAfter (bytesPerRequest consumed : Nat) : Nat :=
  (bytesPerRequest - consumed % bytesPerRequest) % bytesPerRequest

/-! ## The amounts are those of the audio handler -/

def fullAnswers : AudioSource where
  answer _ samplesPerChannel := .delivered samplesPerChannel
  bounded := by
    intro _ _ _ delivered
    exact (Answer.delivered.inj delivered).ge

section

variable {desc : StreamDesc} (source : FullSource desc)

theorem readBlocks_sizes (held length rounds calls call : Nat) (written : Bytes)
    (inside : written.length ≤ length) :
    (readBlocks source length rounds calls written).map
        (Option.map fun done : Nat × Bytes => done.2.length) =
      ({ desc with held }.readBuffer fullAnswers length rounds call written.length).map
        (Option.map Prod.snd) := by
  induction rounds generalizing calls call written with
  | zero => rfl
  | succ rounds induction =>
      have same : { desc with held }.bytesPerRequest = desc.bytesPerRequest := rfl
      rw [readBlocks, StreamDesc.readBuffer]
      rw [same]
      by_cases short : length - written.length < desc.bytesPerRequest
      · rw [if_pos short, if_pos short]
        rfl
      · have room : ¬ length < written.length + desc.bytesPerRequest := by omega
        have answer : { desc with held }.getMoreAudioData fullAnswers call =
            if desc.channels = 0 then .error .divisionByZero
            else .ok (.delivered desc.samplesPerChannel) := rfl
        rw [if_neg short, if_neg short, if_neg room, answer]
        by_cases none : desc.channels = 0
        · rw [if_pos none, if_pos none]
          rfl
        · have block := source.length_block calls
          have larger : (written ++ source.block calls).length =
              written.length + desc.samplesPerChannel * desc.bytesPerSample * desc.channels := by
            rw [List.length_append, block]
            rfl
          rw [if_neg none, if_neg none]
          change _ = ({ desc with held }.readBuffer fullAnswers length rounds (call + 1)
            (written.length + desc.samplesPerChannel * desc.bytesPerSample * desc.channels)).map _
          rw [← larger]
          exact induction (calls + 1) (call + 1) _ (by rw [List.length_append, block]; omega)

theorem readHolding_sizes (held : Nat) (stream : CaptureStream) (length calls call : Nat)
    (written : Bytes) :
    (readHolding source stream length calls written).map
        (fun next => next.holdingBuffer.length) =
      { desc with held }.readRest fullAnswers length call written.length := by
  have same : { desc with held }.bytesPerRequest = desc.bytesPerRequest := rfl
  have answer : { desc with held }.getMoreAudioData fullAnswers call =
      if desc.channels = 0 then .error .divisionByZero
      else .ok (.delivered desc.samplesPerChannel) := rfl
  rw [readHolding, StreamDesc.readRest]
  rw [same, answer]
  by_cases full : length ≤ written.length
  · rw [if_pos full, if_pos full]
    rfl
  · rw [if_neg full, if_neg full]
    by_cases none : desc.channels = 0
    · rw [if_pos none, if_pos none]
      rfl
    · rw [if_neg none, if_neg none]
      dsimp only
      by_cases short : desc.bytesPerRequest < length - written.length
      · rw [if_pos short, if_pos short]
        rfl
      · rw [if_neg short, if_neg short]
        change Except.ok (List.length (List.drop _ (source.block calls))) = _
        rw [List.length_drop, source.length_block]

theorem onCaptureBuffer_sizes (rounds : Nat) (stream : CaptureStream) (length : Nat) :
    (onCaptureBuffer source rounds stream length).map
        (Option.map fun next => next.holdingBuffer.length) =
      { desc with held := stream.holdingBuffer.length }.captureAudio fullAnswers length rounds := by
  let held := stream.holdingBuffer.length
  rw [onCaptureBuffer, StreamDesc.captureAudio]
  by_cases short : length < held
  · rw [if_pos short, if_pos short]
    rfl
  · have blocks := readBlocks_sizes source held length rounds stream.calls 0 stream.holdingBuffer
      (Nat.not_lt.mp short)
    rw [if_neg short, if_neg short]
    revert blocks
    generalize readBlocks source length rounds stream.calls stream.holdingBuffer = read
    generalize { desc with held }.readBuffer fullAnswers length rounds 0
      stream.holdingBuffer.length = sizes
    intro blocks
    cases read with
    | error fault =>
        cases sizes with
        | error other =>
            rcases Except.error.inj blocks with rfl
            rfl
        | ok size => cases blocks
    | ok done =>
        cases sizes with
        | error other => cases blocks
        | ok size =>
            rcases done with _ | ⟨calls, written⟩ <;> rcases size with _ | ⟨call, bytesRead⟩
            · rfl
            · cases blocks
            · cases blocks
            · obtain rfl : written.length = bytesRead := Option.some.inj (Except.ok.inj blocks)
              dsimp only
              rw [← readHolding_sizes source held stream length calls call written]
              cases readHolding source stream length calls written with
              | error _ => rfl
              | ok _ => rfl

end

/-! ## The bytes of the source -/

section

variable {desc : StreamDesc} {source : FullSource desc} {stream next : CaptureStream}
  {lengths : List Nat} {length rounds calls : Nat} {written : Bytes}

theorem produced_succ (source : FullSource desc) (calls : Nat) :
    source.produced (calls + 1) = source.produced calls ++ source.block calls := by
  rw [FullSource.produced, List.range_succ, List.flatMap_append, List.flatMap_singleton]
  rfl

theorem length_produced (source : FullSource desc) (calls : Nat) :
    (source.produced calls).length = calls * desc.bytesPerRequest := by
  induction calls with
  | zero => exact (Nat.zero_mul _).symm
  | succ calls induction =>
      rw [produced_succ, List.length_append, induction, source.length_block, Nat.succ_mul]

theorem channels_ne_zero (requested : 0 < desc.bytesPerRequest) : desc.channels ≠ 0 := by
  intro none
  rw [StreamDesc.bytesPerRequest, none, Nat.mul_zero] at requested
  exact Nat.lt_irrefl 0 requested

theorem readBlocks_delivers {done : Nat × Bytes} (front : Bytes)
    (read : readBlocks source length rounds calls written = .ok (some done))
    (inside : written.length ≤ length) (bytes : front ++ written = source.produced calls) :
    length - done.2.length < desc.bytesPerRequest ∧ done.2.length ≤ length ∧
      front ++ done.2 = source.produced done.1 := by
  induction rounds generalizing calls written with
  | zero => exact nomatch read
  | succ rounds induction =>
      rw [readBlocks] at read
      split at read
      next short =>
        rcases Option.some.inj (Except.ok.inj read) with rfl
        exact ⟨short, inside, bytes⟩
      next short =>
        split at read
        next => exact nomatch read
        next =>
          have block := source.length_block calls
          refine induction read ?_ ?_
          · rw [List.length_append, block]
            omega
          · rw [← List.append_assoc, bytes, produced_succ]

theorem readBlocks_returns (source : FullSource desc) (requested : 0 < desc.bytesPerRequest)
    (calls : Nat) (written : Bytes) (enough : length - written.length < rounds) :
    ∃ done, readBlocks source length rounds calls written = .ok (some done) := by
  induction rounds generalizing calls written with
  | zero => exact absurd enough (Nat.not_lt_zero _)
  | succ rounds induction =>
      rw [readBlocks]
      split
      next => exact ⟨_, rfl⟩
      next short =>
        rw [if_neg (channels_ne_zero requested)]
        refine induction (calls + 1) _ ?_
        rw [List.length_append, source.length_block]
        omega

theorem requested_of_readBlocks {done : Nat × Bytes}
    (read : readBlocks source length rounds calls written = .ok (some done)) :
    0 < desc.bytesPerRequest := by
  induction rounds generalizing calls written with
  | zero => exact nomatch read
  | succ rounds induction =>
      rw [readBlocks] at read
      split at read
      next short => exact (Nat.zero_le _).trans_lt short
      next =>
        split at read
        next => exact nomatch read
        next => exact induction read

theorem readHolding_delivers {front : Bytes} (stream : CaptureStream)
    (inside : written.length ≤ length)
    (short : length - written.length < desc.bytesPerRequest)
    (bytes : front ++ written = source.produced calls) (isFront : front = stream.filled.flatten) :
    ∃ next, readHolding source stream length calls written = .ok next ∧
      (∃ buffer, buffer.length = length ∧ next.filled = stream.filled ++ [buffer]) ∧
      next.filled.flatten ++ next.holdingBuffer = source.produced next.calls ∧
      next.holdingBuffer.length < desc.bytesPerRequest := by
  have requested : 0 < desc.bytesPerRequest := (Nat.zero_le _).trans_lt short
  have block := source.length_block calls
  rw [readHolding]
  by_cases full : length ≤ written.length
  · rw [if_pos full]
    refine ⟨_, rfl, ⟨written, Nat.le_antisymm inside full, rfl⟩, ?_, requested⟩
    dsimp only
    rw [List.append_nil, List.flatten_append, List.flatten_singleton, ← isFront, bytes]
  · rw [if_neg full, if_neg (channels_ne_zero requested), if_neg (by omega)]
    refine ⟨_, rfl, ⟨_, ?_, rfl⟩, ?_, ?_⟩
    · rw [List.length_append, List.length_take, block]
      omega
    · dsimp only
      rw [List.flatten_append, List.flatten_singleton, ← isFront, produced_succ, ← bytes,
        List.append_assoc, List.append_assoc, List.append_assoc, List.take_append_drop]
    · dsimp only
      rw [List.length_drop, block]
      omega

theorem onCaptureBuffer_delivers (delivered : Delivered source lengths stream)
    (returned : onCaptureBuffer source rounds stream length = .ok (some next)) :
    stream.holdingBuffer.length ≤ length ∧ 0 < desc.bytesPerRequest ∧
      Delivered source (lengths ++ [length]) next := by
  rw [onCaptureBuffer] at returned
  split at returned
  next => exact nomatch returned
  next short =>
    have inside := Nat.not_lt.mp short
    split at returned
    next => exact nomatch returned
    next => exact nomatch returned
    next calls written read =>
      rcases readBlocks_delivers _ read inside delivered.bytes with ⟨short, within, bytes⟩
      rcases readHolding_delivers stream within short bytes rfl with
        ⟨held, isHeld, ⟨buffer, isLength, filled⟩, isBytes, less⟩
      rw [isHeld] at returned
      rcases Option.some.inj (Except.ok.inj returned) with rfl
      refine ⟨inside, requested_of_readBlocks read, ?_, isBytes, .inr less⟩
      rw [filled, List.map_append, delivered.lengths, List.map_singleton, isLength]

theorem onCaptureBuffer_returns (delivered : Delivered source lengths stream)
    (requested : 0 < desc.bytesPerRequest) (fits : stream.holdingBuffer.length ≤ length)
    (enough : length < rounds) :
    ∃ next, onCaptureBuffer source rounds stream length = .ok (some next) := by
  rcases readBlocks_returns source requested stream.calls
    stream.holdingBuffer (lt_of_le_of_lt (Nat.sub_le ..) enough) with ⟨⟨calls, written⟩, read⟩
  rcases readBlocks_delivers _ read fits delivered.bytes with ⟨short, within, bytes⟩
  rcases readHolding_delivers stream within short bytes rfl with ⟨next, isNext, _⟩
  refine ⟨next, ?_⟩
  rw [onCaptureBuffer]
  rw [if_neg (Nat.not_lt.mpr fits), read]
  dsimp only
  rw [isNext]
  rfl

theorem Delivered.held_eq (delivered : Delivered source lengths stream)
    (requested : 0 < desc.bytesPerRequest) :
    stream.holdingBuffer.length = heldAfter desc.bytesPerRequest lengths.sum := by
  have total : lengths.sum + stream.holdingBuffer.length = stream.calls * desc.bytesPerRequest := by
    rw [← length_produced source, ← delivered.bytes, List.length_append, List.length_flatten,
      delivered.lengths]
  have less : stream.holdingBuffer.length < desc.bytesPerRequest := by
    rcases delivered.rest with empty | less
    · rw [empty]
      exact requested
    · exact less
  rw [heldAfter]
  generalize stream.holdingBuffer.length = held at total less
  rcases held.eq_zero_or_pos with rfl | held_pos
  · rw [Nat.add_zero] at total
    rw [total, Nat.mul_mod_left, Nat.sub_zero, Nat.mod_self]
  · obtain ⟨calls, isCalls⟩ : ∃ calls, stream.calls = calls + 1 := by
      refine Nat.exists_eq_succ_of_ne_zero fun none => ?_
      rw [none, Nat.zero_mul] at total
      omega
    rw [isCalls, Nat.succ_mul] at total
    have consumed : lengths.sum = desc.bytesPerRequest - held + desc.bytesPerRequest * calls := by
      rw [Nat.mul_comm]
      omega
    rw [consumed, Nat.add_mul_mod_self_left, Nat.mod_eq_of_lt (Nat.sub_lt requested held_pos),
      Nat.sub_sub_self less.le, Nat.mod_eq_of_lt less]

def HeldFits (bytesPerRequest : Nat) (earlier lengths : List Nat) : Prop :=
  ∀ before length after, lengths = before ++ length :: after →
    heldAfter bytesPerRequest (earlier ++ before).sum ≤ length

theorem heldFits_cons {bytesPerRequest : Nat} {earlier rest : List Nat} :
    HeldFits bytesPerRequest earlier (length :: rest) ↔
      heldAfter bytesPerRequest earlier.sum ≤ length ∧
        HeldFits bytesPerRequest (earlier ++ [length]) rest := by
  constructor
  · intro fits
    refine ⟨?_, ?_⟩
    · have first := fits [] length rest rfl
      rwa [List.append_nil] at first
    · rintro before other after rfl
      rw [List.append_assoc]
      exact fits (length :: before) other after rfl
  · rintro ⟨first, later⟩ before other after split
    cases before with
    | nil =>
        rcases List.cons.inj split with ⟨rfl, -⟩
        rw [List.append_nil]
        exact first
    | cons _ before =>
        rcases List.cons.inj split with ⟨rfl, isRest⟩
        have behind := later before other after isRest
        rwa [List.append_assoc] at behind

theorem captureAll_delivers {final : CaptureStream} {rest : List Nat}
    (delivered : Delivered source lengths stream)
    (returned : captureAll source rounds stream rest = .ok (some final)) :
    (rest = [] ∨ 0 < desc.bytesPerRequest) ∧ HeldFits desc.bytesPerRequest lengths rest := by
  induction rest generalizing lengths stream with
  | nil => exact ⟨.inl rfl, fun before _ _ split => nomatch List.append_eq_nil_iff.mp split.symm⟩
  | cons length rest induction =>
      rw [captureAll] at returned
      cases call : onCaptureBuffer source rounds stream length with
      | error _ =>
          rw [call] at returned
          exact nomatch returned
      | ok result =>
          rw [call] at returned
          cases result with
          | none => exact nomatch returned
          | some next =>
              rcases onCaptureBuffer_delivers delivered call with ⟨fits, requested, isNext⟩
              rw [delivered.held_eq requested] at fits
              exact ⟨.inr requested, heldFits_cons.mpr ⟨fits, (induction isNext returned).2⟩⟩

theorem captureAll_returns {rest : List Nat} (requested : rest = [] ∨ 0 < desc.bytesPerRequest)
    (fits : HeldFits desc.bytesPerRequest lengths rest) (enough : ∀ length ∈ rest, length < rounds)
    (delivered : Delivered source lengths stream) :
    ∃ final, captureAll source rounds stream rest = .ok (some final) ∧
      Delivered source (lengths ++ rest) final := by
  induction rest generalizing lengths stream with
  | nil =>
      rw [List.append_nil]
      exact ⟨stream, rfl, delivered⟩
  | cons length rest induction =>
      have requested : 0 < desc.bytesPerRequest := requested.resolve_left (List.cons_ne_nil _ _)
      rcases heldFits_cons.mp fits with ⟨first, later⟩
      rw [← delivered.held_eq requested] at first
      rcases onCaptureBuffer_returns delivered requested first
        (enough length List.mem_cons_self) with ⟨next, call⟩
      rcases onCaptureBuffer_delivers delivered call with ⟨-, -, isNext⟩
      rcases induction (.inr requested) later
        (fun other member => enough other (List.mem_cons_of_mem length member)) isNext with
          ⟨final, returned, isFinal⟩
      refine ⟨final, ?_, ?_⟩
      · rw [captureAll, call]
        exact returned
      · rwa [List.append_assoc] at isFinal

end

theorem delivered_initial {desc : StreamDesc} (source : FullSource desc) :
    Delivered source [] .initial :=
  ⟨rfl, rfl, .inl rfl⟩

/-- The guest gets the bytes of the source exactly if each buffer takes what is held of the
10 ms before it, and 10 ms have bytes at all. -/
theorem capture_faithful_iff {desc : StreamDesc} (source : FullSource desc) (lengths : List Nat) :
    CapturesFaithfully source lengths ↔
      (lengths = [] ∨ 0 < desc.bytesPerRequest) ∧
        ∀ before length after, lengths = before ++ length :: after →
          heldAfter desc.bytesPerRequest before.sum ≤ length := by
  constructor
  · rintro ⟨rounds, final, returned, -⟩
    exact captureAll_delivers (delivered_initial source) returned
  · rintro ⟨requested, fits⟩
    have heldFits : HeldFits desc.bytesPerRequest [] lengths := fits
    obtain ⟨rounds, enough⟩ : ∃ rounds, ∀ length ∈ lengths, length < rounds :=
      ⟨lengths.sum + 1, fun length member => Nat.lt_succ_of_le (List.single_le_sum
        (fun other _ => Nat.zero_le other) length member)⟩
    rcases captureAll_returns requested heldFits enough (delivered_initial source) with
      ⟨final, returned, delivered⟩
    exact ⟨rounds, final, returned, delivered⟩

def telephone : StreamDesc := ⟨0, 8000, 16, 1, true⟩

def silence : FullSource telephone :=
  ⟨fun _ => Bytes.zeros telephone.bytesPerRequest, fun _ => Bytes.length_zeros _⟩

/-- Behind a buffer of 100 bytes, 60 bytes are copied to one of 50. -/
theorem short_buffer_overrun :
    captureAll silence 2 .initial [100, 50] = .error .outsideBuffer ∧
      ¬ CapturesFaithfully silence [100, 50] := by
  refine ⟨by decide +kernel, ?_⟩
  rintro ⟨rounds, final, returned, -⟩
  have fits := (captureAll_delivers (delivered_initial silence) returned).2
  exact absurd (fits [100] 50 [] rfl) (by decide)

end Cuttlefish.Audio
