import Cuttlefish.Audio.AudioHandler

/-! # Captured audio behind errors and mutes

What `OnCaptureBuffer` puts into the buffers of an active stream when its source may also fail or
be muted: where each byte that the guest gets comes from. -/

namespace Cuttlefish.Audio.CaptureRecovery

/-- Where a byte comes from. -/
inductive Captured
  | source (position : Nat)
  | muted
  /-- What the holding buffer has been resized to, without having been read. -/
  | stale
  | unwritten
  deriving DecidableEq

namespace Captured

def position? : Captured → Option Nat
  | source position => some position
  | muted | stale | unwritten => none

def Good (byte : Captured) : Prop := byte ≠ stale ∧ byte ≠ unwritten

instance (byte : Captured) : Decidable byte.Good := inferInstanceAs (Decidable (_ ∧ _))

end Captured

inductive Reply
  | full
  | failed
  | muted
  deriving DecidableEq

structure Progress where
  calls : Nat
  produced : Nat
  written : List Captured
  deriving DecidableEq

structure Stream where
  holdingBuffer : List Captured
  calls : Nat
  produced : Nat
  filled : List (List Captured)
  deriving DecidableEq

def Stream.initial : Stream := ⟨[], 0, 0, []⟩

def sourceBytes (produced count : Nat) : List Captured :=
  (List.range' produced count).map Captured.source

section

-- the bytes of 10 ms, and what each call of the source gives
variable (blockSize : Nat) (answers : Nat → Reply)

def readDirect (length : Nat) : (rounds : Nat) → Progress → Option Progress
  | 0, _ => none
  | rounds + 1, progress =>
      let missing := length - progress.written.length
      if missing < blockSize then some progress
      else
        match answers progress.calls with
        | .failed => some { progress with calls := progress.calls + 1 }
        | .muted => some { progress with
            calls := progress.calls + 1
            written := progress.written ++ List.replicate missing .muted }
        | .full => readDirect length rounds
            ⟨progress.calls + 1, progress.produced + blockSize,
              progress.written ++ sourceBytes progress.produced blockSize⟩

def readHolding (length : Nat) (progress : Progress) :
    Except Fault (List Captured × Progress) :=
  let missing := length - progress.written.length
  let calls := progress.calls + 1
  if missing = 0 then .ok ([], progress)
  else
    match answers progress.calls with
    | .failed => .ok (List.replicate blockSize .stale, { progress with
        calls, written := progress.written ++ List.replicate missing .unwritten })
    | .muted => .ok (List.replicate blockSize .stale, { progress with
        calls, written := progress.written ++ List.replicate missing .muted })
    | .full =>
        let block := sourceBytes progress.produced blockSize
        if blockSize < missing then .error .outsideBuffer
        else .ok (block.drop missing,
          ⟨calls, progress.produced + blockSize, progress.written ++ block.take missing⟩)

/-- `OnCaptureBuffer`. A buffer has at least as many bytes as the loop has rounds, where 10 ms have
bytes at all. -/
def onCaptureBuffer (stream : Stream) (length : Nat) : Except Fault (Option Stream) :=
  if length < stream.holdingBuffer.length then .error .outsideBuffer
  else
    match readDirect blockSize answers length (length + 1)
        ⟨stream.calls, stream.produced, stream.holdingBuffer⟩ with
    | none => .ok none
    | some progress =>
        match readHolding blockSize answers length progress with
        | .error fault => .error fault
        | .ok (holdingBuffer, progress) =>
            .ok (some ⟨holdingBuffer, progress.calls, progress.produced,
              stream.filled ++ [progress.written]⟩)

def captureAll : Stream → List Nat → Except Fault (Option Stream)
  | stream, [] => .ok (some stream)
  | stream, length :: lengths =>
      match onCaptureBuffer blockSize answers stream length with
      | .error fault => .error fault
      | .ok none => .ok none
      | .ok (some next) => captureAll next lengths

/-- Each byte is one of the source, in order and once, or a zero for a mute. -/
structure Sound (produced : Nat) (bytes : List Captured) : Prop where
  positions : bytes.filterMap Captured.position? = List.range produced
  good : ∀ byte ∈ bytes, byte.Good

/-- All calls return, and all that the guest has got is sound; what the source has delivered
besides is kept. -/
def CapturesSoundly (lengths : List Nat) : Prop :=
  ∃ stream, captureAll blockSize answers .initial lengths = .ok (some stream) ∧
    ∃ delivered, Sound delivered stream.filled.flatten

/-! ## When a call recovers -/

def RestRecovers (missing calls : Nat) : Prop :=
  missing = 0 ∨ answers calls = .muted ∨ (answers calls = .full ∧ missing ≤ blockSize)

inductive Recovers : (missing calls : Nat) → Prop
  | short {missing calls} : missing < blockSize →
      RestRecovers blockSize answers missing calls → Recovers missing calls
  | full {missing calls} : blockSize ≤ missing → answers calls = .full →
      Recovers (missing - blockSize) (calls + 1) → Recovers missing calls
  | muted {missing calls} : blockSize ≤ missing → answers calls = .muted → Recovers missing calls
  | failed {missing calls} : blockSize ≤ missing → answers calls = .failed →
      RestRecovers blockSize answers missing (calls + 1) → Recovers missing calls

def CallRecovers (stream : Stream) (length : Nat) : Prop :=
  .stale ∉ stream.holdingBuffer ∧
    Recovers blockSize answers (length - stream.holdingBuffer.length) stream.calls

/-- Each of the calls recovers, in the state that it meets. -/
def AllRecover : Stream → List Nat → Prop
  | _, [] => True
  | stream, length :: lengths =>
      CallRecovers blockSize answers stream length ∧
        ∀ next, onCaptureBuffer blockSize answers stream length = .ok (some next) →
          AllRecover next lengths

end

/-! ## Sound bytes -/

theorem sound_nil : Sound 0 [] := ⟨rfl, by simp⟩

theorem length_sourceBytes (produced count : Nat) :
    (sourceBytes produced count).length = count := by
  simp [sourceBytes]

theorem Sound.append_sourceBytes {produced : Nat} {bytes : List Captured}
    (sound : Sound produced bytes) (count : Nat) :
    Sound (produced + count) (bytes ++ sourceBytes produced count) := by
  constructor
  · have positions : (sourceBytes produced count).filterMap Captured.position? =
        List.range' produced count := by
      rw [sourceBytes, List.filterMap_map]
      exact List.filterMap_some
    rw [List.filterMap_append, sound.positions, positions, List.range_eq_range',
      List.range_eq_range', ← List.range'_append_1, Nat.zero_add]
  · intro byte member
    rcases List.mem_append.mp member with before | read
    · exact sound.good byte before
    · rcases List.mem_map.mp read with ⟨position, -, rfl⟩
      simp [Captured.Good]

theorem Sound.append_muted {produced : Nat} {bytes : List Captured}
    (sound : Sound produced bytes) (count : Nat) :
    Sound produced (bytes ++ List.replicate count Captured.muted) := by
  constructor
  · have positions : (List.replicate count Captured.muted).filterMap Captured.position? = [] := by
      simp [Captured.position?]
    rw [List.filterMap_append, positions, List.append_nil]
    exact sound.positions
  · intro byte member
    rcases List.mem_append.mp member with before | zero
    · exact sound.good byte before
    · rw [List.eq_of_mem_replicate zero]
      simp [Captured.Good]

theorem Sound.of_append {produced : Nat} {bytes rest : List Captured}
    (sound : Sound produced (bytes ++ rest)) : ∃ delivered, Sound delivered bytes := by
  have positions := sound.positions
  rw [List.filterMap_append] at positions
  exists min (bytes.filterMap Captured.position?).length produced
  constructor
  · rw [← List.take_range, ← positions, List.take_left]
  · intro byte member
    exact sound.good byte (List.mem_append_left rest member)

/-! ## The direct reads -/

section

variable {blockSize : Nat} {answers : Nat → Reply} {length rounds : Nat}
  {progress next : Progress}

theorem readDirect_returns (requested : 0 < blockSize)
    (enough : length - progress.written.length < rounds) :
    ∃ next, readDirect blockSize answers length rounds progress = some next := by
  induction rounds generalizing progress with
  | zero => exact absurd enough (Nat.not_lt_zero _)
  | succ rounds induction =>
      rw [readDirect]
      split
      · exact ⟨_, rfl⟩
      · split
        · exact ⟨_, rfl⟩
        · exact ⟨_, rfl⟩
        · apply induction
          rw [List.length_append, length_sourceBytes]
          omega

theorem readDirect_sound {front : List Captured}
    (read : readDirect blockSize answers length rounds progress = some next)
    (inside : progress.written.length ≤ length)
    (sound : Sound progress.produced (front ++ progress.written)) :
    next.written.length ≤ length ∧ Sound next.produced (front ++ next.written) := by
  induction rounds generalizing progress with
  | zero => cases read
  | succ rounds induction =>
      rw [readDirect] at read
      split at read
      · cases read
        exact ⟨inside, sound⟩
      · rename_i long
        split at read
        · cases read
          exact ⟨inside, sound⟩
        · cases read
          constructor
          · rw [List.length_append, List.length_replicate]
            omega
          · dsimp only
            rw [← List.append_assoc]
            exact sound.append_muted _
        · apply induction read
          · rw [List.length_append, length_sourceBytes]
            omega
          · dsimp only
            rw [← List.append_assoc]
            exact sound.append_sourceBytes blockSize

theorem written_readDirect
    (read : readDirect blockSize answers length rounds progress = some next) :
    progress.written <+: next.written := by
  induction rounds generalizing progress with
  | zero => cases read
  | succ rounds induction =>
      rw [readDirect] at read
      split at read
      · cases read
        exact List.prefix_refl _
      · split at read
        · cases read
          exact List.prefix_refl _
        · cases read
          exact List.prefix_append _ _
        · exact (List.prefix_append _ _).trans (induction read)

theorem recovers_short_iff {missing calls : Nat} (short : missing < blockSize) :
    Recovers blockSize answers missing calls ↔ RestRecovers blockSize answers missing calls := by
  constructor
  · intro recovers
    cases recovers with
    | short _ rest => exact rest
    | full long | muted long | failed long => exact absurd short (Nat.not_lt.mpr long)
  · exact Recovers.short short

theorem recovers_full_iff {missing calls : Nat} (long : ¬ missing < blockSize)
    (answer : answers calls = .full) :
    Recovers blockSize answers missing calls ↔
      Recovers blockSize answers (missing - blockSize) (calls + 1) := by
  constructor
  · intro recovers
    cases recovers with
    | short short => exact absurd short long
    | full _ _ behind => exact behind
    | muted _ other => cases answer.symm.trans other
    | failed _ other => cases answer.symm.trans other
  · exact Recovers.full (Nat.not_lt.mp long) answer

theorem recovers_failed_iff {missing calls : Nat} (long : ¬ missing < blockSize)
    (answer : answers calls = .failed) :
    Recovers blockSize answers missing calls ↔
      RestRecovers blockSize answers missing (calls + 1) := by
  constructor
  · intro recovers
    cases recovers with
    | short short => exact absurd short long
    | full _ other => cases answer.symm.trans other
    | muted _ other => cases answer.symm.trans other
    | failed _ _ rest => exact rest
  · exact Recovers.failed (Nat.not_lt.mp long) answer

theorem recovers_iff (read : readDirect blockSize answers length rounds progress = some next)
    (inside : progress.written.length ≤ length) :
    Recovers blockSize answers (length - progress.written.length) progress.calls ↔
      RestRecovers blockSize answers (length - next.written.length) next.calls := by
  induction rounds generalizing progress with
  | zero => cases read
  | succ rounds induction =>
      rw [readDirect] at read
      split at read
      · rename_i short
        cases read
        exact recovers_short_iff short
      · rename_i long
        split at read
        · rename_i answer
          cases read
          exact recovers_failed_iff long answer
        · rename_i answer
          cases read
          apply iff_of_true
          · exact Recovers.muted (Nat.not_lt.mp long) answer
          · apply Or.inl
            rw [List.length_append, List.length_replicate]
            omega
        · rename_i answer
          have added : length - (progress.written ++
              sourceBytes progress.produced blockSize).length =
                length - progress.written.length - blockSize := by
            rw [List.length_append, length_sourceBytes]
            omega
          rw [recovers_full_iff long answer, ← added]
          apply induction read
          rw [List.length_append, length_sourceBytes]
          omega

/-! ## The read through the holding buffer -/

/-- What is delivered and held: sound bytes, or a holding buffer that has only been resized. -/
def Kept (blockSize produced : Nat) (delivered holdingBuffer : List Captured) : Prop :=
  (Sound produced (delivered ++ holdingBuffer) ∧ holdingBuffer.length < blockSize) ∨
    (holdingBuffer = List.replicate blockSize .stale ∧ Sound produced delivered)

theorem readHolding_keeps {front : List Captured} (requested : 0 < blockSize)
    (sound : Sound progress.produced (front ++ progress.written))
    (recovers : RestRecovers blockSize answers (length - progress.written.length)
      progress.calls) :
    ∃ holdingBuffer next, readHolding blockSize answers length progress =
      .ok (holdingBuffer, next) ∧
        Kept blockSize next.produced (front ++ next.written) holdingBuffer := by
  rw [readHolding]
  by_cases whole : length - progress.written.length = 0
  · refine ⟨[], progress, if_pos whole, .inl ⟨?_, requested⟩⟩
    rw [List.append_nil]
    exact sound
  · simp only [if_neg whole]
    rcases recovers with none | muted | ⟨full, room⟩
    · exact absurd none whole
    · rw [muted]
      refine ⟨_, _, rfl, .inr ⟨rfl, ?_⟩⟩
      dsimp only
      rw [← List.append_assoc]
      exact sound.append_muted _
    · rw [full]
      dsimp only
      rw [if_neg (Nat.not_lt.mpr room)]
      refine ⟨_, _, rfl, .inl ⟨?_, ?_⟩⟩
      · dsimp only
        rw [List.append_assoc, List.append_assoc, List.take_append_drop, ← List.append_assoc]
        exact sound.append_sourceBytes blockSize
      · rw [List.length_drop, length_sourceBytes]
        omega

theorem written_readHolding {holdingBuffer : List Captured}
    (read : readHolding blockSize answers length progress = .ok (holdingBuffer, next)) :
    progress.written <+: next.written := by
  rw [readHolding] at read
  split at read
  · cases read
    exact List.prefix_refl _
  · split at read
    · cases read
      exact List.prefix_append _ _
    · cases read
      exact List.prefix_append _ _
    · split at read
      · cases read
      · cases read
        exact List.prefix_append _ _

theorem restRecovers_of_good {holdingBuffer : List Captured}
    (read : readHolding blockSize answers length progress = .ok (holdingBuffer, next))
    (good : ∀ byte ∈ next.written, byte.Good) :
    RestRecovers blockSize answers (length - progress.written.length) progress.calls := by
  rw [readHolding] at read
  split at read
  · rename_i whole
    exact .inl whole
  · rename_i missing
    split at read
    · cases read
      have unwritten : Captured.unwritten ∈ List.replicate
          (length - progress.written.length) Captured.unwritten :=
        List.mem_replicate.mpr ⟨missing, rfl⟩
      exact absurd rfl (good .unwritten (List.mem_append_right _ unwritten)).2
    · rename_i muted
      exact .inr (.inl muted)
    · rename_i full
      split at read
      · cases read
      · rename_i room
        exact .inr (.inr ⟨full, Nat.not_lt.mp room⟩)

end

/-! ## Calls and runs -/

section

variable {blockSize : Nat} {answers : Nat → Reply} {length : Nat} {stream next : Stream}

def Consistent (blockSize : Nat) (stream : Stream) : Prop :=
  Kept blockSize stream.produced stream.filled.flatten stream.holdingBuffer

theorem onCaptureBuffer_eq_ok
    (returned : onCaptureBuffer blockSize answers stream length = .ok (some next)) :
    stream.holdingBuffer.length ≤ length ∧ ∃ direct final,
      readDirect blockSize answers length (length + 1)
        ⟨stream.calls, stream.produced, stream.holdingBuffer⟩ = some direct ∧
      readHolding blockSize answers length direct = .ok (next.holdingBuffer, final) ∧
      next.calls = final.calls ∧ next.produced = final.produced ∧
      next.filled = stream.filled ++ [final.written] := by
  rw [onCaptureBuffer] at returned
  split at returned
  · cases returned
  · rename_i inside
    split at returned
    · cases returned
    · rename_i direct read
      split at returned
      · cases returned
      · rename_i holdingBuffer final held
        cases returned
        exact ⟨Nat.not_lt.mp inside, direct, final, read, held, rfl, rfl, rfl⟩

theorem flatten_filled {buffer : List Captured} (filled : next.filled = stream.filled ++ [buffer]) :
    next.filled.flatten = stream.filled.flatten ++ buffer := by
  rw [filled, List.flatten_append, List.flatten_singleton]

theorem onCaptureBuffer_of_recovers (requested : 0 < blockSize) (long : blockSize ≤ length)
    (consistent : Consistent blockSize stream)
    (recovers : CallRecovers blockSize answers stream length) :
    ∃ next, onCaptureBuffer blockSize answers stream length = .ok (some next) ∧
      Consistent blockSize next := by
  rcases consistent with ⟨sound, less⟩ | ⟨stale, -⟩
  · have inside : stream.holdingBuffer.length ≤ length := less.le.trans long
    obtain ⟨direct, read⟩ : ∃ direct, readDirect blockSize answers length (length + 1)
        ⟨stream.calls, stream.produced, stream.holdingBuffer⟩ = some direct :=
      readDirect_returns requested (Nat.lt_succ_of_le (Nat.sub_le _ _))
    have directSound := (readDirect_sound read inside sound).2
    rcases readHolding_keeps requested directSound ((recovers_iff read inside).mp recovers.2) with
      ⟨holdingBuffer, final, held, kept⟩
    refine ⟨⟨holdingBuffer, final.calls, final.produced, stream.filled ++ [final.written]⟩, ?_, ?_⟩
    · rw [onCaptureBuffer, if_neg (Nat.not_lt.mpr inside), read]
      dsimp only
      rw [held]
    · rw [Consistent]
      rw [flatten_filled rfl]
      exact kept
  · apply absurd _ recovers.1
    rw [stale]
    exact List.mem_replicate.mpr ⟨requested.ne', rfl⟩

theorem recovers_of_good (requested : 0 < blockSize) (consistent : Consistent blockSize stream)
    (returned : onCaptureBuffer blockSize answers stream length = .ok (some next))
    (good : ∀ byte ∈ next.filled.flatten, byte.Good) :
    CallRecovers blockSize answers stream length ∧ Consistent blockSize next := by
  rcases onCaptureBuffer_eq_ok returned with
    ⟨inside, direct, final, read, held, -, produced, filled⟩
  rw [flatten_filled filled] at good
  have written : ∀ byte ∈ final.written, byte.Good := fun byte member =>
    good byte (List.mem_append_right _ member)
  have heldFirst : stream.holdingBuffer <+: final.written :=
    (written_readDirect read).trans (written_readHolding held)
  have fresh : Captured.stale ∉ stream.holdingBuffer := fun member =>
    (written .stale (heldFirst.subset member)).1 rfl
  rcases consistent with ⟨sound, -⟩ | ⟨stale, -⟩
  · have rest := restRecovers_of_good held written
    have directSound := (readDirect_sound read inside sound).2
    rcases readHolding_keeps requested directSound rest with ⟨holdingBuffer, other, isHeld, kept⟩
    rw [held] at isHeld
    cases isHeld
    refine ⟨⟨fresh, (recovers_iff read inside).mpr rest⟩, ?_⟩
    rw [Consistent]
    rw [flatten_filled filled, produced]
    exact kept
  · apply absurd _ fresh
    rw [stale]
    exact List.mem_replicate.mpr ⟨requested.ne', rfl⟩

theorem filled_captureAll {lengths : List Nat} {final : Stream}
    (returned : captureAll blockSize answers stream lengths = .ok (some final)) :
    stream.filled <+: final.filled := by
  induction lengths generalizing stream with
  | nil =>
      cases returned
      exact List.prefix_refl _
  | cons length lengths induction =>
      rw [captureAll] at returned
      split at returned
      · cases returned
      · cases returned
      · rename_i next call
        rcases onCaptureBuffer_eq_ok call with ⟨-, -, buffer, -, -, -, -, filled⟩
        have later := induction returned
        rw [filled] at later
        exact (List.prefix_append _ _).trans later

theorem captureAll_of_allRecover {lengths : List Nat} (requested : 0 < blockSize)
    (long : ∀ length ∈ lengths, blockSize ≤ length) (consistent : Consistent blockSize stream)
    (recovers : AllRecover blockSize answers stream lengths) :
    ∃ final, captureAll blockSize answers stream lengths = .ok (some final) ∧
      Consistent blockSize final := by
  induction lengths generalizing stream with
  | nil => exact ⟨stream, rfl, consistent⟩
  | cons length lengths induction =>
      rw [List.forall_mem_cons] at long
      rcases onCaptureBuffer_of_recovers requested long.1 consistent recovers.1 with
        ⟨next, call, isNext⟩
      rw [captureAll, call]
      exact induction long.2 isNext (recovers.2 next call)

theorem allRecover_of_good {lengths : List Nat} {final : Stream} (requested : 0 < blockSize)
    (consistent : Consistent blockSize stream)
    (returned : captureAll blockSize answers stream lengths = .ok (some final))
    (good : ∀ byte ∈ final.filled.flatten, byte.Good) :
    AllRecover blockSize answers stream lengths := by
  induction lengths generalizing stream with
  | nil => trivial
  | cons length lengths induction =>
      rw [captureAll] at returned
      split at returned
      · cases returned
      · cases returned
      · rename_i next call
        have earlier : next.filled.flatten <+: final.filled.flatten :=
          (filled_captureAll returned).flatten
        obtain ⟨recovers, isNext⟩ := recovers_of_good requested consistent call
          fun byte member => good byte (earlier.subset member)
        refine ⟨recovers, fun other same => ?_⟩
        rw [call] at same
        cases same
        exact induction isNext returned

end

/-- The guest gets nothing but the bytes of the source and zeros for mutes exactly where each call
recovers in the state that it meets. -/
theorem captures_soundly_iff {blockSize : Nat} (requested : 0 < blockSize)
    (answers : Nat → Reply) {lengths : List Nat} (long : ∀ length ∈ lengths, blockSize ≤ length) :
    CapturesSoundly blockSize answers lengths ↔ AllRecover blockSize answers .initial lengths := by
  have initial : Consistent blockSize .initial := .inl ⟨sound_nil, requested⟩
  constructor
  · rintro ⟨final, returned, delivered, sound⟩
    exact allRecover_of_good requested initial returned sound.good
  · intro recovers
    rcases captureAll_of_allRecover requested long initial recovers with
      ⟨final, returned, consistent⟩
    refine ⟨final, returned, ?_⟩
    rcases consistent with ⟨sound, -⟩ | ⟨-, sound⟩
    · exact sound.of_append
    · exact ⟨_, sound⟩

/-! ## A mute in front of the last samples -/

def mutedSecond (call : Nat) : Reply := if call = 1 then .muted else .full

theorem captures_soundly_muted : CapturesSoundly 4 mutedSecond [4, 5] := by
  apply (captures_soundly_iff (by decide) mutedSecond (by decide)).mpr
  refine ⟨⟨by decide, ?_⟩, ?_⟩
  · exact .full (by decide) rfl (.short (by decide) (.inl rfl))
  · intro next call
    have same : next = ⟨[], 1, 4, [sourceBytes 0 4]⟩ := by
      have isNext : onCaptureBuffer 4 mutedSecond .initial 4 =
        .ok (some ⟨[], 1, 4, [sourceBytes 0 4]⟩) := rfl
      rw [isNext] at call
      exact (Option.some.inj (Except.ok.inj call)).symm
    subst same
    exact ⟨⟨by decide, .muted (by decide) rfl⟩, fun _ _ => trivial⟩

/-- Behind a mute, the zeros of the resized holding buffer are delivered. -/
theorem stale_bytes_delivered :
    captureAll 4 mutedSecond .initial [5, 5] = .ok (some ⟨[.source 5, .source 6, .source 7], 3, 8,
        [sourceBytes 0 4 ++ [Captured.muted],
          List.replicate 4 Captured.stale ++ [Captured.source 4]]⟩) ∧
      ¬ CapturesSoundly 4 mutedSecond [5, 5] := by
  have isCaptured : captureAll 4 mutedSecond .initial [5, 5] =
      .ok (some ⟨[.source 5, .source 6, .source 7], 3, 8,
        [sourceBytes 0 4 ++ [Captured.muted],
          List.replicate 4 Captured.stale ++ [Captured.source 4]]⟩) := rfl
  refine ⟨isCaptured, ?_⟩
  rintro ⟨final, returned, delivered, sound⟩
  rw [isCaptured] at returned
  cases returned
  exact absurd rfl (sound.good .stale (by decide)).1

end Cuttlefish.Audio.CaptureRecovery
