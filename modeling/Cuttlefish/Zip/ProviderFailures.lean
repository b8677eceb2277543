import Cuttlefish.Zip.BufferedZipSource

/-! # Data providers that fail or run dry

What `Read` of `BufferedZipSourceCallbacks` does with a data provider that stops before the size it
has declared, and with one whose calls fail. -/

namespace Cuttlefish.Zip.BufferedZipSource

open Io

variable {State : Type} {provider : ReaderSeeker State}

/-! ## One call of `Read` -/

/-- The source with bytes of its data provider at the start of its buffer. -/
def filled (source : BufferedZipSource State) (dataProvider : State) (bytes : Bytes) :
    BufferedZipSource State :=
  { source with
    dataProvider
    buffer := bytes ++ source.buffer.drop bytes.length
    bufferRemaining := bytes.length
    offsetInBuffer := 0 }

/-- `Read` fills its buffer: the request fits it, nothing remains in it and something is left to
fill it with. -/
structure Fills (source : BufferedZipSource State) (len : Nat) : Prop where
  fits : len ≤ source.buffer.length
  empty : source.bufferRemaining = 0
  left : source.bufferFill ≠ 0

theorem read_of_fills {source : BufferedZipSource State} {len : Nat} (fills : source.Fills len)
    (fuel : Nat) :
    read provider (fuel + 1) source len =
      match provider.seekSet source.dataProvider (toUInt64 source.offset) with
      | (.error _, dataProvider) => some (none, { source with dataProvider })
      | (.ok _, dataProvider) =>
          match provider.read dataProvider source.bufferFill with
          | (.error _, dataProvider) => some (none, { source with dataProvider })
          | (.ok bytes, dataProvider) =>
              read provider fuel (source.filled dataProvider bytes) len := by
  have notRemaining : ¬ 0 < source.bufferRemaining := by
    rw [fills.empty]
    exact Nat.lt_irrefl 0
  rw [read, if_neg (Nat.not_lt.mpr fills.fits), if_neg notRemaining, if_neg fills.left]
  rfl

theorem read_of_not_fills {source : BufferedZipSource State} {len : Nat}
    (notFills : ¬ source.Fills len) (fuel : Nat) :
    read provider (fuel + 1) source len =
      if source.buffer.length < len then some (readBypass provider source len)
      else if 0 < source.bufferRemaining then
        some (some (source.readBuffered len).1, (source.readBuffered len).2)
      else some (some [], source) := by
  rw [read]
  by_cases large : source.buffer.length < len
  · rw [if_pos large, if_pos large]
  rw [if_neg large, if_neg large]
  by_cases remaining : 0 < source.bufferRemaining
  · rw [if_pos remaining, if_pos remaining]
  rw [if_neg remaining, if_neg remaining, if_pos]
  apply Decidable.byContradiction
  intro left
  exact notFills ⟨Nat.not_lt.mp large, Nat.eq_zero_of_not_pos remaining, left⟩

theorem not_fills_filled {source : BufferedZipSource State} {dataProvider : State} {bytes : Bytes}
    (someBytes : bytes ≠ []) (len : Nat) : ¬ (source.filled dataProvider bytes).Fills len :=
  fun fills => someBytes (List.length_eq_zero_iff.mp fills.empty)

theorem fills_filled_nil {source : BufferedZipSource State} {len : Nat}
    (fills : source.Fills len) (dataProvider : State) :
    (source.filled dataProvider []).Fills len := ⟨fills.fits, rfl, fills.left⟩

/-! ## Providers that run dry -/

def emptyFill (provider : ReaderSeeker State) (offset fill : Nat) (dataProvider : State) :
    Option State :=
  match provider.seekSet dataProvider offset with
  | (.error _, _) => none
  | (.ok _, dataProvider) =>
      match provider.read dataProvider fill with
      | (.ok [], dataProvider) => some dataProvider
      | _ => none

/-- The data provider after this many fills, if all of them got no bytes. -/
def emptyFills (provider : ReaderSeeker State) (offset fill : Nat) :
    (count : Nat) → State → Option State
  | 0, dataProvider => some dataProvider
  | count + 1, dataProvider =>
      (emptyFill provider offset fill dataProvider).bind (emptyFills provider offset fill count)

/-- However often the buffer is filled, it gets no bytes and no error. -/
def RunsDry (provider : ReaderSeeker State) (source : BufferedZipSource State) : Prop :=
  ∀ count, emptyFills provider (toUInt64 source.offset) source.bufferFill count
    source.dataProvider ≠ none

theorem read_of_emptyFill {source : BufferedZipSource State} {len : Nat}
    (fills : source.Fills len) (fuel : Nat) :
    (∃ dataProvider, emptyFill provider (toUInt64 source.offset) source.bufferFill
        source.dataProvider = some dataProvider ∧
      read provider (fuel + 1) source len = read provider fuel (source.filled dataProvider []) len) ∨
    emptyFill provider (toUInt64 source.offset) source.bufferFill source.dataProvider = none ∧
      (read provider (fuel + 2) source len).isSome := by
  rw [read_of_fills fills, read_of_fills fills, emptyFill]
  rcases provider.seekSet source.dataProvider (toUInt64 source.offset) with
    ⟨failure | position, sought⟩
  · exact .inr ⟨rfl, rfl⟩
  dsimp only
  rcases provider.read sought source.bufferFill with ⟨failure | _ | ⟨byte, bytes⟩, next⟩
  · exact .inr ⟨rfl, rfl⟩
  · exact .inl ⟨next, rfl, rfl⟩
  · refine .inr ⟨rfl, ?_⟩
    dsimp only
    rw [read_of_not_fills (not_fills_filled (by simp) len)]
    split
    · rfl
    · split
      · rfl
      · rfl

theorem read_of_runsDry {source : BufferedZipSource State} {len : Nat}
    (fills : source.Fills len) (dry : RunsDry provider source) (fuel : Nat) :
    read provider fuel source len = none := by
  induction fuel generalizing source with
  | zero => rfl
  | succ fuel induction =>
      rcases read_of_emptyFill fills fuel with ⟨dataProvider, dryFill, again⟩ | ⟨answered, -⟩
      · rw [again]
        apply induction (fills_filled_nil fills dataProvider)
        intro count ended
        apply dry (count + 1)
        rw [emptyFills, dryFill]
        exact ended
      · exfalso
        apply dry 1
        rw [emptyFills, answered]
        rfl

theorem read_of_emptyFills_eq_none {source : BufferedZipSource State} {len : Nat}
    (fills : source.Fills len) {count : Nat}
    (ended : emptyFills provider (toUInt64 source.offset) source.bufferFill count
      source.dataProvider = none) : ∃ fuel, (read provider fuel source len).isSome := by
  induction count generalizing source with
  | zero => cases ended
  | succ count induction =>
      rw [emptyFills] at ended
      cases dryFill : emptyFill provider (toUInt64 source.offset) source.bufferFill
          source.dataProvider with
      | none =>
          rcases read_of_emptyFill fills 0 with ⟨dataProvider, isSome, -⟩ | ⟨-, returns⟩
          · rw [dryFill] at isSome
            cases isSome
          · exact ⟨2, returns⟩
      | some dataProvider =>
          rw [dryFill] at ended
          rcases induction (fills_filled_nil fills dataProvider) ended with ⟨fuel, returns⟩
          refine ⟨fuel + 1, ?_⟩
          rcases read_of_emptyFill fills fuel with ⟨other, sameFill, again⟩ | ⟨answered, -⟩
          · rw [dryFill] at sameFill
            rw [again, ← Option.some.inj sameFill]
            exact returns
          · rw [dryFill] at answered
            cases answered

/-- `Read` returns unless it fills its buffer from a provider that has run dry. -/
theorem read_returns_iff (provider : ReaderSeeker State) (source : BufferedZipSource State)
    (len : Nat) :
    (∃ fuel, (read provider fuel source len).isSome) ↔
      ¬ (source.Fills len ∧ RunsDry provider source) := by
  constructor
  · intro returns never
    rcases returns with ⟨fuel, returns⟩
    rw [read_of_runsDry never.1 never.2] at returns
    cases returns
  · intro notDry
    by_cases fills : source.Fills len
    · have ends : ∃ count, emptyFills provider (toUInt64 source.offset) source.bufferFill count
          source.dataProvider = none := by
        apply Classical.byContradiction
        intro never
        exact notDry ⟨fills, fun count ended => never ⟨count, ended⟩⟩
      rcases ends with ⟨count, ended⟩
      exact read_of_emptyFills_eq_none fills ended
    · refine ⟨1, ?_⟩
      rw [read_of_not_fills fills]
      split
      · rfl
      · split
        · rfl
        · rfl

/-- A download that was cut off: the data ends before the size that was declared. -/
def cutOff (declared : Nat) (data : Bytes) : ReaderSeeker Nat where
  read position count :=
    (.ok (data.readAt position count), position + (data.readAt position count).length)
  seekSet _ offset := (.ok offset, offset)
  seekCur position offset := (.ok (toUInt64 (position + offset)), toUInt64 (position + offset))
  seekEnd _ offset := (.ok (toUInt64 (declared + offset)), toUInt64 (declared + offset))
  pread _ count offset := .ok (data.readAt offset count)

/-- Nothing has arrived of the one byte that was declared. -/
theorem read_cutOff_never_returns :
    ∃ source, create (cutOff 1 []) 0 1 = .ok source ∧
      ¬ ∃ fuel, (read (cutOff 1 []) fuel source 1).isSome := by
  refine ⟨⟨0, [0], 1, 0, 0, 0⟩, rfl, ?_⟩
  intro returns
  rcases returns with ⟨fuel, returns⟩
  have fills : Fills (⟨0, [0], 1, 0, 0, 0⟩ : BufferedZipSource Nat) 1 :=
    ⟨Nat.le_refl 1, rfl, by decide⟩
  have dry : RunsDry (cutOff 1 []) ⟨0, [0], 1, 0, 0, 0⟩ := by
    intro count
    induction count with
    | zero => exact Option.some_ne_none _
    | succ count induction => exact induction
  rw [read_of_runsDry fills dry] at returns
  cases returns

/-! ## Providers whose calls fail -/

def watched (provider : ReaderSeeker State) : ReaderSeeker (State × Bool) where
  read state count :=
    let (outcome, next) := provider.read state.1 count
    (outcome, next, state.2 || !outcome.isOk)
  seekSet state offset :=
    let (outcome, next) := provider.seekSet state.1 offset
    (outcome, next, state.2 || !outcome.isOk)
  seekCur state offset :=
    let (outcome, next) := provider.seekCur state.1 offset
    (outcome, next, state.2 || !outcome.isOk)
  seekEnd state offset :=
    let (outcome, next) := provider.seekEnd state.1 offset
    (outcome, next, state.2 || !outcome.isOk)
  pread state := provider.pread state.1

theorem watched_read {dataProvider next : State} {failed noted : Bool} {count : Nat}
    {outcome : Result Bytes} (answers : provider.read dataProvider count = (outcome, next))
    (notes : (failed || !outcome.isOk) = noted) :
    (watched provider).read (dataProvider, failed) count = (outcome, next, noted) := by
  simp only [watched, answers, notes]

theorem watched_seekSet {dataProvider next : State} {failed noted : Bool} {offset : Nat}
    {outcome : Result Nat} (answers : provider.seekSet dataProvider offset = (outcome, next))
    (notes : (failed || !outcome.isOk) = noted) :
    (watched provider).seekSet (dataProvider, failed) offset = (outcome, next, noted) := by
  simp only [watched, answers, notes]

def withProvider {Other : Type} (source : BufferedZipSource State) (dataProvider : Other) :
    BufferedZipSource Other where
  dataProvider := dataProvider
  buffer := source.buffer
  size := source.size
  offset := source.offset
  offsetInBuffer := source.offsetInBuffer
  bufferRemaining := source.bufferRemaining

def watch (source : BufferedZipSource State) (failed : Bool) : BufferedZipSource (State × Bool) :=
  source.withProvider (source.dataProvider, failed)

def unwatch (source : BufferedZipSource (State × Bool)) : BufferedZipSource State :=
  source.withProvider source.dataProvider.1

theorem fills_watch {source : BufferedZipSource State} {failed : Bool} {len : Nat} :
    (source.watch failed).Fills len ↔ source.Fills len :=
  ⟨fun fills => ⟨fills.fits, fills.empty, fills.left⟩,
    fun fills => ⟨fills.fits, fills.empty, fills.left⟩⟩

theorem read_watch_of_fills {source : BufferedZipSource State} {len : Nat}
    (fills : source.Fills len) (failed : Bool) (fuel : Nat) :
    read (watched provider) (fuel + 1) (source.watch failed) len =
      match provider.seekSet source.dataProvider (toUInt64 source.offset) with
      | (.error _, dataProvider) => some (none, source.withProvider (dataProvider, true))
      | (.ok _, dataProvider) =>
          match provider.read dataProvider source.bufferFill with
          | (.error _, dataProvider) => some (none, source.withProvider (dataProvider, true))
          | (.ok bytes, dataProvider) =>
              read (watched provider) fuel ((source.filled dataProvider bytes).watch failed) len := by
  rw [read_of_fills (fills_watch.mpr fills)]
  rcases sought : provider.seekSet source.dataProvider (toUInt64 source.offset) with
    ⟨failure | position, atOffset⟩
  · have noted : (watched provider).seekSet (source.watch failed).dataProvider
        (toUInt64 (source.watch failed).offset) = (.error failure, atOffset, true) :=
      watched_seekSet sought (Bool.or_true failed)
    rw [noted]
    rfl
  have seeks : (watched provider).seekSet (source.watch failed).dataProvider
      (toUInt64 (source.watch failed).offset) = (.ok position, atOffset, failed) :=
    watched_seekSet sought (Bool.or_false failed)
  rcases answer : provider.read atOffset source.bufferFill with ⟨failure | bytes, next⟩
  · have noted : (watched provider).read (atOffset, failed) (source.watch failed).bufferFill =
        (.error failure, next, true) := watched_read answer (Bool.or_true failed)
    simp only [seeks, noted, answer]
    rfl
  · have reads : (watched provider).read (atOffset, failed) (source.watch failed).bufferFill =
        (.ok bytes, next, failed) := watched_read answer (Bool.or_false failed)
    simp only [seeks, reads, answer]
    rfl

theorem readBypass_watch (source : BufferedZipSource State) (failed : Bool) (len : Nat) :
    readBypass (watched provider) (source.watch failed) len =
      match provider.seekSet source.dataProvider (toUInt64 source.offset) with
      | (.error _, dataProvider) =>
          (some [], { source with bufferRemaining := 0 }.withProvider (dataProvider, true))
      | (.ok _, dataProvider) =>
          match provider.read dataProvider len with
          | (.error _, dataProvider) =>
              (none, { source with bufferRemaining := 0 }.withProvider (dataProvider, true))
          | (.ok bytes, dataProvider) =>
              (some bytes, { source with
                bufferRemaining := 0
                offset := source.offset + bytes.length }.withProvider (dataProvider, failed)) := by
  rw [readBypass]
  rcases sought : provider.seekSet source.dataProvider (toUInt64 source.offset) with
    ⟨failure | position, atOffset⟩
  · have noted : (watched provider).seekSet (source.watch failed).dataProvider
        (toUInt64 (source.watch failed).offset) = (.error failure, atOffset, true) :=
      watched_seekSet sought (Bool.or_true failed)
    simp only [noted]
    rfl
  have seeks : (watched provider).seekSet (source.watch failed).dataProvider
      (toUInt64 (source.watch failed).offset) = (.ok position, atOffset, failed) :=
    watched_seekSet sought (Bool.or_false failed)
  rcases answer : provider.read atOffset len with ⟨failure | bytes, next⟩
  · have noted : (watched provider).read (atOffset, failed) len = (.error failure, next, true) :=
      watched_read answer (Bool.or_true failed)
    simp only [seeks, noted, answer]
    rfl
  · have reads : (watched provider).read (atOffset, failed) len = (.ok bytes, next, failed) :=
      watched_read answer (Bool.or_false failed)
    simp only [seeks, reads, answer]
    rfl

theorem read_watch (fuel : Nat) (source : BufferedZipSource State) (failed : Bool) (len : Nat) :
    (read (watched provider) fuel (source.watch failed) len).map
        (fun answer => (answer.1, answer.2.unwatch)) = read provider fuel source len := by
  induction fuel generalizing source with
  | zero => rfl
  | succ fuel induction =>
      by_cases fills : source.Fills len
      · rw [read_watch_of_fills fills, read_of_fills fills]
        rcases provider.seekSet source.dataProvider (toUInt64 source.offset) with
          ⟨failure | position, atOffset⟩
        · rfl
        dsimp only
        rcases provider.read atOffset source.bufferFill with ⟨failure | bytes, next⟩
        · rfl
        · exact induction (source.filled next bytes)
      · rw [read_of_not_fills (mt fills_watch.mp fills), read_of_not_fills fills]
        change Option.map _ (if source.buffer.length < len then _ else _) = _
        split
        · rw [readBypass_watch, readBypass]
          rcases provider.seekSet source.dataProvider (toUInt64 source.offset) with
            ⟨failure | position, atOffset⟩
          · rfl
          dsimp only
          rcases provider.read atOffset len with ⟨failure | bytes, next⟩
          · rfl
          · rfl
        · change Option.map _ (if 0 < source.bufferRemaining then _ else _) = _
          split
          · rfl
          · rfl

/-- If a call of the data provider fails, then `Read` returns -1. -/
def ReportsFailures (provider : ReaderSeeker State) (source : BufferedZipSource State)
    (len : Nat) : Prop :=
  ∀ fuel answer next, read (watched provider) fuel (source.watch false) len = some (answer, next) →
    next.dataProvider.2 = true → answer = none

/-- The request is larger than the buffer, and the seek in front of it fails. -/
def BypassSeekFails (provider : ReaderSeeker State) (source : BufferedZipSource State)
    (len : Nat) : Prop :=
  source.buffer.length < len ∧
    (provider.seekSet source.dataProvider (toUInt64 source.offset)).1.isOk = false

theorem readBypass_reports {source : BufferedZipSource State} {len : Nat} :
    (provider.seekSet source.dataProvider (toUInt64 source.offset)).1.isOk = true →
      (readBypass (watched provider) (source.watch false) len).2.dataProvider.2 = true →
        (readBypass (watched provider) (source.watch false) len).1 = none := by
  rw [readBypass_watch]
  rcases provider.seekSet source.dataProvider (toUInt64 source.offset) with
    ⟨failure | position, atOffset⟩
  · intro seeks
    cases seeks
  dsimp only
  rcases provider.read atOffset len with ⟨failure | bytes, next⟩
  · exact fun _ _ => rfl
  · intro _ noted
    cases noted

theorem reportsFailures_of_seeks {source : BufferedZipSource State} {len : Nat}
    (notFails : ¬ BypassSeekFails provider source len) : ReportsFailures provider source len := by
  intro fuel answer next
  induction fuel generalizing source with
  | zero =>
      intro answered
      cases answered
  | succ fuel induction =>
      by_cases fills : source.Fills len
      · rw [read_watch_of_fills fills]
        rcases provider.seekSet source.dataProvider (toUInt64 source.offset) with
          ⟨failure | position, atOffset⟩
        · intro answered _
          cases answered
          rfl
        dsimp only
        rcases provider.read atOffset source.bufferFill with ⟨failure | bytes, sought⟩
        · intro answered _
          cases answered
          rfl
        · apply induction
          intro fails
          have longer := fails.1
          have fits := fills.fits
          rw [filled, List.length_append, List.length_drop] at longer
          omega
      · rw [read_of_not_fills (mt fills_watch.mp fills)]
        change (if source.buffer.length < len then _ else _) = _ → _
        split
        · next large =>
            intro answered noted
            have reported := @readBypass_reports _ provider source len
            rw [Option.some.inj answered] at reported
            apply reported _ noted
            cases seeks : (provider.seekSet source.dataProvider (toUInt64 source.offset)).1.isOk with
            | true => rfl
            | false => exact absurd ⟨large, seeks⟩ notFails
        · intro answered noted
          split at answered
          · cases answered
            cases noted
          · cases answered
            cases noted

/-- `Read` reports every failure of its data provider but that of the seek in front of a read
around the buffer. -/
theorem read_reports_failures_iff (provider : ReaderSeeker State) (source : BufferedZipSource State)
    (len : Nat) : ReportsFailures provider source len ↔ ¬ BypassSeekFails provider source len := by
  constructor
  · intro reports fails
    rcases sought : provider.seekSet source.dataProvider (toUInt64 source.offset) with
      ⟨failure | position, atOffset⟩
    · have notFills : ¬ (source.watch false).Fills len :=
        fun fills => Nat.not_lt.mpr fills.fits fails.1
      have answered := @read_of_not_fills _ (watched provider) _ _ notFills 0
      have large : (source.watch false).buffer.length < len := fails.1
      rw [if_pos large, readBypass_watch, sought] at answered
      cases reports 1 _ _ answered rfl
    · have failed := fails.2
      rw [sought] at failed
      cases failed
  · exact reportsFailures_of_seeks

/-- A provider of four bytes that answers this many calls before its connection is lost. -/
def lossy : ReaderSeeker Nat where
  read calls count := if calls = 0 then (.error (.err "read"), 0) else
    (.ok (Bytes.zeros (min count 4)), calls - 1)
  seekSet calls offset := if calls = 0 then (.error (.err "seek"), 0) else (.ok offset, calls - 1)
  seekCur calls _ := if calls = 0 then (.error (.err "seek"), 0) else (.ok 0, calls - 1)
  seekEnd calls _ := if calls = 0 then (.error (.err "seek"), 0) else (.ok 4, calls - 1)
  pread calls _ _ := if calls = 0 then .error (.err "pread") else .ok []

/-- The connection is lost behind the calls of `Create`, and a read of more than the buffer
returns 0 at the start of the four bytes. -/
theorem read_lossy_returns_zero :
    ∃ source, create lossy 3 2 = .ok source ∧
      ¬ ReportsFailures lossy source 3 := by
  refine ⟨⟨0, [0, 0], 4, 0, 0, 0⟩, rfl, ?_⟩
  intro reports
  have answered : read (watched lossy) 1 (watch ⟨0, [0, 0], 4, 0, 0, 0⟩ false) 3 =
      some (some [], ⟨(0, true), [0, 0], 4, 0, 0, 0⟩) := rfl
  cases reports 1 _ _ answered rfl

end Cuttlefish.Zip.BufferedZipSource
