import Cuttlefish.Zip.BufferedZipSource
import Cuttlefish.Zip.CachedZipSource

/-! # Seeks of zip sources

What `ZIP_SOURCE_SEEK` does to the three implementations of
`SeekableZipSourceCallback`. All of them accept the -1 that libzip computes for a
position outside the source. -/

namespace Cuttlefish.Zip

open Io
open Io.LazilyLoadedFile (sampleContentsIo)

variable {State : Type}

/-! ## Remote sources -/

/-- `RemoteZip`, without what its requests are made of. -/
structure RemoteZip where
  offset : Nat
  size : Nat
  deriving DecidableEq, Repr

namespace RemoteZip

/-- What an HTTP request for a range of bytes hands to its callback: data, or the
start of another attempt. None stands for a request that fails. -/
abbrev Download := (first last : Nat) → Option (List (Option Bytes))

def collect (zipLen : Nat) : (already : Bytes) → List (Option Bytes) → Option Bytes
  | already, [] => some already
  | _, none :: rest => collect zipLen [] rest
  | already, some httpData :: rest =>
      if zipLen < httpData.length + already.length then none
      else collect zipLen (already ++ httpData) rest

def read (download : Download) (source : RemoteZip) (zipLen : Nat) : Option Bytes × RemoteZip :=
  match download source.offset (toUInt64 (source.offset + zipLen - 1)) with
  | none => (none, source)
  | some events =>
      match collect zipLen [] events with
      | none => (none, source)
      | some data =>
          if data.length ≠ zipLen then (none, source)
          else (some data, { source with offset := source.offset + data.length })

def callbacks (download : Download) : SeekableZipSourceCallback RemoteZip where
  close source := (true, source)
  open_ source := (true, { source with offset := 0 })
  read source zipLen := some (source.read download zipLen)
  size := size
  setOffset source offset := (true, { source with offset := toUInt64 offset })
  offset source := toInt64 source.offset

end RemoteZip

/-! ## What a seek leaves behind -/

variable {callbacks : SeekableZipSourceCallback State}

/-- The position that is asked for is a position of the source. -/
def SeekArgs.InRange (args : SeekArgs) (offset : Int) (size : Nat) : Prop :=
  ∃ target, args.target offset size = some target ∧ 0 ≤ target ∧ target ≤ size

/-- A seek to a position of the source succeeds and moves there; any other seek
returns -1 and does not move. -/
def SeekCorrect (libzip : Libzip) (callbacks : SeekableZipSourceCallback State)
    (error : ZipError) (state : State) (args : SeekArgs) : Prop :=
  ∃ reply next, handleCallback libzip callbacks error state (.seek args) = some (reply, next) ∧
    (∀ target, args.target (callbacks.offset state) (callbacks.size state) = some target →
      0 ≤ target → target ≤ callbacks.size state →
      reply.result = 0 ∧ callbacks.offset next = target) ∧
    (¬ args.InRange (callbacks.offset state) (callbacks.size state) →
      reply.result = -1 ∧ callbacks.offset next = callbacks.offset state)

def StoresOffset (callbacks : SeekableZipSourceCallback State) : Prop :=
  ∀ (state : State) (offset : Int), -9223372036854775808 ≤ offset →
    offset < 9223372036854775808 →
    ∃ next, callbacks.setOffset state offset = (true, next) ∧ callbacks.offset next = offset

theorem BufferedZipSource.storesOffset (provider : ReaderSeeker State) (fuel : Nat) :
    StoresOffset (BufferedZipSource.callbacks provider fuel) := by
  intro source offset _ _
  simp only [BufferedZipSource.callbacks, BufferedZipSource.setOffset]
  split
  · exact ⟨_, rfl, rfl⟩
  · exact ⟨_, rfl, rfl⟩

theorem CachedZipSource.storesOffset (reader : ReaderSeeker State) (io : ContentsIo) :
    StoresOffset (CachedZipSource.callbacks reader io) :=
  fun _ _ lower upper => ⟨_, rfl, toInt64_toUInt64 lower upper⟩

theorem RemoteZip.storesOffset (download : RemoteZip.Download) :
    StoresOffset (RemoteZip.callbacks download) :=
  fun _ _ lower upper => ⟨_, rfl, toInt64_toUInt64 lower upper⟩

theorem StoresOffset.handleCallback_seek (stores : StoresOffset callbacks) {libzip : Libzip}
    {error : ZipError} {state : State} {args : SeekArgs} {computed : Int × ZipError}
    (isComputed : libzip.seekComputeOffset (callbacks.offset state) (callbacks.size state) args
      error = computed)
    (lower : -9223372036854775808 ≤ computed.1) (upper : computed.1 < 9223372036854775808) :
    ∃ next, handleCallback libzip callbacks error state (.seek args) =
        some (.plain 0 computed.2, next) ∧ callbacks.offset next = computed.1 := by
  rcases stores state computed.1 lower upper with ⟨next, sets, isOffset⟩
  refine ⟨next, ?_, isOffset⟩
  simp only [handleCallback, isComputed, boolReply, sets, if_true]

theorem StoresOffset.seekCorrect_iff (stores : StoresOffset callbacks) {libzip : Libzip}
    (computes : libzip.ComputesOffset) (error : ZipError) {state : State}
    (fits : callbacks.size state ≤ Fs.maxFileSize) (args : SeekArgs) :
    SeekCorrect libzip callbacks error state args ↔
      args.InRange (callbacks.offset state) (callbacks.size state) := by
  rw [Fs.maxFileSize] at fits
  constructor
  · intro correct
    rcases correct with ⟨reply, next, answered, -, outside⟩
    -- Outside the source libzip computes -1, which is stored like any other offset.
    apply Classical.byContradiction
    intro outOfRange
    have computed := computes.outOfRange (callbacks.offset state) (callbacks.size state) args
      error (fun target isTarget bounds => outOfRange ⟨target, isTarget, bounds⟩)
    generalize isComputed : libzip.seekComputeOffset (callbacks.offset state)
      (callbacks.size state) args error = offset at computed
    rcases stores.handleCallback_seek isComputed (by omega) (by omega) with ⟨stored, seeks, -⟩
    rw [answered, Option.some.injEq, Prod.mk.injEq] at seeks
    have failed := (outside outOfRange).1
    rw [seeks.1] at failed
    cases failed
  · intro inRange
    rcases inRange with ⟨target, isTarget, lower, upper⟩
    have computed := computes.inRange _ _ args error target isTarget lower upper
    rcases stores.handleCallback_seek computed (by omega) (by omega) with
      ⟨next, seeks, isOffset⟩
    refine ⟨_, next, seeks, ?_, ?_⟩
    · intro other isOther _ _
      rw [isTarget, Option.some.injEq] at isOther
      exact ⟨rfl, isOther ▸ isOffset⟩
    · intro outOfRange
      exact absurd ⟨target, isTarget, lower, upper⟩ outOfRange

/-- Each of the sources answers a seek as it should exactly when the position that is
asked for is one of the source. -/
theorem seek_correct_iff_in_range {libzip : Libzip} (computes : libzip.ComputesOffset)
    (error : ZipError) (args : SeekArgs) :
    (∀ (Provider : Type) (provider : ReaderSeeker Provider) (fuel : Nat)
        (source : BufferedZipSource Provider), source.size ≤ Fs.maxFileSize →
        (SeekCorrect libzip (BufferedZipSource.callbacks provider fuel) error source args ↔
          args.InRange source.offset source.size)) ∧
      (∀ (Source : Type) (reader : ReaderSeeker Source) (io : ContentsIo)
        (source : CachedZipSource Source), source.size ≤ Fs.maxFileSize →
        (SeekCorrect libzip (CachedZipSource.callbacks reader io) error source args ↔
          args.InRange (toInt64 source.offset) source.size)) ∧
      (∀ (download : RemoteZip.Download) (source : RemoteZip),
        source.size ≤ Fs.maxFileSize →
        (SeekCorrect libzip (RemoteZip.callbacks download) error source args ↔
          args.InRange (toInt64 source.offset) source.size)) := by
  refine ⟨?_, ?_, ?_⟩
  · intro Provider provider fuel source fits
    exact (BufferedZipSource.storesOffset provider fuel).seekCorrect_iff computes error fits args
  · intro Source reader io source fits
    exact (CachedZipSource.storesOffset reader io).seekCorrect_iff computes error fits args
  · intro download source fits
    exact (RemoteZip.storesOffset download).seekCorrect_iff computes error fits args

def sampleLibzip : Libzip where
  seekComputeOffset offset length args error :=
    match args.target offset length with
    | none => (-1, ⟨18, 0⟩)
    | some target =>
        if target < 0 ∨ (length : Int) < target then (-1, ⟨18, 0⟩) else (target, error)
  makeCommandBitmap := 0
  errorToData _ := (0, [])
  errno := 0

theorem sampleLibzip_computes : sampleLibzip.ComputesOffset where
  inRange offset length args error target isTarget lower upper := by
    simp only [sampleLibzip, isTarget]
    rw [if_neg (by omega)]
  outOfRange offset length args error outside := by
    simp only [sampleLibzip]
    cases isTarget : args.target offset length with
    | none => exact ⟨rfl, fun isZero => by cases isZero⟩
    | some target =>
        have notBoth := outside target isTarget
        dsimp only
        rw [if_pos (by omega)]
        exact ⟨rfl, fun isZero => by cases isZero⟩

def sampleBuffered : BufferedZipSource InMemoryIo where
  dataProvider := .ofData [1, 2, 3]
  buffer := Bytes.zeros 2
  size := 3
  offset := 1
  offsetInBuffer := 0
  bufferRemaining := 0

def sampleCached : CachedZipSource InMemoryIo where
  source :=
    { contentsFile := ⟨[], 0⟩, metadataFile := [], callback := .ofData [1, 2, 3],
      alreadyDownloaded := .empty, seekPos := 0, size := 3 }
  offset := 1
  size := 3

theorem seek_correct_iff_in_range_sample :
    SeekCorrect sampleLibzip (BufferedZipSource.callbacks InMemoryIo.reader 2) ⟨0, 0⟩
        sampleBuffered ⟨1, seekCurWhence⟩ ∧
      SeekCorrect sampleLibzip (CachedZipSource.callbacks InMemoryIo.reader sampleContentsIo)
        ⟨0, 0⟩ sampleCached ⟨1, seekCurWhence⟩ := by
  rcases seek_correct_iff_in_range sampleLibzip_computes ⟨0, 0⟩ ⟨1, seekCurWhence⟩ with
    ⟨buffered, cached, -⟩
  constructor
  · exact (buffered InMemoryIo InMemoryIo.reader 2 sampleBuffered (by decide)).mpr
      ⟨2, by decide, by decide, by decide⟩
  · exact (cached InMemoryIo InMemoryIo.reader sampleContentsIo sampleCached (by decide)).mpr
      ⟨2, by decide, by decide, by decide⟩

/-- A seek to the fifth of three bytes returns 0. -/
theorem seek_past_end_returns_zero :
    ¬ SeekCorrect sampleLibzip (BufferedZipSource.callbacks InMemoryIo.reader 2) ⟨0, 0⟩
        sampleBuffered ⟨5, seekSetWhence⟩ ∧
      ¬ SeekCorrect sampleLibzip
        (CachedZipSource.callbacks InMemoryIo.reader sampleContentsIo) ⟨0, 0⟩ sampleCached
        ⟨5, seekSetWhence⟩ := by
  have outside : ¬ SeekArgs.InRange ⟨5, seekSetWhence⟩ 1 3 := by
    intro inRange
    rcases inRange with ⟨target, isTarget, -, upper⟩
    cases isTarget
    exact absurd upper (by decide)
  constructor
  · exact fun correct => outside (((BufferedZipSource.storesOffset InMemoryIo.reader
      2).seekCorrect_iff sampleLibzip_computes ⟨0, 0⟩ (by decide) _).mp correct)
  · exact fun correct => outside (((CachedZipSource.storesOffset InMemoryIo.reader
      sampleContentsIo).seekCorrect_iff sampleLibzip_computes ⟨0, 0⟩ (by decide) _).mp correct)

end Cuttlefish.Zip
