import Cuttlefish.Foundation.MachineInt
import Cuttlefish.Io.FileCursor

/-! # Sources of zip archives

`SeekableZipSourceCallback` and the function that libzip calls for such a source,
`HandleCallback` of `seekable_source.cc` and of `readable_source.cc`. What libzip
itself computes is a parameter. -/

namespace Cuttlefish.Zip

/-- `SeekableZipSourceCallback`. `Read` returns bytes, or `none` for -1; the outer
`none` stands for a call that does not return. -/
structure SeekableZipSourceCallback (State : Type) where
  close : State → Bool × State
  open_ : State → Bool × State
  read : State → (len : Nat) → Option (Option Bytes × State)
  size : State → Nat
  setOffset : State → (offset : Int) → Bool × State
  offset : State → Int

/-- `zip_error_t`. -/
structure ZipError where
  zipErr : Int
  sysErr : Int
  deriving DecidableEq, Repr

/-- `zip_source_args_seek_t`. -/
structure SeekArgs where
  offset : Int
  whence : Int
  deriving DecidableEq, Repr

def seekSetWhence : Int := 0
def seekCurWhence : Int := 1
def seekEndWhence : Int := 2

/-- The absolute position a seek asks for; none for an unknown `whence`. -/
def SeekArgs.target (args : SeekArgs) (offset : Int) (length : Nat) : Option Int :=
  if args.whence = seekSetWhence then some args.offset
  else if args.whence = seekCurWhence then some (offset + args.offset)
  else if args.whence = seekEndWhence then some (length + args.offset)
  else none

/-- The functions of libzip that the callbacks use, and `errno`. The offset is
handed over as `zip_uint64_t` and converted back; the bitmap is that of the
supported commands. -/
structure Libzip where
  seekComputeOffset : (offset : Int) → (length : Nat) → SeekArgs → ZipError → Int × ZipError
  makeCommandBitmap : Int
  errorToData : ZipError → Int × Bytes
  errno : Int

/-- What the documentation of `zip_source_seek_compute_offset` says. -/
structure Libzip.ComputesOffset (libzip : Libzip) : Prop where
  inRange : ∀ (offset : Int) (length : Nat) (args : SeekArgs) (error : ZipError) (target : Int),
    args.target offset length = some target → 0 ≤ target → target ≤ length →
    libzip.seekComputeOffset offset length args error = (target, error)
  outOfRange : ∀ (offset : Int) (length : Nat) (args : SeekArgs) (error : ZipError),
    (∀ target, args.target offset length = some target → ¬ (0 ≤ target ∧ target ≤ length)) →
    (libzip.seekComputeOffset offset length args error).1 = -1 ∧
      (libzip.seekComputeOffset offset length args error).2.zipErr ≠ 0

def zipErSeek : Int := 4
def zipErRead : Int := 5
def zipErOpen : Int := 11
def zipErOpNotSupp : Int := 28
def zipErClose : Int := 3
def einval : Int := 22

inductive Cmd
  | close
  | error
  | open_
  | read (len : Nat)
  | seek (args : SeekArgs)
  | stat
  | supports
  | tell
  | other
  deriving DecidableEq, Repr

/-- What the callback returns, what it leaves in the error, and the bytes or the
size it stores in its data. -/
structure Reply where
  result : Int
  error : ZipError
  data : Bytes
  size : Option Nat
  deriving DecidableEq, Repr

def Reply.plain (result : Int) (error : ZipError) : Reply := ⟨result, error, [], none⟩

variable {State : Type}

def boolReply (libzip : Libzip) (code : Int) (error : ZipError) (outcome : Bool × State) :
    Reply × State :=
  if outcome.1 then (.plain 0 error, outcome.2)
  else (.plain (-1) ⟨code, libzip.errno⟩, outcome.2)

def handleCallback (libzip : Libzip) (callbacks : SeekableZipSourceCallback State)
    (error : ZipError) (state : State) : Cmd → Option (Reply × State)
  | .seek args =>
      let (newOffset, error) := libzip.seekComputeOffset (callbacks.offset state)
        (callbacks.size state) args error
      some (boolReply libzip zipErSeek error (callbacks.setOffset state newOffset))
  | .supports => some (.plain libzip.makeCommandBitmap error, state)
  | .tell => some (.plain (callbacks.offset state) error, state)
  | .close => some (boolReply libzip zipErClose error (callbacks.close state))
  | .error =>
      let (result, data) := libzip.errorToData error
      some (⟨result, error, data, none⟩, state)
  | .open_ => some (boolReply libzip zipErOpen error (callbacks.open_ state))
  | .read len =>
      match callbacks.read state len with
      | none => none
      | some (none, state) => some (.plain (-1) ⟨zipErRead, libzip.errno⟩, state)
      | some (some bytes, state) => some (⟨bytes.length, error, bytes, none⟩, state)
  | .stat => some (⟨0, error, [], some (callbacks.size state)⟩, state)
  | .other => some (.plain (-1) ⟨zipErOpNotSupp, einval⟩, state)

/-! ## Sources as cursors -/

/-- The calls that move or read a source. -/
inductive SourceCall
  | open_
  | close
  | setOffset (offset : Nat)
  | read (len : Nat)
  deriving DecidableEq, Repr

namespace SourceCall

open Io

def meaning : SourceCall → FileCall
  | open_ => .rewind
  | close => .rewind
  | setOffset offset => .seekSet offset
  | read len => .read len

/-- Make the call; after a seek the source is asked for its offset. A call that
fails or does not return has no answer. -/
def make (callbacks : SeekableZipSourceCallback State) (state : State) :
    SourceCall → Option (FileAnswer × State)
  | open_ =>
      match callbacks.open_ state with
      | (true, state) => some (.done, state)
      | (false, _) => none
  | close =>
      match callbacks.close state with
      | (true, state) => some (.done, state)
      | (false, _) => none
  | setOffset offset =>
      match callbacks.setOffset state offset with
      | (true, state) => some (.moved (callbacks.offset state).toNat, state)
      | (false, _) => none
  | read len =>
      match callbacks.read state len with
      | some (some bytes, state) => some (.bytes bytes, state)
      | _ => none

end SourceCall

end Cuttlefish.Zip
