import Cuttlefish.Foundation.Bytes

/-! # Splitting the input of a client into commands

`ChannelMonitor::ReadCommand` of `channel_monitor.cpp`. The buffer is handled as a C
string: a read that fills it leaves no NUL in it, and what the memory behind the
buffer holds is appended to the command. -/

namespace Cuttlefish.ModemSimulator

structure Modem (State : Type) where
  isWaitingSmsPdu : State → Bool
  dispatchCommand : State → (command : Bytes) → State

structure Client where
  isRemote : Bool
  firstReadCommand : Bool
  isOpen : Bool
  incompleteCommand : Bytes
  deriving DecidableEq, Repr

/-- The bytes of one `read(2)`, and the memory behind the buffer at that moment. -/
structure ClientRead where
  bytes : Bytes
  behind : Bytes
  deriving DecidableEq, Repr

/-- What `read(2)` returns: bytes, or an error or the end of the input. -/
inductive ReadOutcome
  | read (read : ClientRead)
  | failed (isAgain : Bool)
  deriving DecidableEq, Repr

structure Channel (State : Type) where
  client : Client
  modem : State
  dispatched : List Bytes
  deriving DecidableEq, Repr

namespace ChannelMonitor

variable {State : Type}

def maxCommandLength : Nat := 4096

def carriageReturn : UInt8 := 13
def lineFeed : UInt8 := 10
def ctrlZ : UInt8 := 26

def cString (memory : Bytes) : Bytes := memory.takeWhile (· ≠ 0)

def bufferString (read : ClientRead) : Bytes :=
  cString (read.bytes ++ Bytes.zeros (maxCommandLength - read.bytes.length) ++ read.behind)

def replaceLineFeed (byte : UInt8) : UInt8 :=
  if byte = lineFeed then carriageReturn else byte

def replaceLineFeeds (commands : Bytes) : Bytes := commands.map replaceLineFeed

def terminator (modem : Modem State) (state : State) : UInt8 :=
  if modem.isWaitingSmsPdu state then ctrlZ else carriageReturn

def dispatch (modem : Modem State) (state : State) (command : Bytes) : State × List Bytes :=
  if command = [] then (state, []) else (modem.dispatchCommand state command, [command])

/-- The loop of `ReadCommand` from a position on: the next state of the modem, the
commands that were dispatched, and the incomplete one. -/
def split (modem : Modem State) : (fuel : Nat) → State → Bytes → State × List Bytes × Bytes
  | 0, state, commands => (state, [], commands)
  | fuel + 1, state, commands =>
      let last := terminator modem state
      let command := commands.takeWhile (· ≠ last)
      if last ∈ commands then
        let (state, dispatched) := dispatch modem state command
        let (state, later, incomplete) :=
          split modem fuel state (commands.drop (command.length + 1))
        (state, dispatched ++ later, incomplete)
      else (state, [], commands)

def readCommand (modem : Modem State) (channel : Channel State) :
    ReadOutcome → Channel State
  | .failed isAgain =>
      if isAgain && channel.client.isRemote && channel.client.firstReadCommand then channel
      else { channel with client := { channel.client with isOpen := false } }
  | .read read =>
      let commands :=
        replaceLineFeeds (cString channel.client.incompleteCommand ++ bufferString read)
      let (state, dispatched, incomplete) :=
        split modem (commands.length + 1) channel.modem commands
      { client := { channel.client with incompleteCommand := incomplete }
        modem := state
        dispatched := channel.dispatched ++ dispatched }

def readCommands (modem : Modem State) (channel : Channel State) (reads : List ClientRead) :
    Channel State :=
  reads.foldl (fun channel read => readCommand modem channel (.read read)) channel

/-! ## Byte by byte -/

def feedByte (modem : Modem State) (channel : Channel State) (byte : UInt8) : Channel State :=
  if replaceLineFeed byte = terminator modem channel.modem then
    let (state, dispatched) := dispatch modem channel.modem channel.client.incompleteCommand
    { client := { channel.client with incompleteCommand := [] }
      modem := state
      dispatched := channel.dispatched ++ dispatched }
  else
    { channel with
      client :=
        { channel.client with
          incompleteCommand := channel.client.incompleteCommand ++ [replaceLineFeed byte] } }

def feed (modem : Modem State) (channel : Channel State) (bytes : Bytes) : Channel State :=
  bytes.foldl (feedByte modem) channel

theorem feed_append (modem : Modem State) (channel : Channel State) (front back : Bytes) :
    feed modem channel (front ++ back) = feed modem (feed modem channel front) back :=
  List.foldl_append

/-- The incomplete command is a C string that the loop has gone through. -/
structure Settled (modem : Modem State) (channel : Channel State) : Prop where
  noNul : 0 ∉ channel.client.incompleteCommand
  noLineFeed : lineFeed ∉ channel.client.incompleteCommand
  noTerminator : terminator modem channel.modem ∉ channel.client.incompleteCommand

variable {modem : Modem State} {channel : Channel State}

theorem Settled.empty {client : Client} (state : State) (dispatched : List Bytes)
    (isEmpty : client.incompleteCommand = []) :
    Settled modem ⟨client, state, dispatched⟩ := by
  constructor
  all_goals simp [isEmpty]

theorem Settled.feedByte (settled : Settled modem channel) {byte : UInt8} (notNul : byte ≠ 0) :
    Settled modem (feedByte modem channel byte) := by
  rw [ChannelMonitor.feedByte]
  split
  · exact .empty _ _ rfl
  · rename_i other
    have replaced : replaceLineFeed byte ≠ 0 ∧ replaceLineFeed byte ≠ lineFeed := by
      rw [replaceLineFeed]
      split
      · decide
      · exact ⟨notNul, ‹_›⟩
    constructor
    · simpa [settled.noNul] using replaced.1.symm
    · simpa [settled.noLineFeed] using replaced.2.symm
    · simpa [settled.noTerminator] using fun same => other same.symm

theorem Settled.feed {bytes : Bytes} (settled : Settled modem channel) (noNul : 0 ∉ bytes) :
    Settled modem (feed modem channel bytes) := by
  induction bytes generalizing channel with
  | nil => exact settled
  | cons byte bytes induction =>
      rw [List.mem_cons, not_or] at noNul
      exact induction (settled.feedByte (Ne.symm noNul.1)) noNul.2

/-! ## The loop finds the commands of the bytes -/

def Channel.extend (channel : Channel State) (found : State × List Bytes × Bytes) :
    Channel State where
  client := { channel.client with incompleteCommand := found.2.2 }
  modem := found.1
  dispatched := channel.dispatched ++ found.2.1

theorem split_terminated {state : State} {front : Bytes} (fuel : Nat) (back : Bytes)
    (noTerminator : terminator modem state ∉ front) :
    split modem (fuel + 1) state (front ++ terminator modem state :: back) =
      let (next, dispatched) := dispatch modem state front
      let (final, later, incomplete) := split modem fuel next back
      (final, dispatched ++ later, incomplete) := by
  have others : ∀ byte ∈ front, decide (byte ≠ terminator modem state) = true := by
    intro byte member
    exact decide_eq_true fun same => noTerminator (same ▸ member)
  have command : (front ++ terminator modem state :: back).takeWhile
      (· ≠ terminator modem state) = front := by
    rw [List.takeWhile_append_of_pos others, List.takeWhile_cons_of_neg (by simp),
      List.append_nil]
  have rest : (front ++ terminator modem state :: back).drop (front.length + 1) = back := by
    rw [List.drop_append]
    simp
  rw [split]
  simp only [command, rest]
  rw [if_pos (by simp)]

theorem split_eq_feed (channel : Channel State) (bytes : Bytes) (fuel : Nat)
    (noTerminator : terminator modem channel.modem ∉ channel.client.incompleteCommand)
    (enough : bytes.length < fuel) :
    Channel.extend channel (split modem fuel channel.modem
        (channel.client.incompleteCommand ++ replaceLineFeeds bytes)) =
      feed modem channel bytes := by
  induction bytes generalizing channel fuel with
  | nil =>
      cases fuel with
      | zero => cases enough
      | succ fuel =>
          simp only [replaceLineFeeds, List.map_nil, List.append_nil, split]
          rw [if_neg noTerminator]
          simp [Channel.extend, feed]
  | cons byte bytes induction =>
      rw [List.length_cons] at enough
      simp only [replaceLineFeeds, List.map_cons, feed, List.foldl_cons] at induction ⊢
      by_cases ends : replaceLineFeed byte = terminator modem channel.modem
      · cases fuel with
        | zero => cases enough
        | succ fuel =>
            have cleared : (feedByte modem channel byte).client.incompleteCommand = [] := by
              simp [feedByte, ends]
            have later := induction (feedByte modem channel byte) fuel (by simp [cleared])
              (by omega)
            rw [← later, ends, split_terminated fuel _ noTerminator]
            simp [feedByte, ends, Channel.extend]
      · have added : (feedByte modem channel byte).client.incompleteCommand =
            channel.client.incompleteCommand ++ [replaceLineFeed byte] := by
          simp [feedByte, ends]
        have sameModem : (feedByte modem channel byte).modem = channel.modem := by
          simp [feedByte, ends]
        have stillNone : terminator modem (feedByte modem channel byte).modem ∉
            (feedByte modem channel byte).client.incompleteCommand := by
          rw [added, sameModem]
          simpa [noTerminator] using fun same => ends same.symm
        have later := induction (feedByte modem channel byte) fuel stillNone (by omega)
        rw [← later, added, sameModem, List.append_assoc, List.singleton_append]
        simp [feedByte, ends, Channel.extend]

theorem cString_of_noNul {bytes : Bytes} (noNul : 0 ∉ bytes) (rest : Bytes) :
    cString (bytes ++ rest) = bytes ++ cString rest := by
  apply List.takeWhile_append_of_pos
  intro byte member
  exact decide_eq_true fun isNul => noNul (isNul ▸ member)

theorem noNul_cString (memory : Bytes) : 0 ∉ cString memory := by
  intro member
  have kept := List.all_eq_true.mp List.all_takeWhile 0 member
  simp at kept

theorem readCommand_eq_feed (settled : Settled modem channel) (read : ClientRead) :
    readCommand modem channel (.read read) = feed modem channel (bufferString read) := by
  have cStringSame : cString channel.client.incompleteCommand =
      channel.client.incompleteCommand := by
    have kept := cString_of_noNul settled.noNul []
    simpa [cString] using kept
  have replaced : channel.client.incompleteCommand.map replaceLineFeed =
      channel.client.incompleteCommand := by
    have kept : ∀ byte ∈ channel.client.incompleteCommand, replaceLineFeed byte = id byte := by
      intro byte member
      have other : byte ≠ lineFeed := fun isLineFeed => settled.noLineFeed (isLineFeed ▸ member)
      rw [replaceLineFeed, if_neg other]
      rfl
    rw [List.map_congr_left kept, List.map_id]
  have found := split_eq_feed channel (bufferString read)
    (channel.client.incompleteCommand ++ replaceLineFeeds (bufferString read)).length.succ
    settled.noTerminator (by
      rw [List.length_append, replaceLineFeeds, List.length_map]
      omega)
  rw [← found]
  simp only [readCommand, cStringSame, replaceLineFeeds, List.map_append, replaced]
  rfl

theorem readCommands_eq_feed (settled : Settled modem channel) (reads : List ClientRead) :
    readCommands modem channel reads = feed modem channel (reads.flatMap bufferString) := by
  induction reads generalizing channel with
  | nil => rfl
  | cons read reads induction =>
      have step := readCommand_eq_feed settled read
      have settledNext := settled.feed (noNul_cString (read.bytes ++
        Bytes.zeros (maxCommandLength - read.bytes.length) ++ read.behind))
      rw [readCommands, List.foldl_cons, step, List.flatMap_cons, feed_append]
      exact induction settledNext

/-! ## Splits of a stream -/

/-- The ways a stream can arrive. -/
structure IsSplit (stream : Bytes) (reads : List Bytes) : Prop where
  joined : reads.flatten = stream
  lengths : ∀ read ∈ reads, 1 ≤ read.length ∧ read.length ≤ maxCommandLength

theorem bufferString_eq {read : ClientRead} (noNul : 0 ∉ read.bytes)
    (fits : read.bytes.length ≤ maxCommandLength) :
    bufferString read =
      read.bytes ++ if read.bytes.length < maxCommandLength then [] else cString read.behind := by
  rw [bufferString, List.append_assoc, cString_of_noNul noNul]
  split
  · rename_i short
    have gap : maxCommandLength - read.bytes.length =
        maxCommandLength - read.bytes.length - 1 + 1 := by omega
    rw [gap, Bytes.zeros, List.replicate_succ]
    rfl
  · have noGap : maxCommandLength - read.bytes.length = 0 := by omega
    rw [noGap]
    rfl

theorem noNul_of_mem_split {stream : Bytes} (noNul : 0 ∉ stream) {reads : List Bytes}
    (isSplit : IsSplit stream reads) {read : Bytes} (member : read ∈ reads) : 0 ∉ read :=
  fun isNul => noNul (isSplit.joined ▸ List.mem_flatten_of_mem member isNul)

theorem flatMap_bufferString {stream : Bytes} (noNul : 0 ∉ stream) {reads : List ClientRead}
    (isSplit : IsSplit stream (reads.map ClientRead.bytes))
    (clean : ∀ read ∈ reads,
      read.bytes.length < maxCommandLength ∨ cString read.behind = []) :
    reads.flatMap bufferString = stream := by
  have same : ∀ read ∈ reads, bufferString read = read.bytes := by
    intro read member
    have inSplit := List.mem_map_of_mem (f := ClientRead.bytes) member
    rw [bufferString_eq (noNul_of_mem_split noNul isSplit inSplit)
      (isSplit.lengths _ inSplit).2]
    rcases clean read member with short | nothing
    · rw [if_pos short, List.append_nil]
    · rw [nothing, ite_self, List.append_nil]
  rw [← isSplit.joined, List.flatMap_def, List.map_congr_left same]

/-! ## Counting a letter -/

def occurrences (byte : UInt8) (channel : Channel State) : Nat :=
  (channel.dispatched.flatten ++ channel.client.incompleteCommand).count byte

theorem flatten_dispatch (modem : Modem State) (state : State) (command : Bytes) :
    (dispatch modem state command).2.flatten = command := by
  rw [dispatch]
  split
  · rename_i isEmpty
    simp [isEmpty]
  · simp

theorem count_replaceLineFeed (byte : UInt8) :
    [replaceLineFeed byte].count 65 = [byte].count 65 := by
  rw [replaceLineFeed]
  split
  · rename_i isLineFeed
    rw [isLineFeed]
    decide
  · rfl

theorem count_terminator (modem : Modem State) (state : State) :
    [terminator modem state].count 65 = 0 := by
  rw [terminator]
  split <;> decide

theorem occurrences_feedByte (modem : Modem State) (channel : Channel State) (byte : UInt8) :
    occurrences 65 (feedByte modem channel byte) =
      occurrences 65 channel + [byte].count 65 := by
  rw [← count_replaceLineFeed]
  rw [feedByte]
  split
  · rename_i ends
    rw [ends, count_terminator]
    simp [occurrences, flatten_dispatch]
  · simp only [occurrences, List.count_append]
    omega

theorem occurrences_feed (modem : Modem State) (channel : Channel State) (bytes : Bytes) :
    occurrences 65 (feed modem channel bytes) = occurrences 65 channel + bytes.count 65 := by
  induction bytes generalizing channel with
  | nil => rfl
  | cons byte bytes induction =>
      have split : (byte :: bytes).count 65 = [byte].count 65 + bytes.count 65 := by
        rw [← List.count_append]
        rfl
      rw [feed, List.foldl_cons]
      refine (induction _).trans ?_
      rw [occurrences_feedByte, split]
      omega

theorem count_flatMap_bufferString {stream : Bytes} (noNul : 0 ∉ stream) {reads : List Bytes}
    (isSplit : IsSplit stream reads) :
    (reads.flatMap fun read => bufferString ⟨read, [65]⟩).count 65 =
      stream.count 65 + reads.countP fun read => maxCommandLength ≤ read.length := by
  rcases isSplit with ⟨joined, lengths⟩
  induction reads generalizing stream with
  | nil => simp [← joined]
  | cons read reads induction =>
      rw [List.flatten_cons] at joined
      rw [← joined, List.mem_append, not_or] at noNul
      have later := induction noNul.2 rfl fun other member =>
        lengths other (List.mem_cons_of_mem read member)
      have bounds := lengths read List.mem_cons_self
      have isBuffer : bufferString ⟨read, [65]⟩ =
          read ++ if read.length < maxCommandLength then [] else cString [65] :=
        bufferString_eq noNul.1 bounds.2
      rw [List.flatMap_cons, List.count_append, later, ← joined, List.count_append, isBuffer,
        List.count_append, List.countP_cons]
      by_cases short : read.length < maxCommandLength
      · simp [short, Nat.not_le.mpr short]
        omega
      · simp [short, Nat.not_lt.mp short, cString]
        omega

/-! ## Framing and read boundaries -/

def start (isRemote : Bool) (state : State) : Channel State where
  client :=
    { isRemote, firstReadCommand := false, isOpen := true, incompleteCommand := [] }
  modem := state
  dispatched := []

/-- The same commands were dispatched, and the same command is incomplete. -/
def SameFraming (first second : Channel State) : Prop :=
  first.dispatched = second.dispatched ∧
    first.client.incompleteCommand = second.client.incompleteCommand

theorem SameFraming.occurrences_eq {first second : Channel State}
    (same : SameFraming first second) (byte : UInt8) :
    occurrences byte first = occurrences byte second := by
  rw [occurrences, occurrences, same.1, same.2]

def readsOver (behind : Bytes) (reads : List Bytes) : List ClientRead :=
  reads.map fun read => ⟨read, behind⟩

theorem bytes_over (behind : Bytes) (reads : List Bytes) :
    (readsOver behind reads).map ClientRead.bytes = reads := by
  rw [readsOver, List.map_map]
  exact List.map_id reads

theorem settled_start (modem : Modem State) (isRemote : Bool) (state : State) :
    Settled modem (start isRemote state) :=
  .empty _ _ rfl

theorem readCommands_of_clean (modem : Modem State) (isRemote : Bool) (state : State)
    {stream : Bytes} (noNul : 0 ∉ stream) {reads : List ClientRead}
    (isSplit : IsSplit stream (reads.map ClientRead.bytes))
    (clean : ∀ read ∈ reads,
      read.bytes.length < maxCommandLength ∨ cString read.behind = []) :
    readCommands modem (start isRemote state) reads =
      feed modem (start isRemote state) stream := by
  rw [readCommands_eq_feed (settled_start modem isRemote state),
    flatMap_bufferString noNul isSplit clean]

theorem occurrences_over_letter (modem : Modem State) (isRemote : Bool) (state : State)
    {stream : Bytes} (noNul : 0 ∉ stream) {reads : List Bytes} (isSplit : IsSplit stream reads)
    {read : Bytes} (member : read ∈ reads) (full : ¬ read.length < maxCommandLength) :
    occurrences 65 (feed modem (start isRemote state) stream) <
      occurrences 65 (readCommands modem (start isRemote state) (readsOver [65] reads)) := by
  have more : 0 < reads.countP fun read => maxCommandLength ≤ read.length :=
    List.countP_pos_iff.mpr ⟨read, member, by simpa using full⟩
  have letters := count_flatMap_bufferString noNul isSplit
  have isBuffers : (readsOver [65] reads).flatMap bufferString =
      reads.flatMap fun read => bufferString ⟨read, [65]⟩ := by
    rw [readsOver, List.flatMap_map]
  rw [readCommands_eq_feed (settled_start modem isRemote state), occurrences_feed,
    occurrences_feed, isBuffers, letters]
  omega

theorem isSplit_over {stream : Bytes} {reads : List Bytes} (isSplit : IsSplit stream reads)
    (behind : Bytes) : IsSplit stream ((readsOver behind reads).map ClientRead.bytes) := by
  rw [bytes_over]
  exact isSplit

/-- The commands of a stream are independent of the boundaries between its reads,
whatever the memory behind the buffer holds, exactly when no read fills the buffer. -/
theorem framing_independent_iff (modem : Modem State) (isRemote : Bool) (state : State)
    {stream : Bytes} (noNul : 0 ∉ stream) {first second : List Bytes}
    (firstSplit : IsSplit stream first) (secondSplit : IsSplit stream second) :
    (∀ firstReads secondReads : List ClientRead, firstReads.map ClientRead.bytes = first →
        secondReads.map ClientRead.bytes = second →
        SameFraming (readCommands modem (start isRemote state) firstReads)
          (readCommands modem (start isRemote state) secondReads)) ↔
      ∀ read ∈ first ++ second, read.length < maxCommandLength := by
  constructor
  · intro independent read member
    apply Classical.byContradiction
    intro full
    have clean : ∀ reads, ∀ read ∈ readsOver [] reads,
        read.bytes.length < maxCommandLength ∨ cString read.behind = [] := by
      intro reads other isMember
      rcases List.mem_map.mp isMember with ⟨_, -, isRead⟩
      exact .inr (isRead ▸ rfl)
    rcases List.mem_append.mp member with inFirst | inSecond
    · have same := independent (readsOver [65] first) (readsOver [] second) (bytes_over _ _)
        (bytes_over _ _)
      have more := occurrences_over_letter modem isRemote state noNul firstSplit inFirst full
      rw [same.occurrences_eq 65, readCommands_of_clean modem isRemote state noNul
        (isSplit_over secondSplit []) (clean second)] at more
      exact Nat.lt_irrefl _ more
    · have same := independent (readsOver [] first) (readsOver [65] second) (bytes_over _ _)
        (bytes_over _ _)
      have more := occurrences_over_letter modem isRemote state noNul secondSplit inSecond full
      rw [← same.occurrences_eq 65, readCommands_of_clean modem isRemote state noNul
        (isSplit_over firstSplit []) (clean first)] at more
      exact Nat.lt_irrefl _ more
  · intro short firstReads secondReads isFirst isSecond
    have fed : ∀ reads : List ClientRead, ∀ bytes, reads.map ClientRead.bytes = bytes →
        IsSplit stream bytes → (∀ read ∈ bytes, read.length < maxCommandLength) →
        readCommands modem (start isRemote state) reads =
          feed modem (start isRemote state) stream := by
      intro reads bytes isBytes isSplit shortReads
      rw [← isBytes] at isSplit shortReads
      exact readCommands_of_clean modem isRemote state noNul isSplit fun read member =>
        .inl (shortReads _ (List.mem_map_of_mem member))
    rw [fed firstReads first isFirst firstSplit fun read member =>
        short read (List.mem_append_left _ member),
      fed secondReads second isSecond secondSplit fun read member =>
        short read (List.mem_append_right _ member)]
    exact ⟨rfl, rfl⟩

def sampleModem : Modem Unit where
  isWaitingSmsPdu _ := false
  dispatchCommand _ _ := ()

theorem framing_independent_iff_of_two_reads :
    IsSplit [65, 84, 13] [[65, 84], [13]] ∧ IsSplit [65, 84, 13] [[65], [84, 13]] ∧
      ∀ firstReads secondReads : List ClientRead,
        firstReads.map ClientRead.bytes = [[65, 84], [13]] →
        secondReads.map ClientRead.bytes = [[65], [84, 13]] →
        SameFraming (readCommands sampleModem (start false ()) firstReads)
          (readCommands sampleModem (start false ()) secondReads) := by
  have firstSplit : IsSplit [65, 84, 13] [[65, 84], [13]] := ⟨rfl, by decide⟩
  have secondSplit : IsSplit [65, 84, 13] [[65], [84, 13]] := ⟨rfl, by decide⟩
  exact ⟨firstSplit, secondSplit,
    (framing_independent_iff sampleModem false () (by decide) firstSplit secondSplit).mpr
      (by decide)⟩

/-- A read that fills the buffer, with a letter behind it. -/
theorem full_buffer_reads_memory_behind :
    ∃ stream : Bytes, 0 ∉ stream ∧ ∃ first second : List ClientRead,
      IsSplit stream (first.map ClientRead.bytes) ∧
      IsSplit stream (second.map ClientRead.bytes) ∧
      ¬ SameFraming (readCommands sampleModem (start false ()) first)
        (readCommands sampleModem (start false ()) second) := by
  have room : 1 < maxCommandLength := by decide
  have noNul : (0 : UInt8) ∉ List.replicate maxCommandLength 66 := by simp
  have firstSplit : IsSplit (List.replicate maxCommandLength 66)
      [List.replicate maxCommandLength 66] := by
    refine ⟨List.flatten_singleton, ?_⟩
    intro read member
    rw [List.mem_singleton.mp member, List.length_replicate]
    omega
  have secondSplit : IsSplit (List.replicate maxCommandLength 66)
      [[66], List.replicate (maxCommandLength - 1) 66] := by
    constructor
    · rw [List.flatten_cons, List.flatten_singleton, List.singleton_append,
        ← List.replicate_succ, Nat.sub_add_cancel (Nat.le_of_lt room)]
    · intro read member
      rcases List.mem_cons.mp member with isFirst | isSecond
      · rw [isFirst, List.length_singleton]
        omega
      · rw [List.mem_singleton.mp isSecond, List.length_replicate]
        omega
  refine ⟨List.replicate maxCommandLength 66, noNul,
    readsOver [65] [List.replicate maxCommandLength 66],
    readsOver [] [[66], List.replicate (maxCommandLength - 1) 66], isSplit_over firstSplit [65],
    isSplit_over secondSplit [], ?_⟩
  intro same
  have more := occurrences_over_letter sampleModem false () noNul firstSplit
    (List.mem_singleton_self _) (by simp)
  rw [same.occurrences_eq 65, readCommands_of_clean sampleModem false () noNul
    (isSplit_over secondSplit []) (by simp [readsOver, cString])] at more
  exact Nat.lt_irrefl _ more

end ChannelMonitor

end Cuttlefish.ModemSimulator
