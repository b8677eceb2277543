import Cuttlefish.Foundation.Run

/-! # Boot state machine

`CvdBootStateMachine` of `host/commands/run_cvd`: its thread waits for kernel log events and for
the completion of a restore, and reports the result of the boot once. -/

namespace Cuttlefish.RunCvd

inductive Event
  | bootStarted
  | bootCompleted
  | bootFailed
  | wifiNetworkConnected
  | mobileNetworkConnected
  | adbdStarted
  | screenChanged
  | ethernetNetworkConnected
  | kernelLoaded
  | bootloaderLoaded
  | displayPowerModeChanged
  | fastbootStarted
  | bootPending
  | hibernationExited
  deriving DecidableEq

inductive RunnerExitCode
  | success
  | virtualDeviceBootFailed
  deriving DecidableEq

structure Notification where
  given : Bool
  isOpen : Bool
  codes : List RunnerExitCode
  deriving DecidableEq

def Notification.initial (given : Bool) : Notification := ⟨given, given, []⟩

structure RestorePipe where
  written : Bool
  closed : Bool
  deriving DecidableEq

inductive Arrival
  | event (happened : Event)
  | eventsClosed
  | restoreCompleted
  | restoreClosed
  deriving DecidableEq

/-- Whether the boot is completed or has failed by that. -/
def Event.outcome : Event → Option Bool
  | .bootCompleted => some true
  | .bootFailed => some false
  | _ => none

def Arrival.outcome : Arrival → Option Bool
  | .event happened => happened.outcome
  | .restoreCompleted => some true
  | .eventsClosed | .restoreClosed => some false

inductive Phase
  | polling
  | draining
  | ended
  deriving DecidableEq

structure Machine where
  guestBootCompleted : Bool
  guestBootFailed : Bool
  rebootNotification : Notification
  fgLauncherPipe : Notification
  phase : Phase
  unread : List Event
  eventsClosed : Bool
  restorePipe : Option RestorePipe
  arrivals : List Arrival
  deriving DecidableEq

structure Report where
  eventsIn : Bool := false
  eventsHup : Bool := false
  restoreIn : Bool := false
  restoreHup : Bool := false
  interruptIn : Bool := false
  fgLauncherErr : Bool := false
  deriving DecidableEq

inductive Label
  | arrive (arrival : Arrival)
  | poll (report : Report)
  deriving DecidableEq

def Notification.sendExitCode (exitCode : RunnerExitCode) (fd : Notification) : Notification :=
  { fd with codes := fd.codes ++ [exitCode], isOpen := false }

namespace Machine

def initial (rebootNotification fgLauncherPipe restoring : Bool) : Machine :=
  { guestBootCompleted := false
    guestBootFailed := false
    rebootNotification := .initial rebootNotification
    fgLauncherPipe := .initial fgLauncherPipe
    phase := .polling
    unread := []
    eventsClosed := false
    restorePipe := if restoring then some ⟨false, false⟩ else none
    arrivals := [] }

variable (machine : Machine)

/-! ## Reporting -/

def maybeWriteNotification : Bool × Machine :=
  let notify := fun fd : Notification =>
    if fd.isOpen = false then fd
    else if machine.guestBootCompleted then fd.sendExitCode .success
    else if machine.guestBootFailed then fd.sendExitCode .virtualDeviceBootFailed
    else fd
  (machine.guestBootCompleted || machine.guestBootFailed,
    { machine with
      rebootNotification := notify machine.rebootNotification
      fgLauncherPipe := notify machine.fgLauncherPipe })

def breakIf (result : Bool × Machine) : Except Machine Machine :=
  if result.1 then
    .error { result.2 with
      phase := if result.2.guestBootCompleted then .draining else .ended }
  else .ok result.2

def onBootEvtReceived : Bool × Machine :=
  match machine.unread with
  | [] => maybeWriteNotification { machine with guestBootFailed := true }
  | event :: unread =>
      let machine := { machine with unread }
      match event with
      | .bootCompleted => maybeWriteNotification { machine with guestBootCompleted := true }
      | .bootFailed => maybeWriteNotification { machine with guestBootFailed := true }
      | _ => maybeWriteNotification machine

/-! ## The loop -/

def handleEventsHup (report : Report) : Except Machine Machine :=
  if report.eventsHup then
    breakIf (maybeWriteNotification { machine with guestBootFailed := true })
  else .ok machine

def handleFgLauncherErr (report : Report) : Except Machine Machine :=
  if machine.fgLauncherPipe.isOpen && report.fgLauncherErr then
    .error { machine with phase := .ended }
  else .ok machine

def handleEventsIn (report : Report) : Except Machine Machine :=
  if report.eventsIn then breakIf machine.onBootEvtReceived else .ok machine

def handleRestoreIn (report : Report) : Except Machine Machine :=
  match machine.restorePipe with
  | none => .ok machine
  | some pipe =>
      if report.restoreIn then do
        let machine ←
          if pipe.written then .ok { machine with restorePipe := some { pipe with written := false } }
          else breakIf (maybeWriteNotification { machine with guestBootFailed := true })
        breakIf (maybeWriteNotification { machine with guestBootCompleted := true })
      else .ok machine

def handleRestoreHup (report : Report) : Except Machine Machine :=
  if machine.restorePipe.isSome && report.restoreHup then
    breakIf (maybeWriteNotification { machine with guestBootFailed := true })
  else .ok machine

def threadLoop (report : Report) : Except Machine Machine :=
  if report.interruptIn then .error { machine with phase := .ended }
  else do
    let machine ← machine.handleEventsHup report
    let machine ← machine.handleFgLauncherErr report
    let machine ← machine.handleEventsIn report
    let machine ← machine.handleRestoreIn report
    machine.handleRestoreHup report

/-- One round of `DrainBootEventPipe`. At the end of the pipe an optional without a value is
read, which is taken for the end of the thread. -/
def drainBootEventPipe (report : Report) : Machine :=
  if report.interruptIn ∨ report.eventsHup then { machine with phase := .ended }
  else if report.eventsIn then
    match machine.unread with
    | [] => { machine with phase := .ended }
    | _ :: unread => { machine with unread }
  else machine

/-- What `poll` may report: a pipe is ready when there is something to read, and also when it
has been closed. It need not report everything. -/
structure Reports (report : Report) : Prop where
  eventsIn : report.eventsIn = true → machine.unread ≠ [] ∨ machine.eventsClosed = true
  eventsHup : report.eventsHup = true → machine.eventsClosed = true
  restoreIn : report.restoreIn = true →
    machine.restorePipe.any (fun pipe => pipe.written || pipe.closed) = true
  restoreHup : report.restoreHup = true → machine.restorePipe.any RestorePipe.closed = true

instance (report : Report) : Decidable (machine.Reports report) :=
  decidable_of_iff
    ((report.eventsIn = true → machine.unread ≠ [] ∨ machine.eventsClosed = true) ∧
      (report.eventsHup = true → machine.eventsClosed = true) ∧
      (report.restoreIn = true →
        machine.restorePipe.any (fun pipe => pipe.written || pipe.closed) = true) ∧
      (report.restoreHup = true → machine.restorePipe.any RestorePipe.closed = true))
    ⟨fun h => ⟨h.1, h.2.1, h.2.2.1, h.2.2.2⟩, fun h => ⟨h.1, h.2, h.3, h.4⟩⟩

/-- Nothing is written to a pipe that is closed. The thread of the restore completes it once, and
closes its end of the pipe after that: where it cannot write the process ends. -/
def arrive : Arrival → Option Machine
  | .event happened =>
      if machine.eventsClosed then none
      else some { machine with
        unread := machine.unread ++ [happened]
        arrivals := machine.arrivals ++ [.event happened] }
  | .eventsClosed =>
      if machine.eventsClosed then none
      else some { machine with
        eventsClosed := true
        arrivals := machine.arrivals ++ [.eventsClosed] }
  | .restoreCompleted =>
      match machine.restorePipe with
      | none => none
      | some pipe =>
          if .restoreCompleted ∈ machine.arrivals then none
          else some { machine with
            restorePipe := some { pipe with written := true }
            arrivals := machine.arrivals ++ [.restoreCompleted] }
  | .restoreClosed =>
      match machine.restorePipe with
      | none => none
      | some pipe =>
          if .restoreCompleted ∉ machine.arrivals ∨ pipe.closed then none
          else some { machine with
            restorePipe := some { pipe with closed := true }
            arrivals := machine.arrivals ++ [.restoreClosed] }

def step (machine : Machine) : Label → Option Machine
  | .arrive arrival => machine.arrive arrival
  | .poll report =>
      if machine.Reports report then
        match machine.phase with
        | .polling =>
            match machine.threadLoop report with
            | .error next | .ok next => some next
        | .draining => some (machine.drainBootEventPipe report)
        | .ended => none
      else none

/-! ## Results -/

def verdict : Option Bool := machine.arrivals.findSome? Arrival.outcome

/-- At most one exit code is written to each descriptor, both get the same, and it is success
exactly if the first final arrival is a completion. -/
structure Faithful : Prop where
  rebootOnce : machine.rebootNotification.codes.length ≤ 1
  fgLauncherOnce : machine.fgLauncherPipe.codes.length ≤ 1
  same : machine.rebootNotification.given = true → machine.fgLauncherPipe.given = true →
    machine.rebootNotification.codes = machine.fgLauncherPipe.codes
  right : ∀ code ∈ machine.rebootNotification.codes ++ machine.fgLauncherPipe.codes,
    code = .success ↔ machine.verdict = some true

def nextOutcome : Option Bool :=
  match machine.unread with
  | [] => some false
  | event :: _ => event.outcome

/-- What a round comes to first of what is reported to it has the outcome of the first final
arrival: a hang-up of the events pipe, then what can be read from it, then the restore. -/
def InTurn (report : Report) : Prop :=
  machine.phase = .polling → report.interruptIn = false →
    if report.eventsHup then machine.verdict ≠ some true
    else
      (machine.fgLauncherPipe.isOpen && report.fgLauncherErr) = false →
        if report.eventsIn ∧ machine.nextOutcome.isSome then
          machine.nextOutcome = some true ↔ machine.verdict = some true
        else if report.restoreIn then
          machine.restorePipe.any RestorePipe.written = true ↔ machine.verdict = some true
        else report.restoreHup = true → machine.verdict ≠ some true

instance (report : Report) : Decidable (machine.InTurn report) := by
  rw [InTurn]
  infer_instance

def LabelInTurn : Label → Prop
  | .arrive _ => True
  | .poll report => machine.InTurn report

instance (label : Label) : Decidable (machine.LabelInTurn label) :=
  match label with
  | .arrive _ => isTrue trivial
  | .poll report => inferInstanceAs (Decidable (machine.InTurn report))

/-! ## One round -/

structure Undecided : Prop where
  notCompleted : machine.guestBootCompleted = false
  notFailed : machine.guestBootFailed = false

def sent (exitCode : RunnerExitCode) (fd : Notification) : Notification :=
  if fd.isOpen = false then fd else fd.sendExitCode exitCode

def exitCode (completed : Bool) : RunnerExitCode :=
  if completed then .success else .virtualDeviceBootFailed

def reported (completed : Bool) : Machine :=
  { machine with
    guestBootCompleted := completed
    guestBootFailed := !completed
    rebootNotification := sent (exitCode completed) machine.rebootNotification
    fgLauncherPipe := sent (exitCode completed) machine.fgLauncherPipe
    phase := if completed then .draining else .ended }

variable {machine}

theorem Undecided.breakIf_completed (undecided : machine.Undecided) :
    breakIf (maybeWriteNotification { machine with guestBootCompleted := true }) =
      .error (machine.reported true) := by
  simp [breakIf, maybeWriteNotification, reported, sent, exitCode, undecided.notFailed]

theorem Undecided.breakIf_failed (undecided : machine.Undecided) :
    breakIf (maybeWriteNotification { machine with guestBootFailed := true }) =
      .error (machine.reported false) := by
  simp [breakIf, maybeWriteNotification, reported, sent, exitCode, undecided.notCompleted]

theorem Undecided.breakIf_pending (undecided : machine.Undecided) :
    breakIf (maybeWriteNotification machine) = .ok machine := by
  rcases undecided with ⟨notCompleted, notFailed⟩
  cases machine
  simp_all [breakIf, maybeWriteNotification]

theorem Undecided.breakIf_onBootEvtReceived (undecided : machine.Undecided) :
    breakIf machine.onBootEvtReceived =
      match machine.nextOutcome with
      | some completed => .error ({ machine with unread := machine.unread.tail }.reported completed)
      | none => .ok { machine with unread := machine.unread.tail } := by
  rcases undecided with ⟨notCompleted, notFailed⟩
  have still : Undecided { machine with unread := machine.unread.tail } :=
    ⟨notCompleted, notFailed⟩
  rcases machine with ⟨_, _, _, _, _, _ | ⟨event, unread⟩, _, _, _⟩
  · exact still.breakIf_failed
  · cases event with
    | bootCompleted => exact still.breakIf_completed
    | bootFailed => exact still.breakIf_failed
    | _ => exact still.breakIf_pending

theorem Undecided.handleRestoreIn_eq (undecided : machine.Undecided) (report : Report) :
    machine.handleRestoreIn report =
      match machine.restorePipe with
      | none => .ok machine
      | some pipe =>
          if report.restoreIn = false then .ok machine
          else if pipe.written then
            .error ({ machine with restorePipe := some { pipe with written := false } }.reported true)
          else .error (machine.reported false) := by
  rw [handleRestoreIn]
  cases hasPipe : machine.restorePipe with
  | none => rfl
  | some pipe =>
      cases readable : report.restoreIn with
      | false => rfl
      | true =>
          by_cases written : pipe.written = true
          · have still : Undecided
                { machine with restorePipe := some { pipe with written := false } } :=
              ⟨undecided.1, undecided.2⟩
            simp only [written, if_true]
            exact still.breakIf_completed
          · have notWritten : pipe.written = false := by simpa using written
            simp only [notWritten, if_true, Bool.false_eq_true, if_false]
            have failed := undecided.breakIf_failed
            simp only [hasPipe] at failed
            rw [failed]
            rfl

/-! ## The state between rounds -/

variable (machine)

structure Told : Prop where
  unread : ∀ event ∈ machine.unread, .event event ∈ machine.arrivals
  eventsClosed : machine.eventsClosed = true → .eventsClosed ∈ machine.arrivals
  written : machine.restorePipe.any RestorePipe.written = true →
    .restoreCompleted ∈ machine.arrivals
  restoreClosed : machine.restorePipe.any RestorePipe.closed = true →
    .restoreClosed ∈ machine.arrivals

def Notification.Unused (fd : Notification) : Prop := fd = .initial fd.given

structure Waiting : Prop extends machine.Undecided where
  rebootNotification : Notification.Unused machine.rebootNotification
  fgLauncherPipe : Notification.Unused machine.fgLauncherPipe

def codesFor (fd : Notification) : Option Bool → List RunnerExitCode
  | none => []
  | some completed =>
      if fd.given then [exitCode completed] else []

/-- What was reported, if anything, is the outcome of the first final arrival. -/
def Settled : Prop :=
  ∃ result : Option Bool,
    (∀ completed ∈ result, machine.verdict = some completed) ∧
    machine.rebootNotification.codes = codesFor machine.rebootNotification result ∧
    machine.fgLauncherPipe.codes = codesFor machine.fgLauncherPipe result

structure Invariant : Prop where
  told : machine.Told
  waiting : machine.phase = .polling → machine.Waiting
  settled : machine.Settled

variable {machine}

theorem eq_of_mem_codesFor {fd : Notification} {completed : Bool} {code : RunnerExitCode}
    (member : code ∈ codesFor fd (some completed)) : code = exitCode completed := by
  simp only [codesFor] at member
  split at member
  · exact List.mem_singleton.mp member
  · exact absurd member List.not_mem_nil

theorem Settled.faithful (settled : machine.Settled) : machine.Faithful := by
  rcases settled with ⟨result, decided, reboot, launcher⟩
  cases result with
  | none => constructor <;> simp [reboot, launcher, codesFor]
  | some completed =>
      have verdict := decided completed rfl
      constructor
      · rw [reboot, codesFor]
        split <;> simp
      · rw [launcher, codesFor]
        split <;> simp
      · intro rebootGiven launcherGiven
        simp [reboot, launcher, codesFor, rebootGiven, launcherGiven]
      · intro code member
        rw [reboot, launcher, List.mem_append] at member
        have isCode : code = exitCode completed := member.elim eq_of_mem_codesFor eq_of_mem_codesFor
        cases completed <;> simp [isCode, verdict, exitCode]

theorem codes_sent {fd : Notification} (unused : Notification.Unused fd) (completed : Bool) :
    (sent (exitCode completed) fd).codes =
      codesFor (sent (exitCode completed) fd) (some completed) := by
  rcases fd with ⟨given, isOpen, codes⟩
  obtain ⟨rfl, rfl⟩ : isOpen = given ∧ codes = [] := by
    simpa [Notification.Unused, Notification.initial] using unused
  cases isOpen <;> simp [sent, codesFor, Notification.sendExitCode]

theorem Waiting.settled_reported (waiting : machine.Waiting) {completed : Bool}
    (decided : machine.verdict = some completed) : (machine.reported completed).Settled :=
  ⟨some completed, fun _ isResult => Option.some.inj isResult ▸ decided,
    codes_sent waiting.rebootNotification completed, codes_sent waiting.fgLauncherPipe completed⟩

theorem Waiting.settled (waiting : machine.Waiting) : machine.Settled := by
  refine ⟨none, by simp, ?_, ?_⟩
  · rw [waiting.rebootNotification]
    rfl
  · rw [waiting.fgLauncherPipe]
    rfl

theorem verdict_eq_false {arrival : Arrival} (arrived : arrival ∈ machine.arrivals)
    (final : arrival.outcome.isSome = true) (notCompleted : machine.verdict ≠ some true) :
    machine.verdict = some false := by
  have decided : machine.verdict.isSome = true := by
    simp only [verdict, List.findSome?_isSome_iff]
    exact ⟨arrival, arrived, final⟩
  rcases Option.isSome_iff_exists.mp decided with ⟨completed, isVerdict⟩
  cases completed with
  | false => exact isVerdict
  | true => exact absurd isVerdict notCompleted

theorem verdict_append {completed : Bool} (decided : machine.verdict = some completed)
    (arrival : Arrival) :
    (machine.arrivals ++ [arrival]).findSome? Arrival.outcome = some completed := by
  rw [List.findSome?_append]
  simp only [verdict] at decided
  rw [decided]
  rfl

/-! ## One step -/

theorem handleEventsHup_eq (undecided : machine.Undecided) (report : Report) :
    machine.handleEventsHup report =
      if report.eventsHup then .error (machine.reported false) else .ok machine := by
  rw [handleEventsHup, undecided.breakIf_failed]

theorem handleEventsIn_eq (undecided : machine.Undecided) (report : Report) :
    machine.handleEventsIn report =
      if report.eventsIn then
        match machine.nextOutcome with
        | some completed =>
            .error ({ machine with unread := machine.unread.tail }.reported completed)
        | none => .ok { machine with unread := machine.unread.tail }
      else .ok machine := by
  rw [handleEventsIn, undecided.breakIf_onBootEvtReceived]

theorem handleRestoreHup_eq (undecided : machine.Undecided) (report : Report) :
    machine.handleRestoreHup report =
      if machine.restorePipe.isSome && report.restoreHup then .error (machine.reported false)
      else .ok machine := by
  rw [handleRestoreHup, undecided.breakIf_failed]

theorem Told.verdict_eq_nextOutcome (told : machine.Told) {completed : Bool}
    (readable : machine.unread ≠ [] ∨ machine.eventsClosed = true)
    (final : machine.nextOutcome = some completed)
    (inTurn : machine.nextOutcome = some true ↔ machine.verdict = some true) :
    machine.verdict = some completed := by
  cases completed with
  | true => exact inTurn.mp final
  | false =>
      have notCompleted : machine.verdict ≠ some true := by
        intro isCompleted
        rw [inTurn.mpr isCompleted] at final
        cases final
      cases unread : machine.unread with
      | nil =>
          have closed : machine.eventsClosed = true :=
            readable.resolve_left fun nonempty => nonempty unread
          exact verdict_eq_false (told.eventsClosed closed) rfl notCompleted
      | cons event rest =>
          have outcome : event.outcome = some false := by simpa [nextOutcome, unread] using final
          have arrived := told.unread event (by simp [unread])
          exact verdict_eq_false arrived (by simp [Arrival.outcome, outcome]) notCompleted

theorem Told.tail (told : machine.Told) : Told { machine with unread := machine.unread.tail } :=
  ⟨fun event member => told.unread event (List.mem_of_mem_tail member), told.eventsClosed,
    told.written, told.restoreClosed⟩

theorem Invariant.ended (invariant : machine.Invariant) :
    Invariant { machine with phase := .ended } :=
  ⟨⟨invariant.told.1, invariant.told.2, invariant.told.3, invariant.told.4⟩, nofun,
    invariant.settled⟩

theorem Waiting.invariant_reported (waiting : machine.Waiting) (told : machine.Told)
    {completed : Bool} (decided : machine.verdict = some completed) :
    (machine.reported completed).Invariant := by
  refine ⟨⟨told.1, told.2, told.3, told.4⟩, ?_, waiting.settled_reported decided⟩
  cases completed <;> exact nofun

def next : Except Machine Machine → Machine
  | .ok machine | .error machine => machine

theorem Invariant.handleRestore (invariant : machine.Invariant) (waiting : machine.Waiting)
    {report : Report}
    (ready : report.restoreIn = true →
      machine.restorePipe.any (fun pipe => pipe.written || pipe.closed) = true)
    (hungUp : report.restoreHup = true → machine.restorePipe.any RestorePipe.closed = true)
    (inTurn : if report.restoreIn then
        machine.restorePipe.any RestorePipe.written = true ↔ machine.verdict = some true
      else report.restoreHup = true → machine.verdict ≠ some true) :
    (next (do
      let machine ← machine.handleRestoreIn report
      machine.handleRestoreHup report)).Invariant := by
  have told := invariant.told
  have undecided := waiting.toUndecided
  rw [undecided.handleRestoreIn_eq]
  cases hasPipe : machine.restorePipe with
  | none =>
      show (next (machine.handleRestoreHup report)).Invariant
      rw [handleRestoreHup_eq undecided, hasPipe]
      exact invariant
  | some pipe =>
      by_cases readable : report.restoreIn = true
      · rw [if_pos readable] at inTurn
        by_cases written : pipe.written = true
        · have decided : machine.verdict = some true := inTurn.mp (by simpa [hasPipe] using written)
          have still : Waiting
              { machine with restorePipe := some { pipe with written := false } } :=
            ⟨⟨undecided.1, undecided.2⟩, waiting.rebootNotification, waiting.fgLauncherPipe⟩
          have closed := told.restoreClosed
          rw [hasPipe] at closed
          simp only [readable, written, if_true, Bool.true_eq_false, if_false]
          exact still.invariant_reported ⟨told.1, told.2, nofun, closed⟩ decided
        · have closed : machine.restorePipe.any RestorePipe.closed = true := by
            simpa [hasPipe, written] using ready readable
          have notCompleted : machine.verdict ≠ some true := by
            intro completed
            exact written (by simpa [hasPipe] using inTurn.mpr completed)
          have decided := verdict_eq_false (told.restoreClosed closed) rfl notCompleted
          simp only [readable, written, Bool.true_eq_false, if_false]
          exact waiting.invariant_reported told decided
      · rw [if_neg readable] at inTurn
        simp only [readable, if_true]
        show (next (machine.handleRestoreHup report)).Invariant
        rw [handleRestoreHup_eq undecided]
        by_cases hup : report.restoreHup = true
        · have decided :=
            verdict_eq_false (told.restoreClosed (hungUp hup)) rfl (inTurn hup)
          simp only [hasPipe, hup, Option.isSome_some, Bool.and_self, if_true]
          exact waiting.invariant_reported told decided
        · simp only [hup, Bool.and_false, Bool.false_eq_true, if_false]
          exact invariant

theorem Invariant.threadLoop (invariant : machine.Invariant) {report : Report}
    (polling : machine.phase = .polling) (reports : machine.Reports report)
    (inTurn : machine.InTurn report) : (next (machine.threadLoop report)).Invariant := by
  have waiting := invariant.waiting polling
  have told := invariant.told
  have undecided := waiting.toUndecided
  have rest := inTurn polling
  rw [Machine.threadLoop]
  by_cases interrupted : report.interruptIn = true
  · rw [if_pos interrupted]
    exact invariant.ended
  rw [if_neg interrupted, handleEventsHup_eq undecided]
  replace rest := rest (by simpa using interrupted)
  by_cases hup : report.eventsHup = true
  · rw [if_pos hup]
    rw [if_pos hup] at rest
    have decided := verdict_eq_false (told.eventsClosed (reports.eventsHup hup)) rfl rest
    exact waiting.invariant_reported told decided
  rw [if_neg hup]
  rw [if_neg hup] at rest
  by_cases cancelled : (machine.fgLauncherPipe.isOpen && report.fgLauncherErr) = true
  · have left : machine.handleFgLauncherErr report = .error { machine with phase := .ended } :=
      if_pos cancelled
    simp only [bind, Except.bind, left]
    exact invariant.ended
  have stays : machine.handleFgLauncherErr report = .ok machine := if_neg cancelled
  simp only [bind, Except.bind, stays]
  replace rest := rest (by simpa using cancelled)
  rw [handleEventsIn_eq undecided]
  by_cases readable : report.eventsIn = true
  · cases found : machine.nextOutcome with
    | some completed =>
        rw [if_pos ⟨readable, by simp [found]⟩] at rest
        have decided := told.verdict_eq_nextOutcome (reports.eventsIn readable) found rest
        have still : Waiting { machine with unread := machine.unread.tail } :=
          ⟨⟨undecided.1, undecided.2⟩, waiting.rebootNotification, waiting.fgLauncherPipe⟩
        simp only [readable, if_true]
        exact still.invariant_reported told.tail decided
    | none =>
        rw [if_neg (by simp [found])] at rest
        have still : Waiting { machine with unread := machine.unread.tail } :=
          ⟨⟨undecided.1, undecided.2⟩, waiting.rebootNotification, waiting.fgLauncherPipe⟩
        have kept : Invariant { machine with unread := machine.unread.tail } :=
          ⟨told.tail, fun _ => still, invariant.settled⟩
        simp only [readable, if_true]
        exact kept.handleRestore still reports.restoreIn reports.restoreHup rest
  · rw [if_neg fun both => readable both.1] at rest
    simp only [readable]
    exact invariant.handleRestore waiting reports.restoreIn reports.restoreHup rest

theorem Settled.arrived (settled : machine.Settled) {next : Machine} {arrival : Arrival}
    (arrivals : next.arrivals = machine.arrivals ++ [arrival])
    (reboot : next.rebootNotification = machine.rebootNotification)
    (launcher : next.fgLauncherPipe = machine.fgLauncherPipe) : next.Settled := by
  rcases settled with ⟨result, decided, rebootCodes, launcherCodes⟩
  refine ⟨result, fun completed isResult => ?_, reboot ▸ rebootCodes, launcher ▸ launcherCodes⟩
  rw [verdict, arrivals]
  exact verdict_append (decided completed isResult) arrival

theorem Invariant.arrived (invariant : machine.Invariant) {next : Machine} {arrival : Arrival}
    (told : next.Told) (arrivals : next.arrivals = machine.arrivals ++ [arrival])
    (phase : next.phase = machine.phase)
    (completed : next.guestBootCompleted = machine.guestBootCompleted)
    (failed : next.guestBootFailed = machine.guestBootFailed)
    (reboot : next.rebootNotification = machine.rebootNotification)
    (launcher : next.fgLauncherPipe = machine.fgLauncherPipe) : next.Invariant := by
  refine ⟨told, fun polling => ?_, invariant.settled.arrived arrivals reboot launcher⟩
  have waiting := invariant.waiting (phase ▸ polling)
  exact ⟨⟨completed.trans waiting.notCompleted, failed.trans waiting.notFailed⟩,
    reboot ▸ waiting.rebootNotification, launcher ▸ waiting.fgLauncherPipe⟩

theorem Invariant.arrive (invariant : machine.Invariant) {arrival : Arrival} {next : Machine}
    (arrives : machine.arrive arrival = some next) : next.Invariant := by
  rcases invariant.told with ⟨unread, closed, written, restoreClosed⟩
  have earlier : ∀ {other}, other ∈ machine.arrivals → other ∈ machine.arrivals ++ [arrival] :=
    fun member => List.mem_append_left _ member
  have last : arrival ∈ machine.arrivals ++ [arrival] :=
    List.mem_append_right _ (List.mem_singleton_self _)
  cases arrival with
  | event happened =>
      obtain ⟨-, rfl⟩ : machine.eventsClosed ≠ true ∧ _ = next := by
        simpa [Machine.arrive] using arrives
      refine invariant.arrived ⟨?_, earlier ∘ closed, earlier ∘ written, earlier ∘ restoreClosed⟩
        rfl rfl rfl rfl rfl rfl
      intro event member
      rcases List.mem_append.mp member with member | member
      · exact earlier (unread event member)
      · rw [List.mem_singleton.mp member]
        exact last
  | eventsClosed =>
      obtain ⟨-, rfl⟩ : machine.eventsClosed ≠ true ∧ _ = next := by
        simpa [Machine.arrive] using arrives
      exact invariant.arrived
        ⟨fun event member => earlier (unread event member), fun _ => last, earlier ∘ written,
          earlier ∘ restoreClosed⟩ rfl rfl rfl rfl rfl rfl
  | restoreCompleted =>
      cases hasPipe : machine.restorePipe with
      | none => simp [Machine.arrive, hasPipe] at arrives
      | some pipe =>
          rw [hasPipe] at restoreClosed
          obtain ⟨-, rfl⟩ : .restoreCompleted ∉ machine.arrivals ∧ _ = next := by
            simpa [Machine.arrive, hasPipe] using arrives
          exact invariant.arrived
            ⟨fun event member => earlier (unread event member), earlier ∘ closed, fun _ => last,
              earlier ∘ restoreClosed⟩ rfl rfl rfl rfl rfl rfl
  | restoreClosed =>
      cases hasPipe : machine.restorePipe with
      | none => simp [Machine.arrive, hasPipe] at arrives
      | some pipe =>
          rw [hasPipe] at written
          obtain ⟨-, rfl⟩ : (.restoreCompleted ∈ machine.arrivals ∧ pipe.closed = false) ∧
              _ = next := by
            simpa [Machine.arrive, hasPipe] using arrives
          exact invariant.arrived
            ⟨fun event member => earlier (unread event member), earlier ∘ closed,
              earlier ∘ written, fun _ => last⟩ rfl rfl rfl rfl rfl rfl

theorem Invariant.drainBootEventPipe (invariant : machine.Invariant)
    (draining : machine.phase = .draining) (report : Report) :
    (machine.drainBootEventPipe report).Invariant := by
  rw [Machine.drainBootEventPipe]
  split
  · exact invariant.ended
  split
  · split
    · exact invariant.ended
    · rename_i unread
      have told := invariant.told.tail
      rw [unread] at told
      exact ⟨told, fun polling => by simp [draining] at polling, invariant.settled⟩
  · exact invariant

theorem Invariant.step (invariant : machine.Invariant) {label : Label} {following : Machine}
    (inTurn : machine.LabelInTurn label) (stepped : machine.step label = some following) : following.Invariant := by
  cases label with
  | arrive arrival => exact invariant.arrive stepped
  | poll report =>
      by_cases reports : machine.Reports report
      · rw [Machine.step, if_pos reports] at stepped
        cases phase : machine.phase with
        | polling =>
            have following_eq : next (machine.threadLoop report) = following := by
              rw [phase] at stepped
              cases result : machine.threadLoop report <;> simpa [result, next] using stepped
            exact following_eq ▸ invariant.threadLoop phase reports inTurn
        | draining =>
            rw [phase] at stepped
            exact Option.some.inj stepped ▸ invariant.drainBootEventPipe phase report
        | ended => simp [phase] at stepped
      · simp [Machine.step, reports] at stepped

theorem Invariant.initial (rebootNotification fgLauncherPipe restoring : Bool) :
    (Machine.initial rebootNotification fgLauncherPipe restoring).Invariant := by
  have waiting : (Machine.initial rebootNotification fgLauncherPipe restoring).Waiting :=
    ⟨⟨rfl, rfl⟩, rfl, rfl⟩
  refine ⟨⟨nofun, nofun, ?_, ?_⟩, fun _ => waiting, waiting.settled⟩ <;>
    cases restoring <;> exact nofun

end Machine

open Machine

/-- Where every round finds first what happened first, each descriptor gets at most one exit
code, both the same, and success exactly if the first final arrival is a completion. -/
theorem boot_result_faithful (rebootNotification fgLauncherPipe restoring : Bool)
    (labels : List Label)
    (inTurn : Run.Along step LabelInTurn
      (initial rebootNotification fgLauncherPipe restoring) labels) :
    Run.Always step Faithful (initial rebootNotification fgLauncherPipe restoring) labels :=
  Run.always_of_along
    (fun _ _ _ invariant allowed stepped => Invariant.step invariant allowed stepped)
    (fun _ invariant => invariant.settled.faithful)
    (.initial rebootNotification fgLauncherPipe restoring) inTurn

def readBeforeClose : List Label :=
  [.arrive (.event .bootStarted), .arrive (.event .bootCompleted), .poll { eventsIn := true },
    .poll { eventsIn := true }, .arrive .eventsClosed, .poll { eventsHup := true }]

theorem boot_result_faithful_read_before_close :
    Run.Always step Faithful (initial true true false) readBeforeClose :=
  boot_result_faithful true true false readBeforeClose (by decide +kernel)

/-- The pipe is closed before the completion is read, and the round reports both. -/
def closeBeforeRead : List Label :=
  [.arrive (.event .bootCompleted), .arrive .eventsClosed,
    .poll { eventsIn := true, eventsHup := true }]

/-- A completed boot is reported as a failed one. -/
theorem hang_up_before_completion :
    ¬ Run.Always step Faithful (initial true true false) closeBeforeRead := by
  intro always
  have reached : ∃ final, Run.run step (initial true true false) closeBeforeRead = some final ∧
      .virtualDeviceBootFailed ∈
        final.rebootNotification.codes ++ final.fgLauncherPipe.codes ∧
      final.verdict = some true :=
    ⟨_, rfl, by decide, by decide⟩
  rcases reached with ⟨final, runs, code, completed⟩
  cases ((always.final runs).right _ code).mpr completed

end Cuttlefish.RunCvd
