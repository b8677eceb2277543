import Cuttlefish.ModemSimulator.CallService

/-! # One call between two parties

What the messages between two modems are for. Each party has at most one call with
the other, on a connection of its own, and tells the other what it does with it; the
messages to each party wait in a queue, from which a message can be taken as soon as it
is the first one of its connection. The parties agree about what every message that is
still on its way will lead to. -/

namespace Cuttlefish.ModemSimulator.CallProtocol

/-- What a message says about a call. -/
inductive Notice
  | incoming
  | active
  | held
  | hangup
  deriving DecidableEq, Repr

inductive Phase
  | dialing
  | incoming
  | active
  | held
  deriving DecidableEq, Repr

/-- The call of a party with the other one. -/
abbrev Line := Option (ClientId × Phase)

structure Signal where
  connection : ClientId
  notice : Notice
  deriving DecidableEq, Repr

def Phase.hear : Phase → Notice → Phase
  | _, .active => .active
  | .active, .held => .held
  | phase, _ => phase

/-- The call after a message; `none` where there would be a second call. A message on
the connection of an earlier call has no effect. -/
def hear (line : Line) (signal : Signal) : Option Line :=
  match line, signal.notice with
  | none, .incoming => some (some (signal.connection, .incoming))
  | none, _ => some none
  | some _, .incoming => none
  | some (connection, phase), notice =>
      if connection = signal.connection then
        if notice = .hangup then some none else some (some (connection, phase.hear notice))
      else some (some (connection, phase))

def hearAll : Line → List Signal → Option Line
  | line, [] => some line
  | line, signal :: queue =>
      match hear line signal with
      | none => none
      | some next => hearAll next queue

theorem hearAll_cons_eq_some {line final : Line} {signal : Signal} {queue : List Signal} :
    hearAll line (signal :: queue) = some final ↔
      ∃ next, hear line signal = some next ∧ hearAll next queue = some final := by
  rw [hearAll]
  cases hear line signal with
  | none => simp
  | some next => simp

theorem hearAll_append {line final : Line} {queue more : List Signal}
    (heard : hearAll line queue = some final) :
    hearAll line (queue ++ more) = hearAll final more := by
  induction queue generalizing line with
  | nil =>
      cases heard
      rfl
  | cons signal queue induction =>
      rcases hearAll_cons_eq_some.mp heard with ⟨next, first, rest⟩
      rw [List.cons_append, hearAll, first]
      exact induction rest

section

attribute [local simp] hear

theorem hear_hangup (connection : ClientId) (phase : Phase) :
    hear (some (connection, phase)) ⟨connection, .hangup⟩ = some none := by
  simp

theorem hear_same {connection : ClientId} {phase : Phase} {signal : Signal}
    (notIncoming : signal.notice ≠ .incoming) (notHangup : signal.notice ≠ .hangup)
    (same : signal.connection = connection) :
    hear (some (connection, phase)) signal =
      some (some (connection, phase.hear signal.notice)) := by
  rcases signal with ⟨other, notice⟩
  cases notice <;> simp_all

theorem hear_other {connection : ClientId} {phase : Phase} {signal : Signal}
    (notIncoming : signal.notice ≠ .incoming) (different : signal.connection ≠ connection) :
    hear (some (connection, phase)) signal = some (some (connection, phase)) := by
  rcases signal with ⟨other, notice⟩
  cases notice <;> simp_all [Ne.symm different]

theorem hear_none {signal : Signal} (notIncoming : signal.notice ≠ .incoming) :
    hear none signal = some none := by
  rcases signal with ⟨other, notice⟩
  cases notice <;> simp_all

end

theorem hear_some_cases {connection : ClientId} {phase : Phase} {signal : Signal} {next : Line}
    (heard : hear (some (connection, phase)) signal = some next) :
    signal.notice ≠ .incoming ∧
      (signal.connection ≠ connection ∧ next = some (connection, phase) ∨
        signal = ⟨connection, .hangup⟩ ∧ next = none ∨
        signal.connection = connection ∧ signal.notice ≠ .hangup ∧
          next = some (connection, phase.hear signal.notice)) := by
  have notIncoming : signal.notice ≠ .incoming := by
    intro isIncoming
    simp [hear, isIncoming] at heard
  refine ⟨notIncoming, ?_⟩
  by_cases same : signal.connection = connection
  · by_cases isHangup : signal.notice = .hangup
    · have isSignal : signal = ⟨connection, .hangup⟩ := by rw [← same, ← isHangup]
      rw [isSignal, hear_hangup, Option.some.injEq] at heard
      exact .inr (.inl ⟨isSignal, heard.symm⟩)
    · rw [hear_same notIncoming isHangup same, Option.some.injEq] at heard
      exact .inr (.inr ⟨same, isHangup, heard.symm⟩)
  · rw [hear_other notIncoming same, Option.some.injEq] at heard
    exact .inl ⟨same, heard.symm⟩

theorem hear_connection {line : Line} {signal : Signal} {connection : ClientId}
    {phase : Phase} (heard : hear line signal = some (some (connection, phase))) :
    (∃ before, line = some (connection, before)) ∨ signal = ⟨connection, .incoming⟩ := by
  cases line with
  | some call =>
      rcases call with ⟨own, before⟩
      rcases (hear_some_cases heard).2 with ⟨-, same⟩ | ⟨-, ended⟩ | ⟨-, -, same⟩
      · cases same
        exact .inl ⟨_, rfl⟩
      · cases ended
      · cases same
        exact .inl ⟨_, rfl⟩
  | none =>
      by_cases isIncoming : signal.notice = .incoming
      · rcases signal with ⟨other, notice⟩
        cases isIncoming
        cases heard
        exact .inr rfl
      · rw [hear_none isIncoming] at heard
        cases heard

theorem hear_idle {line : Line} {signal : Signal} (notIncoming : signal.notice ≠ .incoming)
    (notOn : ∀ phase, line ≠ some (signal.connection, phase)) : hear line signal = some line := by
  cases line with
  | none => exact hear_none notIncoming
  | some call =>
      rcases call with ⟨connection, phase⟩
      apply hear_other notIncoming
      rintro rfl
      exact notOn phase rfl

theorem hearAll_idle {line : Line} {queue : List Signal}
    (idle : ∀ signal ∈ queue, signal.notice ≠ .incoming ∧
      ∀ phase, line ≠ some (signal.connection, phase)) : hearAll line queue = some line := by
  induction queue with
  | nil => rfl
  | cons signal queue induction =>
      rw [List.forall_mem_cons] at idle
      rw [hearAll, hear_idle idle.1.1 idle.1.2]
      exact induction idle.2

/-- Messages on two connections can be heard in the other order, unless the second one opens
its connection: the first one may have ended the call. -/
theorem hear_comm {line between final : Line} {first second : Signal}
    (different : first.connection ≠ second.connection) (notIncoming : second.notice ≠ .incoming)
    (heardFirst : hear line first = some between) (heardSecond : hear between second = some final) :
    ∃ other, hear line second = some other ∧ hear other first = some final := by
  cases line with
  | none =>
      refine ⟨none, hear_none notIncoming, ?_⟩
      rw [heardFirst, ← heardSecond]
      apply (hear_idle notIncoming _).symm
      rintro phase rfl
      rcases hear_connection heardFirst with ⟨before, onIt⟩ | rfl
      · cases onIt
      · exact different rfl
  | some call =>
      rcases call with ⟨connection, phase⟩
      rcases hear_some_cases heardFirst with ⟨firstNotIncoming, cases⟩
      rcases cases with ⟨other, rfl⟩ | ⟨rfl, rfl⟩ | ⟨rfl, notHangup, rfl⟩
      · refine ⟨final, heardSecond, hear_idle firstNotIncoming ?_⟩
        rintro after rfl
        rcases hear_connection heardSecond with ⟨before, onIt⟩ | rfl
        · cases onIt
          exact other rfl
        · exact notIncoming rfl
      · rw [hear_none notIncoming, Option.some.injEq] at heardSecond
        subst heardSecond
        exact ⟨_, hear_other notIncoming (Ne.symm different), hear_hangup connection phase⟩
      · rw [hear_other notIncoming (Ne.symm different), Option.some.injEq] at heardSecond
        subst heardSecond
        exact ⟨_, hear_other notIncoming (Ne.symm different), heardFirst⟩

theorem hearAll_first {line final : Line} {front rest : List Signal} {signal : Signal}
    (others : ∀ earlier ∈ front, earlier.connection ≠ signal.connection)
    (notIncoming : signal.notice ≠ .incoming)
    (heard : hearAll line (front ++ signal :: rest) = some final) :
    hearAll line (signal :: (front ++ rest)) = some final := by
  induction front generalizing line with
  | nil => exact heard
  | cons earlier front induction =>
      rw [List.forall_mem_cons] at others
      rcases hearAll_cons_eq_some.mp heard with ⟨between, heardEarlier, later⟩
      rcases hearAll_cons_eq_some.mp (induction others.2 later) with ⟨_, heardSignal, final⟩
      rcases hear_comm others.1 notIncoming heardEarlier heardSignal with ⟨_, first, second⟩
      exact hearAll_cons_eq_some.mpr ⟨_, first, hearAll_cons_eq_some.mpr ⟨_, second, final⟩⟩

theorem hearAll_offer {line final : Line} {front rest : List Signal} {connection : ClientId}
    (idle : ∀ earlier ∈ front, earlier.connection ≠ connection ∧ earlier.notice ≠ .incoming ∧
      ∀ phase, line ≠ some (earlier.connection, phase))
    (heard : hearAll line (front ++ ⟨connection, .incoming⟩ :: rest) = some final) :
    hearAll line (⟨connection, .incoming⟩ :: (front ++ rest)) = some final := by
  rw [hearAll_append (hearAll_idle fun earlier member => (idle earlier member).2)] at heard
  rcases hearAll_cons_eq_some.mp heard with ⟨next, opened, later⟩
  refine hearAll_cons_eq_some.mpr ⟨next, opened, ?_⟩
  have onIt : next = some (connection, .incoming) := by
    cases line with
    | none => simpa [hear] using opened.symm
    | some call => simp [hear] at opened
  have stays : hearAll next front = some next := by
    apply hearAll_idle
    intro earlier member
    refine ⟨(idle earlier member).2.1, ?_⟩
    rw [onIt]
    rintro phase same
    cases same
    exact (idle earlier member).1 rfl
  rw [hearAll_append stays]
  exact later

/-! ## What a queue does to a call -/

def lastSaid (connection : ClientId) : List Signal → Option Notice
  | [] => none
  | signal :: queue =>
      (lastSaid connection queue).or
        (if signal.connection = connection ∧ (signal.notice = .active ∨ signal.notice = .held)
          then some signal.notice else none)

def phaseAfter (connection : ClientId) : Phase → List Signal → Phase
  | phase, [] => phase
  | phase, signal :: queue =>
      if signal.connection = connection then
        phaseAfter connection (phase.hear signal.notice) queue
      else phaseAfter connection phase queue

def Phase.Connected (phase : Phase) : Prop := phase = .active ∨ phase = .held

def Notice.phase : Notice → Phase
  | .incoming => .incoming
  | .active => .active
  | .held => .held
  | .hangup => .held

theorem Phase.Connected.hear {phase : Phase} (connected : phase.Connected) (notice : Notice) :
    (phase.hear notice).Connected := by
  rcases connected with rfl | rfl <;> cases notice <;> simp [Phase.hear, Phase.Connected]

theorem Phase.Connected.phaseAfter {phase : Phase} (connected : phase.Connected)
    (connection : ClientId) (queue : List Signal) :
    (phaseAfter connection phase queue).Connected := by
  induction queue generalizing phase with
  | nil => exact connected
  | cons signal queue induction =>
      rw [CallProtocol.phaseAfter]
      split
      · exact induction (connected.hear signal.notice)
      · exact induction connected

theorem phaseAfter_eq {phase : Phase} (connected : phase.Connected) (connection : ClientId)
    (queue : List Signal) :
    phaseAfter connection phase queue =
      ((lastSaid connection queue).map Notice.phase).getD phase := by
  induction queue generalizing phase with
  | nil => rfl
  | cons signal queue induction =>
      rcases signal with ⟨other, notice⟩
      rw [phaseAfter, lastSaid]
      by_cases same : other = connection
      · rw [if_pos same, induction (connected.hear notice)]
        cases lastSaid connection queue with
        | some said => rfl
        | none =>
            rcases connected with rfl | rfl <;> cases notice <;>
              simp [same, Phase.hear, Notice.phase]
      · rw [if_neg same, induction connected]
        simp [same]

theorem phaseAfter_of_lastSaid {notice : Notice} (connected : notice.phase.Connected)
    {connection : ClientId} {queue : List Signal}
    (said : ∀ other ∈ lastSaid connection queue, other = notice) :
    phaseAfter connection notice.phase queue = notice.phase := by
  rw [phaseAfter_eq connected]
  cases isSaid : lastSaid connection queue with
  | none => rfl
  | some other =>
      rw [said other isSaid]
      rfl

theorem phaseAfter_other {connection : ClientId} (phase : Phase) {queue : List Signal}
    (others : ∀ signal ∈ queue, signal.connection ≠ connection) :
    phaseAfter connection phase queue = phase := by
  induction queue with
  | nil => rfl
  | cons signal queue induction =>
      rw [List.forall_mem_cons] at others
      rw [phaseAfter, if_neg others.1]
      exact induction others.2

theorem hearAll_of_no_hangup {connection : ClientId} {phase : Phase} {queue : List Signal}
    {final : Line} (heard : hearAll (some (connection, phase)) queue = some final)
    (noHangup : ⟨connection, .hangup⟩ ∉ queue) :
    final = some (connection, phaseAfter connection phase queue) ∧
      (∀ signal ∈ queue, signal.notice ≠ .incoming) := by
  induction queue generalizing phase with
  | nil =>
      cases heard
      exact ⟨rfl, fun signal member => by cases member⟩
  | cons signal queue induction =>
      rcases hearAll_cons_eq_some.mp heard with ⟨next, first, rest⟩
      rcases hear_some_cases first with ⟨notIncoming, cases⟩
      have noLater : ⟨connection, .hangup⟩ ∉ queue := fun member =>
        noHangup (List.mem_cons_of_mem signal member)
      rw [phaseAfter, List.forall_mem_cons]
      rcases cases with ⟨other, rfl⟩ | ⟨isHangup, -⟩ | ⟨same, -, rfl⟩
      · rcases induction rest noLater with ⟨isFinal, later⟩
        rw [if_neg other]
        exact ⟨isFinal, notIncoming, later⟩
      · exact absurd (isHangup ▸ List.mem_cons_self) noHangup
      · rcases induction rest noLater with ⟨isFinal, later⟩
        rw [if_pos same]
        exact ⟨isFinal, notIncoming, later⟩

theorem hangup_of_offer {connection : ClientId} {line : Line} {queue : List Signal}
    (heard : hearAll line queue = some none) (offer : ⟨connection, .incoming⟩ ∈ queue) :
    ⟨connection, .hangup⟩ ∈ queue := by
  induction queue generalizing line with
  | nil => cases offer
  | cons signal queue induction =>
      rcases hearAll_cons_eq_some.mp heard with ⟨next, first, rest⟩
      rcases List.mem_cons.mp offer with rfl | later
      · have onIt : next = some (connection, .incoming) := by
          cases line with
          | none => simpa [hear] using first.symm
          | some call => simp [hear] at first
        subst onIt
        apply List.mem_cons_of_mem
        by_contra noHangup
        cases (hearAll_of_no_hangup rest noHangup).1
      · exact List.mem_cons_of_mem signal (induction rest later)

theorem hearAll_none {queue : List Signal} (noIncoming : ∀ signal ∈ queue,
    signal.notice ≠ .incoming) : hearAll none queue = some none := by
  induction queue with
  | nil => rfl
  | cons signal queue induction =>
      rw [List.forall_mem_cons] at noIncoming
      rw [hearAll, hear_none noIncoming.1]
      exact induction noIncoming.2

theorem hearAll_some {connection : ClientId} (phase : Phase) {queue : List Signal}
    (noIncoming : ∀ signal ∈ queue, signal.notice ≠ .incoming)
    (noHangup : ⟨connection, .hangup⟩ ∉ queue) :
    hearAll (some (connection, phase)) queue =
      some (some (connection, phaseAfter connection phase queue)) := by
  induction queue generalizing phase with
  | nil => rfl
  | cons signal queue induction =>
      rw [List.forall_mem_cons] at noIncoming
      rw [List.mem_cons, not_or] at noHangup
      rw [hearAll, phaseAfter]
      by_cases same : signal.connection = connection
      · have notHangup : signal.notice ≠ .hangup := fun isHangup =>
          noHangup.1 (by rw [← same, ← isHangup])
        rw [hear_same noIncoming.1 notHangup same, if_pos same]
        exact induction _ noIncoming.2 noHangup.2
      · rw [hear_other noIncoming.1 same, if_neg same]
        exact induction _ noIncoming.2 noHangup.2

theorem not_connection_of_apart {connection : ClientId} {queue : List Signal}
    {line final : Line} (heard : hearAll line queue = some final)
    (notOn : ∀ phase, line ≠ some (connection, phase))
    (apart : ∀ signal ∈ queue, signal.notice = .incoming → signal.connection ≠ connection) :
    ∀ phase, final ≠ some (connection, phase) := by
  induction queue generalizing line with
  | nil =>
      cases heard
      exact notOn
  | cons signal queue induction =>
      rcases hearAll_cons_eq_some.mp heard with ⟨next, first, rest⟩
      rw [List.forall_mem_cons] at apart
      apply induction rest _ apart.2
      intro phase isNext
      rcases hear_connection (isNext ▸ first) with ⟨before, onIt⟩ | opens
      · exact notOn before onIt
      · rw [opens] at apart
        exact apart.1 rfl rfl

/-- A call that is ended by a message leaves no trace, whatever its phase is and also
when it is ended here before that. -/
theorem hearAll_of_hangup {connection : ClientId} {phase : Phase} {queue : List Signal}
    {final : Line} (heard : hearAll (some (connection, phase)) queue = some final)
    (hangup : ⟨connection, .hangup⟩ ∈ queue)
    (apart : ∀ signal ∈ queue, signal.notice = .incoming → signal.connection ≠ connection) :
    (∀ other, hearAll (some (connection, other)) queue = some final) ∧
      hearAll none queue = some final ∧ ∀ other, final ≠ some (connection, other) := by
  induction queue generalizing phase with
  | nil => cases hangup
  | cons signal queue induction =>
      rcases hearAll_cons_eq_some.mp heard with ⟨next, first, rest⟩
      rcases hear_some_cases first with ⟨notIncoming, cases⟩
      rw [List.forall_mem_cons] at apart
      rw [hearAll, hear_none notIncoming]
      rcases cases with ⟨different, rfl⟩ | ⟨isHangup, rfl⟩ | ⟨same, notHangup, rfl⟩
      · rcases List.mem_cons.mp hangup with isFirst | later
        · exact absurd (isFirst ▸ rfl) different
        · rcases induction rest later apart.2 with ⟨fromAny, fromNone, ended⟩
          refine ⟨fun other => ?_, fromNone, ended⟩
          rw [hearAll, hear_other notIncoming different]
          exact fromAny other
      · refine ⟨fun other => ?_, rest, ?_⟩
        · rw [isHangup, hearAll, hear_hangup]
          exact rest
        · exact not_connection_of_apart rest (fun _ => by simp) apart.2
      · rcases List.mem_cons.mp hangup with isFirst | later
        · exact absurd (isFirst ▸ rfl) notHangup
        · rcases induction rest later apart.2 with ⟨fromAny, fromNone, ended⟩
          refine ⟨fun other => ?_, fromNone, ended⟩
          rw [hearAll, hear_same notIncoming notHangup same]
          exact fromAny _

/-! ## Two parties -/

inductive Agree : Line → Line → Prop
  | none : Agree none none
  | calling (connection : ClientId) :
      Agree (some (connection, .dialing)) (some (connection, .incoming))
  | called (connection : ClientId) :
      Agree (some (connection, .incoming)) (some (connection, .dialing))
  | active (connection : ClientId) :
      Agree (some (connection, .active)) (some (connection, .active))
  | held (connection : ClientId) :
      Agree (some (connection, .held)) (some (connection, .held))

theorem Agree.symm {mine theirs : Line} (agree : Agree mine theirs) : Agree theirs mine := by
  cases agree with
  | none => exact .none
  | calling connection => exact .called connection
  | called connection => exact .calling connection
  | active connection => exact .active connection
  | held connection => exact .held connection

theorem Agree.none_of_none {mine theirs : Line} (agree : Agree mine theirs)
    (isNone : mine = Option.none) : theirs = Option.none := by
  subst isNone
  cases agree
  rfl

theorem Agree.same_connection {mine theirs : Line} {connection : ClientId} {phase : Phase}
    (agree : Agree mine theirs) (onIt : mine = some (connection, phase)) :
    ∃ theirPhase, theirs = some (connection, theirPhase) := by
  subst onIt
  cases agree <;> exact ⟨_, rfl⟩

theorem Agree.connected {mine theirs : Line} {connection : ClientId} {phase theirPhase : Phase}
    (agree : Agree mine theirs) (onIt : mine = some (connection, phase))
    (theyOnIt : theirs = some (connection, theirPhase)) (connected : phase.Connected) :
    theirPhase.Connected := by
  subst onIt theyOnIt
  rcases connected with rfl | rfl
  · cases agree
    exact .inl rfl
  · cases agree
    exact .inr rfl

theorem Agree.hear_ended {mine theirs : Line} {connection : ClientId} {notice : Notice}
    (agree : Agree mine theirs) (ended : ∀ phase, mine ≠ some (connection, phase))
    (notIncoming : notice ≠ .incoming) : hear theirs ⟨connection, notice⟩ = some theirs := by
  cases theirs with
  | none => exact hear_none notIncoming
  | some call =>
      rcases call with ⟨other, phase⟩
      apply hear_other notIncoming
      rintro rfl
      rcases agree.symm.same_connection rfl with ⟨myPhase, isMine⟩
      exact ended myPhase isMine

structure Tidy (next : ClientId) (line : Line) (queue : List Signal) : Prop where
  opened : queue.Pairwise fun earlier later =>
    later.notice = .incoming → earlier.connection ≠ later.connection
  apart : ∀ connection phase, line = some (connection, phase) →
    ∀ signal ∈ queue, signal.notice = .incoming → signal.connection ≠ connection
  queueBelow : ∀ signal ∈ queue, signal.connection < next
  lineBelow : ∀ connection phase, line = some (connection, phase) → connection < next

structure Settled (next : ClientId) (mine theirs : Line) (toMine toTheirs : List Signal) :
    Prop where
  tidyMine : Tidy next mine toMine
  tidyTheirs : Tidy next theirs toTheirs
  agree : ∃ mineFinal theirsFinal, hearAll mine toMine = some mineFinal ∧
    hearAll theirs toTheirs = some theirsFinal ∧ Agree mineFinal theirsFinal

/-- A call is offered when none is offered to the party itself; the call is put on hold
or made active when the party has not been told otherwise, or has been told that the
call has ended. -/
def MaySend (toMine : List Signal) (signal : Signal) : Prop :=
  match signal.notice with
  | .incoming => ∀ other ∈ toMine, other.notice ≠ .incoming
  | .hangup => True
  | notice =>
      ⟨signal.connection, .hangup⟩ ∈ toMine ∨
        ∀ said ∈ lastSaid signal.connection toMine, said = notice

instance (toMine : List Signal) : (signal : Signal) → Decidable (MaySend toMine signal)
  | ⟨_, .incoming⟩ => inferInstanceAs (Decidable (∀ _ ∈ _, _))
  | ⟨_, .hangup⟩ => isTrue trivial
  | ⟨_, .active⟩ => inferInstanceAs (Decidable (_ ∨ _))
  | ⟨_, .held⟩ => inferInstanceAs (Decidable (_ ∨ _))

theorem Settled.symm {next : ClientId} {mine theirs : Line} {toMine toTheirs : List Signal}
    (settled : Settled next mine theirs toMine toTheirs) :
    Settled next theirs mine toTheirs toMine where
  tidyMine := settled.tidyTheirs
  tidyTheirs := settled.tidyMine
  agree := by
    rcases settled.agree with ⟨mineFinal, theirsFinal, heardMine, heardTheirs, agree⟩
    exact ⟨theirsFinal, mineFinal, heardTheirs, heardMine, agree.symm⟩

namespace Tidy

variable {next later connection : ClientId} {line : Line} {queue : List Signal}

theorem hear {signal : Signal} {heardLine : Line} (tidy : Tidy next line (signal :: queue))
    (heard : CallProtocol.hear line signal = some heardLine) : Tidy next heardLine queue where
  opened := (List.pairwise_cons.mp tidy.opened).2
  apart connection phase onIt other member isIncoming := by
    rcases hear_connection (onIt ▸ heard) with ⟨before, wasOn⟩ | opens
    · exact tidy.apart connection before wasOn other (List.mem_cons_of_mem signal member)
        isIncoming
    · have different := (List.pairwise_cons.mp tidy.opened).1 other member isIncoming
      rw [opens] at different
      exact Ne.symm different
  queueBelow other member := tidy.queueBelow other (List.mem_cons_of_mem signal member)
  lineBelow connection phase onIt := by
    rcases hear_connection (onIt ▸ heard) with ⟨before, wasOn⟩ | opens
    · exact tidy.lineBelow connection before wasOn
    · have below := tidy.queueBelow signal List.mem_cons_self
      rwa [opens] at below

theorem first {front rest : List Signal} {signal : Signal}
    (tidy : Tidy next line (front ++ signal :: rest))
    (others : ∀ earlier ∈ front, earlier.connection ≠ signal.connection) :
    Tidy next line (signal :: (front ++ rest)) := by
  have same : (signal :: (front ++ rest)).Perm (front ++ signal :: rest) :=
    List.perm_middle.symm
  refine ⟨?_, ?_, ?_, tidy.lineBelow⟩
  · rcases List.pairwise_append.mp tidy.opened with ⟨inFront, behind, across⟩
    rcases List.pairwise_cons.mp behind with ⟨first, inRest⟩
    refine List.pairwise_cons.mpr ⟨?_, List.pairwise_append.mpr ⟨inFront, inRest, ?_⟩⟩
    · intro other member isIncoming
      rcases List.mem_append.mp member with earlier | later
      · exact Ne.symm (others other earlier)
      · exact first other later isIncoming
    · intro earlier isEarlier later isLater
      exact across earlier isEarlier later (List.mem_cons_of_mem signal isLater)
  · intro connection phase onIt other member
    exact tidy.apart connection phase onIt other (same.mem_iff.mp member)
  · intro other member
    exact tidy.queueBelow other (same.mem_iff.mp member)

theorem change {phase other : Phase} (tidy : Tidy next (some (connection, phase)) queue) :
    Tidy next (some (connection, other)) queue where
  opened := tidy.opened
  apart _ _ onIt := by
    cases onIt
    exact tidy.apart connection phase rfl
  queueBelow := tidy.queueBelow
  lineBelow _ _ onIt := by
    cases onIt
    exact tidy.lineBelow connection phase rfl

theorem hangUp (tidy : Tidy next line queue) : Tidy next none queue where
  opened := tidy.opened
  apart _ _ onIt := by cases onIt
  queueBelow := tidy.queueBelow
  lineBelow _ _ onIt := by cases onIt

theorem dial (tidy : Tidy next none queue) (below : next < later) (phase : Phase) :
    Tidy later (some (next, phase)) queue where
  opened := tidy.opened
  apart _ _ onIt signal member _ := by
    cases onIt
    exact Nat.ne_of_lt (tidy.queueBelow signal member)
  queueBelow signal member := Nat.lt_trans (tidy.queueBelow signal member) below
  lineBelow _ _ onIt := by
    cases onIt
    exact below

theorem mono (tidy : Tidy next line queue) (bound : next ≤ later) : Tidy later line queue where
  opened := tidy.opened
  apart := tidy.apart
  queueBelow signal member := Nat.lt_of_lt_of_le (tidy.queueBelow signal member) bound
  lineBelow connection phase onIt :=
    Nat.lt_of_lt_of_le (tidy.lineBelow connection phase onIt) bound

theorem append {signal : Signal} (tidy : Tidy next line queue) (bound : next ≤ later)
    (below : signal.connection < later)
    (new : signal.notice = .incoming → next ≤ signal.connection) :
    Tidy later line (queue ++ [signal]) where
  opened := by
    refine List.pairwise_append.mpr ⟨tidy.opened, List.pairwise_singleton _ _, ?_⟩
    intro earlier member other isLast isIncoming
    rw [List.mem_singleton.mp isLast] at isIncoming ⊢
    exact Nat.ne_of_lt (Nat.lt_of_lt_of_le (tidy.queueBelow earlier member) (new isIncoming))
  apart connection phase onIt other member isIncoming := by
    rcases List.mem_append.mp member with old | isLast
    · exact tidy.apart connection phase onIt other old isIncoming
    · rw [List.mem_singleton.mp isLast] at isIncoming ⊢
      have below := tidy.lineBelow connection phase onIt
      exact Nat.ne_of_gt (Nat.lt_of_lt_of_le below (new isIncoming))
  queueBelow other member := by
    rcases List.mem_append.mp member with old | isLast
    · exact Nat.lt_of_lt_of_le (tidy.queueBelow other old) bound
    · rwa [List.mem_singleton.mp isLast]
  lineBelow := (tidy.mono bound).lineBelow

end Tidy

namespace Settled

variable {next later : ClientId} {mine theirs : Line} {toMine toTheirs : List Signal}

theorem quiet (settled : Settled next mine theirs [] []) : Agree mine theirs := by
  rcases settled.agree with ⟨mineFinal, theirsFinal, heardMine, heardTheirs, agree⟩
  cases heardMine
  cases heardTheirs
  exact agree

theorem hears {signal : Signal}
    (settled : Settled next mine theirs (signal :: toMine) toTheirs) :
    ∃ heardLine, hear mine signal = some heardLine ∧
      Settled next heardLine theirs toMine toTheirs := by
  rcases settled.agree with ⟨mineFinal, theirsFinal, heardMine, heardTheirs, agree⟩
  rcases hearAll_cons_eq_some.mp heardMine with ⟨heardLine, first, rest⟩
  exact ⟨heardLine, first, settled.tidyMine.hear first, settled.tidyTheirs,
    mineFinal, theirsFinal, rest, heardTheirs, agree⟩

theorem first {front rest : List Signal} {signal : Signal}
    (settled : Settled next mine theirs (front ++ signal :: rest) toTheirs)
    (others : ∀ earlier ∈ front, earlier.connection ≠ signal.connection)
    (idle : signal.notice = .incoming → ∀ earlier ∈ front, earlier.notice ≠ .incoming ∧
      ∀ phase, mine ≠ some (earlier.connection, phase)) :
    Settled next mine theirs (signal :: (front ++ rest)) toTheirs where
  tidyMine := settled.tidyMine.first others
  tidyTheirs := settled.tidyTheirs
  agree := by
    rcases settled.agree with ⟨mineFinal, theirsFinal, heardMine, heardTheirs, agree⟩
    refine ⟨mineFinal, theirsFinal, ?_, heardTheirs, agree⟩
    by_cases isIncoming : signal.notice = .incoming
    · rcases signal with ⟨connection, notice⟩
      cases isIncoming
      exact hearAll_offer (fun earlier member => ⟨others earlier member, idle rfl earlier member⟩)
        heardMine
    · exact hearAll_first others isIncoming heardMine

theorem hangup_of_none (settled : Settled next none theirs toMine toTheirs)
    (noneOffered : ∀ other ∈ toMine, other.notice ≠ .incoming) {connection : ClientId}
    (isOpen : (∃ phase, theirs = some (connection, phase)) ∨ ⟨connection, .incoming⟩ ∈ toTheirs) :
    ⟨connection, .hangup⟩ ∈ toTheirs := by
  rcases settled.agree with ⟨mineFinal, theirsFinal, heardMine, heardTheirs, agree⟩
  rw [hearAll_none noneOffered] at heardMine
  cases heardMine
  cases agree
  rcases isOpen with ⟨phase, rfl⟩ | offer
  · by_contra noHangup
    cases (hearAll_of_no_hangup heardTheirs noHangup).1
  · exact hangup_of_offer heardTheirs offer

theorem dials (settled : Settled next none theirs toMine toTheirs) (below : next < later)
    (noneOffered : ∀ other ∈ toMine, other.notice ≠ .incoming) :
    Settled later (some (next, .dialing)) theirs toMine
      (toTheirs ++ [⟨next, .incoming⟩]) where
  tidyMine := settled.tidyMine.dial below _
  tidyTheirs := settled.tidyTheirs.append (Nat.le_of_lt below) below fun _ => Nat.le_refl _
  agree := by
    rcases settled.agree with ⟨mineFinal, theirsFinal, heardMine, heardTheirs, agree⟩
    rw [hearAll_none noneOffered] at heardMine
    cases heardMine
    cases agree
    have others : ∀ signal ∈ toMine, signal.connection ≠ next := fun signal member =>
      Nat.ne_of_lt (settled.tidyMine.queueBelow signal member)
    have heard : hearAll (some (next, .dialing)) toMine = some (some (next, .dialing)) := by
      rw [hearAll_some .dialing noneOffered fun member => others _ member rfl,
        phaseAfter_other .dialing others]
    refine ⟨_, _, heard, ?_, .calling next⟩
    rw [hearAll_append heardTheirs]
    rfl

theorem hangsUp {connection : ClientId} {phase : Phase}
    (settled : Settled next (some (connection, phase)) theirs toMine toTheirs) :
    Settled next none theirs toMine (toTheirs ++ [⟨connection, .hangup⟩]) where
  tidyMine := settled.tidyMine.hangUp
  tidyTheirs := settled.tidyTheirs.append (Nat.le_refl _)
    (settled.tidyMine.lineBelow connection phase rfl) (fun isIncoming => by cases isIncoming)
  agree := by
    rcases settled.agree with ⟨mineFinal, theirsFinal, heardMine, heardTheirs, agree⟩
    by_cases hangup : ⟨connection, .hangup⟩ ∈ toMine
    · rcases hearAll_of_hangup heardMine hangup (settled.tidyMine.apart connection phase rfl)
        with ⟨-, fromNone, ended⟩
      refine ⟨mineFinal, theirsFinal, fromNone, ?_, agree⟩
      rw [hearAll_append heardTheirs, hearAll, agree.hear_ended ended (by simp)]
      rfl
    · rcases hearAll_of_no_hangup heardMine hangup with ⟨isFinal, noneOffered⟩
      refine ⟨none, none, hearAll_none noneOffered, ?_, .none⟩
      rcases agree.same_connection isFinal with ⟨theirPhase, isTheirs⟩
      rw [hearAll_append heardTheirs, isTheirs, hearAll, hear_hangup]
      rfl

theorem changes {connection : ClientId} {phase : Phase} {notice : Notice}
    (settled : Settled next (some (connection, phase)) theirs toMine toTheirs)
    (isChange : notice = .active ∨ notice = .held ∧ phase.Connected)
    (maySend : MaySend toMine ⟨connection, notice⟩) :
    Settled next (some (connection, notice.phase)) theirs toMine
      (toTheirs ++ [⟨connection, notice⟩]) where
  tidyMine := settled.tidyMine.change
  tidyTheirs := settled.tidyTheirs.append (Nat.le_refl _)
    (settled.tidyMine.lineBelow connection phase rfl) (fun isIncoming => by
      rcases isChange with rfl | ⟨rfl, -⟩ <;> cases isIncoming)
  agree := by
    rcases settled.agree with ⟨mineFinal, theirsFinal, heardMine, heardTheirs, agree⟩
    have notIncoming : notice ≠ .incoming := by
      rcases isChange with rfl | ⟨rfl, -⟩ <;> simp
    by_cases hangup : ⟨connection, .hangup⟩ ∈ toMine
    · rcases hearAll_of_hangup heardMine hangup (settled.tidyMine.apart connection phase rfl)
        with ⟨fromAny, -, ended⟩
      refine ⟨mineFinal, theirsFinal, fromAny notice.phase, ?_, agree⟩
      rw [hearAll_append heardTheirs, hearAll, agree.hear_ended ended notIncoming]
      rfl
    · rcases hearAll_of_no_hangup heardMine hangup with ⟨isFinal, noneOffered⟩
      have unchanged : phaseAfter connection notice.phase toMine = notice.phase := by
        apply phaseAfter_of_lastSaid
        · rcases isChange with rfl | ⟨rfl, -⟩ <;> simp [Notice.phase, Phase.Connected]
        · rcases isChange with rfl | ⟨rfl, -⟩ <;> exact maySend.resolve_left hangup
      have heard := hearAll_some notice.phase noneOffered hangup
      rcases agree.same_connection isFinal with ⟨theirPhase, isTheirs⟩
      have told : hear (some (connection, theirPhase)) ⟨connection, notice⟩ =
          some (some (connection, notice.phase)) := by
        rcases isChange with rfl | ⟨rfl, connected⟩
        · simp [hear, Phase.hear, Notice.phase]
        · have connectedFinal := connected.phaseAfter connection toMine
          rcases agree.connected isFinal isTheirs connectedFinal with rfl | rfl <;>
            simp [hear, Phase.hear, Notice.phase]
      refine ⟨_, some (connection, notice.phase), heard, ?_, ?_⟩
      · rw [hearAll_append heardTheirs, isTheirs, hearAll, told]
        rfl
      · rw [unchanged]
        rcases isChange with rfl | ⟨rfl, -⟩
        · exact .active connection
        · exact .held connection

end Settled

end Cuttlefish.ModemSimulator.CallProtocol
