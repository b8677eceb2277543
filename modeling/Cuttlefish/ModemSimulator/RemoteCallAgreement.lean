import Cuttlefish.Foundation.Run
import Cuttlefish.ModemSimulator.RemoteCallEffects

/-! # Two modems and the call between them

Two call services that are connected by what they send each other. A dialled call has
a connection of its own, whose messages arrive in order, while those of two connections
arrive in any order; either side may close a connection, and drops then what still arrives
on it. The clients of both modems give commands at any time. -/

namespace Cuttlefish.ModemSimulator

open CallProtocol CallService

inductive Side
  | left
  | right
  deriving DecidableEq, Repr

namespace Side

def other : Side → Side
  | left => right
  | right => left

@[simp] theorem other_other (side : Side) : side.other.other = side := by
  cases side <;> rfl

@[simp] theorem other_ne (side : Side) : side.other ≠ side := by
  cases side <;> decide

@[simp] theorem ne_other (side : Side) : side ≠ side.other := by
  cases side <;> decide

def put {Value : Type} (values : Side → Value) (side : Side) (value : Value) : Side → Value :=
  fun other => if other = side then value else values other

@[simp] theorem put_self {Value : Type} (values : Side → Value) (side : Side) (value : Value) :
    put values side value side = value := by
  simp [put]

@[simp] theorem put_other {Value : Type} (values : Side → Value) (side : Side)
    (value : Value) : put values side value side.other = values side.other := by
  simp [put]

@[simp] theorem put_other_self {Value : Type} (values : Side → Value) (side : Side)
    (value : Value) : put values side.other value side = values side := by
  simp [put]

@[simp] theorem put_same {Value : Type} (values : Side → Value) (side : Side) :
    put values side (values side) = values := by
  funext other
  by_cases same : other = side
  · rw [same, put_self]
  · simp [put, same]

@[simp] theorem put_put {Value : Type} (values : Side → Value) (side : Side)
    (first second : Value) : put (put values side first) side second =
      put values side second := by
  funext other
  by_cases same : other = side <;> simp [put, same]

theorem forall_of {Holds : Side → Prop} (side : Side) (mine : Holds side)
    (theirs : Holds side.other) : ∀ any, Holds any := by
  intro any
  cases side <;> cases any <;> assumption

end Side

/-- The services, the connections that each side has closed, the messages on their way
to each side with their connections (only the order of those of one connection matters), and
the number of the next connection. -/
structure Modems where
  service : Side → CallService
  closed : Side → List ClientId
  toward : Side → List (ClientId × Text)
  nextConnection : ClientId

namespace Modems

def initial (ports : Side → Int) (inEmergencyMode : Side → Bool) : Modems where
  service side := CallService.initial (Decimal.print (ports side)) (inEmergencyMode side)
  closed _ := []
  toward _ := []
  nextConnection := 0

/-- `SendRemoteCommand` and `CloseRemoteConnection`; nothing is sent on a connection that
the side has closed. -/
def send (modems : Modems) (side : Side) : Output → Modems
  | .toRemote client text =>
      if client ∈ modems.closed side then modems
      else
        let queue := modems.toward side.other ++ [(client, text.toList)]
        { modems with toward := Side.put modems.toward side.other queue }
  | .closeRemote client =>
      { modems with closed := Side.put modems.closed side (client :: modems.closed side) }
  | _ => modems

def sendAll (modems : Modems) (side : Side) : List Output → Modems
  | [] => modems
  | output :: rest => (modems.send side output).sendAll side rest

def perform (modems : Modems) (side : Side) (input : Input) : Option Modems :=
  match (modems.service side).handle input with
  | none => none
  | some (service, outputs) =>
      some ({ modems with service := Side.put modems.service side service }.sendAll side outputs)

def connect (modems : Modems) : Input → Input
  | .dial env command => .dial { env with remoteClient := modems.nextConnection } command
  | input => input

def dialledRemote (modems : Modems) (side : Side) (input : Input) : Option Int :=
  match modems.connect input with
  | .dial env command =>
      match decideDial (modems.service side).hostId env command with
      | some (.remote port) => some port
      | _ => none
  | _ => none

def command (modems : Modems) (side : Side) (input : Input) : Option Modems :=
  if isCommand input then
    match modems.dialledRemote side input with
    | none => modems.perform side (modems.connect input)
    | some port =>
        if Decimal.print port = (modems.service side.other).hostId then
          { modems with nextConnection := modems.nextConnection + 1 }.perform side
            (modems.connect input)
        else none
  else none

/-- The first message of a connection, and the other messages. -/
def takeFirst (client : ClientId) :
    List (ClientId × Text) → Option (Text × List (ClientId × Text))
  | [] => none
  | message :: rest =>
      if message.1 = client then some (message.2, rest)
      else (takeFirst client rest).map fun taken => (taken.1, message :: taken.2)

/-- The next message of a connection arrives at a side. `REM0` is for the server that accepts
the connection. -/
def deliver (modems : Modems) (side : Side) (client : ClientId) (radioOff : Bool) :
    Option Modems :=
  match takeFirst client (modems.toward side) with
  | none => none
  | some (text, rest) =>
      let modems := { modems with toward := Side.put modems.toward side rest }
      if client ∈ modems.closed side then some modems
      else if text = "REM0".toList then some modems
      else modems.perform side (.remoteCall client radioOff text)

inductive Step
  | command (side : Side) (input : Input)
  | deliver (side : Side) (client : ClientId) (radioOff : Bool)
  deriving DecidableEq, Repr

def step (modems : Modems) : Step → Option Modems
  | .command side input => modems.command side input
  | .deliver side client radioOff => modems.deliver side client radioOff

theorem takeFirst_eq_some {client : ClientId} {messages rest : List (ClientId × Text)} {text : Text}
    (taken : takeFirst client messages = some (text, rest)) :
    ∃ front back, messages = front ++ (client, text) :: back ∧ rest = front ++ back ∧
      ∀ earlier ∈ front, earlier.1 ≠ client := by
  induction messages generalizing rest with
  | nil => cases taken
  | cons message messages induction =>
      rw [takeFirst] at taken
      split at taken
      · rename_i same
        cases taken
        exact ⟨[], messages, by rw [← same]; rfl, rfl, by simp⟩
      · rename_i different
        rcases Option.map_eq_some_iff.mp taken with ⟨⟨_, others⟩, isTaken, isRest⟩
        cases isRest
        rcases induction isTaken with ⟨front, back, rfl, rfl, apart⟩
        exact ⟨message :: front, back, rfl, rfl, List.forall_mem_cons.mpr ⟨different, apart⟩⟩

theorem dialledRemote_eq_some {modems : Modems} {side : Side} {input : Input} {port : Int}
    (dialled : modems.dialledRemote side input = some port) :
    ∃ env text, modems.connect input = .dial env text ∧
      env.remoteClient = modems.nextConnection ∧
      decideDial (modems.service side).hostId env text = some (.remote port) := by
  cases input with
  | dial env text =>
      simp only [dialledRemote, connect] at dialled
      split at dialled
      · rename_i decided
        cases dialled
        exact ⟨_, text, rfl, rfl, decided⟩
      · cases dialled
  | _ => cases dialled

/-! ## Agreement -/

/-- The calls of a side with the other one. -/
def callsWithOther (modems : Modems) (side : Side) : List CallStatus :=
  ((modems.service side).activeCalls.entries.map Prod.snd).filter fun call =>
    call.number = (modems.service side.other).hostId

/-- The two ends of a call agree on whether it is active and whether it is held. -/
def Matches (mine theirs : CallStatus) : Prop :=
  mine.remoteClient = theirs.remoteClient ∧
    (mine.callState = .active ↔ theirs.callState = .active) ∧
    (mine.callState = .held ↔ theirs.callState = .held)

instance (mine theirs : CallStatus) : Decidable (Matches mine theirs) :=
  inferInstanceAs (Decidable (_ ∧ _))

/-- Both sides have the call between them or neither has, and they agree on it. -/
def Agreement (modems : Modems) : Prop :=
  (∀ mine ∈ modems.callsWithOther .left, ∃ theirs ∈ modems.callsWithOther .right,
    Matches mine theirs) ∧
  ∀ theirs ∈ modems.callsWithOther .right, ∃ mine ∈ modems.callsWithOther .left,
    Matches mine theirs

instance (modems : Modems) : Decidable modems.Agreement :=
  inferInstanceAs (Decidable (_ ∧ _))

/-- No message is on its way. -/
def Quiet (modems : Modems) : Prop := modems.toward .left = [] ∧ modems.toward .right = []

instance (modems : Modems) : Decidable modems.Quiet := inferInstanceAs (Decidable (_ ∧ _))

/-- What the messages on their way say. -/
def signals (messages : List (ClientId × Text)) : List Signal :=
  messages.filterMap fun message => (noticeOf message.2).map fun notice => ⟨message.1, notice⟩

/-- No message is on its way to the side that ends a call it still has or is offered. -/
def NoneEnds (modems : Modems) (side : Side) : Prop :=
  ∀ signal ∈ signals (modems.toward side), signal.notice = .hangup →
    signal.connection ∈ modems.closed side

/-- What a side may tell the other one by a command: it offers a call when there is none
between them, none is on its way to it and the other one has heard that former calls have
ended, and puts the call on hold or makes it active when no message on its way to it says
otherwise. -/
def MayTell (modems : Modems) (side : Side) (client : ClientId) (notice : Notice) : Prop :=
  MaySend (signals (modems.toward side)) ⟨client, notice⟩ ∧
    (notice = .incoming → modems.callsWithOther side = [] ∧ modems.NoneEnds side.other)

def MayOutput (modems : Modems) (side : Side) : Output → Prop
  | .toRemote client text =>
      ∀ notice ∈ noticeOf text.toList, modems.MayTell side client notice
  | _ => True

/-- Every message of a command is one that may be sent, and no call is offered to a modem
whose radio is off. -/
def Orderly (modems : Modems) : Step → Prop
  | .command side input =>
      match (modems.service side).handle (modems.connect input) with
      | none => True
      | some (_, outputs) => ∀ output ∈ outputs, modems.MayOutput side output
  | .deliver side client radioOff =>
      ∀ taken ∈ takeFirst client (modems.toward side), noticeOf taken.1 = some .incoming →
        radioOff = false

instance (modems : Modems) (side : Side) : Decidable (modems.NoneEnds side) :=
  inferInstanceAs (Decidable (∀ _ ∈ _, _))

instance (modems : Modems) (side : Side) (client : ClientId) (notice : Notice) :
    Decidable (modems.MayTell side client notice) :=
  inferInstanceAs (Decidable (_ ∧ _))

instance (modems : Modems) (side : Side) : (output : Output) →
    Decidable (modems.MayOutput side output)
  | .toRemote _ _ => inferInstanceAs (Decidable (∀ _ ∈ _, _))
  | .response _ => isTrue trivial
  | .unsolicited _ => isTrue trivial
  | .closeRemote _ => isTrue trivial

instance (modems : Modems) : (step : Step) → Decidable (modems.Orderly step)
  | .command side input =>
      match handled : (modems.service side).handle (modems.connect input) with
      | none => isTrue (by simp [Orderly, handled])
      | some result =>
          decidable_of_iff (∀ output ∈ result.2, modems.MayOutput side output)
            (by simp [Orderly, handled])
  | .deliver _ _ _ => inferInstanceAs (Decidable (∀ _ ∈ _, _))

/-! ## The services keep to the protocol -/

theorem signals_append (messages more : List (ClientId × Text)) :
    signals (messages ++ more) = signals messages ++ signals more := by
  simp [signals]

theorem signals_tells {hostId text : Text} {notice : Notice} (tells : Tells hostId notice text)
    (client : ClientId) (rest : List (ClientId × Text)) :
    signals ((client, text) :: rest) = ⟨client, notice⟩ :: signals rest := by
  simp [signals, tells.notice]

theorem signals_rem0 (client : ClientId) (rest : List (ClientId × Text)) :
    signals ((client, "REM0".toList) :: rest) = signals rest := by
  have nothing : noticeOf "REM0".toList = none := by decide
  rw [signals, List.filterMap_cons, nothing]
  rfl

/-- The connections that a side has open: that of its call, and those on which it will be
offered one. -/
def Opened (next : ClientId) (closed : List ClientId) (line : Line) (queue : List Signal) :
    Prop :=
  ∀ client < next, client ∉ closed ↔
    (∃ phase, line = some (client, phase)) ∨ ⟨client, .incoming⟩ ∈ queue

theorem Opened.change {next client : ClientId} {closed : List ClientId} {phase after : Phase}
    {queue : List Signal} (opened : Opened next closed (some (client, phase)) queue) :
    Opened next closed (some (client, after)) queue := by
  intro other below
  rw [opened other below]
  simp

theorem Opened.of_mem_iff {next : ClientId} {closed : List ClientId} {line : Line}
    {queue other : List Signal} (opened : Opened next closed line queue)
    (same : ∀ signal, signal ∈ other ↔ signal ∈ queue) : Opened next closed line other := by
  intro client below
  rw [opened client below, same]

theorem Opened.tail {next : ClientId} {closed : List ClientId} {line : Line} {signal : Signal}
    {queue : List Signal} (opened : Opened next closed line (signal :: queue))
    (notIncoming : signal.notice ≠ .incoming) : Opened next closed line queue := by
  intro client below
  rw [opened client below, List.mem_cons]
  constructor
  · rintro (onIt | isFirst | later)
    · exact .inl onIt
    · exact absurd (isFirst ▸ rfl) notIncoming
    · exact .inr later
  · rintro (onIt | later)
    · exact .inl onIt
    · exact .inr (.inr later)

theorem Opened.offer {next client : ClientId} {closed : List ClientId} {queue : List Signal}
    (opened : Opened next closed none (⟨client, .incoming⟩ :: queue)) (phase : Phase) :
    Opened next closed (some (client, phase)) queue := by
  intro other below
  rw [opened other below, List.mem_cons]
  constructor
  · rintro (⟨_, onIt⟩ | isFirst | later)
    · cases onIt
    · cases isFirst
      exact .inl ⟨phase, rfl⟩
    · exact .inr later
  · rintro (⟨_, onIt⟩ | later)
    · cases onIt
      exact .inr (.inl rfl)
    · exact .inr (.inr later)

theorem Opened.close {next client : ClientId} {closed : List ClientId} {phase : Phase}
    {queue : List Signal} (opened : Opened next closed (some (client, phase)) queue)
    (apart : ∀ signal ∈ queue, signal.notice = .incoming → signal.connection ≠ client) :
    Opened next (client :: closed) none queue := by
  intro other below
  have openedOther := opened other below
  by_cases same : other = client
  · have notPending : ⟨other, .incoming⟩ ∉ queue := fun pending =>
      apart _ pending rfl same
    simp [same, same ▸ notPending]
  · simp [same, Ne.symm same] at openedOther ⊢
    exact openedOther

def closesOn (client : ClientId) (notice : Notice) : List ClientId :=
  if notice = .hangup then [client] else []

theorem Opened.hear {next client : ClientId} {closed : List ClientId} {line after : Line}
    {notice : Notice} {queue : List Signal}
    (opened : Opened next closed line (⟨client, notice⟩ :: queue))
    (onIt : notice ≠ .incoming → ∃ phase, line = some (client, phase))
    (apart : ∀ phase, line = some (client, phase) → ∀ signal ∈ queue,
      signal.notice = .incoming → signal.connection ≠ client)
    (heard : CallProtocol.hear line ⟨client, notice⟩ = some after) :
    Opened next (closesOn client notice ++ closed) after queue := by
  cases notice with
  | incoming =>
      cases line with
      | some own => simp [CallProtocol.hear] at heard
      | none =>
          cases heard
          exact opened.offer .incoming
  | hangup =>
      rcases onIt (by simp) with ⟨phase, rfl⟩
      rw [hear_hangup] at heard
      cases heard
      exact (opened.tail (by simp)).close (apart phase rfl)
  | active | held =>
      rcases onIt (by simp) with ⟨phase, rfl⟩
      rcases (hear_some_cases heard).2 with ⟨different, -⟩ | ⟨isHangup, -⟩ | ⟨-, -, rfl⟩
      · exact absurd rfl different
      · cases isHangup
      · exact (opened.tail (by simp)).change

def Single (next : ClientId) (closed : List ClientId) : Prop :=
  ∀ client < next, ∀ other < next, client ∉ closed → other ∉ closed → client = other

theorem Single.close {next : ClientId} {closed : List ClientId} (single : Single next closed)
    (closes : List ClientId) : Single next (closes ++ closed) := by
  intro client below other otherBelow isOpen otherOpen
  rw [List.mem_append, not_or] at isOpen otherOpen
  exact single client below other otherBelow isOpen.2 otherOpen.2

theorem Single.dial {next : ClientId} {closed : List ClientId}
    (allClosed : ∀ client < next, client ∈ closed) : Single (next + 1) closed := by
  have isNext (client : ClientId) (below : client < next + 1) (isOpen : client ∉ closed) :
      client = next := by
    by_contra different
    exact isOpen (allClosed client (Nat.lt_of_le_of_ne (Nat.le_of_lt_succ below) different))
  intro client below other otherBelow isOpen otherOpen
  rw [isNext client below isOpen, isNext other otherBelow otherOpen]

/-- The modems are at a point of the protocol. -/
structure Consistent (ports : Side → Int) (modems : Modems) (line : Side → Line) : Prop where
  settled : ∀ side, Settled modems.nextConnection (line side) (line side.other)
    (signals (modems.toward side)) (signals (modems.toward side.other))
  reflects : ∀ side, Reflects (modems.service side) (Decimal.print (ports side.other))
    (line side)
  hosts : ∀ side, (modems.service side).hostId = Decimal.print (ports side)
  opened : ∀ side, Opened modems.nextConnection (modems.closed side) (line side)
    (signals (modems.toward side))
  single : ∀ side, Single modems.nextConnection (modems.closed side)
  closedBelow : ∀ side, ∀ client ∈ modems.closed side, client < modems.nextConnection
  texts : ∀ side, ∀ message ∈ modems.toward side, message.2 = "REM0".toList ∨
    ∃ notice, Tells (Decimal.print (ports side.other)) notice message.2

theorem consistent_initial (ports : Side → Int) (inEmergencyMode : Side → Bool) :
    Consistent ports (initial ports inEmergencyMode) fun _ => none where
  settled _ := by
    have tidy : Tidy 0 none [] :=
      ⟨List.Pairwise.nil, by simp, by simp, by simp⟩
    exact ⟨tidy, tidy, none, none, rfl, rfl, .none⟩
  reflects _ := reflects_initial _ _ _
  hosts _ := rfl
  opened _ client below := absurd below (Nat.not_lt_zero client)
  single _ client below := absurd below (Nat.not_lt_zero client)
  closedBelow _ _ member := by cases member
  texts _ _ member := by cases member

theorem sendAll_remoteOutputs (modems : Modems) (side : Side) (outputs : List Output) :
    modems.sendAll side (remoteOutputs outputs) = modems.sendAll side outputs := by
  induction outputs generalizing modems with
  | nil => rfl
  | cons output rest induction =>
      cases output with
      | response lines => exact induction modems
      | unsolicited text => exact induction modems
      | toRemote client text => exact induction (modems.send side (.toRemote client text))
      | closeRemote client => exact induction (modems.send side (.closeRemote client))

def advanced (modems : Modems) (side : Side) (service : CallService) (closes : List ClientId)
    (added : List (ClientId × Text)) (later : ClientId) : Modems where
  service := Side.put modems.service side service
  closed := Side.put modems.closed side (closes ++ modems.closed side)
  toward := Side.put modems.toward side.other (modems.toward side.other ++ added)
  nextConnection := later

namespace Consistent

variable {ports : Side → Int} {modems : Modems} {line : Side → Line} {side : Side}

theorem sent (consistent : Consistent ports modems line) {service : CallService}
    {after : Line} {added : List (ClientId × Text)} {closes : List ClientId} {later : ClientId}
    (reflects : Reflects service (Decimal.print (ports side.other)) after)
    (host : service.hostId = Decimal.print (ports side))
    (settled : Settled later after (line side.other) (signals (modems.toward side))
      (signals (modems.toward side.other ++ added)))
    (opened : Opened later (closes ++ modems.closed side) after (signals (modems.toward side)))
    (openedOther : Opened later (modems.closed side.other) (line side.other)
      (signals (modems.toward side.other ++ added)))
    (single : Single later (closes ++ modems.closed side))
    (singleOther : Single later (modems.closed side.other))
    (bound : modems.nextConnection ≤ later) (closesBelow : ∀ client ∈ closes, client < later)
    (texts : ∀ message ∈ added, message.2 = "REM0".toList ∨
      ∃ notice, Tells (Decimal.print (ports side)) notice message.2) :
    Consistent ports (modems.advanced side service closes added later)
      (Side.put line side after) where
  settled := Side.forall_of side (by simpa [advanced] using settled)
    (by simpa [advanced] using settled.symm)
  reflects := Side.forall_of side (by simpa [advanced] using reflects)
    (by simpa [advanced] using consistent.reflects side.other)
  hosts := Side.forall_of side (by simpa [advanced] using host)
    (by simpa [advanced] using consistent.hosts side.other)
  opened := Side.forall_of side (by simpa [advanced] using opened)
    (by simpa [advanced] using openedOther)
  single := Side.forall_of side (by simpa [advanced] using single)
    (by simpa [advanced] using singleOther)
  closedBelow := by
    refine Side.forall_of side ?_ ?_
    · intro client member
      dsimp only [advanced] at member
      rw [Side.put_self] at member
      rcases List.mem_append.mp member with new | old
      · exact closesBelow client new
      · exact Nat.lt_of_lt_of_le (consistent.closedBelow side client old) bound
    · intro client member
      dsimp only [advanced] at member
      rw [Side.put_other] at member
      exact Nat.lt_of_lt_of_le (consistent.closedBelow side.other client member) bound
  texts := by
    refine Side.forall_of side ?_ ?_
    · intro message member
      dsimp only [advanced] at member
      rw [Side.put_other_self] at member
      exact consistent.texts side message member
    · intro message member
      dsimp only [advanced] at member
      rw [Side.put_self] at member
      rw [Side.other_other]
      rcases List.mem_append.mp member with old | new
      · simpa using consistent.texts side.other message old
      · exact texts message new

theorem open_of_line (consistent : Consistent ports modems line) {client : ClientId}
    {phase : Phase} (onIt : line side = some (client, phase)) :
    client ∉ modems.closed side ∧ client < modems.nextConnection := by
  have below := (consistent.settled side).tidyMine.lineBelow client phase onIt
  exact ⟨(consistent.opened side client below).mpr (.inl ⟨phase, onIt⟩), below⟩

theorem openedOther_of_added (consistent : Consistent ports modems line)
    {added : List (ClientId × Text)}
    (noIncoming : ∀ signal ∈ signals added, signal.notice ≠ .incoming) :
    Opened modems.nextConnection (modems.closed side.other) (line side.other)
      (signals (modems.toward side.other ++ added)) := by
  intro client below
  rw [consistent.opened side.other client below, signals_append, List.mem_append]
  constructor
  · rintro (onIt | pending)
    · exact .inl onIt
    · exact .inr (.inl pending)
  · rintro (onIt | pending | new)
    · exact .inl onIt
    · exact .inr pending
    · exact absurd rfl (noIncoming _ new)

theorem outcome (consistent : Consistent ports modems line) {service : CallService}
    {after : Line} {outputs : List Output}
    (outcome : Outcome (Decimal.print (ports side)) (line side) after outputs)
    (reflects : Reflects service (Decimal.print (ports side.other)) after)
    (host : service.hostId = Decimal.print (ports side))
    (may : ∀ client text, .toRemote client text ∈ outputs → ∀ notice ∈ noticeOf text.toList,
      modems.MayTell side client notice) :
    ∃ lines, Consistent ports
      ({ modems with service := Side.put modems.service side service }.sendAll side outputs)
      lines := by
  have settledBefore := consistent.settled side
  have openedBefore := consistent.opened side
  generalize isLine : line side = before at outcome settledBefore openedBefore
  cases outcome with
  | stays =>
      have isSent : { modems with service := Side.put modems.service side service }.sendAll side
          [] = modems.advanced side service [] [] modems.nextConnection := by
        simp [sendAll, advanced]
      rw [isSent]
      exact ⟨_, consistent.sent reflects host (by simpa using settledBefore)
        (by simpa using openedBefore) (consistent.openedOther_of_added (by simp [signals]))
        ((consistent.single side).close []) (consistent.single side.other) (Nat.le_refl _)
        (by simp) (by simp)⟩
  | @changes client phase notice text change tells =>
      rcases consistent.open_of_line isLine with ⟨isOpen, below⟩
      have isSent : { modems with service := Side.put modems.service side service }.sendAll side
          [.toRemote client text] = modems.advanced side service [] [(client, text.toList)]
            modems.nextConnection := by
        simp [sendAll, send, isOpen, advanced]
      have isSignal := signals_tells tells client []
      have maySend := (may client text List.mem_cons_self notice tells.notice).1
      rw [isSent]
      refine ⟨_, consistent.sent reflects host ?_ ?_ (consistent.openedOther_of_added ?_)
        ((consistent.single side).close []) (consistent.single side.other) (Nat.le_refl _)
        (by simp) ?_⟩
      · rw [signals_append, isSignal]
        apply settledBefore.changes _ maySend
        rcases change with ⟨isActive, -⟩ | ⟨isHeld, wasActive⟩
        · exact .inl isActive
        · exact .inr ⟨isHeld, .inl wasActive⟩
      · exact openedBefore.change
      · rw [isSignal]
        rcases change with ⟨rfl, -⟩ | ⟨rfl, -⟩ <;> simp [signals]
      · intro message member
        rw [List.mem_singleton.mp member]
        exact .inr ⟨notice, tells⟩
  | @hangsUp client phase text tells =>
      rcases consistent.open_of_line isLine with ⟨isOpen, below⟩
      have isSent : { modems with service := Side.put modems.service side service }.sendAll side
          [.toRemote client text, .closeRemote client] =
            modems.advanced side service [client] [(client, text.toList)]
              modems.nextConnection := by
        simp [sendAll, send, isOpen, advanced]
      have isSignal := signals_tells tells client []
      rw [isSent]
      refine ⟨_, consistent.sent reflects host ?_ ?_ (consistent.openedOther_of_added ?_)
        ((consistent.single side).close [client]) (consistent.single side.other) (Nat.le_refl _)
        (by simpa using below) ?_⟩
      · rw [signals_append, isSignal]
        exact settledBefore.hangsUp
      · exact openedBefore.close (settledBefore.tidyMine.apart client phase rfl)
      · rw [isSignal]
        simp [signals]
      · intro message member
        rw [List.mem_singleton.mp member]
        exact .inr ⟨.hangup, tells⟩

theorem closed_of_none (consistent : Consistent ports modems line) (noCall : line side = none)
    (noneOffered : ∀ signal ∈ signals (modems.toward side), signal.notice ≠ .incoming) :
    ∀ client < modems.nextConnection, client ∈ modems.closed side := by
  intro client below
  by_contra isOpen
  rcases (consistent.opened side client below).mp isOpen with ⟨phase, onIt⟩ | pending
  · rw [noCall] at onIt
    cases onIt
  · exact noneOffered _ pending rfl

theorem closedOther_of_none (consistent : Consistent ports modems line) (noCall : line side = none)
    (noneOffered : ∀ signal ∈ signals (modems.toward side), signal.notice ≠ .incoming)
    (noneEnds : modems.NoneEnds side.other) :
    ∀ client < modems.nextConnection, client ∈ modems.closed side.other := by
  intro client below
  by_contra isOpen
  have settled := consistent.settled side
  rw [noCall] at settled
  have hangup := settled.hangup_of_none noneOffered
    ((consistent.opened side.other client below).mp isOpen)
  exact isOpen (noneEnds _ hangup rfl)

theorem dials (consistent : Consistent ports modems line) (noCall : line side = none)
    (noneOffered : ∀ signal ∈ signals (modems.toward side), signal.notice ≠ .incoming)
    (noneEnds : modems.NoneEnds side.other) {service : CallService}
    (reflects : Reflects service (Decimal.print (ports side.other))
      (some (modems.nextConnection, .dialing)))
    (host : service.hostId = Decimal.print (ports side)) {text : Text}
    (tells : Tells (Decimal.print (ports side)) .incoming text) :
    Consistent ports
      (modems.advanced side service []
        [(modems.nextConnection, "REM0".toList), (modems.nextConnection, text)]
        (modems.nextConnection + 1))
      (Side.put line side (some (modems.nextConnection, .dialing))) := by
  have notClosed (any : Side) : modems.nextConnection ∉ modems.closed any := fun member =>
    Nat.lt_irrefl _ (consistent.closedBelow any _ member)
  have isSignal : signals [(modems.nextConnection, "REM0".toList),
      (modems.nextConnection, text)] = [⟨modems.nextConnection, .incoming⟩] := by
    rw [signals_rem0, signals_tells tells]
    rfl
  have settled := consistent.settled side
  have opened := consistent.opened side
  rw [noCall] at settled opened
  apply consistent.sent reflects host
  · rw [signals_append, isSignal]
    exact settled.dials (Nat.lt_succ_self _) noneOffered
  · intro client below
    rw [List.nil_append]
    rcases Nat.lt_succ_iff_lt_or_eq.mp below with earlier | same
    · rw [opened client earlier]
      simp [Nat.ne_of_gt earlier]
    · rw [same]
      simp [notClosed]
  · intro client below
    rw [signals_append, isSignal]
    rcases Nat.lt_succ_iff_lt_or_eq.mp below with earlier | same
    · rw [consistent.opened side.other client earlier]
      simp [Nat.ne_of_lt earlier]
    · rw [same]
      simp [notClosed]
  · exact Single.dial (consistent.closed_of_none noCall noneOffered)
  · exact Single.dial (consistent.closedOther_of_none noCall noneOffered noneEnds)
  · exact Nat.le_succ _
  · simp
  · intro message member
    rcases List.mem_cons.mp member with isFirst | isSecond
    · rw [isFirst]
      exact .inl rfl
    · rw [List.mem_singleton.mp isSecond]
      exact .inr ⟨.incoming, tells⟩

theorem received (consistent : Consistent ports modems line) {rest : List (ClientId × Text)}
    (subset : ∀ message ∈ rest, message ∈ modems.toward side) (closes : List ClientId)
    {service : CallService} {after : Line}
    (reflects : Reflects service (Decimal.print (ports side.other)) after)
    (host : service.hostId = Decimal.print (ports side))
    (settled : Settled modems.nextConnection after (line side.other) (signals rest)
      (signals (modems.toward side.other)))
    (opened : Opened modems.nextConnection (closes ++ modems.closed side) after (signals rest))
    (closesBelow : ∀ client ∈ closes, client < modems.nextConnection) :
    Consistent ports
      { service := Side.put modems.service side service
        closed := Side.put modems.closed side (closes ++ modems.closed side)
        toward := Side.put modems.toward side rest
        nextConnection := modems.nextConnection }
      (Side.put line side after) where
  settled := Side.forall_of side (by simpa using settled) (by simpa using settled.symm)
  reflects := Side.forall_of side (by simpa using reflects)
    (by simpa using consistent.reflects side.other)
  hosts := Side.forall_of side (by simpa using host) (by simpa using consistent.hosts side.other)
  opened := Side.forall_of side (by simpa using opened)
    (by simpa using consistent.opened side.other)
  single := Side.forall_of side (by simpa using (consistent.single side).close closes)
    (by simpa using consistent.single side.other)
  closedBelow := by
    refine Side.forall_of side ?_ ?_
    · intro client member
      dsimp only at member
      rw [Side.put_self] at member
      rcases List.mem_append.mp member with new | old
      · exact closesBelow client new
      · exact consistent.closedBelow side client old
    · intro client member
      dsimp only at member
      rw [Side.put_other] at member
      exact consistent.closedBelow side.other client member
  texts := by
    refine Side.forall_of side ?_ ?_
    · intro later member
      dsimp only at member
      rw [Side.put_self] at member
      exact consistent.texts side later (subset later member)
    · intro later member
      dsimp only at member
      rw [Side.put_other] at member
      exact consistent.texts side.other later member

theorem noQuote (consistent : Consistent ports modems line) :
    '"' ∉ (modems.service side).hostId := by
  rw [consistent.hosts side]
  exact quote_notMem_print _

theorem perform_command (consistent : Consistent ports modems line)
    (isPorts : ∀ side, IsPort (ports side)) {input : Input}
    (isCommand : CallService.isCommand input = true)
    (notRemote : ∀ env text, input = .dial env text →
      ∀ other, decideDial (modems.service side).hostId env text ≠ some (.remote other))
    (may : ∀ result, (modems.service side).handle input = some result →
      ∀ client text, .toRemote client text ∈ result.2 → ∀ notice ∈ noticeOf text.toList,
        modems.MayTell side client notice)
    {next : Modems} (performed : modems.perform side input = some next) :
    ∃ lines, Consistent ports next lines := by
  rw [perform] at performed
  cases handled : (modems.service side).handle input with
  | none => simp [handled] at performed
  | some result =>
      rcases result with ⟨service, outputs⟩
      simp only [handled, Option.some.injEq] at performed
      rcases outcome_handle consistent.noQuote (isPorts side.other) (consistent.reflects side)
        isCommand notRemote handled with ⟨after, outcome, reflects⟩
      have host := (hostId_handle isCommand handled).trans (consistent.hosts side)
      rw [consistent.hosts side] at outcome
      rw [← performed, ← sendAll_remoteOutputs]
      apply consistent.outcome outcome reflects host
      intro client text member
      exact may _ handled client text (List.mem_filter.mp member).1

theorem line_of_callsWithOther (consistent : Consistent ports modems line)
    (noCalls : modems.callsWithOther side = []) : line side = none := by
  cases isLine : line side with
  | none => rfl
  | some own =>
      rcases (consistent.reflects side).present own.1 own.2 isLine with
        ⟨index, call, stored, isPeer, -⟩
      have member : call ∈ modems.callsWithOther side := by
        refine List.mem_filter.mpr ⟨List.mem_map.mpr ⟨_, OrderedMap.mem_of_find stored, rfl⟩, ?_⟩
        rw [consistent.hosts side.other, isPeer]
        simp
      rw [noCalls] at member
      cases member

theorem perform_dial (consistent : Consistent ports modems line) {input : Input} {port : Int}
    (may : ∀ result, (modems.service side).handle (modems.connect input) = some result →
      ∀ client text, .toRemote client text ∈ result.2 → ∀ notice ∈ noticeOf text.toList,
        modems.MayTell side client notice)
    (dialled : modems.dialledRemote side input = some port)
    (isPeer : Decimal.print port = Decimal.print (ports side.other)) {next : Modems}
    (performed : { modems with nextConnection := modems.nextConnection + 1 }.perform side
      (modems.connect input) = some next) :
    ∃ lines, Consistent ports next lines := by
  rcases dialledRemote_eq_some dialled with ⟨env, text, isDial, isNext, decided⟩
  have handled : (modems.service side).handle (modems.connect input) =
      some ((modems.service side).dialRemote env port) := by
    rw [isDial]
    simp only [handle, handleDial, decided]
  have noQuote : '"' ∉ (modems.service side).hostId := consistent.noQuote
  have tells := dialText_tells noQuote
  have offer := may _ handled env.remoteClient _ (by simp [dialRemote]) .incoming tells.notice
  rcases offer.2 rfl with ⟨noCalls, noneEnds⟩
  have noCall := consistent.line_of_callsWithOther noCalls
  have reflects := consistent.reflects side
  rw [noCall] at reflects
  have dialledReflects : Reflects ((modems.service side).dialRemote env port).1
      (Decimal.print (ports side.other)) (some (env.remoteClient, .dialing)) :=
    reflects_dialRemote reflects isPeer
  rw [isNext] at dialledReflects
  have notClosed : modems.nextConnection ∉ modems.closed side := fun member =>
    Nat.lt_irrefl _ (consistent.closedBelow side _ member)
  have sent := consistent.dials noCall offer.1 noneEnds dialledReflects (consistent.hosts side)
    ⟨tells.notice, tells.number.trans (consistent.hosts side)⟩
  have outputs : ((modems.service side).dialRemote env port).2 =
      [.toRemote env.remoteClient "REM0", .toRemote env.remoteClient
        ("AT+REMOTECALL=4,0,0,\"" ++ String.ofList (modems.service side).hostId ++ "\",129"),
        .response ["OK"]] := rfl
  simp only [perform, handled, Option.some.injEq] at performed
  rw [← performed, outputs, isNext]
  refine ⟨Side.put line side (some (modems.nextConnection, .dialing)), ?_⟩
  simpa [sendAll, send, notClosed, advanced] using sent

theorem command (consistent : Consistent ports modems line)
    (isPorts : ∀ side, IsPort (ports side)) {input : Input} {next : Modems}
    (orderly : modems.Orderly (.command side input))
    (stepped : modems.command side input = some next) : ∃ lines, Consistent ports next lines := by
  have may : ∀ result, (modems.service side).handle (modems.connect input) = some result →
      ∀ client text, .toRemote client text ∈ result.2 → ∀ notice ∈ noticeOf text.toList,
        modems.MayTell side client notice := by
    intro result handled client text member
    simp only [Orderly, handled] at orderly
    exact orderly _ member
  rw [Modems.command] at stepped
  split at stepped
  rotate_left
  · cases stepped
  rename_i isCommand
  have isCommandConnected : CallService.isCommand (modems.connect input) = true := by
    cases input <;> first | rfl | exact isCommand
  split at stepped
  · rename_i notDialled
    apply consistent.perform_command isPorts isCommandConnected _ may stepped
    intro env text isDial other decided
    simp [dialledRemote, isDial, decided] at notDialled
  · rename_i port dialled
    split at stepped
    rotate_left
    · cases stepped
    rename_i isOther
    exact consistent.perform_dial may dialled (isOther.trans (consistent.hosts side.other)) stepped

theorem dropped (consistent : Consistent ports modems line) {rest : List (ClientId × Text)}
    (subset : ∀ message ∈ rest, message ∈ modems.toward side)
    (settled : Settled modems.nextConnection (line side) (line side.other) (signals rest)
      (signals (modems.toward side.other)))
    (opened : Opened modems.nextConnection (modems.closed side) (line side) (signals rest)) :
    Consistent ports { modems with toward := Side.put modems.toward side rest } line := by
  have received := consistent.received subset [] (consistent.reflects side)
    (consistent.hosts side) settled opened (by simp)
  simpa using received

theorem not_on_closed (consistent : Consistent ports modems line) {client : ClientId}
    (isClosed : client ∈ modems.closed side) (phase : Phase) : line side ≠ some (client, phase) :=
  fun onIt => (consistent.open_of_line onIt).1 isClosed

theorem not_offered_on_closed (consistent : Consistent ports modems line) {signal : Signal}
    (pending : signal ∈ signals (modems.toward side))
    (isClosed : signal.connection ∈ modems.closed side) : signal.notice ≠ .incoming := by
  rcases signal with ⟨client, notice⟩
  rintro rfl
  have below := (consistent.settled side).tidyMine.queueBelow _ pending
  exact (consistent.opened side client below).mpr (.inr pending) isClosed

theorem settled_first (consistent : Consistent ports modems line) {front rest : List Signal}
    {signal : Signal} (queue : signals (modems.toward side) = front ++ signal :: rest)
    (others : ∀ earlier ∈ front, earlier.connection ≠ signal.connection) :
    Settled modems.nextConnection (line side) (line side.other) (signal :: (front ++ rest))
      (signals (modems.toward side.other)) := by
  have settled := consistent.settled side
  rw [queue] at settled
  apply settled.first others
  intro isIncoming earlier member
  have pending : earlier ∈ signals (modems.toward side) := by
    rw [queue]
    exact List.mem_append_left _ member
  have isLast : signal ∈ signals (modems.toward side) := by
    rw [queue]
    exact List.mem_append_right _ List.mem_cons_self
  -- The connection that is offered is open, so the others are not.
  have isClosed : earlier.connection ∈ modems.closed side := by
    by_contra isOpen
    have offered : signal.connection ∉ modems.closed side := fun isClosed =>
      consistent.not_offered_on_closed isLast isClosed isIncoming
    have below := (consistent.settled side).tidyMine.queueBelow
    exact others earlier member (consistent.single side _ (below _ pending) _ (below _ isLast)
      isOpen offered)
  exact ⟨consistent.not_offered_on_closed pending isClosed, consistent.not_on_closed isClosed⟩

theorem deliver_closed (consistent : Consistent ports modems line)
    {rest : List (ClientId × Text)} (subset : ∀ message ∈ rest, message ∈ modems.toward side)
    {signal : Signal} (pending : signal ∈ signals (modems.toward side))
    (settled : Settled modems.nextConnection (line side) (line side.other)
      (signal :: signals rest) (signals (modems.toward side.other)))
    (opened : Opened modems.nextConnection (modems.closed side) (line side)
      (signal :: signals rest))
    (isClosed : signal.connection ∈ modems.closed side) :
    Consistent ports { modems with toward := Side.put modems.toward side rest } line := by
  have notIncoming := consistent.not_offered_on_closed pending isClosed
  rcases settled.hears with ⟨after, heard, settledAfter⟩
  rw [hear_idle notIncoming (consistent.not_on_closed isClosed), Option.some.injEq] at heard
  rw [← heard] at settledAfter
  exact consistent.dropped subset settledAfter (opened.tail notIncoming)

theorem deliver_open (consistent : Consistent ports modems line)
    {rest : List (ClientId × Text)} (subset : ∀ message ∈ rest, message ∈ modems.toward side)
    {client : ClientId} {notice : Notice} {text : Text}
    (tells : Tells (Decimal.print (ports side.other)) notice text)
    (settled : Settled modems.nextConnection (line side) (line side.other)
      (⟨client, notice⟩ :: signals rest) (signals (modems.toward side.other)))
    (opened : Opened modems.nextConnection (modems.closed side) (line side)
      (⟨client, notice⟩ :: signals rest))
    (isOpen : client ∉ modems.closed side) {radioOff : Bool}
    (radioOn : notice = .incoming → radioOff = false) {next : Modems}
    (performed : { modems with toward := Side.put modems.toward side rest }.perform side
      (.remoteCall client radioOff text) = some next) : ∃ lines, Consistent ports next lines := by
  have below : client < modems.nextConnection :=
    settled.tidyMine.queueBelow ⟨client, notice⟩ List.mem_cons_self
  have onIt : notice ≠ .incoming → ∃ phase, line side = some (client, phase) := by
    intro notIncoming
    rcases (opened client below).mp isOpen with onIt | pending
    · exact onIt
    · rcases List.mem_cons.mp pending with isFirst | later
      · cases isFirst
        exact absurd rfl notIncoming
      · have different := (List.pairwise_cons.mp settled.tidyMine.opened).1 _ later rfl
        exact absurd rfl different
  rcases settled.hears with ⟨after, heard, settledAfter⟩
  rcases reflects_handleRemoteCall tells (consistent.reflects side) heard onIt radioOn with
    ⟨reflects, outputs⟩
  have host := (hostId_handleRemoteCall (modems.service side) client radioOff text).trans
    (consistent.hosts side)
  have openedAfter := opened.hear onIt (fun phase isLine signal member =>
    settled.tidyMine.apart client phase isLine signal (List.mem_cons_of_mem _ member)) heard
  have closesBelow : ∀ other ∈ closesOn client notice, other < modems.nextConnection := by
    intro other member
    rw [closesOn] at member
    split at member
    · rwa [List.mem_singleton.mp member]
    · cases member
  have received := consistent.received subset (closesOn client notice) reflects host settledAfter
    openedAfter closesBelow
  simp only [perform, handle, Option.some.injEq, outputs] at performed
  refine ⟨Side.put line side after, ?_⟩
  rw [← performed]
  by_cases isHangup : notice = .hangup
  · rw [if_pos isHangup]
    simpa [sendAll, send, closesOn, isHangup] using received
  · rw [if_neg isHangup]
    simpa [sendAll, closesOn, isHangup] using received

theorem deliver (consistent : Consistent ports modems line) {client : ClientId} {radioOff : Bool}
    {next : Modems} (orderly : modems.Orderly (.deliver side client radioOff))
    (stepped : modems.deliver side client radioOff = some next) :
    ∃ lines, Consistent ports next lines := by
  rw [Modems.deliver] at stepped
  cases taken : takeFirst client (modems.toward side) with
  | none =>
      rw [taken] at stepped
      cases stepped
  | some result =>
      rcases result with ⟨text, rest⟩
      rw [taken] at stepped
      rcases takeFirst_eq_some taken with ⟨front, back, queue, rfl, others⟩
      have same : (front ++ (client, text) :: back).Perm ((client, text) :: (front ++ back)) :=
        List.perm_middle
      have subset : ∀ message ∈ front ++ back, message ∈ modems.toward side := by
        intro message member
        rw [queue, same.mem_iff]
        exact List.mem_cons_of_mem _ member
      have isIn : (client, text) ∈ modems.toward side := by
        rw [queue, same.mem_iff]
        exact List.mem_cons_self
      have opened := consistent.opened side
      rcases consistent.texts side (client, text) isIn with isRem | ⟨notice, tells⟩
      · have same : signals (modems.toward side) = signals (front ++ back) := by
          dsimp only at isRem
          rw [queue, isRem, signals_append, signals_rem0, signals_append]
        have settled := consistent.settled side
        rw [same] at settled opened
        have dropped := consistent.dropped subset settled opened
        dsimp only at stepped isRem
        rw [if_pos isRem] at stepped
        split at stepped
        · cases stepped
          exact ⟨line, dropped⟩
        · cases stepped
          exact ⟨line, dropped⟩
      · have notRem : text ≠ "REM0".toList := by
          rintro rfl
          have nothing : noticeOf "REM0".toList = none := by decide
          rw [tells.notice] at nothing
          cases nothing
        have isQueue : signals (modems.toward side) =
            signals front ++ ⟨client, notice⟩ :: signals back := by
          rw [queue, signals_append, signals_tells tells]
        have apart : ∀ earlier ∈ signals front, earlier.connection ≠ client := by
          intro earlier member
          rcases List.mem_filterMap.mp member with ⟨message, isMessage, isNoticed⟩
          rcases Option.map_eq_some_iff.mp isNoticed with ⟨_, _, rfl⟩
          exact others message isMessage
        have settled := consistent.settled_first isQueue apart
        rw [← signals_append] at settled
        have reordered : (signals front ++ ⟨client, notice⟩ :: signals back).Perm
            (⟨client, notice⟩ :: signals (front ++ back)) := by
          rw [signals_append]
          exact List.perm_middle
        rw [isQueue] at opened
        have opened := opened.of_mem_iff fun signal => reordered.symm.mem_iff
        have pending : ⟨client, notice⟩ ∈ signals (modems.toward side) := by
          rw [isQueue]
          exact List.mem_append_right _ List.mem_cons_self
        dsimp only at stepped
        by_cases isClosed : client ∈ modems.closed side
        · rw [if_pos isClosed] at stepped
          cases stepped
          exact ⟨line, consistent.deliver_closed subset pending settled opened isClosed⟩
        · rw [if_neg isClosed, if_neg notRem] at stepped
          have radioOn : notice = .incoming → radioOff = false := by
            rintro rfl
            exact orderly _ taken tells.notice
          exact consistent.deliver_open subset tells settled opened isClosed radioOn stepped

theorem callsWithOther_eq (consistent : Consistent ports modems line) :
    (line side = none → modems.callsWithOther side = []) ∧
      ∀ client phase, line side = some (client, phase) →
        ∃ call ∈ modems.callsWithOther side, IsRemote call client phase ∧
          ∀ other ∈ modems.callsWithOther side, other = call := by
  have reflects := consistent.reflects side
  have mem_iff (call : CallStatus) : call ∈ modems.callsWithOther side ↔
      ∃ index, (modems.service side).activeCalls.find index = some call ∧
        call.number = Decimal.print (ports side.other) := by
    rw [callsWithOther, List.mem_filter, List.mem_map, consistent.hosts side.other,
      decide_eq_true_eq]
    constructor
    · rintro ⟨⟨⟨index, stored⟩, member, rfl⟩, number⟩
      exact ⟨index, OrderedMap.find_of_mem member, number⟩
    · rintro ⟨index, stored, number⟩
      exact ⟨⟨(index, call), OrderedMap.mem_of_find stored, rfl⟩, number⟩
  constructor
  · intro isNone
    rw [List.eq_nil_iff_forall_not_mem]
    intro call member
    rcases (mem_iff call).mp member with ⟨index, stored, number⟩
    exact reflects.absent isNone index call stored number
  · intro client phase onIt
    rcases reflects.present client phase onIt with ⟨index, call, stored, isPeer, isRemote⟩
    refine ⟨call, (mem_iff call).mpr ⟨index, stored, isPeer⟩, isRemote, ?_⟩
    intro other member
    rcases (mem_iff other).mp member with ⟨otherIndex, otherStored, number⟩
    have same := reflects.only otherIndex other index call otherStored stored number isPeer
    rw [same, stored] at otherStored
    exact (Option.some.inj otherStored).symm

theorem matches_of_agree {client : ClientId} {phase theirPhase : Phase}
    (agree : Agree (some (client, phase)) (some (client, theirPhase))) {mine theirs : CallStatus}
    (isMine : IsRemote mine client phase) (isTheirs : IsRemote theirs client theirPhase) :
    Matches mine theirs := by
  refine ⟨isMine.remoteClient.trans isTheirs.remoteClient.symm, ?_, ?_⟩
  · rw [isMine.callState, isTheirs.callState]
    cases agree <;> simp [callStateOf]
  · rw [isMine.callState, isTheirs.callState]
    cases agree <;> simp [callStateOf]

theorem agreement (consistent : Consistent ports modems line) (quiet : modems.Quiet) :
    modems.Agreement := by
  have settled := consistent.settled .left
  rw [quiet.1, show modems.toward Side.left.other = [] from quiet.2] at settled
  have agree : Agree (line .left) (line .right) := settled.quiet
  cases isLeft : line .left with
  | none =>
      have isRight : line .right = none := agree.none_of_none isLeft
      rw [Agreement, consistent.callsWithOther_eq.1 isLeft, consistent.callsWithOther_eq.1 isRight]
      simp
  | some own =>
      rcases agree.same_connection isLeft with ⟨theirPhase, isRight⟩
      rw [isLeft, isRight] at agree
      rcases consistent.callsWithOther_eq.2 own.1 own.2 isLeft with
        ⟨mine, mineMember, isMine, onlyMine⟩
      rcases consistent.callsWithOther_eq.2 own.1 theirPhase isRight with
        ⟨theirs, theirsMember, isTheirs, onlyTheirs⟩
      have isMatch := matches_of_agree agree isMine isTheirs
      constructor
      · intro call member
        rw [onlyMine call member]
        exact ⟨theirs, theirsMember, isMatch⟩
      · intro call member
        rw [onlyTheirs call member]
        exact ⟨mine, mineMember, isMatch⟩

end Consistent

/-! ## Runs -/

theorem consistent_step {ports : Side → Int} (isPorts : ∀ side, IsPort (ports side))
    {modems next : Modems} {taken : Step} (invariant : ∃ line, Consistent ports modems line)
    (orderly : modems.Orderly taken) (stepped : modems.step taken = some next) :
    ∃ line, Consistent ports next line := by
  rcases invariant with ⟨line, consistent⟩
  cases taken with
  | command side input => exact consistent.command isPorts orderly stepped
  | deliver side client radioOff => exact consistent.deliver orderly stepped

/-- In every run of two modems in which each offers a call only when there is none between
them and the other one has heard of the end of the former ones, changes the state of the call
only when no message on its way to it says otherwise, and has its radio on when a call is
offered to it, the two agree on the call between them whenever no message is on its way. -/
theorem agreement_of_orderly_run (ports : Side → Int) (isPorts : ∀ side, IsPort (ports side))
    (inEmergencyMode : Side → Bool) (steps : List Step) (final : Modems)
    (orderly : Run.Along step Orderly (initial ports inEmergencyMode) steps)
    (reached : Run.run step (initial ports inEmergencyMode) steps = some final)
    (quiet : final.Quiet) : final.Agreement := by
  have invariant : ∃ line, Consistent ports final line :=
    Run.invariant_of_along
      (fun _ _ _ invariant orderly stepped => consistent_step isPorts invariant orderly stepped)
      ⟨_, consistent_initial ports inEmergencyMode⟩ orderly reached
  rcases invariant with ⟨line, consistent⟩
  exact consistent.agreement quiet

def neighbours : Side → Int
  | .left => 6520
  | .right => 6521

def registered : DialEnv where
  registration := .home
  fdnEnabled := false
  isFixedDialNumber := false
  remoteIsOpen := true
  remoteClient := 0

def answeredCall : List Step :=
  [.command .left (.dial registered "ATD6521;".toList), .deliver .right 0 false,
    .deliver .right 0 false, .command .right .acceptCall, .deliver .left 0 false]

def heldCall : List Step :=
  answeredCall ++ [Step.command .left (.hangup "AT+CHLD=2".toList), Step.deliver .right 0 false]

theorem agreement_of_orderly_run_held :
    Run.Along step Orderly (initial neighbours fun _ => false) heldCall ∧
      ∃ final, Run.run step (initial neighbours fun _ => false) heldCall = some final ∧
        final.Quiet ∧ final.Agreement := by
  have isPorts : ∀ side, IsPort (neighbours side) := by
    intro side
    cases side <;> simp [IsPort, neighbours, remotePortMin, remotePortMax]
  have orderly : Run.Along step Orderly (initial neighbours fun _ => false) heldCall := by
    decide +kernel
  have quiet : ∀ final ∈ Run.run step (initial neighbours fun _ => false) heldCall,
      final.Quiet := by decide +kernel
  cases reached : Run.run step (initial neighbours fun _ => false) heldCall with
  | none => exact absurd reached (by decide +kernel)
  | some final =>
      have isQuiet := quiet final reached
      exact ⟨orderly, final, rfl, isQuiet,
        agreement_of_orderly_run neighbours isPorts _ heldCall final orderly reached isQuiet⟩

/-- The left modem puts the answered call on hold and resumes it, while the right one
puts it on hold. -/
def crossingHold : List Step :=
  answeredCall ++ ([.command .left (.hangup "AT+CHLD=2".toList),
    .command .left (.hangup "AT+CHLD=2".toList), .command .right (.hangup "AT+CHLD=2".toList),
    .deliver .right 0 false, .deliver .right 0 false, .deliver .left 0 false] : List Step)

/-- The left modem calls the right one twice, which answers. -/
def calledTwice : List Step :=
  [.command .left (.dial registered "ATD6521;".toList),
    .command .left (.dial registered "ATD6521;".toList), .deliver .right 0 false,
    .deliver .right 0 false, .deliver .right 1 false, .deliver .right 1 false,
    .command .right .acceptCall, .deliver .left 0 false, .deliver .left 1 false]

/-- The left modem ends a call and calls again, and the right one learns of the new call, which
it stores before the old one, while the old one is not over for it. -/
def calledAgain : List Step :=
  [.command .right (.dial registered "ATD123;".toList),
    .command .left (.dial registered "ATD6521;".toList), .deliver .right 0 false,
    .deliver .right 0 false, .command .right (.hangup "AT+CHLD=11".toList),
    .command .left (.hangup "AT+CHLD=11".toList),
    .command .left (.dial registered "ATD6521;".toList), .deliver .right 1 false,
    .deliver .right 1 false, .deliver .right 0 false]

/-- The left modem calls the right one, whose radio is off. -/
def calledWithRadioOff : List Step :=
  [.command .left (.dial registered "ATD6521;".toList), .deliver .right 0 false,
    .deliver .right 0 true]

/-- The run ends with no message on its way and the modems in disagreement. -/
def DisagreeAfter (steps : List Step) : Prop :=
  ∃ final ∈ Run.run step (initial neighbours fun _ => false) steps,
    final.Quiet ∧ ¬ final.Agreement

instance (steps : List Step) : Decidable (DisagreeAfter steps) :=
  inferInstanceAs (Decidable (∃ _ ∈ Run.run step _ steps, _))

theorem disagreement_of_run :
    DisagreeAfter crossingHold ∧ DisagreeAfter calledTwice ∧ DisagreeAfter calledAgain ∧
      DisagreeAfter calledWithRadioOff := by
  decide +kernel

end Modems

end Cuttlefish.ModemSimulator
