import Cuttlefish.ModemSimulator.CallEffects
import Cuttlefish.ModemSimulator.CallProtocol

/-! # The call with the other modem

What the inputs of a call service do to its one call with another modem, in the terms
of the protocol: what the texts of the messages say, what a command does to the call
and sends, and what a message does to the call. -/

namespace Cuttlefish.ModemSimulator.CallService

open CallProtocol

variable {service : CallService}

/-! ## Texts of messages -/

def noticeOf (text : Text) : Option Notice :=
  let state := (parseRemoteCall text).state
  if state = CallState.active.number then some .active
  else if state = CallState.held.number then some .held
  else if state = CallState.hangup.number then some .hangup
  else if state = CallState.incoming.number then some .incoming
  else none

/-- The text tells something about the call with the modem `hostId`. -/
structure Tells (hostId : Text) (notice : Notice) (text : Text) : Prop where
  notice : noticeOf text = some notice
  number : (parseRemoteCall text).number = hostId

def remoteCallText (state mode mpty : Char) (hostId rest : Text) : Text :=
  "AT+REMOTECALL=".toList ++ (state :: ',' :: mode :: ',' :: mpty :: ',' :: '"' ::
    (hostId ++ '"' :: ',' :: rest))

open CommandParser in
theorem getNextStr_quoted {hostId : Text} (noQuote : '"' ∉ hostId) (rest : Text) :
    (getNextStr ('"' :: (hostId ++ '"' :: rest))).1 = hostId := by
  have quoted : ('"' :: (hostId ++ '"' :: rest)).contains '"' = true := by simp
  have closed : (hostId ++ '"' :: rest).contains '"' = true := by simp
  have behind : afterFirst '"' ('"' :: (hostId ++ '"' :: rest)) = hostId ++ '"' :: rest := rfl
  have inside : ∀ char ∈ hostId, (char != '"') = true := by
    intro char member
    rw [bne_iff_ne]
    rintro rfl
    exact noQuote member
  simp only [getNextStr, quoted, behind, closed, if_true]
  rw [List.takeWhile_append_of_pos inside, List.takeWhile_cons_of_neg (by simp),
    List.append_nil]

theorem parse_remoteCallText {state mode mpty : Char} (digits : state ≠ ',' ∧ mode ≠ ',' ∧
    mpty ≠ ',') {hostId : Text} (noQuote : '"' ∉ hostId) (rest : Text) :
    (parseRemoteCall (remoteCallText state mode mpty hostId rest)).state =
        CommandParser.parseInt [state] ∧
      (parseRemoteCall (remoteCallText state mode mpty hostId rest)).number = hostId := by
  have tail : CommandParser.skipPrefix (remoteCallText state mode mpty hostId rest) =
      state :: ',' :: mode :: ',' :: mpty :: ',' :: '"' ::
        (hostId ++ '"' :: ',' :: rest) := rfl
  have next (char : Char) (notComma : char ≠ ',') (more : Text) :
      CommandParser.getNextInt (char :: ',' :: more) =
        (CommandParser.parseInt [char], more) := by
    simp [CommandParser.getNextInt, CommandParser.getNextStrUntil, CommandParser.afterFirst,
      notComma]
  rcases digits with ⟨stateDigit, modeDigit, mptyDigit⟩
  simp only [parseRemoteCall, tail, next state stateDigit, next mode modeDigit,
    next mpty mptyDigit, getNextStr_quoted noQuote, and_self]

def stateOf : Notice → CallState
  | .incoming => .incoming
  | .active => .active
  | .held => .held
  | .hangup => .hangup

def stateDigit : Notice → Char
  | .incoming => '4'
  | .active => '0'
  | .held => '1'
  | .hangup => '6'

theorem tells_remoteCallText (notice : Notice) {mode mpty : Char} (digits : mode ≠ ',' ∧
    mpty ≠ ',') {hostId : Text} (noQuote : '"' ∉ hostId) (rest : Text) :
    Tells hostId notice (remoteCallText (stateDigit notice) mode mpty hostId rest) := by
  have notComma : stateDigit notice ≠ ',' := by cases notice <;> decide
  rcases parse_remoteCallText ⟨notComma, digits⟩ noQuote rest with ⟨state, number⟩
  refine ⟨?_, number⟩
  rw [noticeOf, state]
  cases notice <;> decide

theorem printBool_toList (value : Bool) :
    ∃ digit, (printBool value).toList = [digit] ∧ digit ≠ ',' := by
  cases value
  · exact ⟨'0', by decide⟩
  · exact ⟨'1', by decide⟩

def statusText (service : CallService) (call : CallStatus) (state : CallState) : String :=
  "AT+REMOTECALL=" ++ toString state.number ++ "," ++ printBool call.isVoiceMode ++ "," ++
    printBool call.isMultiParty ++ ",\"" ++ String.ofList service.hostId ++ "\"," ++
    printBool call.isInternational

theorem statusText_tells (noQuote : '"' ∉ service.hostId) (call : CallStatus)
    (notice : Notice) :
    Tells service.hostId notice (service.statusText call (stateOf notice)).toList := by
  rcases printBool_toList call.isVoiceMode with ⟨mode, isMode, modeDigit⟩
  rcases printBool_toList call.isMultiParty with ⟨mpty, isMpty, mptyDigit⟩
  have isState : (toString (stateOf notice).number).toList = [stateDigit notice] := by
    cases notice <;> decide
  have isText : (service.statusText call (stateOf notice)).toList =
      remoteCallText (stateDigit notice) mode mpty service.hostId
        (printBool call.isInternational).toList := by
    have comma : ",".toList = [','] := rfl
    have opening : ",\"".toList = [',', '"'] := rfl
    have closing : "\",".toList = ['"', ','] := rfl
    unfold statusText remoteCallText
    simp only [String.toList_append, isState, isMode, isMpty, String.toList_ofList, comma,
      opening, closing, List.append_assoc, List.cons_append, List.nil_append]
  rw [isText]
  exact tells_remoteCallText notice ⟨modeDigit, mptyDigit⟩ noQuote _

theorem sendCallStatusToRemote_tells (noQuote : '"' ∉ service.hostId) {call : CallStatus}
    (isRemote : call.isRemoteCall = true) {client : ClientId}
    (isClient : call.remoteClient = some client) (notice : Notice) :
    ∃ text : String, service.sendCallStatusToRemote call (stateOf notice) =
        .toRemote client text ::
          (if stateOf notice = .hangup then [.closeRemote client] else []) ∧
      Tells service.hostId notice text.toList := by
  refine ⟨service.statusText call (stateOf notice), ?_, statusText_tells noQuote call notice⟩
  rw [sendCallStatusToRemote]
  rw [isRemote, isClient]
  rfl

theorem sendCallStatusToRemote_local {call : CallStatus} (noClient : call.remoteClient = none)
    (state : CallState) : service.sendCallStatusToRemote call state = [] := by
  simp [sendCallStatusToRemote, noClient]

/-! ## The call with a peer -/

def callStateOf : Phase → CallState
  | .dialing => .dialing
  | .incoming => .incoming
  | .active => .active
  | .held => .held

structure IsRemote (call : CallStatus) (client : ClientId) (phase : Phase) : Prop where
  isRemoteCall : call.isRemoteCall = true
  remoteClient : call.remoteClient = some client
  callState : call.callState = callStateOf phase

/-- The calls of the service with the modem `peer` are as the line says; no other call
is with a remote modem. -/
structure Reflects (service : CallService) (peer : Text) (line : Line) : Prop where
  present : ∀ client phase, line = some (client, phase) → ∃ index call,
    service.activeCalls.find index = some call ∧ call.number = peer ∧
      IsRemote call client phase
  only : ∀ index call other otherCall, service.activeCalls.find index = some call →
    service.activeCalls.find other = some otherCall → call.number = peer →
    otherCall.number = peer → index = other
  absent : line = none → ∀ index call, service.activeCalls.find index = some call →
    call.number ≠ peer
  others : ∀ index call, service.activeCalls.find index = some call → call.number ≠ peer →
    call.remoteClient = none

theorem Reflects.of_activeCalls {next : CallService} {peer : Text} {line : Line}
    (reflects : Reflects service peer line) (same : next.activeCalls = service.activeCalls) :
    Reflects next peer line := by
  rcases reflects with ⟨present, only, absent, others⟩
  rw [← same] at present only absent others
  exact ⟨present, only, absent, others⟩

theorem reflects_initial (hostId : Text) (inEmergencyMode : Bool) (peer : Text) :
    Reflects (initial hostId inEmergencyMode) peer none where
  present _ _ onIt := by cases onIt
  only _ _ _ _ found := by cases found
  absent _ _ _ found := by cases found
  others _ _ found := by cases found

theorem find_addCall_cases {call found : CallStatus} {index : Int}
    (stored : (service.addCall call).activeCalls.find index = some found) :
    service.activeCalls.find index = some found ∨
      index = service.findFreeCallIndex ∧ found = call := by
  change (service.activeCalls.insert service.findFreeCallIndex call).find index = _ at stored
  by_cases same : index = service.findFreeCallIndex
  · rw [same, OrderedMap.find_insert_self] at stored
    cases stored
    exact .inr ⟨same, rfl⟩
  · rw [OrderedMap.find_insert_of_ne _ _ same] at stored
    exact .inl stored

theorem Reflects.addOther {peer : Text} {line : Line} (reflects : Reflects service peer line)
    {call : CallStatus} (other : call.number ≠ peer) (noClient : call.remoteClient = none) :
    Reflects (service.addCall call) peer line := by
  constructor
  · intro client phase onIt
    rcases reflects.present client phase onIt with ⟨index, old, stored, number, isRemote⟩
    exact ⟨index, old, find_addCall stored call, number, isRemote⟩
  · intro index first otherIndex second storedFirst storedSecond isFirst isSecond
    rcases find_addCall_cases storedFirst with oldFirst | ⟨-, isNew⟩
    · rcases find_addCall_cases storedSecond with oldSecond | ⟨-, isNew⟩
      · exact reflects.only index first otherIndex second oldFirst oldSecond isFirst isSecond
      · exact absurd (isNew ▸ isSecond) other
    · exact absurd (isNew ▸ isFirst) other
  · intro isNone index found stored
    rcases find_addCall_cases stored with old | ⟨-, isNew⟩
    · exact reflects.absent isNone index found old
    · exact isNew ▸ other
  · intro index found stored notPeer
    rcases find_addCall_cases stored with old | ⟨-, isNew⟩
    · exact reflects.others index found old notPeer
    · exact isNew ▸ noClient

theorem Reflects.addPeer {peer : Text} (reflects : Reflects service peer none)
    {call : CallStatus} (isPeer : call.number = peer) {client : ClientId} {phase : Phase}
    (isRemote : IsRemote call client phase) :
    Reflects (service.addCall call) peer (some (client, phase)) := by
  constructor
  · intro client phase onIt
    cases onIt
    exact ⟨service.findFreeCallIndex, call, OrderedMap.find_insert_self _ _ _, isPeer,
      isRemote⟩
  · intro index first otherIndex second storedFirst storedSecond isFirst isSecond
    rcases find_addCall_cases storedFirst with oldFirst | ⟨newFirst, -⟩
    · exact absurd isFirst (reflects.absent rfl index first oldFirst)
    · rcases find_addCall_cases storedSecond with oldSecond | ⟨newSecond, -⟩
      · exact absurd isSecond (reflects.absent rfl otherIndex second oldSecond)
      · rw [newFirst, newSecond]
  · intro isNone
    cases isNone
  · intro index found stored notPeer
    rcases find_addCall_cases stored with old | ⟨-, isNew⟩
    · exact reflects.others index found old notPeer
    · exact absurd (isNew ▸ isPeer) notPeer

theorem Reflects.of_changes {next : CallService} {peer : Text} {line after : Line}
    (reflects : Reflects service peer line)
    (old : ∀ index new, next.activeCalls.find index = some new → ∃ call,
      service.activeCalls.find index = some call ∧ new.number = call.number ∧
        new.remoteClient = call.remoteClient)
    (present : ∀ client phase, after = some (client, phase) → ∃ index call,
      next.activeCalls.find index = some call ∧ call.number = peer ∧
        IsRemote call client phase)
    (absent : after = none → ∀ index call, next.activeCalls.find index = some call →
      call.number ≠ peer) :
    Reflects next peer after where
  present := present
  absent := absent
  only index call other otherCall stored otherStored isPeer otherIsPeer := by
    rcases old index call stored with ⟨before, storedBefore, number, -⟩
    rcases old other otherCall otherStored with ⟨otherBefore, otherStoredBefore, otherNumber, -⟩
    exact reflects.only index before other otherBefore storedBefore otherStoredBefore
      (number ▸ isPeer) (otherNumber ▸ otherIsPeer)
  others index call stored notPeer := by
    rcases old index call stored with ⟨before, storedBefore, number, client⟩
    rw [client]
    exact reflects.others index before storedBefore (number ▸ notPeer)

/-! ## What a command does -/

def remoteOutputs (outputs : List Output) : List Output :=
  outputs.filter fun
    | .toRemote _ _ => true
    | .closeRemote _ => true
    | _ => false

/-- The changes of a call that the service tells the other modem. -/
def Changes (phase : Phase) (notice : Notice) : Prop :=
  notice = .active ∧ (phase = .incoming ∨ phase = .held) ∨ notice = .held ∧ phase = .active

/-- What happens to the call with the other modem and what is sent for that. -/
inductive Outcome (hostId : Text) : Line → Line → List Output → Prop
  | stays (line : Line) : Outcome hostId line line []
  | changes {client : ClientId} {phase : Phase} {notice : Notice} {text : String}
      (change : Changes phase notice) (tells : Tells hostId notice text.toList) :
      Outcome hostId (some (client, phase)) (some (client, notice.phase))
        [.toRemote client text]
  | hangsUp {client : ClientId} (phase : Phase) {text : String}
      (tells : Tells hostId .hangup text.toList) :
      Outcome hostId (some (client, phase)) none
        [.toRemote client text, .closeRemote client]

inductive Does (service : CallService) (call : CallStatus) :
    Option CallStatus × List Output → Prop
  | keeps : Does service call (some call, [])
  | activates (state : call.callState = .incoming ∨ call.callState = .held ∨
      call.callState = .waiting) : Does service call (service.activate call)
  | holds (state : call.callState = .active ∨ call.callState = .waiting) :
      Does service call (service.hold call)
  | hangsUp : Does service call (service.hangUp call)

theorem does_acceptAction (service : CallService) (call : CallStatus) :
    Does service call (service.acceptAction call) := by
  rw [acceptAction]
  split
  · rename_i state
    exact .activates (.inl state)
  split
  · rename_i state
    exact .holds (.inl state)
  · exact .keeps

theorem does_rejectAction (service : CallService) (call : CallStatus) :
    Does service call (service.rejectAction call) := by
  rw [rejectAction]
  split
  · exact .hangsUp
  · exact .keeps

theorem does_releaseHeldAction (service : CallService) (call : CallStatus) :
    Does service call (service.releaseHeldAction call) := by
  rw [releaseHeldAction]
  split
  · exact .hangsUp
  · exact .keeps

theorem does_releaseActiveAction (service : CallService) (call : CallStatus) :
    Does service call (service.releaseActiveAction call) := by
  rw [releaseActiveAction]
  split
  · exact .hangsUp
  split
  · rename_i state
    exact .activates (.inr state)
  · exact .keeps

theorem does_swapAction (service : CallService) (call : CallStatus) :
    Does service call (service.swapAction call) := by
  rw [swapAction]
  split
  · rename_i state
    exact .holds state
  split
  · rename_i state
    exact .activates (.inr (.inl state))
  · exact .keeps

theorem does_resumeAction (service : CallService) (call : CallStatus) :
    Does service call (service.resumeAction call) := by
  rw [resumeAction]
  split
  · rename_i state
    exact .activates (.inr (.inl state))
  · exact .keeps

theorem setCallActive_keeps (call : CallStatus) : call.setCallActive.number = call.number ∧
    call.setCallActive.remoteClient = call.remoteClient ∧
      call.setCallActive.isRemoteCall = call.isRemoteCall := by
  rw [CallStatus.setCallActive]
  split <;> exact ⟨rfl, rfl, rfl⟩

theorem setCallBackground_keeps (call : CallStatus) :
    call.setCallBackground.number = call.number ∧
      call.setCallBackground.remoteClient = call.remoteClient ∧
        call.setCallBackground.isRemoteCall = call.isRemoteCall := by
  rw [CallStatus.setCallBackground]
  split <;> exact ⟨rfl, rfl, rfl⟩

namespace Does

variable {call : CallStatus} {result : Option CallStatus × List Output}

theorem keeps_fields (does : Does service call result) {new : CallStatus}
    (isNew : result.1 = some new) :
    new.number = call.number ∧ new.remoteClient = call.remoteClient := by
  cases does with
  | keeps =>
      cases isNew
      exact ⟨rfl, rfl⟩
  | activates =>
      cases isNew
      exact ⟨(setCallActive_keeps call).1, (setCallActive_keeps call).2.1⟩
  | holds =>
      cases isNew
      exact ⟨(setCallBackground_keeps call).1, (setCallBackground_keeps call).2.1⟩
  | hangsUp => cases isNew

theorem outputs_local (does : Does service call result) (noClient : call.remoteClient = none) :
    result.2 = [] := by
  cases does with
  | keeps => rfl
  | activates =>
      exact sendCallStatusToRemote_local ((setCallActive_keeps call).2.1.trans noClient) _
  | holds =>
      exact sendCallStatusToRemote_local ((setCallBackground_keeps call).2.1.trans noClient) _
  | hangsUp => exact sendCallStatusToRemote_local noClient _

theorem outcome (noQuote : '"' ∉ service.hostId) (does : Does service call result)
    {client : ClientId} {phase : Phase} (isRemote : IsRemote call client phase) :
    ∃ after, Outcome service.hostId (some (client, phase)) after result.2 ∧
      (after = none → result.1 = none) ∧
      ∀ other otherPhase, after = some (other, otherPhase) →
        ∃ new, result.1 = some new ∧ IsRemote new other otherPhase := by
  rcases isRemote with ⟨isRemoteCall, isClient, isState⟩
  cases does with
  | keeps =>
      refine ⟨_, .stays _, by simp, ?_⟩
      rintro _ _ ⟨⟩
      exact ⟨call, rfl, isRemoteCall, isClient, isState⟩
  | activates state =>
      rcases setCallActive_keeps call with ⟨-, sameClient, sameRemote⟩
      rcases sendCallStatusToRemote_tells noQuote (sameRemote.trans isRemoteCall)
        (sameClient.trans isClient) .active with ⟨text, sent, tells⟩
      have change : Changes phase .active := by
        rw [isState] at state
        cases phase <;> simp_all [Changes, callStateOf]
      have becomes : call.setCallActive.callState = .active := by
        rw [CallStatus.setCallActive]
        rw [if_pos (by rcases state with state | state | state <;> simp [state])]
      refine ⟨some (client, .active), ?_, by simp, ?_⟩
      · have sent : (service.activate call).2 = [.toRemote client text] := sent
        rw [sent]
        exact .changes change tells
      · rintro _ _ ⟨⟩
        exact ⟨call.setCallActive, rfl, sameRemote.trans isRemoteCall, sameClient.trans isClient,
          becomes⟩
  | holds state =>
      rcases setCallBackground_keeps call with ⟨-, sameClient, sameRemote⟩
      rcases sendCallStatusToRemote_tells noQuote (sameRemote.trans isRemoteCall)
        (sameClient.trans isClient) .held with ⟨text, sent, tells⟩
      have isActive : phase = .active := by
        rw [isState] at state
        cases phase <;> simp_all [callStateOf]
      have becomes : call.setCallBackground.callState = .held := by
        rw [CallStatus.setCallBackground]
        rw [if_pos (by rw [isState, isActive]; rfl)]
      refine ⟨some (client, .held), ?_, by simp, ?_⟩
      · have sent : (service.hold call).2 = [.toRemote client text] := sent
        rw [sent]
        exact .changes (.inr ⟨rfl, isActive⟩) tells
      · rintro _ _ ⟨⟩
        exact ⟨call.setCallBackground, rfl, sameRemote.trans isRemoteCall,
          sameClient.trans isClient, becomes⟩
  | hangsUp =>
      rcases sendCallStatusToRemote_tells noQuote isRemoteCall isClient .hangup with
        ⟨text, sent, tells⟩
      refine ⟨none, ?_, fun _ => rfl, by simp⟩
      have sent : (service.hangUp call).2 = [.toRemote client text, .closeRemote client] := sent
      rw [sent]
      exact .hangsUp phase tells

end Does

theorem outcome_forEachCall (noQuote : '"' ∉ service.hostId) {peer : Text} {line : Line}
    (reflects : Reflects service peer line)
    {action : CallStatus → Option CallStatus × List Output}
    (does : ∀ call, Does service call (action call)) :
    ∃ after, Outcome service.hostId line after (service.forEachCall action).2 ∧
      Reflects (service.forEachCall action).1 peer after := by
  have find_after (index : Int) : (service.forEachCall action).1.activeCalls.find index =
      (service.activeCalls.find index).bind fun call => (action call).1 :=
    OrderedMap.find_update _ _ _
  have old : ∀ index new, (service.forEachCall action).1.activeCalls.find index = some new →
      ∃ call, service.activeCalls.find index = some call ∧ new.number = call.number ∧
        new.remoteClient = call.remoteClient := by
    intro index new stored
    rw [find_after, Option.bind_eq_some_iff] at stored
    rcases stored with ⟨call, storedBefore, isNew⟩
    exact ⟨call, storedBefore, (does call).keeps_fields isNew⟩
  have silent : ∀ entry ∈ service.activeCalls.entries, entry.2.number ≠ peer →
      (action entry.2).2 = [] := by
    intro entry member notPeer
    exact (does entry.2).outputs_local
      (reflects.others entry.1 entry.2 (OrderedMap.find_of_mem member) notPeer)
  cases line with
  | none =>
      have outputs : (service.forEachCall action).2 = [] := by
        apply List.flatMap_eq_nil_iff.mpr
        intro entry member
        exact silent entry member
          (reflects.absent rfl entry.1 entry.2 (OrderedMap.find_of_mem member))
      rw [outputs]
      refine ⟨none, .stays none, reflects.of_changes old (by simp) ?_⟩
      intro _ index new stored
      rcases old index new stored with ⟨call, storedBefore, number, -⟩
      rw [number]
      exact reflects.absent rfl index call storedBefore
  | some own =>
      rcases own with ⟨client, phase⟩
      rcases reflects.present client phase rfl with ⟨index, call, stored, isPeer, isRemote⟩
      have outputs : (service.forEachCall action).2 = (action call).2 := by
        apply OrderedMap.flatMap_eq_of_find stored
        intro entry member different
        apply silent entry member
        intro otherIsPeer
        exact different (reflects.only entry.1 entry.2 index call
          (OrderedMap.find_of_mem member) stored otherIsPeer isPeer)
      rcases (does call).outcome noQuote isRemote with ⟨after, outcome, ends, continues⟩
      rw [outputs]
      refine ⟨after, outcome, reflects.of_changes old ?_ ?_⟩
      · intro other otherPhase isAfter
        rcases continues other otherPhase isAfter with ⟨new, isNew, newIsRemote⟩
        refine ⟨index, new, ?_, ?_, newIsRemote⟩
        · rw [find_after, stored]
          exact isNew
        · rw [((does call).keeps_fields isNew).1, isPeer]
      · intro isNone other new otherStored otherIsPeer
        rcases old other new otherStored with ⟨otherCall, storedBefore, number, -⟩
        have same := reflects.only other otherCall index call storedBefore stored
          (number ▸ otherIsPeer) isPeer
        rw [same, find_after, stored, Option.bind_some, ends isNone] at otherStored
        cases otherStored

theorem outcome_hangUpIndex (noQuote : '"' ∉ service.hostId) {peer : Text} {line : Line}
    (reflects : Reflects service peer line) (index : Int) :
    ∃ after, Outcome service.hostId line after (service.hangUpIndex index).2 ∧
      Reflects (service.hangUpIndex index).1 peer after := by
  rw [hangUpIndex]
  cases stored : service.activeCalls.find index with
  | none => exact ⟨line, .stays line, reflects⟩
  | some call =>
      have old : ∀ other new, (service.activeCalls.erase index).find other = some new →
          other ≠ index ∧ service.activeCalls.find other = some new := by
        intro other new otherStored
        have different : other ≠ index := by
          rintro rfl
          rw [OrderedMap.find_erase_self] at otherStored
          cases otherStored
        rw [OrderedMap.find_erase_of_ne _ different] at otherStored
        exact ⟨different, otherStored⟩
      have unchanged : ∀ other new, (service.activeCalls.erase index).find other = some new →
          ∃ before, service.activeCalls.find other = some before ∧
            new.number = before.number ∧ new.remoteClient = before.remoteClient :=
        fun other new otherStored => ⟨new, (old other new otherStored).2, rfl, rfl⟩
      by_cases isPeer : call.number = peer
      · cases line with
        | none => exact absurd isPeer (reflects.absent rfl index call stored)
        | some own =>
            rcases own with ⟨client, phase⟩
            rcases reflects.present client phase rfl with
              ⟨ownIndex, ownCall, ownStored, ownIsPeer, isRemote⟩
            have same := reflects.only index call ownIndex ownCall stored ownStored isPeer
              ownIsPeer
            rw [same, ownStored] at stored
            cases stored
            rcases (Does.hangsUp).outcome noQuote isRemote with
              ⟨after, outcome, -, continues⟩
            have isNone : after = none := by
              cases after with
              | none => rfl
              | some own =>
                  rcases continues own.1 own.2 rfl with ⟨new, isNew, -⟩
                  cases isNew
            subst isNone
            refine ⟨none, outcome, reflects.of_changes unchanged (by simp) ?_⟩
            intro _ other new otherStored otherIsPeer
            rcases old other new otherStored with ⟨different, storedBefore⟩
            exact different ((reflects.only other new ownIndex call storedBefore ownStored
              otherIsPeer ownIsPeer).trans same.symm)
      · have silent : (service.hangUp call).2 = [] :=
          Does.hangsUp.outputs_local (reflects.others index call stored isPeer)
        simp only [silent]
        refine ⟨line, .stays line, reflects.of_changes unchanged ?_ ?_⟩
        · intro client phase isLine
          rcases reflects.present client phase isLine with
            ⟨ownIndex, ownCall, ownStored, ownIsPeer, isRemote⟩
          have different : ownIndex ≠ index := by
            rintro rfl
            rw [stored] at ownStored
            cases ownStored
            exact isPeer ownIsPeer
          refine ⟨ownIndex, ownCall, ?_, ownIsPeer, isRemote⟩
          exact (OrderedMap.find_erase_of_ne _ different).trans ownStored
        · intro isNone other new otherStored
          exact reflects.absent isNone other new (old other new otherStored).2

theorem Outcome.remoteOutputs_eq {hostId : Text} {line after : Line}
    {outputs : List Output} (outcome : Outcome hostId line after outputs) :
    remoteOutputs outputs = outputs := by
  cases outcome <;> rfl

theorem remoteOutputs_append_response (outputs : List Output) (lines : List String) :
    remoteOutputs (outputs ++ [Output.response lines]) = remoteOutputs outputs := by
  simp [remoteOutputs]

theorem outcome_withOk {result : CallService × List Output} {peer : Text} {line : Line}
    (acted : ∃ after, Outcome service.hostId line after result.2 ∧
      Reflects result.1 peer after) :
    ∃ after, Outcome service.hostId line after (remoteOutputs (withOk result).2) ∧
      Reflects (withOk result).1 peer after := by
  rcases acted with ⟨after, outcome, reflects⟩
  refine ⟨after, ?_, reflects⟩
  rw [withOk, remoteOutputs_append_response, outcome.remoteOutputs_eq]
  exact outcome

theorem outcome_same {after : CallService} {outputs : List Output} {peer : Text} {line : Line}
    (reflects : Reflects service peer line)
    (sameCalls : after.activeCalls = service.activeCalls) (silent : remoteOutputs outputs = []) :
    ∃ line', Outcome service.hostId line line' (remoteOutputs outputs) ∧
      Reflects after peer line' := by
  rw [silent]
  exact ⟨line, .stays line, reflects.of_activeCalls sameCalls⟩

theorem outcome_handleHangup (noQuote : '"' ∉ service.hostId) {peer : Text} {line : Line}
    (reflects : Reflects service peer line) {command : Text}
    {result : CallService × List Output}
    (handled : service.handleHangup command = some result) :
    ∃ after, Outcome service.hostId line after (remoteOutputs result.2) ∧
      Reflects result.1 peer after := by
  have loop {action : CallStatus → Option CallStatus × List Output}
      (does : ∀ call, Does service call (action call)) :=
    outcome_withOk (outcome_forEachCall noQuote reflects does)
  have index (index : Int) := outcome_withOk (outcome_hangUpIndex noQuote reflects index)
  unfold handleHangup at handled
  dsimp only at handled
  split at handled
  · cases handled
  split at handled
  · cases handled
  split at handled
  · cases handled
    exact loop (does_releaseHeldAction service)
  split at handled
  · split at handled <;> cases handled
    · exact loop (does_releaseActiveAction service)
    · exact index _
  split at handled
  · split at handled <;> cases handled
    · exact loop (does_swapAction service)
    · exact index _
  split at handled <;> cases handled
  · exact loop (does_resumeAction service)
  · exact outcome_same reflects rfl rfl

/-! ## Dialling -/

def IsPort (port : Int) : Prop := remotePortMin ≤ port ∧ port ≤ remotePortMax

theorem dialledPort_print {port : Int} (isPort : IsPort port) :
    dialledPort (Decimal.print port) = some port := by
  have ports : ∀ offset : Fin 8, dialledPort (Decimal.print (6520 + (offset.val : Int))) =
      some (6520 + (offset.val : Int)) := by decide
  rcases isPort with ⟨lower, upper⟩
  rw [remotePortMin] at lower
  rw [remotePortMax] at upper
  have isOffset : 6520 + (((port - 6520).toNat : Nat) : Int) = port := by omega
  have found := ports ⟨(port - 6520).toNat, by omega⟩
  rwa [isOffset] at found

theorem quote_notMem_print (port : Int) : '"' ∉ Decimal.print port := by
  intro member
  cases port with
  | ofNat value => exact absurd (Decimal.isDigit_of_mem_toDigits member) (by decide)
  | negSucc value =>
      rcases List.mem_cons.mp member with isSign | digit
      · exact absurd isSign (by decide)
      · exact absurd (Decimal.isDigit_of_mem_toDigits digit) (by decide)

theorem ne_print_of_local {hostId : Text} {env : DialEnv} {command number : Text}
    {emergencyNumber : Bool}
    (decided : decideDial hostId env command = some (.local_ number emergencyNumber))
    {port : Int} (isPort : IsPort port) : number ≠ Decimal.print port := by
  rw [decideDial] at decided
  split at decided
  · cases decided
  split at decided
  · cases decided
  split at decided
  · cases decided
  split at decided
  · cases decided
  split at decided
  · cases decided
  split at decided
  · cases decided
  · rename_i dialled isDialled
    split at decided
    · rw [decideRemote] at decided
      split at decided
      · cases decided
      · split at decided <;> cases decided
    · rename_i outside
      cases decided
      rintro rfl
      rw [dialledPort_print isPort] at isDialled
      cases isDialled
      exact outside isPort

theorem dialText_tells {hostId : Text} (noQuote : '"' ∉ hostId) :
    Tells hostId .incoming
      ("AT+REMOTECALL=4,0,0,\"" ++ String.ofList hostId ++ "\",129").toList := by
  have isText : ("AT+REMOTECALL=4,0,0,\"" ++ String.ofList hostId ++ "\",129").toList =
      remoteCallText (stateDigit .incoming) '0' '0' hostId ['1', '2', '9'] := by
    have opening : "AT+REMOTECALL=4,0,0,\"".toList =
        "AT+REMOTECALL=".toList ++ ['4', ',', '0', ',', '0', ',', '"'] := rfl
    have closing : "\",129".toList = ['"', ',', '1', '2', '9'] := rfl
    unfold remoteCallText
    simp only [String.toList_append, String.toList_ofList, opening, closing, stateDigit,
      List.append_assoc, List.cons_append, List.nil_append]
  rw [isText]
  exact tells_remoteCallText .incoming (by decide) noQuote _

theorem activeCalls_dialRemote (service : CallService) (env : DialEnv) (port : Int) :
    ∃ call, (service.dialRemote env port).1.activeCalls = (service.addCall call).activeCalls ∧
      call.number = Decimal.print port ∧ IsRemote call env.remoteClient .dialing :=
  ⟨_, rfl, rfl, rfl, rfl, rfl⟩

theorem activeCalls_dialLocal (service : CallService) (number : Text)
    (emergencyNumber : Bool) :
    ∃ call, (service.dialLocal number emergencyNumber).1.activeCalls =
        (service.addCall call).activeCalls ∧
      call.number = number ∧ call.remoteClient = none := by
  cases emergencyNumber <;> exact ⟨_, rfl, rfl, rfl⟩

theorem reflects_dialRemote {port : Int} {env : DialEnv} {peer : Text}
    (reflects : Reflects service peer none) (isPeer : Decimal.print port = peer) :
    Reflects (service.dialRemote env port).1 peer (some (env.remoteClient, .dialing)) := by
  rcases activeCalls_dialRemote service env port with ⟨call, calls, number, isRemote⟩
  exact (reflects.addPeer (number.trans isPeer) isRemote).of_activeCalls calls

theorem outcome_handleDial {port : Int} (isPort : IsPort port) {line : Line}
    (reflects : Reflects service (Decimal.print port) line) {env : DialEnv} {command : Text}
    (notRemote : ∀ other, decideDial service.hostId env command ≠ some (.remote other))
    {result : CallService × List Output}
    (handled : service.handleDial env command = some result) :
    ∃ after, Outcome service.hostId line after (remoteOutputs result.2) ∧
      Reflects result.1 (Decimal.print port) after := by
  rw [handleDial] at handled
  cases decided : decideDial service.hostId env command with
  | none => simp [decided] at handled
  | some decision =>
      simp only [decided] at handled
      cases decision with
      | refuse response =>
          cases handled
          exact outcome_same reflects rfl rfl
      | remote other => exact absurd decided (notRemote other)
      | local_ number emergencyNumber =>
          cases handled
          have notPeer := ne_print_of_local decided isPort
          rcases activeCalls_dialLocal service number emergencyNumber with
            ⟨call, calls, isNumber, noClient⟩
          refine ⟨line, ?_, (reflects.addOther (isNumber ▸ notPeer) noClient).of_activeCalls
            calls⟩
          have silent : remoteOutputs (service.dialLocal number emergencyNumber).2 = [] := by
            cases emergencyNumber <;> rfl
          rw [silent]
          exact .stays line

def isCommand : Input → Bool
  | .remoteCall _ _ _ => false
  | .fire _ => false
  | _ => true

theorem hostId_handleHangup {command : Text} {result : CallService × List Output}
    (handled : service.handleHangup command = some result) :
    result.1.hostId = service.hostId := by
  have index (index : Int) : (service.hangUpIndex index).1.hostId = service.hostId := by
    rw [hangUpIndex]
    split <;> rfl
  unfold handleHangup at handled
  dsimp only at handled
  split at handled
  · cases handled
  split at handled
  · cases handled
  split at handled
  · cases handled
    rfl
  split at handled
  · split at handled <;> cases handled
    · rfl
    · exact index _
  split at handled
  · split at handled <;> cases handled
    · rfl
    · exact index _
  split at handled <;> cases handled <;> rfl

theorem hostId_handleRemoteCall (service : CallService) (client : ClientId) (radioOff : Bool)
    (command : Text) :
    (service.handleRemoteCall client radioOff command).1.hostId = service.hostId := by
  have cancelled (service : CallService) (call : CallStatus) :
      (service.cancelTimeout call).hostId = service.hostId := by
    rw [cancelTimeout]
    split <;> rfl
  have changed (number : Text) (change : CallStatus → CallStatus) :
      (service.remoteChange number change).hostId = service.hostId := by
    rw [remoteChange]
    split
    · rfl
    · exact cancelled _ _
  have ended (number : Text) : (service.remoteHangup number).1.hostId = service.hostId := by
    rw [remoteHangup]
    split
    · rfl
    · exact cancelled _ _
  unfold handleRemoteCall
  dsimp only
  split
  · exact changed _ _
  split
  · exact changed _ _
  split
  · exact ended _
  split
  · split <;> rfl
  · rfl

theorem hostId_handle {input : Input} (command : isCommand input = true)
    {result : CallService × List Output} (handled : service.handle input = some result) :
    result.1.hostId = service.hostId := by
  cases input with
  | dial env text =>
      simp only [handle, handleDial] at handled
      split at handled
      · cases handled
      · cases handled
        rfl
      · cases handled
        rfl
      · rename_i number emergencyNumber _
        cases handled
        cases emergencyNumber <;> rfl
  | hangup text => exact hostId_handleHangup handled
  | mute text =>
      cases handled
      simp only [handleMute]
      split
      · rfl
      split
      · rfl
      split <;> rfl
  | emergencyMode text =>
      cases handled
      simp only [handleEmergencyMode]
      split
      · rfl
      split
      · rfl
      split <;> rfl
  | acceptCall | rejectCall | currentCalls | sendDtmf | cancelUssd | otherPost =>
      cases handled
      rfl
  | remoteCall client radioOff text => cases command
  | fire index => cases command

theorem outcome_handle (noQuote : '"' ∉ service.hostId) {port : Int} (isPort : IsPort port)
    {line : Line} (reflects : Reflects service (Decimal.print port) line) {input : Input}
    (command : isCommand input = true)
    (notRemote : ∀ env text, input = .dial env text →
      ∀ other, decideDial service.hostId env text ≠ some (.remote other))
    {result : CallService × List Output} (handled : service.handle input = some result) :
    ∃ after, Outcome service.hostId line after (remoteOutputs result.2) ∧
      Reflects result.1 (Decimal.print port) after := by
  cases input with
  | dial env text =>
      exact outcome_handleDial isPort reflects (notRemote env text rfl) handled
  | acceptCall =>
      cases handled
      exact outcome_withOk (outcome_forEachCall noQuote reflects (does_acceptAction service))
  | rejectCall =>
      cases handled
      exact outcome_withOk (outcome_forEachCall noQuote reflects (does_rejectAction service))
  | hangup text => exact outcome_handleHangup noQuote reflects handled
  | mute text =>
      cases handled
      simp only [handleMute]
      split
      · exact outcome_same reflects rfl rfl
      split
      · exact outcome_same reflects rfl rfl
      split
      · exact outcome_same reflects rfl rfl
      · exact outcome_same reflects rfl rfl
  | emergencyMode text =>
      cases handled
      simp only [handleEmergencyMode]
      split
      · exact outcome_same reflects rfl rfl
      split
      · exact outcome_same reflects rfl rfl
      split
      · exact outcome_same reflects rfl rfl
      · exact outcome_same reflects rfl rfl
  | currentCalls | sendDtmf | cancelUssd | otherPost =>
      cases handled
      exact outcome_same reflects rfl rfl
  | remoteCall client radioOff text => cases command
  | fire index => cases command

/-! ## What a message does -/

theorem state_of_noticeOf {text : Text} {notice : Notice} (told : noticeOf text = some notice) :
    (parseRemoteCall text).state = (stateOf notice).number := by
  unfold noticeOf at told
  dsimp only at told
  split at told
  · cases told
    assumption
  split at told
  · cases told
    assumption
  split at told
  · cases told
    assumption
  split at told
  · cases told
    assumption
  · cases told

theorem Reflects.findByNumber {peer : Text} {client : ClientId} {phase : Phase}
    (reflects : Reflects service peer (some (client, phase))) :
    ∃ index call, service.findByNumber peer = some (index, call) ∧
      service.activeCalls.find index = some call ∧ call.number = peer ∧
        IsRemote call client phase := by
  rcases reflects.present client phase rfl with ⟨index, call, stored, isPeer, isRemote⟩
  cases named : service.findByNumber peer with
  | none =>
      have noOne := List.find?_eq_none.mp named (index, call) (OrderedMap.mem_of_find stored)
      simp [isPeer] at noOne
  | some entry =>
      rcases entry with ⟨other, otherCall⟩
      have otherStored := OrderedMap.find_of_mem (List.mem_of_find?_eq_some named)
      have otherIsPeer : otherCall.number = peer := by simpa using List.find?_some named
      have same := reflects.only other otherCall index call otherStored stored otherIsPeer isPeer
      rw [same, stored] at otherStored
      cases otherStored
      exact ⟨index, call, same ▸ rfl, stored, isPeer, isRemote⟩

theorem Reflects.remoteChange {peer : Text} {client : ClientId} {phase after : Phase}
    (reflects : Reflects service peer (some (client, phase)))
    {change : CallStatus → CallStatus}
    (keeps : ∀ call, (change call).number = call.number ∧
      (change call).remoteClient = call.remoteClient ∧
        (change call).isRemoteCall = call.isRemoteCall)
    (becomes : ∀ call : CallStatus, call.callState = callStateOf phase →
      (change call).callState = callStateOf after) :
    Reflects (service.remoteChange peer change) peer (some (client, after)) := by
  rcases reflects.findByNumber with ⟨index, call, named, stored, isPeer, isRemote⟩
  have changed : (service.remoteChange peer change).activeCalls =
      service.activeCalls.insert index (change call) := by
    simp only [CallService.remoteChange, named]
    rw [cancelTimeout]
    split <;> rfl
  apply reflects.of_changes
  · intro other new otherStored
    rw [changed] at otherStored
    by_cases same : other = index
    · rw [same, OrderedMap.find_insert_self] at otherStored
      cases otherStored
      exact ⟨call, same ▸ stored, (keeps call).1, (keeps call).2.1⟩
    · rw [OrderedMap.find_insert_of_ne _ _ same] at otherStored
      exact ⟨new, otherStored, rfl, rfl⟩
  · rintro _ _ ⟨⟩
    refine ⟨index, change call, ?_, (keeps call).1.trans isPeer,
      (keeps call).2.2.trans isRemote.isRemoteCall,
      (keeps call).2.1.trans isRemote.remoteClient, becomes call isRemote.callState⟩
    rw [changed]
    exact OrderedMap.find_insert_self _ _ _
  · intro isNone
    cases isNone

theorem Reflects.remoteHangup {peer : Text} {client : ClientId} {phase : Phase}
    (reflects : Reflects service peer (some (client, phase))) :
    Reflects (service.remoteHangup peer).1 peer none ∧
      (service.remoteHangup peer).2 = [.closeRemote client] := by
  rcases reflects.findByNumber with ⟨index, call, named, stored, isPeer, isRemote⟩
  have ended : (service.remoteHangup peer).1.activeCalls = service.activeCalls.erase index := by
    simp only [CallService.remoteHangup, named]
    rw [cancelTimeout]
    split <;> rfl
  have old : ∀ other new, (service.remoteHangup peer).1.activeCalls.find other = some new →
      other ≠ index ∧ service.activeCalls.find other = some new := by
    intro other new otherStored
    rw [ended] at otherStored
    have different : other ≠ index := by
      rintro rfl
      rw [OrderedMap.find_erase_self] at otherStored
      cases otherStored
    rw [OrderedMap.find_erase_of_ne _ different] at otherStored
    exact ⟨different, otherStored⟩
  constructor
  · apply reflects.of_changes
    · exact fun other new otherStored => ⟨new, (old other new otherStored).2, rfl, rfl⟩
    · rintro _ _ ⟨⟩
    · intro _ other new otherStored otherIsPeer
      rcases old other new otherStored with ⟨different, storedBefore⟩
      exact different (reflects.only other new index call storedBefore stored otherIsPeer isPeer)
  · simp only [CallService.remoteHangup, named, isRemote.remoteClient]
    rfl

theorem reflects_handleRemoteCall {peer text : Text} {notice : Notice}
    (tells : Tells peer notice text) {line heardLine : Line}
    (reflects : Reflects service peer line) {client : ClientId}
    (heard : hear line ⟨client, notice⟩ = some heardLine)
    (onIt : notice ≠ .incoming → ∃ phase, line = some (client, phase)) {radioOff : Bool}
    (radioOn : notice = .incoming → radioOff = false) :
    Reflects (service.handleRemoteCall client radioOff text).1 peer heardLine ∧
      (service.handleRemoteCall client radioOff text).2 =
        if notice = .hangup then [.closeRemote client] else [] := by
  have told := state_of_noticeOf tells.notice
  have isPeer := tells.number
  cases notice with
  | active =>
      rcases onIt (by simp) with ⟨phase, rfl⟩
      have isHeard : heardLine = some (client, .active) := by
        simpa [hear, Phase.hear] using heard.symm
      have handled : service.handleRemoteCall client radioOff text =
          ((service.remoteChange peer CallStatus.setCallActive).postUpdate, []) := by
        simp [handleRemoteCall, told, isPeer, stateOf]
      rw [handled, isHeard]
      refine ⟨Reflects.of_activeCalls (reflects.remoteChange setCallActive_keeps ?_) rfl, rfl⟩
      intro call state
      rw [CallStatus.setCallActive]
      cases phase <;> simp_all [callStateOf]
  | held =>
      rcases onIt (by simp) with ⟨phase, rfl⟩
      have isHeard : heardLine = some (client, phase.hear .held) := by
        simpa [hear] using heard.symm
      have handled : service.handleRemoteCall client radioOff text =
          ((service.remoteChange peer CallStatus.setCallBackground).postUpdate, []) := by
        simp [handleRemoteCall, told, isPeer, stateOf, CallState.number]
      rw [handled, isHeard]
      refine ⟨Reflects.of_activeCalls (reflects.remoteChange setCallBackground_keeps ?_) rfl,
        rfl⟩
      intro call state
      rw [CallStatus.setCallBackground]
      cases phase <;> simp_all [callStateOf, Phase.hear]
  | hangup =>
      rcases onIt (by simp) with ⟨phase, rfl⟩
      rw [hear_hangup, Option.some.injEq] at heard
      have handled : service.handleRemoteCall client radioOff text =
          ((service.remoteHangup peer).1.postUpdate, (service.remoteHangup peer).2) := by
        simp [handleRemoteCall, told, isPeer, stateOf, CallState.number]
      rcases reflects.remoteHangup with ⟨ended, closes⟩
      rw [handled, ← heard]
      exact ⟨ended.of_activeCalls rfl, closes⟩
  | incoming =>
      cases line with
      | some call => cases heard
      | none =>
          cases heard
          have handled : service.handleRemoteCall client radioOff text =
              ((service.addCall (incomingCall (parseRemoteCall text) client
                service.nextCall)).postUpdate, []) := by
            simp [handleRemoteCall, told, stateOf, CallState.number, radioOn]
          rw [handled]
          exact ⟨Reflects.of_activeCalls (reflects.addPeer isPeer ⟨rfl, rfl, rfl⟩) rfl, rfl⟩

end Cuttlefish.ModemSimulator.CallService
