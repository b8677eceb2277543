import Cuttlefish.ModemSimulator.CallTimers

/-! # Who answers a call to a remote modem

A dialled call to a remote modem should become active when the remote modem says so.
The callback that answers pending local calls answers every call that is dialling. -/

namespace Cuttlefish.ModemSimulator.CallService

variable {service next : CallService}

/-- The number is one that `HandleDial` takes for the port of a remote modem. -/
def IsRemotePort (number : Text) : Prop :=
  ∃ port ∈ dialledPort number, remotePortMin ≤ port ∧ port ≤ remotePortMax

instance (number : Text) : Decidable (IsRemotePort number) :=
  inferInstanceAs (Decidable (∃ _ ∈ dialledPort number, _))

/-- The input is a message on the connection of the call and with its number that says the call
is active. -/
def AnswersCall (call : CallStatus) : Input → Prop
  | .remoteCall client _ command =>
      (parseRemoteCall command).state = CallState.active.number ∧
        (parseRemoteCall command).number = call.number ∧ call.remoteClient = some client
  | _ => False

/-- A call to a remote modem that is dialling becomes active by a message for it only. -/
def AnsweredByRemote (service : CallService) (input : Input) : Prop :=
  ∀ next index call new, service.step input = some next →
    service.activeCalls.find index = some call → call.callState = .dialing →
    IsRemotePort call.number → next.activeCalls.find index = some new → new.id = call.id →
    new.callState = .active → AnswersCall call input

def DialsRemote (call : CallStatus) : Prop := call.callState = .dialing ∧ IsRemotePort call.number

instance (call : CallStatus) : Decidable (DialsRemote call) :=
  inferInstanceAs (Decidable (_ ∧ _))

/-- A message that says a call is active arrives on the connection of the first call with its
number, if that call is to a remote modem and dialling. -/
def NamesOwnCall (service : CallService) : Input → Prop
  | .remoteCall client _ command =>
      (parseRemoteCall command).state = CallState.active.number →
        ∀ entry ∈ service.findByNumber (parseRemoteCall command).number,
          DialsRemote entry.2 → entry.2.remoteClient = some client
  | _ => True

instance (service : CallService) : (input : Input) → Decidable (service.NamesOwnCall input)
  | .remoteCall _ _ _ => inferInstanceAs (Decidable (_ → ∀ _ ∈ _, _))
  | .dial _ _ | .acceptCall | .rejectCall | .currentCalls | .hangup _ | .mute _ | .sendDtmf
  | .cancelUssd | .emergencyMode _ | .fire _ | .otherPost => isTrue trivial

/-- No call to a remote modem is dialling while the pending calls are answered, and the messages
that answer a call come from its own connection. -/
def SparesRemoteCalls (service : CallService) (input : Input) : Prop :=
  (service.AnswersPending input →
    ∀ entry ∈ service.activeCalls.entries, ¬ DialsRemote entry.2) ∧
  service.NamesOwnCall input

instance (service : CallService) (input : Input) :
    Decidable (service.SparesRemoteCalls input) :=
  inferInstanceAs (Decidable (_ ∧ _))

/-! ## Inputs that answer no call -/

def StillDialing (before after : OrderedMap CallStatus) : Prop :=
  ∀ index call new, before.find index = some call → call.callState = .dialing →
    after.find index = some new → new.callState ≠ .active

theorem KeepsDialing.stillDialing {before after : OrderedMap CallStatus}
    (keeps : KeepsDialing before after) : StillDialing before after := by
  intro index call new found dialing newFound
  rcases keeps index new newFound with ⟨old, oldFound, -, unchanged⟩
  rw [found] at oldFound
  cases oldFound
  rw [unchanged dialing, dialing]
  decide

theorem stillDialing_addCall (service : CallService) (added : CallStatus) :
    StillDialing service.activeCalls (service.addCall added).activeCalls := by
  intro index call new found dialing newFound
  rw [find_addCall found added] at newFound
  cases newFound
  rw [dialing]
  decide

theorem Effect.stillDialing {input : Input} (effect : Effect service input next)
    (noPost : posts input = false) (noFire : ∀ position, input ≠ .fire position) :
    StillDialing service.activeCalls next.activeCalls := by
  cases effect with
  | same calls looper nextCall =>
      rw [calls]
      exact (keepsDialing_refl _).stillDialing
  | acted leaves => exact (keepsDialing_forEachCall service leaves).stillDialing
  | endedIndex index => exact (keepsDialing_hangUpIndex service index).stillDialing
  | fired isFire found => exact absurd isFire (noFire _)
  | dialledRemote env posts added => rw [noPost] at posts; contradiction
  | dialledLocal emergencyNumber posts added => rw [noPost] at posts; contradiction
  | changed number change posts same => rw [noPost] at posts; contradiction
  | ended number posts => rw [noPost] at posts; contradiction
  | incoming posts added fresh => rw [noPost] at posts; contradiction
  | posted posts => rw [noPost] at posts; contradiction

theorem stillDialing_handleDial {env : DialEnv} {command : Text}
    {result : CallService × List Output}
    (handled : service.handleDial env command = some result) :
    StillDialing service.activeCalls result.1.activeCalls := by
  rw [handleDial] at handled
  split at handled
  · contradiction
  · cases handled
    exact (keepsDialing_refl _).stillDialing
  · cases handled
    exact stillDialing_addCall service _
  · rename_i number emergencyNumber _
    cases handled
    cases emergencyNumber
    · exact stillDialing_addCall service _
    · exact stillDialing_addCall service _

/-! ## Messages -/

theorem number_of_findByNumber {number : Text} {index : Int} {call : CallStatus}
    (found : service.findByNumber number = some (index, call)) : call.number = number := by
  simpa using List.find?_some found

theorem find_remoteChange {number : Text} {change : CallStatus → CallStatus} {index : Int}
    {call new : CallStatus} (found : service.activeCalls.find index = some call)
    (newFound : (service.remoteChange number change).activeCalls.find index = some new) :
    new = call ∨ service.findByNumber number = some (index, call) ∧ new = change call := by
  rw [remoteChange] at newFound
  cases named : service.findByNumber number with
  | none =>
      simp only [named] at newFound
      rw [found] at newFound
      cases newFound
      exact .inl rfl
  | some entry =>
      rcases entry with ⟨key, other⟩
      simp only [named, cancelTimeout_activeCalls, setCall] at newFound
      by_cases same : index = key
      · subst same
        rw [find_of_findByNumber named] at found
        cases found
        rw [OrderedMap.find_insert_self] at newFound
        cases newFound
        exact .inr ⟨rfl, rfl⟩
      · rw [OrderedMap.find_insert_of_ne _ _ same, found] at newFound
        cases newFound
        exact .inl rfl

theorem not_answeredByRemote_of_otherConnection {client : ClientId} {radioOff : Bool}
    {command : Text} (saysActive : (parseRemoteCall command).state = CallState.active.number)
    {index : Int} {call : CallStatus}
    (isFirst : service.findByNumber (parseRemoteCall command).number = some (index, call))
    (dials : DialsRemote call) (other : call.remoteClient ≠ some client) :
    ¬ AnsweredByRemote service (.remoteCall client radioOff command) := by
  intro byRemote
  have answeredFound : (service.handleRemoteCall client radioOff command).1.activeCalls.find
      index = some { call with callState := .active } := by
    rw [handleRemoteCall, if_pos saysActive, remoteChange, isFirst]
    simp only [postUpdate, cancelTimeout_activeCalls, setCall, OrderedMap.find_insert_self]
    simp [CallStatus.setCallActive, dials.1]
  have answers := byRemote _ index call _ rfl (find_of_findByNumber isFirst) dials.1 dials.2
    answeredFound rfl rfl
  exact other answers.2.2

theorem keepsDialing_remoteHangup (service : CallService) (number : Text) :
    KeepsDialing service.activeCalls (service.remoteHangup number).1.activeCalls := by
  rw [remoteHangup]
  cases service.findByNumber number with
  | none => exact keepsDialing_refl _
  | some entry =>
      simp only [cancelTimeout_activeCalls]
      exact keepsDialing_erase _ _

theorem answeredByRemote_remoteCall (service : CallService) {client : ClientId}
    {radioOff : Bool} {command : Text}
    (named : service.NamesOwnCall (.remoteCall client radioOff command)) :
    AnsweredByRemote service (.remoteCall client radioOff command) := by
  intro next index call new stepped found dialing isRemote newFound _ isActive
  cases stepped
  unfold handleRemoteCall at newFound
  dsimp only at newFound
  split at newFound
  · rename_i saysActive
    rcases find_remoteChange found newFound with same | ⟨isFirst, -⟩
    · rw [same, dialing] at isActive
      contradiction
    · exact ⟨saysActive, (number_of_findByNumber isFirst).symm,
        named saysActive _ isFirst ⟨dialing, isRemote⟩⟩
  split at newFound
  · rcases find_remoteChange found newFound with same | ⟨-, changed⟩
    · rw [same, dialing] at isActive
      contradiction
    · rw [changed, CallStatus.setCallBackground, if_neg (by simp [dialing]), dialing] at isActive
      contradiction
  split at newFound
  · exact absurd isActive ((keepsDialing_remoteHangup service _).stillDialing index call new
      found dialing newFound)
  split at newFound
  · split at newFound
    · exact absurd isActive ((keepsDialing_refl _).stillDialing index call new found dialing
        newFound)
    · exact absurd isActive (stillDialing_addCall service _ index call new found dialing
        newFound)
  · exact absurd isActive ((keepsDialing_refl _).stillDialing index call new found dialing
      newFound)

/-! ## Callbacks -/

theorem step_fire {position : Nat} {event : Event Callback}
    (found : service.looper.queue[position]? = some event) :
    service.step (.fire position) = some ({ service with looper :=
      { service.looper with queue := service.looper.queue.eraseIdx position } }.runCallback
        event.callback).1 := by
  simp only [step, handle, ThreadLooper.take, found, Option.map_some]

theorem keepsDialing_timerWaitingRemoteCallResponse (service : CallService) (index : Int)
    (number : Text) :
    KeepsDialing service.activeCalls
      (service.timerWaitingRemoteCallResponse index number).1.activeCalls := by
  rw [timerWaitingRemoteCallResponse]
  split
  · exact keepsDialing_refl _
  · split
    · exact keepsDialing_erase _ _
    · exact keepsDialing_refl _

theorem stillDialing_runCallback (service : CallService) {callback : Callback}
    (other : callback ≠ .simulatePendingCallsAnswered) :
    StillDialing service.activeCalls (service.runCallback callback).1.activeCalls := by
  cases callback with
  | timerWaitingRemoteCallResponse index number id =>
      exact (keepsDialing_timerWaitingRemoteCallResponse service index number).stillDialing
  | simulatePendingCallsAnswered => exact absurd rfl other
  | callStateUpdate => exact (keepsDialing_refl _).stillDialing
  | otherService => exact (keepsDialing_refl _).stillDialing

theorem answeredByRemote_fire {position : Nat}
    (spares : SparesRemoteCalls service (.fire position)) :
    AnsweredByRemote service (.fire position) := by
  intro next index call new stepped found dialing isRemote newFound _ isActive
  cases queued : service.looper.queue[position]? with
  | none => simp [step, handle, ThreadLooper.take, queued] at stepped
  | some event =>
      rw [step_fire queued, Option.some.injEq] at stepped
      rw [← stepped] at newFound
      by_cases pending : event.callback = .simulatePendingCallsAnswered
      · have answers : service.AnswersPending (.fire position) := by
          simp [AnswersPending, queued, pending]
        exact absurd ⟨dialing, isRemote⟩
          (spares.1 answers (index, call) (OrderedMap.mem_of_find found))
      · have still := stillDialing_runCallback { service with looper :=
          { service.looper with queue := service.looper.queue.eraseIdx position } } pending
        exact absurd isActive (still index call new found dialing newFound)

theorem not_answeredByRemote_of_answersPending {input : Input}
    (answers : service.AnswersPending input) {entry : Int × CallStatus}
    (member : entry ∈ service.activeCalls.entries) (dialing : entry.2.callState = .dialing)
    (isRemote : IsRemotePort entry.2.number) : ¬ AnsweredByRemote service input := by
  intro byRemote
  cases input with
  | fire position =>
      rcases Option.map_eq_some_iff.mp answers with ⟨event, queued, isPending⟩
      have stored : service.activeCalls.find entry.1 = some entry.2 :=
        OrderedMap.find_of_mem member
      have stepped := step_fire queued
      rw [isPending] at stepped
      have answeredFound : (service.activeCalls.update fun call => some (answered call)).find
          entry.1 = some { entry.2 with callState := .active } := by
        rw [OrderedMap.find_update, stored]
        simp [answered, dialing, CallStatus.setCallActive]
      exact byRemote _ entry.1 entry.2 _ stepped stored dialing isRemote answeredFound rfl rfl
  | _ => exact answers

/-! ## Runs -/

theorem answeredByRemote_iff (service : CallService) (input : Input) :
    AnsweredByRemote service input ↔ SparesRemoteCalls service input := by
  constructor
  · intro byRemote
    refine ⟨?_, ?_⟩
    · intro answers entry member dials
      exact not_answeredByRemote_of_answersPending answers member dials.1 dials.2 byRemote
    · cases input with
      | remoteCall client radioOff command =>
          intro saysActive entry isFirst dials
          by_contra other
          exact not_answeredByRemote_of_otherConnection saysActive isFirst dials other byRemote
      | _ => trivial
  · intro spares
    have of_stillDialing : (∀ next, service.step input = some next →
        StillDialing service.activeCalls next.activeCalls) →
        AnsweredByRemote service input := by
      intro still next index call new stepped found dialing _ newFound _ isActive
      exact absurd isActive (still next stepped index call new found dialing newFound)
    have quiet (noPost : posts input = false) (noFire : ∀ position, input ≠ .fire position) :
        AnsweredByRemote service input :=
      of_stillDialing fun next stepped => (effect_of_step stepped).stillDialing noPost noFire
    cases input with
    | dial env command =>
        apply of_stillDialing
        intro next stepped
        rcases Option.map_eq_some_iff.mp stepped with ⟨result, handled, isNext⟩
        exact isNext ▸ stillDialing_handleDial handled
    | remoteCall client radioOff command =>
        exact answeredByRemote_remoteCall service spares.2
    | fire position => exact answeredByRemote_fire spares
    | otherPost =>
        apply of_stillDialing
        intro next stepped
        cases stepped
        exact (keepsDialing_refl _).stillDialing
    | acceptCall | rejectCall | currentCalls | hangup | mute | sendDtmf | cancelUssd
    | emergencyMode => exact quiet rfl (by simp)

theorem answeredByRemote_eq : AnsweredByRemote = SparesRemoteCalls := by
  funext service input
  exact propext (answeredByRemote_iff service input)

/-- In a run, the calls to remote modems are answered by messages for them exactly as long as
none of them is dialling while the pending local calls are answered, and every message that
answers one of them comes on its own connection. -/
theorem answered_by_remote_along_iff (hostId : Text) (inEmergencyMode : Bool)
    (inputs : List Input) :
    Run.Along step AnsweredByRemote (initial hostId inEmergencyMode) inputs ↔
      Run.Along step SparesRemoteCalls (initial hostId inEmergencyMode) inputs := by
  rw [answeredByRemote_eq]

/-- A remote modem and then a local number are dialled, and a second later the pending
calls are answered. -/
def remoteAndLocalDialled : List Input :=
  [.dial openNetwork "ATD6521;".toList, .dial openNetwork "ATD123;".toList, .fire 1]

/-- A remote modem is dialled twice and answers the second call. -/
def remoteDialledTwice : List Input :=
  [.dial openNetwork "ATD6521;".toList,
    .dial { openNetwork with remoteClient := 8 } "ATD6521;".toList,
    .remoteCall 8 false "AT+REMOTECALL=0,0,0,\"6521\",129".toList]

theorem pending_answer_activates_remote_call :
    ¬ Run.Along step AnsweredByRemote (initial "6520".toList false) remoteAndLocalDialled ∧
      ¬ Run.Along step AnsweredByRemote (initial "6520".toList false) remoteDialledTwice := by
  rw [answeredByRemote_eq]
  decide +kernel

end Cuttlefish.ModemSimulator.CallService
