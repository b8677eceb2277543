import Cuttlefish.ModemSimulator.CallService

/-! # What an input does to the calls

The effects that an input of the call service can have on the calls and on the
callbacks that wait, with what each of them leaves as it was. -/

namespace Cuttlefish.ModemSimulator.CallService

variable {service next : CallService}

/-! ## One call -/

structure SameCall (old new : CallStatus) : Prop where
  number : new.number = old.number
  id : new.id = old.id
  dialing : new.callState = .dialing → old.callState = .dialing

theorem sameCall_refl (call : CallStatus) : SameCall call call := ⟨rfl, rfl, id⟩

theorem sameCall_setCallActive (call : CallStatus) : SameCall call call.setCallActive := by
  rw [CallStatus.setCallActive]
  split
  · exact ⟨rfl, rfl, fun dialing => absurd dialing (by simp)⟩
  · exact sameCall_refl call

theorem sameCall_setCallBackground (call : CallStatus) :
    SameCall call call.setCallBackground := by
  rw [CallStatus.setCallBackground]
  split
  · exact ⟨rfl, rfl, fun dialing => absurd dialing (by simp)⟩
  · exact sameCall_refl call

theorem sameCall_answered (call : CallStatus) : SameCall call (answered call) := by
  rw [answered]
  split
  · exact sameCall_setCallActive call
  · exact sameCall_refl call

theorem find_addCall {index : Int} {call : CallStatus}
    (stored : service.activeCalls.find index = some call) (new : CallStatus) :
    (service.addCall new).activeCalls.find index = some call := by
  have free : service.activeCalls.find service.findFreeCallIndex = none :=
    OrderedMap.find_firstFree service.activeCalls 1
  have different : index ≠ service.findFreeCallIndex := by
    intro same
    rw [same, free] at stored
    contradiction
  exact (OrderedMap.find_insert_of_ne _ _ different).trans stored

/-! ## Loops over the calls -/

def LeavesDialing (action : CallStatus → Option CallStatus × List Output) : Prop :=
  ∀ call new, (action call).1 = some new →
    SameCall call new ∧ (call.callState = .dialing → new = call)

private theorem leavesDialing_ite {condition : CallStatus → Prop}
    [∀ call, Decidable (condition call)]
    {action other : CallStatus → Option CallStatus × List Output}
    (same : ∀ call new, (action call).1 = some new → SameCall call new)
    (notDialing : ∀ call, condition call → call.callState ≠ .dialing)
    (leaves : LeavesDialing other) :
    LeavesDialing fun call => if condition call then action call else other call := by
  intro call new acted
  by_cases taken : condition call
  · simp only [taken, if_true] at acted
    exact ⟨same call new acted, fun dialing => absurd dialing (notDialing call taken)⟩
  · simp only [taken, if_false] at acted
    exact leaves call new acted

private theorem leavesDialing_some :
    LeavesDialing fun call => ((some call, []) : Option CallStatus × List Output) := by
  intro call new acted
  cases acted
  exact ⟨sameCall_refl call, fun _ => rfl⟩

private theorem sameCall_hangUp (service : CallService) (call new : CallStatus)
    (acted : (service.hangUp call).1 = some new) : SameCall call new := by
  contradiction

private theorem sameCall_activate (service : CallService) (call new : CallStatus)
    (acted : (service.activate call).1 = some new) : SameCall call new := by
  cases acted
  exact sameCall_setCallActive call

private theorem sameCall_hold (service : CallService) (call new : CallStatus)
    (acted : (service.hold call).1 = some new) : SameCall call new := by
  cases acted
  exact sameCall_setCallBackground call

theorem leavesDialing_acceptAction (service : CallService) :
    LeavesDialing service.acceptAction := by
  apply leavesDialing_ite (sameCall_activate service)
  · simp +contextual
  · apply leavesDialing_ite (sameCall_hold service) (by simp +contextual) leavesDialing_some

theorem leavesDialing_rejectAction (service : CallService) :
    LeavesDialing service.rejectAction := by
  apply leavesDialing_ite (sameCall_hangUp service) (by simp +contextual) leavesDialing_some

theorem leavesDialing_releaseHeldAction (service : CallService) :
    LeavesDialing service.releaseHeldAction := by
  apply leavesDialing_ite (sameCall_hangUp service) _ leavesDialing_some
  intro call taken
  rcases taken with state | state | state
  all_goals simp [state]

theorem leavesDialing_releaseActiveAction (service : CallService) :
    LeavesDialing service.releaseActiveAction := by
  apply leavesDialing_ite (sameCall_hangUp service)
  · simp +contextual
  · apply leavesDialing_ite (sameCall_activate service) _ leavesDialing_some
    intro call taken
    rcases taken with state | state
    all_goals simp [state]

theorem leavesDialing_swapAction (service : CallService) :
    LeavesDialing service.swapAction := by
  apply leavesDialing_ite (sameCall_hold service)
  · intro call taken
    rcases taken with state | state
    all_goals simp [state]
  · apply leavesDialing_ite (sameCall_activate service) (by simp +contextual) leavesDialing_some

theorem leavesDialing_resumeAction (service : CallService) :
    LeavesDialing service.resumeAction := by
  apply leavesDialing_ite (sameCall_activate service) (by simp +contextual) leavesDialing_some

/-! ## Inputs -/

def addedNumber (service : CallService) : Input → Option Text
  | .dial env command =>
      match decideDial service.hostId env command with
      | some (.remote port) => some (Decimal.print port)
      | some (.local_ number _) => some number
      | _ => none
  | .remoteCall _ radioOff command =>
      if (parseRemoteCall command).state = CallState.incoming.number ∧ radioOff = false then
        some (parseRemoteCall command).number
      else none
  | _ => none

def posts : Input → Bool
  | .dial _ _ => true
  | .remoteCall _ _ _ => true
  | .otherPost => true
  | _ => false

inductive Effect (service : CallService) (input : Input) : CallService → Prop
  | same {next : CallService} (calls : next.activeCalls = service.activeCalls)
      (looper : next.looper = service.looper) (nextCall : next.nextCall = service.nextCall) :
      Effect service input next
  | acted {action : CallStatus → Option CallStatus × List Output}
      (leaves : LeavesDialing action) : Effect service input (service.forEachCall action).1
  | endedIndex (index : Int) : Effect service input (service.hangUpIndex index).1
  | dialledRemote (env : DialEnv) {port : Int} (posts : posts input = true)
      (added : service.addedNumber input = some (Decimal.print port)) :
      Effect service input (service.dialRemote env port).1
  | dialledLocal {number : Text} (emergencyNumber : Bool) (posts : posts input = true)
      (added : service.addedNumber input = some number) :
      Effect service input (service.dialLocal number emergencyNumber).1
  | changed (number : Text) (change : CallStatus → CallStatus) (posts : posts input = true)
      (same : ∀ call, SameCall call (change call)) :
      Effect service input (service.remoteChange number change).postUpdate
  | ended (number : Text) (posts : posts input = true) :
      Effect service input (service.remoteHangup number).1.postUpdate
  | incoming {call : CallStatus} (posts : posts input = true)
      (added : service.addedNumber input = some call.number)
      (fresh : call.id = service.nextCall) :
      Effect service input (service.addCall call).postUpdate
  | fired {position : Nat} {event : Event Callback} (isFire : input = .fire position)
      (found : service.looper.queue[position]? = some event) :
      Effect service input ({ service with looper :=
        { service.looper with queue := service.looper.queue.eraseIdx position } }.runCallback
          event.callback).1
  | posted (posts : posts input = true) :
      Effect service input { service with looper := (service.looper.post .otherService).2 }

theorem Effect.refl (service : CallService) (input : Input) : Effect service input service :=
  .same rfl rfl rfl

theorem effect_of_handleHangup {command : Text} {input : Input}
    {result : CallService × List Output}
    (handled : service.handleHangup command = some result) :
    Effect service input result.1 := by
  simp only [handleHangup] at handled
  cases first : Decimal.stoi ((CommandParser.skipPrefix command).take 1) with
  | none => simp [first] at handled
  | some n =>
      simp only [first] at handled
      generalize (if 1 < (CommandParser.skipPrefix command).length then
        Decimal.stoi ((CommandParser.skipPrefix command).drop 1) else some (-1)) = second
        at handled
      cases second with
      | none => simp at handled
      | some index =>
          dsimp only at handled
          split at handled
          · cases handled
            exact .acted (leavesDialing_releaseHeldAction service)
          split at handled
          · split at handled <;> cases handled
            · exact .acted (leavesDialing_releaseActiveAction service)
            · exact .endedIndex index
          split at handled
          · split at handled <;> cases handled
            · exact .acted (leavesDialing_swapAction service)
            · exact .endedIndex index
          split at handled <;> cases handled
          · exact .acted (leavesDialing_resumeAction service)
          · exact .refl service input

theorem effect_of_handleMute (service : CallService) (command : Text) (input : Input) :
    Effect service input (service.handleMute command).1 := by
  rw [handleMute]
  dsimp only
  split
  · exact .refl service input
  split
  · exact .same rfl rfl rfl
  split
  · exact .same rfl rfl rfl
  · exact .refl service input

theorem effect_of_handleEmergencyMode (service : CallService) (command : Text)
    (input : Input) : Effect service input (service.handleEmergencyMode command).1 := by
  rw [handleEmergencyMode]
  dsimp only
  split
  · exact .refl service input
  split
  · exact .same rfl rfl rfl
  split
  · exact .same rfl rfl rfl
  · exact .refl service input

theorem effect_of_handleDial {env : DialEnv} {command : Text}
    {result : CallService × List Output}
    (handled : service.handleDial env command = some result) :
    Effect service (.dial env command) result.1 := by
  rw [handleDial] at handled
  cases decided : decideDial service.hostId env command with
  | none => simp [decided] at handled
  | some decision =>
      simp only [decided] at handled
      cases decision with
      | refuse response =>
          cases handled
          exact .refl service _
      | remote port =>
          cases handled
          exact .dialledRemote env rfl (by simp [addedNumber, decided])
      | local_ number emergencyNumber =>
          cases handled
          exact .dialledLocal emergencyNumber rfl (by simp [addedNumber, decided])

theorem effect_of_handleRemoteCall (service : CallService) (client : ClientId)
    (radioOff : Bool) (command : Text) :
    Effect service (.remoteCall client radioOff command)
      (service.handleRemoteCall client radioOff command).1 := by
  unfold handleRemoteCall
  dsimp only
  split
  · exact .changed _ _ rfl sameCall_setCallActive
  split
  · exact .changed _ _ rfl sameCall_setCallBackground
  split
  · exact .ended _ rfl
  split
  case isTrue incoming =>
    cases radioOff with
    | true => exact .refl service _
    | false => exact .incoming rfl (by simp [addedNumber, incoming, incomingCall,
        CallStatus.ofNumber]) rfl
  case isFalse => exact .refl service _

theorem effect_of_fire {position : Nat} {result : CallService × List Output}
    (handled : service.handle (.fire position) = some result) :
    Effect service (.fire position) result.1 := by
  simp only [handle, ThreadLooper.take] at handled
  cases found : service.looper.queue[position]? with
  | none => simp [found] at handled
  | some event =>
      simp only [found] at handled
      cases handled
      exact .fired rfl found

theorem effect_of_step {input : Input} (stepped : service.step input = some next) :
    Effect service input next := by
  rcases Option.map_eq_some_iff.mp stepped with ⟨result, handled, isNext⟩
  rw [← isNext]
  cases input with
  | dial env command => exact effect_of_handleDial handled
  | acceptCall =>
      cases handled
      exact .acted (leavesDialing_acceptAction service)
  | rejectCall =>
      cases handled
      exact .acted (leavesDialing_rejectAction service)
  | currentCalls =>
      cases handled
      exact .refl service _
  | hangup command => exact effect_of_handleHangup handled
  | mute command =>
      cases handled
      exact effect_of_handleMute service command _
  | sendDtmf =>
      cases handled
      exact .refl service _
  | cancelUssd =>
      cases handled
      exact .refl service _
  | emergencyMode command =>
      cases handled
      exact effect_of_handleEmergencyMode service command _
  | remoteCall client radioOff command =>
      cases handled
      exact effect_of_handleRemoteCall service client radioOff command
  | fire position => exact effect_of_fire handled
  | otherPost =>
      cases handled
      exact .posted rfl

end Cuttlefish.ModemSimulator.CallService
