import Cuttlefish.Foundation.Run
import Cuttlefish.ModemSimulator.CallEffects

/-! # Timeouts of dialled calls

Which runs of the call service are safe from the timeouts that dialling a remote
modem arms: a timeout that fires ends no call but the one it was armed for, and
that one only while it is still dialling. A call is dialling from its creation
until it is answered, and never again. -/

namespace Cuttlefish.ModemSimulator.CallService

/-- Firing any timeout that is waiting ends at most the call it was armed for,
and only while that call is dialling. -/
def FiringSafe (service : CallService) : Prop :=
  ∀ position event next index number id,
    service.looper.queue[position]? = some event →
    event.callback = .timerWaitingRemoteCallResponse index number id →
    service.step (.fire position) = some next →
    ∀ key call, service.activeCalls.find key = some call →
      next.activeCalls.find key = some call ∨ call.id = id ∧ call.callState = .dialing

def IsTimeout (index : Int) (number : Text) : Callback → Prop
  | .timerWaitingRemoteCallResponse timedIndex timedNumber _ =>
      timedIndex = index ∧ timedNumber = number
  | _ => False

instance (index : Int) (number : Text) :
    (callback : Callback) → Decidable (IsTimeout index number callback)
  | .timerWaitingRemoteCallResponse _ _ _ => inferInstanceAs (Decidable (_ ∧ _))
  | .simulatePendingCallsAnswered => isFalse id
  | .callStateUpdate => isFalse id
  | .otherService => isFalse id

def TimeoutWaits (service : CallService) (index : Int) (number : Text) : Prop :=
  ∃ event ∈ service.looper.queue, IsTimeout index number event.callback

instance (service : CallService) (index : Int) (number : Text) :
    Decidable (service.TimeoutWaits index number) :=
  inferInstanceAs (Decidable (∃ _ ∈ _, _))

def AnswersPending (service : CallService) (input : Input) : Prop :=
  match input with
  | .fire position =>
      (service.looper.queue[position]?).map Event.callback = some .simulatePendingCallsAnswered
  | _ => False

instance (service : CallService) : (input : Input) → Decidable (service.AnswersPending input)
  | .fire _ => inferInstanceAs (Decidable (_ = _))
  | .dial _ _ | .acceptCall | .rejectCall | .currentCalls | .hangup _ | .mute _ | .sendDtmf
  | .cancelUssd | .emergencyMode _ | .remoteCall _ _ _ | .otherPost => isFalse id

/-- The input adds no call under the index and number of a timeout that is still
waiting, does not answer a call whose timeout is still waiting together with the
pending local calls, and reuses no serial number that is waiting. -/
structure RespectsTimeouts (service : CallService) (input : Input) : Prop where
  added : ∀ number ∈ service.addedNumber input,
    ¬ service.TimeoutWaits service.findFreeCallIndex number
  answered : service.AnswersPending input →
    ∀ entry ∈ service.activeCalls.entries, entry.2.callState = .dialing →
      ¬ service.TimeoutWaits entry.1 entry.2.number
  serial : posts input = true → service.looper.NextIsFree

instance (service : CallService) (input : Input) :
    Decidable (service.RespectsTimeouts input) :=
  decidable_of_iff (_ ∧ _ ∧ _)
    ⟨fun parts => ⟨parts.1, parts.2.1, parts.2.2⟩,
      fun respects => ⟨respects.added, respects.answered, respects.serial⟩⟩

/-! ## The invariant -/

/-- Waiting events have distinct serial numbers, and a timeout whose index and
number are in use belongs to the call there, which is dialling. -/
structure TimersAgree (service : CallService) : Prop where
  serials : service.looper.SerialsDistinct
  armed : ∀ event ∈ service.looper.queue, ∀ index number id,
    event.callback = .timerWaitingRemoteCallResponse index number id →
    ∀ call, service.activeCalls.find index = some call → call.number = number →
      call.id = id ∧ call.callState = .dialing ∧ call.timeoutSerial = some event.serial

variable {service next : CallService}

theorem TimersAgree.firingSafe (agree : TimersAgree service) : FiringSafe service := by
  intro position event next index number id found callback stepped key call stored
  have taken : service.looper.take position =
      some (event.callback,
        { service.looper with queue := service.looper.queue.eraseIdx position }) := by
    rw [ThreadLooper.take, found]
  simp only [step, handle, taken, callback, runCallback, timerWaitingRemoteCallResponse,
    Option.map_some, Option.some.injEq] at stepped
  cases present : service.activeCalls.find index with
  | none =>
      simp only [present] at stepped
      rw [← stepped]
      exact .inl stored
  | some other =>
      simp only [present] at stepped
      by_cases same : other.number = number
      · simp only [same, if_true] at stepped
        rw [← stepped]
        by_cases sameKey : key = index
        · rw [sameKey, present] at stored
          cases stored
          have own := agree.armed event (List.mem_of_getElem? found) index number id callback
            call present same
          exact .inr ⟨own.1, own.2.1⟩
        · refine .inl ?_
          rw [← stored]
          exact OrderedMap.find_erase_of_ne _ sameKey
      · simp only [same, if_false] at stepped
        rw [← stepped]
        exact .inl stored

def KeepsDialing (before after : OrderedMap CallStatus) : Prop :=
  ∀ index call, after.find index = some call →
    ∃ old, before.find index = some old ∧ SameCall old call ∧
      (old.callState = .dialing → call = old)

theorem TimersAgree.of_keepsDialing (agree : TimersAgree service)
    (calls : KeepsDialing service.activeCalls next.activeCalls)
    (queue : next.looper.queue.Sublist service.looper.queue) : TimersAgree next where
  serials := agree.serials.sublist queue
  armed event member index number id callback call found sameNumber := by
    rcases calls index call found with ⟨old, oldFound, same, unchanged⟩
    have own := agree.armed event (queue.subset member) index number id callback old oldFound
      (same.number ▸ sameNumber)
    rw [unchanged own.2.1]
    exact own

theorem TimersAgree.post (agree : TimersAgree service) (free : service.looper.NextIsFree)
    {callback : Callback}
    (notTimeout : ∀ index number id,
      callback ≠ .timerWaitingRemoteCallResponse index number id) :
    TimersAgree { service with looper := (service.looper.post callback).2 } where
  serials := agree.serials.post free callback
  armed event member index number id isTimeout call found sameNumber := by
    rcases List.mem_append.mp member with old | new
    · exact agree.armed event old index number id isTimeout call found sameNumber
    · rw [List.mem_singleton.mp new] at isTimeout
      exact absurd isTimeout (notTimeout index number id)

theorem TimersAgree.addCall (agree : TimersAgree service) {call : CallStatus}
    (free : ¬ service.TimeoutWaits service.findFreeCallIndex call.number) :
    TimersAgree (service.addCall call) where
  serials := agree.serials
  armed event member index number id callback other found sameNumber := by
    change (service.activeCalls.insert service.findFreeCallIndex call).find index =
      some other at found
    by_cases same : index = service.findFreeCallIndex
    · rw [same, OrderedMap.find_insert_self] at found
      cases found
      exact absurd ⟨event, member, by rw [callback]; exact ⟨same, sameNumber.symm⟩⟩ free
    · rw [OrderedMap.find_insert_of_ne _ _ same] at found
      exact agree.armed event member index number id callback other found sameNumber

/-! ## Ending and changing calls -/

theorem keepsDialing_refl (calls : OrderedMap CallStatus) : KeepsDialing calls calls := by
  intro index call found
  exact ⟨call, found, sameCall_refl call, fun _ => rfl⟩

theorem keepsDialing_erase (calls : OrderedMap CallStatus) (key : Int) :
    KeepsDialing calls (calls.erase key) := by
  intro index call found
  by_cases same : index = key
  · rw [same, OrderedMap.find_erase_self] at found
    contradiction
  · rw [OrderedMap.find_erase_of_ne _ same] at found
    exact keepsDialing_refl calls index call found

theorem keepsDialing_forEachCall (service : CallService)
    {action : CallStatus → Option CallStatus × List Output} (leaves : LeavesDialing action) :
    KeepsDialing service.activeCalls (service.forEachCall action).1.activeCalls := by
  intro index call found
  change (service.activeCalls.update _).find index = some call at found
  rw [OrderedMap.find_update] at found
  rcases Option.bind_eq_some_iff.mp found with ⟨old, oldFound, acted⟩
  exact ⟨old, oldFound, leaves old call acted⟩

theorem keepsDialing_hangUpIndex (service : CallService) (index : Int) :
    KeepsDialing service.activeCalls (service.hangUpIndex index).1.activeCalls := by
  rw [hangUpIndex]
  cases service.activeCalls.find index with
  | none => exact keepsDialing_refl service.activeCalls
  | some call => exact keepsDialing_erase service.activeCalls index

theorem looper_hangUpIndex (service : CallService) (index : Int) :
    (service.hangUpIndex index).1.looper = service.looper := by
  rw [hangUpIndex]
  cases service.activeCalls.find index with
  | none => rfl
  | some call => rfl

theorem TimersAgree.congr (agree : TimersAgree service)
    (calls : next.activeCalls = service.activeCalls) (looper : next.looper = service.looper) :
    TimersAgree next := by
  apply agree.of_keepsDialing
  · exact calls ▸ keepsDialing_refl service.activeCalls
  · exact looper ▸ List.Sublist.refl service.looper.queue

/-! ## Dialling -/

theorem TimersAgree.dialRemote (agree : TimersAgree service)
    (free : service.looper.NextIsFree) (env : DialEnv) {port : Int}
    (unused : ¬ service.TimeoutWaits service.findFreeCallIndex (Decimal.print port)) :
    TimersAgree (service.dialRemote env port).1 where
  serials := agree.serials.post free _
  armed event member index number id callback call found sameNumber := by
    change (service.activeCalls.insert service.findFreeCallIndex _).find index =
      some call at found
    rcases List.mem_append.mp member with old | new
    · by_cases same : index = service.findFreeCallIndex
      · rw [same, OrderedMap.find_insert_self] at found
        cases found
        exact absurd ⟨event, old, by rw [callback]; exact ⟨same, sameNumber.symm⟩⟩ unused
      · rw [OrderedMap.find_insert_of_ne _ _ same] at found
        exact agree.armed event old index number id callback call found sameNumber
    · rw [List.mem_singleton.mp new] at callback ⊢
      cases callback
      rw [OrderedMap.find_insert_self] at found
      cases found
      exact ⟨rfl, rfl, rfl⟩

theorem TimersAgree.dialLocal (agree : TimersAgree service)
    (free : service.looper.NextIsFree) {number : Text}
    (unused : ¬ service.TimeoutWaits service.findFreeCallIndex number)
    (emergencyNumber : Bool) :
    TimersAgree (service.dialLocal number emergencyNumber).1 := by
  let call := { CallStatus.ofNumber number service.nextCall with
    isMobileTerminated := false
    callState := .dialing }
  have added : TimersAgree (service.addCall call) := agree.addCall unused
  have posted : TimersAgree { service.addCall call with
      looper := (service.looper.post .simulatePendingCallsAnswered).2 } :=
    added.post free (by simp)
  apply posted.congr
  · cases emergencyNumber <;> rfl
  · cases emergencyNumber <;> rfl

/-! ## Messages of remote modems -/

theorem find_of_findByNumber {number : Text} {index : Int} {call : CallStatus}
    (found : service.findByNumber number = some (index, call)) :
    service.activeCalls.find index = some call :=
  OrderedMap.find_of_mem (List.mem_of_find?_eq_some found)

theorem cancelTimeout_queue_sublist (service : CallService) (call : CallStatus) :
    (service.cancelTimeout call).looper.queue.Sublist service.looper.queue := by
  rw [cancelTimeout]
  cases call.timeoutSerial with
  | none => exact List.Sublist.refl _
  | some serial => exact List.eraseP_sublist

@[simp]
theorem cancelTimeout_nextSerial (service : CallService) (call : CallStatus) :
    (service.cancelTimeout call).looper.nextSerial = service.looper.nextSerial := by
  rw [cancelTimeout]
  cases call.timeoutSerial <;> rfl

@[simp]
theorem cancelTimeout_activeCalls (service : CallService) (call : CallStatus) :
    (service.cancelTimeout call).activeCalls = service.activeCalls := by
  rw [cancelTimeout]
  cases call.timeoutSerial <;> rfl

theorem TimersAgree.remoteChange (agree : TimersAgree service) (number : Text)
    {change : CallStatus → CallStatus} (same : ∀ call, SameCall call (change call)) :
    TimersAgree (service.remoteChange number change) := by
  rw [CallService.remoteChange]
  cases found : service.findByNumber number with
  | none => exact agree
  | some entry =>
      rcases entry with ⟨index, call⟩
      have stored := find_of_findByNumber found
      have sublist := cancelTimeout_queue_sublist (service.setCall index (change call)) call
      refine ⟨agree.serials.sublist sublist, ?_⟩
      intro event member key waiting id callback other otherFound sameNumber
      have old : event ∈ service.looper.queue := sublist.subset member
      rw [cancelTimeout_activeCalls] at otherFound
      by_cases sameKey : key = index
      · rw [sameKey, setCall, OrderedMap.find_insert_self] at otherFound
        cases otherFound
        rw [(same call).number] at sameNumber
        have own := agree.armed event old key waiting id callback call (sameKey ▸ stored)
          sameNumber
        simp only [cancelTimeout, own.2.2] at member
        exact absurd member agree.serials.not_mem_cancelSerial
      · rw [setCall, OrderedMap.find_insert_of_ne _ _ sameKey] at otherFound
        exact agree.armed event old key waiting id callback other otherFound sameNumber

theorem TimersAgree.remoteHangup (agree : TimersAgree service) (number : Text) :
    TimersAgree (service.remoteHangup number).1 := by
  rw [CallService.remoteHangup]
  cases service.findByNumber number with
  | none => exact agree
  | some entry =>
      rcases entry with ⟨index, call⟩
      apply agree.of_keepsDialing
      · rw [cancelTimeout_activeCalls]
        exact keepsDialing_erase service.activeCalls index
      · exact cancelTimeout_queue_sublist _ call

theorem TimersAgree.postUpdate (agree : TimersAgree next)
    (free : service.looper.NextIsFree)
    (queue : next.looper.queue.Sublist service.looper.queue)
    (nextSerial : next.looper.nextSerial = service.looper.nextSerial) :
    TimersAgree next.postUpdate := by
  apply TimersAgree.post agree
  · intro event member
    rw [nextSerial]
    exact free event (queue.subset member)
  · simp

theorem remoteChange_looper (service : CallService) (number : Text)
    (change : CallStatus → CallStatus) :
    (service.remoteChange number change).looper.queue.Sublist service.looper.queue ∧
      (service.remoteChange number change).looper.nextSerial = service.looper.nextSerial := by
  rw [CallService.remoteChange]
  cases service.findByNumber number with
  | none => exact ⟨List.Sublist.refl _, rfl⟩
  | some entry => exact ⟨cancelTimeout_queue_sublist _ _, cancelTimeout_nextSerial _ _⟩

theorem remoteHangup_looper (service : CallService) (number : Text) :
    (service.remoteHangup number).1.looper.queue.Sublist service.looper.queue ∧
      (service.remoteHangup number).1.looper.nextSerial = service.looper.nextSerial := by
  rw [CallService.remoteHangup]
  cases service.findByNumber number with
  | none => exact ⟨List.Sublist.refl _, rfl⟩
  | some entry => exact ⟨cancelTimeout_queue_sublist _ _, cancelTimeout_nextSerial _ _⟩

/-! ## Callbacks -/

theorem TimersAgree.timerWaitingRemoteCallResponse (agree : TimersAgree service)
    (index : Int) (number : Text) :
    TimersAgree (service.timerWaitingRemoteCallResponse index number).1 := by
  rw [CallService.timerWaitingRemoteCallResponse]
  cases service.activeCalls.find index with
  | none => exact agree
  | some call =>
      dsimp only
      split
      · exact agree.of_keepsDialing (keepsDialing_erase _ index) (List.Sublist.refl _)
      · exact agree

theorem TimersAgree.simulatePendingCallsAnswered (agree : TimersAgree service)
    (unarmed : ∀ index call, service.activeCalls.find index = some call →
      call.callState = .dialing → ¬ service.TimeoutWaits index call.number) :
    TimersAgree service.simulatePendingCallsAnswered where
  serials := agree.serials
  armed event member index number id callback call found sameNumber := by
    change (service.activeCalls.update _).find index = some call at found
    rw [OrderedMap.find_update] at found
    rcases Option.bind_eq_some_iff.mp found with ⟨old, oldFound, acted⟩
    have kept : old.number = number := by
      cases acted
      rw [← sameNumber, (sameCall_answered old).number]
    have own := agree.armed event member index number id callback old oldFound kept
    have waits : service.TimeoutWaits index old.number :=
      ⟨event, member, by rw [callback]; exact ⟨rfl, kept.symm⟩⟩
    exact absurd waits (unarmed index old oldFound own.2.1)

theorem TimersAgree.fire (agree : TimersAgree service) {position : Nat}
    {event : Event Callback} (respects : RespectsTimeouts service (.fire position))
    (found : service.looper.queue[position]? = some event) :
    TimersAgree ({ service with looper :=
      { service.looper with queue := service.looper.queue.eraseIdx position } }.runCallback
        event.callback).1 := by
  have sublist := List.eraseIdx_sublist service.looper.queue position
  have taken : TimersAgree { service with looper :=
      { service.looper with queue := service.looper.queue.eraseIdx position } } :=
    agree.of_keepsDialing (keepsDialing_refl _) sublist
  cases callback : event.callback with
  | timerWaitingRemoteCallResponse index number id =>
      exact taken.timerWaitingRemoteCallResponse index number
  | simulatePendingCallsAnswered =>
      apply taken.simulatePendingCallsAnswered
      intro index call stored dialing waits
      rcases waits with ⟨other, member, isTimeout⟩
      have answers : service.AnswersPending (.fire position) := by
        simp [AnswersPending, found, callback]
      exact respects.answered answers (index, call) (OrderedMap.mem_of_find stored) dialing
        ⟨other, sublist.subset member, isTimeout⟩
  | callStateUpdate => exact taken
  | otherService => exact taken

/-! ## Answered calls -/

structure CallsFrom (service next : CallService) : Prop where
  counter : service.nextCall ≤ next.nextCall
  origin : ∀ index call, next.activeCalls.find index = some call →
    call.id = service.nextCall ∨
      ∃ old, service.activeCalls.find index = some old ∧ SameCall old call

theorem callsFrom_of_keepsDialing
    (calls : KeepsDialing service.activeCalls next.activeCalls)
    (nextCall : next.nextCall = service.nextCall) : CallsFrom service next where
  counter := Nat.le_of_eq nextCall.symm
  origin index call found := by
    rcases calls index call found with ⟨old, oldFound, same, _⟩
    exact .inr ⟨old, oldFound, same⟩

theorem callsFrom_of_insert {key : Int} {new : CallStatus}
    (calls : next.activeCalls = service.activeCalls.insert key new)
    (counter : service.nextCall ≤ next.nextCall)
    (stored : new.id = service.nextCall ∨
      ∃ old, service.activeCalls.find key = some old ∧ SameCall old new) :
    CallsFrom service next where
  counter := counter
  origin index call found := by
    rw [calls] at found
    by_cases same : index = key
    · rw [same, OrderedMap.find_insert_self] at found
      cases found
      rw [same]
      exact stored
    · rw [OrderedMap.find_insert_of_ne _ _ same] at found
      exact .inr ⟨call, found, sameCall_refl call⟩

theorem callsFrom_dialLocal (service : CallService) (number : Text) (emergencyNumber : Bool) :
    CallsFrom service (service.dialLocal number emergencyNumber).1 := by
  cases emergencyNumber with
  | false => exact callsFrom_of_insert rfl (Nat.le_succ _) (.inl rfl)
  | true => exact callsFrom_of_insert rfl (Nat.le_succ _) (.inl rfl)

@[simp]
theorem cancelTimeout_nextCall (service : CallService) (call : CallStatus) :
    (service.cancelTimeout call).nextCall = service.nextCall := by
  rw [cancelTimeout]
  cases call.timeoutSerial <;> rfl

theorem callsFrom_remoteChange (service : CallService) (number : Text)
    {change : CallStatus → CallStatus} (same : ∀ call, SameCall call (change call)) :
    CallsFrom service (service.remoteChange number change).postUpdate := by
  rw [CallService.remoteChange]
  cases found : service.findByNumber number with
  | none => exact callsFrom_of_keepsDialing (keepsDialing_refl _) rfl
  | some entry =>
      rcases entry with ⟨index, call⟩
      apply callsFrom_of_insert
      · exact cancelTimeout_activeCalls (service.setCall index (change call)) call
      · exact Nat.le_of_eq (cancelTimeout_nextCall (service.setCall index _) call).symm
      · exact .inr ⟨call, find_of_findByNumber found, same call⟩

theorem callsFrom_remoteHangup (service : CallService) (number : Text) :
    CallsFrom service (service.remoteHangup number).1.postUpdate := by
  rw [CallService.remoteHangup]
  cases service.findByNumber number with
  | none => exact callsFrom_of_keepsDialing (keepsDialing_refl _) rfl
  | some entry =>
      rcases entry with ⟨index, call⟩
      apply callsFrom_of_keepsDialing
      · change KeepsDialing _ (cancelTimeout _ call).activeCalls
        rw [cancelTimeout_activeCalls]
        exact keepsDialing_erase service.activeCalls index
      · exact cancelTimeout_nextCall _ call

theorem callsFrom_runCallback (service : CallService) (looper : ThreadLooper Callback)
    (callback : Callback) :
    CallsFrom service ({ service with looper }.runCallback callback).1 := by
  cases callback with
  | timerWaitingRemoteCallResponse index number id =>
      simp only [runCallback, CallService.timerWaitingRemoteCallResponse]
      cases service.activeCalls.find index with
      | none => exact callsFrom_of_keepsDialing (keepsDialing_refl _) rfl
      | some call =>
          dsimp only
          split
          · exact callsFrom_of_keepsDialing (keepsDialing_erase _ index) rfl
          · exact callsFrom_of_keepsDialing (keepsDialing_refl _) rfl
  | simulatePendingCallsAnswered =>
      refine ⟨Nat.le_refl _, ?_⟩
      intro index call found
      change (service.activeCalls.update _).find index = some call at found
      rw [OrderedMap.find_update] at found
      rcases Option.bind_eq_some_iff.mp found with ⟨old, oldFound, acted⟩
      cases acted
      exact .inr ⟨old, oldFound, sameCall_answered old⟩
  | callStateUpdate => exact callsFrom_of_keepsDialing (keepsDialing_refl _) rfl
  | otherService => exact callsFrom_of_keepsDialing (keepsDialing_refl _) rfl

theorem callsFrom_of_step {input : Input} (stepped : service.step input = some next) :
    CallsFrom service next := by
  cases effect_of_step stepped with
  | same calls looper nextCall =>
      exact callsFrom_of_keepsDialing (calls ▸ keepsDialing_refl service.activeCalls) nextCall
  | acted leaves =>
      exact callsFrom_of_keepsDialing (keepsDialing_forEachCall service leaves) rfl
  | endedIndex index =>
      apply callsFrom_of_keepsDialing (keepsDialing_hangUpIndex service index)
      rw [hangUpIndex]
      cases service.activeCalls.find index <;> rfl
  | dialledRemote env posts added =>
      exact callsFrom_of_insert rfl (Nat.le_succ _) (.inl rfl)
  | dialledLocal emergencyNumber posts added =>
      exact callsFrom_dialLocal service _ emergencyNumber
  | changed number change posts same => exact callsFrom_remoteChange service number same
  | ended number posts => exact callsFrom_remoteHangup service number
  | incoming posts added fresh =>
      exact callsFrom_of_insert rfl (Nat.le_succ _) (.inl fresh)
  | fired isFire found =>
      exact callsFrom_runCallback service _ _
  | posted posts => exact callsFrom_of_keepsDialing (keepsDialing_refl _) rfl

/-- The call with the given name has been created and is not dialling, if it still
exists. -/
def Answered (id : Nat) (service : CallService) : Prop :=
  id < service.nextCall ∧ ∀ index call, service.activeCalls.find index = some call →
    call.id = id → call.callState ≠ .dialing

/-- A call that has been answered never dials again. -/
theorem answered_of_run {id : Nat} {inputs : List Input}
    (answered : Answered id service) (reached : Run.run step service inputs = some next) :
    Answered id next := by
  apply Run.invariant_of_run _ answered reached
  intro before input after holds stepped
  have calls := callsFrom_of_step stepped
  refine ⟨Nat.lt_of_lt_of_le holds.1 calls.counter, ?_⟩
  intro index call found isCall dialing
  rcases calls.origin index call found with isNew | ⟨old, oldFound, same⟩
  · have created := holds.1
    omega
  · exact holds.2 index old oldFound (same.id ▸ isCall) (same.dialing dialing)

/-! ## Runs -/

theorem timersAgree_initial (hostId : Text) (inEmergencyMode : Bool) :
    TimersAgree (initial hostId inEmergencyMode) where
  serials := List.Pairwise.nil
  armed _ member := absurd member List.not_mem_nil

theorem TimersAgree.step (agree : TimersAgree service) {input : Input}
    (respects : RespectsTimeouts service input) (stepped : service.step input = some next) :
    TimersAgree next := by
  cases effect_of_step stepped with
  | same calls looper nextCall => exact agree.congr calls looper
  | acted leaves =>
      exact agree.of_keepsDialing (keepsDialing_forEachCall service leaves)
        (List.Sublist.refl _)
  | endedIndex index =>
      exact agree.of_keepsDialing (keepsDialing_hangUpIndex service index)
        (looper_hangUpIndex service index ▸ List.Sublist.refl service.looper.queue)
  | dialledRemote env posts added =>
      exact agree.dialRemote (respects.serial posts) env (respects.added _ added)
  | dialledLocal emergencyNumber posts added =>
      exact agree.dialLocal (respects.serial posts) (respects.added _ added) emergencyNumber
  | changed number change posts same =>
      have kept := remoteChange_looper service number change
      exact (agree.remoteChange number same).postUpdate (respects.serial posts) kept.1 kept.2
  | ended number posts =>
      have kept := remoteHangup_looper service number
      exact (agree.remoteHangup number).postUpdate (respects.serial posts) kept.1 kept.2
  | incoming posts added fresh =>
      exact (agree.addCall (respects.added _ added)).postUpdate (respects.serial posts)
        (List.Sublist.refl _) rfl
  | fired isFire found =>
      cases isFire
      exact agree.fire respects found
  | posted posts => exact agree.post (respects.serial posts) (by simp)

/-- While every input respects the waiting timeouts, a timeout that fires ends no
call but its own, and that one only while it is dialling. -/
theorem timeouts_end_own_dialing_call (hostId : Text) (inEmergencyMode : Bool)
    (inputs : List Input)
    (respects : Run.Along step RespectsTimeouts (initial hostId inEmergencyMode) inputs) :
    Run.Always step FiringSafe (initial hostId inEmergencyMode) inputs :=
  Run.always_of_along (fun _ _ _ agree allowed stepped => agree.step allowed stepped)
    (fun _ agree => agree.firingSafe) (timersAgree_initial hostId inEmergencyMode) respects

def openNetwork : DialEnv where
  registration := .home
  fdnEnabled := false
  isFixedDialNumber := false
  remoteIsOpen := true
  remoteClient := 7

def otherModemCalled : List Input :=
  [.dial openNetwork "ATD6521;".toList, .hangup "AT+CHLD=11".toList,
    .dial openNetwork "ATD6522;".toList, .fire 0]

theorem timeouts_end_own_dialing_call_other_modem :
    Run.Always step FiringSafe (initial "6520".toList false) otherModemCalled :=
  timeouts_end_own_dialing_call "6520".toList false otherModemCalled (by decide)

def answeredLocally : List Input := [.dial openNetwork "ATD123;".toList, .fire 0]

theorem answered_of_run_local :
    ∃ service next, Run.run step (initial "6520".toList false) answeredLocally = some service ∧
      Run.run step service [.dial openNetwork "ATD124;".toList] = some next ∧ Answered 0 next := by
  let service := (Run.run step (initial "6520".toList false) answeredLocally).get (by decide)
  let next := (Run.run step service [.dial openNetwork "ATD124;".toList]).get (by decide)
  have reached : Run.run step service [.dial openNetwork "ATD124;".toList] = some next :=
    (Option.some_get _).symm
  have none_dialing : ∀ entry ∈ service.activeCalls.entries, entry.2.callState ≠ .dialing := by decide
  have answered : Answered 0 service :=
    ⟨by decide, fun index call found _ => none_dialing _ (OrderedMap.mem_of_find found)⟩
  exact ⟨service, next, (Option.some_get _).symm, reached, answered_of_run answered reached⟩

def sameModemCalled : List Input :=
  [.dial openNetwork "ATD6521;".toList, .hangup "AT+CHLD=11".toList,
    .dial openNetwork "ATD6521;".toList]

/-- Ending a call leaves its timeout waiting, so it ends the next call to the same
modem. -/
theorem stale_timeout_ends_later_call :
    ¬ Run.Always step FiringSafe (initial "6520".toList false) sameModemCalled := by
  intro always
  let service := (Run.run step (initial "6520".toList false) sameModemCalled).get (by decide)
  have safe : FiringSafe service := always.final (Option.some_get _).symm
  let next := (service.step (.fire 0)).get (by decide)
  let second := (service.activeCalls.find 1).get (by decide)
  have survives := safe 0 ⟨.timerWaitingRemoteCallResponse 1 "6521".toList 0, 1⟩ next
    1 "6521".toList 0 (by decide) rfl (Option.some_get _).symm 1 second (Option.some_get _).symm
  rcases survives with kept | own
  · exact absurd kept (by decide)
  · exact absurd own (by decide)

end Cuttlefish.ModemSimulator.CallService
