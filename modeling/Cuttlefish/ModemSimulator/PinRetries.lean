import Cuttlefish.Foundation.Run
import Cuttlefish.ModemSimulator.SimService

/-! # Retry bounds

How many wrong values of PIN1 can be tried, over any sequence of PIN
commands. -/

namespace Cuttlefish.ModemSimulator.SimService

open PinStatus

/-- The retry counters are within the ranges that a profile starts with. -/
structure Lock.InRange (lock : Lock) : Prop where
  pinLower : 0 ≤ lock.pin1.pinRemainingTimes
  pinUpper : lock.pin1.pinRemainingTimes ≤ simPinMaxRetryTimes
  pukLower : 0 ≤ lock.pin1.pukRemainingTimes
  pukUpper : lock.pin1.pukRemainingTimes ≤ simPukMaxRetryTimes

namespace Attempt

def presentsPin : Attempt → Option Text
  | verify pin => some pin
  | change .withPin pin _ => some pin
  | _ => Option.none

def presentsPuk : Attempt → Option Text
  | change .withPuk puk _ => some puk
  | _ => Option.none

def newPinRefused : Attempt → Bool
  | change _ _ newPin => !validPinSize newPin
  | _ => false

def comparesWrongPin (lock : Lock) (attempt : Attempt) : Bool :=
  match attempt.presentsPin with
  | some pin => !attempt.newPinRefused && decide (WellFormedPin pin) &&
      decide (0 < lock.pin1.pinRemainingTimes) && decide (pin ≠ lock.pin1.pin)
  | Option.none => false

def verifies (lock : Lock) : Attempt → Bool
  | none => false
  | verify pin => (lock.pin1.verifyPIN pin).1
  | change mode pinOrPuk newPin =>
      validPinSize newPin && (lock.pin1.verifyFor mode pinOrPuk).1

inductive Effect (lock : Lock) (attempt : Attempt) (next : PinStatus) : Prop
  | verified (verifies : attempt.verifies lock = true)
      (right : attempt.comparesWrongPin lock = false)
      (pinTimes : next.pinRemainingTimes = simPinMaxRetryTimes)
      (pukTimes : next.pukRemainingTimes = lock.pin1.pukRemainingTimes ∨
        next.pukRemainingTimes = simPukMaxRetryTimes)
  | wrongPin (fails : attempt.verifies lock = false)
      (wrong : attempt.comparesWrongPin lock = true)
      (positive : 0 < lock.pin1.pinRemainingTimes)
      (counted : next =
        { lock.pin1 with pinRemainingTimes := lock.pin1.pinRemainingTimes - 1 })
  | wrongPuk (fails : attempt.verifies lock = false)
      (right : attempt.comparesWrongPin lock = false)
      (positive : 0 < lock.pin1.pukRemainingTimes)
      (counted : next =
        { lock.pin1 with pukRemainingTimes := lock.pin1.pukRemainingTimes - 1 })
  | refused (fails : attempt.verifies lock = false)
      (right : attempt.comparesWrongPin lock = false) (same : next = lock.pin1)

private theorem effect_of_verify (lock : Lock) (pin : Text) :
    Effect lock (verify pin) ((verify pin).apply lock).2.pin1 := by
  have pin1 : ((verify pin).apply lock).2.pin1 = (lock.pin1.verifyPIN pin).2 := by
    simp only [apply]
    rcases lock.pin1.verifyPIN pin with ⟨accepted, next⟩
    cases accepted <;> rfl
  rw [pin1]
  rcases lock.pin1.verifyPIN_cases pin with
    ⟨reason, result⟩ | ⟨wellFormed, positive, same, result⟩ |
    ⟨wellFormed, positive, different, result⟩
  · refine .refused (by simp [verifies, result]) ?_ (by rw [result])
    rcases reason with malformed | exhausted
    · simp [comparesWrongPin, presentsPin, malformed]
    · have notPositive : ¬ 0 < lock.pin1.pinRemainingTimes := by omega
      simp [comparesWrongPin, presentsPin, notPositive]
  · refine .verified (by simp [verifies, result]) ?_ (by rw [result]) (.inl (by rw [result]))
    simp [comparesWrongPin, presentsPin, same]
  · refine .wrongPin (by simp [verifies, result]) ?_ positive (by rw [result])
    simp [comparesWrongPin, presentsPin, newPinRefused, wellFormed, positive, different]

private theorem effect_of_change (lock : Lock) (mode : ChangeMode) (pinOrPuk newPin : Text) :
    Effect lock (change mode pinOrPuk newPin)
      ((change mode pinOrPuk newPin).apply lock).2.pin1 := by
  have pin1 : ((change mode pinOrPuk newPin).apply lock).2.pin1 =
      (lock.pin1.changePIN mode pinOrPuk newPin).2 := by
    simp only [apply]
    rcases lock.pin1.changePIN mode pinOrPuk newPin with ⟨accepted, next⟩
    cases accepted <;> rfl
  rw [pin1]
  by_cases size : validPinSize newPin = true
  · rcases changePIN_keeps_times lock.pin1 mode pinOrPuk newPin size with
      ⟨pinTimes, pukTimes, failed⟩
    cases mode with
    | withPin =>
        simp only [verifyFor] at pinTimes pukTimes failed
        rcases lock.pin1.verifyPIN_cases pinOrPuk with
          ⟨reason, result⟩ | ⟨wellFormed, positive, same, result⟩ |
          ⟨wellFormed, positive, different, result⟩
        · refine .refused (by simp [verifies, verifyFor, result]) ?_
            (by rw [failed (by rw [result]), result])
          rcases reason with malformed | exhausted
          · simp [comparesWrongPin, presentsPin, malformed]
          · have notPositive : ¬ 0 < lock.pin1.pinRemainingTimes := by omega
            simp [comparesWrongPin, presentsPin, notPositive]
        · rw [result] at pinTimes pukTimes
          refine .verified (by simp [verifies, verifyFor, result, size]) ?_ pinTimes
            (.inl pukTimes)
          simp [comparesWrongPin, presentsPin, same]
        · refine .wrongPin (by simp [verifies, verifyFor, result]) ?_ positive
            (by rw [failed (by rw [result]), result])
          simp [comparesWrongPin, presentsPin, newPinRefused, size, wellFormed, positive,
            different]
    | withPuk =>
        simp only [verifyFor] at pinTimes pukTimes failed
        rcases lock.pin1.verifyPUK_cases pinOrPuk with
          ⟨reason, result⟩ | ⟨wellFormed, positive, same, result⟩ |
          ⟨wellFormed, positive, different, result⟩
        · exact .refused (by simp [verifies, verifyFor, result]) rfl
            (by rw [failed (by rw [result]), result])
        · rw [result] at pinTimes pukTimes
          exact .verified (by simp [verifies, verifyFor, result, size]) rfl pinTimes
            (.inr pukTimes)
        · exact .wrongPuk (by simp [verifies, verifyFor, result]) rfl positive
            (by rw [failed (by rw [result]), result])
  · refine .refused (by simp [verifies, size]) ?_ (by simp [changePIN, size])
    cases mode with
    | withPin => simp [comparesWrongPin, presentsPin, newPinRefused, size]
    | withPuk => rfl

theorem effect (lock : Lock) (attempt : Attempt) :
    Effect lock attempt (attempt.apply lock).2.pin1 := by
  cases attempt with
  | none => exact .refused rfl rfl rfl
  | verify pin => exact effect_of_verify lock pin
  | change mode pinOrPuk newPin => exact effect_of_change lock mode pinOrPuk newPin

theorem effect_inRange {lock : Lock} (inRange : lock.InRange) (attempt : Attempt) :
    (attempt.apply lock).2.InRange := by
  rcases inRange with ⟨pinLower, pinUpper, pukLower, pukUpper⟩
  have three : simPinMaxRetryTimes = 3 := rfl
  have ten : simPukMaxRetryTimes = 10 := rfl
  cases attempt.effect lock with
  | verified _ _ pinTimes pukTimes => exact ⟨by omega, by omega, by omega, by omega⟩
  | wrongPin _ _ positive counted =>
      refine ⟨?_, ?_, ?_, ?_⟩ <;> rw [counted] <;> dsimp only <;> omega
  | wrongPuk _ _ positive counted =>
      refine ⟨?_, ?_, ?_, ?_⟩ <;> rw [counted] <;> dsimp only <;> omega
  | refused _ _ same =>
      refine ⟨?_, ?_, ?_, ?_⟩ <;> rw [same] <;> assumption

theorem verifies_correct {lock : Lock} {attempt : Attempt}
    (holds : attempt.verifies lock = true) :
    attempt.presentsPin = some lock.pin1.pin ∧ 0 < lock.pin1.pinRemainingTimes ∨
      attempt.presentsPuk = some lock.pin1.puk ∧ 0 < lock.pin1.pukRemainingTimes := by
  have pinCorrect : ∀ pin, (lock.pin1.verifyPIN pin).1 = true →
      pin = lock.pin1.pin ∧ 0 < lock.pin1.pinRemainingTimes := by
    intro pin accepted
    rcases lock.pin1.verifyPIN_cases pin with
      ⟨-, result⟩ | ⟨-, positive, same, -⟩ | ⟨-, -, -, result⟩
    · simp [result] at accepted
    · exact ⟨same, positive⟩
    · simp [result] at accepted
  have pukCorrect : ∀ puk, (lock.pin1.verifyPUK puk).1 = true →
      puk = lock.pin1.puk ∧ 0 < lock.pin1.pukRemainingTimes := by
    intro puk accepted
    rcases lock.pin1.verifyPUK_cases puk with
      ⟨-, result⟩ | ⟨-, positive, same, -⟩ | ⟨-, -, -, result⟩
    · simp [result] at accepted
    · exact ⟨same, positive⟩
    · simp [result] at accepted
  cases attempt with
  | none => cases holds
  | verify pin =>
      rcases pinCorrect pin holds with ⟨same, positive⟩
      exact .inl ⟨congrArg some same, positive⟩
  | change mode pinOrPuk newPin =>
      simp only [verifies, Bool.and_eq_true] at holds
      cases mode with
      | withPin =>
          rcases pinCorrect pinOrPuk holds.2 with ⟨same, positive⟩
          exact .inl ⟨congrArg some same, positive⟩
      | withPuk =>
          rcases pukCorrect pinOrPuk holds.2 with ⟨same, positive⟩
          exact .inr ⟨congrArg some same, positive⟩

theorem verifies_of_accepted {lock : Lock} {attempt : Attempt}
    (accepted : (attempt.apply lock).1 = true) : attempt.verifies lock = true := by
  cases attempt with
  | none => cases accepted
  | verify pin =>
      simp only [apply] at accepted
      rcases equal : lock.pin1.verifyPIN pin with ⟨result, next⟩
      cases result with
      | true => simp [verifies, equal]
      | false => simp [equal] at accepted
  | change mode pinOrPuk newPin =>
      simp only [apply, verifies, changePIN] at accepted ⊢
      by_cases size : validPinSize newPin = true
      · simp only [size, Bool.not_true, Bool.false_eq_true, if_false] at accepted
        rcases equal : lock.pin1.verifyFor mode pinOrPuk with ⟨result, next⟩
        cases result with
        | true => simp [size]
        | false => simp [equal] at accepted
      · simp [size] at accepted

theorem accepted_of_ready {lock : Lock} {attempt : Attempt} (locked : lock.status ≠ .ready)
    (ready : (attempt.apply lock).2.status = .ready) : (attempt.apply lock).1 = true := by
  cases attempt with
  | none => exact absurd ready locked
  | verify pin =>
      simp only [apply] at ready ⊢
      rcases equal : lock.pin1.verifyPIN pin with ⟨result, next⟩
      cases result with
      | true => rfl
      | false =>
          simp only [equal] at ready
          split at ready
          · cases ready
          · exact absurd ready locked
  | change mode pinOrPuk newPin =>
      simp only [apply] at ready ⊢
      rcases equal : lock.pin1.changePIN mode pinOrPuk newPin with ⟨result, next⟩
      cases result with
      | true => rfl
      | false =>
          simp only [equal, locked, false_and, if_false] at ready
          split at ready
          · cases ready
          · exact absurd ready locked

end Attempt

/-! ## Sequences of commands -/

def NotVerified (service : SimService) (command : Command) : Prop :=
  (service.attempt command).verifies service.lock = false

def wrongCompares : SimService → List Command → Nat
  | _, [] => 0
  | service, command :: commands =>
      (if (service.attempt command).comparesWrongPin service.lock then 1 else 0) +
        wrongCompares (service.handle command).1 commands

theorem inRange_handle {service : SimService} (inRange : service.lock.InRange)
    (command : Command) : (service.handle command).1.lock.InRange := by
  rw [(service.handle_attempt command).1]
  exact Attempt.effect_inRange inRange _

theorem wrongCompares_le {service : SimService} {commands : List Command}
    (inRange : service.lock.InRange)
    (unverified : Run.Along step NotVerified service commands) :
    (wrongCompares service commands : Int) ≤ service.pin1Status.pinRemainingTimes := by
  induction commands generalizing service with
  | nil => exact inRange.pinLower
  | cons command commands induction =>
      rcases unverified _ rfl with ⟨fails, rest⟩
      have later := induction (inRange_handle inRange command) rest
      have effect := (service.attempt command).effect service.lock
      rw [← (service.handle_attempt command).1] at effect
      change Attempt.Effect service.lock _ (service.handle command).1.pin1Status at effect
      have pin1 : service.lock.pin1 = service.pin1Status := rfl
      rw [wrongCompares]
      cases effect with
      | verified holds =>
          rw [NotVerified, holds] at fails
          cases fails
      | wrongPin _ wrong _ counted =>
          rw [counted, pin1] at later
          rw [if_pos wrong]
          dsimp only at later
          omega
      | wrongPuk _ right _ counted =>
          rw [counted, pin1] at later
          rw [if_neg (by simp [right])]
          dsimp only at later
          omega
      | refused _ right same =>
          rw [same, pin1] at later
          rw [if_neg (by simp [right])]
          omega

/-- What holds of the next command, and of any sequence of commands, in a
state. -/
structure RetryBound (service : SimService) : Prop where
  inRange : service.lock.InRange
  wrongCounts : ∀ command guess, (service.attempt command).presentsPin = some guess →
    (service.attempt command).newPinRefused = false → WellFormedPin guess →
    guess ≠ service.pin1Status.pin → 0 < service.pin1Status.pinRemainingTimes →
    (service.handle command).1.pin1Status.pinRemainingTimes =
      service.pin1Status.pinRemainingTimes - 1
  refusedKeeps : ∀ command, (service.attempt command).newPinRefused = true →
    (service.handle command).1.pin1Status = service.pin1Status ∧
      (service.handle command).2 = [cmeErrorIncorrectPassword]
  atMostThree : ∀ commands, Run.Along step NotVerified service commands →
    wrongCompares service commands ≤ 3
  exhaustedRejects : ∀ command guess,
    (service.attempt command).presentsPin = some guess →
    service.pin1Status.pinRemainingTimes = 0 →
    (service.handle command).1.pin1Status = service.pin1Status ∧
      (service.handle command).2 = [cmeErrorIncorrectPassword]
  unlocks : ∀ command, service.simStatus = .pin ∨ service.simStatus = .puk →
    (service.handle command).1.simStatus = .ready →
    (service.attempt command).presentsPin = some service.pin1Status.pin ∧
        0 < service.pin1Status.pinRemainingTimes ∨
      (service.attempt command).presentsPuk = some service.pin1Status.puk ∧
        0 < service.pin1Status.pukRemainingTimes

private theorem attempt_refused {lock : Lock} {attempt : Attempt}
    (refused : attempt.newPinRefused = true) :
    (attempt.apply lock).1 = false ∧ (attempt.apply lock).2.pin1 = lock.pin1 := by
  cases attempt with
  | none => cases refused
  | verify pin => cases refused
  | change mode pinOrPuk newPin =>
      have size : validPinSize newPin = false := by simpa [Attempt.newPinRefused] using refused
      simp [Attempt.apply, changePIN, size]

private theorem attempt_exhausted {lock : Lock} {attempt : Attempt} {guess : Text}
    (presents : attempt.presentsPin = some guess) (exhausted : lock.pin1.pinRemainingTimes = 0) :
    (attempt.apply lock).1 = false ∧ (attempt.apply lock).2.pin1 = lock.pin1 := by
  have rejected : lock.pin1.verifyPIN guess = (false, lock.pin1) := by
    rcases lock.pin1.verifyPIN_cases guess with
      ⟨-, result⟩ | ⟨-, positive, -⟩ | ⟨-, positive, -⟩
    · exact result
    · omega
    · omega
  cases attempt with
  | none => cases presents
  | verify pin =>
      cases presents
      simp [Attempt.apply, rejected]
  | change mode pinOrPuk newPin =>
      cases mode with
      | withPuk => cases presents
      | withPin =>
          cases presents
          by_cases size : validPinSize newPin = true
          · simp [Attempt.apply, changePIN, verifyFor, size, rejected]
          · simp [Attempt.apply, changePIN, size]

theorem RetryBound.of_inRange {service : SimService} (inRange : service.lock.InRange) :
    RetryBound service where
  inRange := inRange
  wrongCounts command guess presents notRefused wellFormed wrong positive := by
    have compares : (service.attempt command).comparesWrongPin service.lock = true := by
      have positiveLock : 0 < service.lock.pin1.pinRemainingTimes := positive
      have wrongLock : guess ≠ service.lock.pin1.pin := wrong
      simp [Attempt.comparesWrongPin, presents, notRefused, wellFormed, positiveLock,
        wrongLock]
    have effect := (service.attempt command).effect service.lock
    rw [← (service.handle_attempt command).1] at effect
    change Attempt.Effect service.lock _ (service.handle command).1.pin1Status at effect
    cases effect with
    | verified _ right => simp [compares] at right
    | wrongPin _ _ _ counted =>
        rw [counted]
        rfl
    | wrongPuk _ right => simp [compares] at right
    | refused _ right => simp [compares] at right
  refusedKeeps command refused := by
    rcases service.handle_attempt command with ⟨locks, response⟩
    rcases @attempt_refused service.lock _ refused with ⟨rejected, same⟩
    have notNone : service.attempt command ≠ .none := by
      intro equal
      rw [equal] at refused
      cases refused
    refine ⟨?_, by rw [response notNone, rejected]; rfl⟩
    rw [← locks] at same
    exact same
  atMostThree commands unverified := by
    have bound := wrongCompares_le inRange unverified
    have upper : service.pin1Status.pinRemainingTimes ≤ 3 := inRange.pinUpper
    omega
  exhaustedRejects command guess presents exhausted := by
    rcases service.handle_attempt command with ⟨locks, response⟩
    rcases @attempt_exhausted service.lock _ guess presents exhausted with ⟨rejected, same⟩
    have notNone : service.attempt command ≠ .none := by
      intro equal
      rw [equal] at presents
      cases presents
    refine ⟨?_, by rw [response notNone, rejected]; rfl⟩
    rw [← locks] at same
    exact same
  unlocks command locked ready := by
    have locks := (service.handle_attempt command).1
    have notReady : service.lock.status ≠ .ready := by
      intro isReady
      change service.simStatus = .ready at isReady
      simp [isReady] at locked
    have becomesReady : ((service.attempt command).apply service.lock).2.status = .ready := by
      rw [← locks]
      exact ready
    have accepted := Attempt.accepted_of_ready notReady becomesReady
    exact Attempt.verifies_correct (Attempt.verifies_of_accepted accepted)

/-- The retry bounds hold in every state that PIN commands lead to. -/
theorem pin_retries_bounded {service final : SimService} {commands : List Command}
    (inRange : service.lock.InRange) (reached : Run.run step service commands = some final) :
    RetryBound final := by
  have preserved : ∀ (state : SimService) command next, state.lock.InRange →
      state.step command = some next → next.lock.InRange := by
    intro state command next inRange stepped
    cases stepped
    exact inRange_handle inRange command
  exact .of_inRange (Run.invariant_of_run preserved inRange reached)

theorem pin_retries_bounded_after_wrong_pin :
    (sampleService.handle (.cpwd "AT+CPWD=\"SC\",\"9999\",\"4321\"".toList)).1.pin1Status =
        ⟨"1234".toList, "12345678".toList, 2, 10⟩ ∧
      RetryBound
        (sampleService.handle (.cpwd "AT+CPWD=\"SC\",\"9999\",\"4321\"".toList)).1 := by
  have inRange : sampleService.lock.InRange :=
    ⟨by decide, by decide, by decide, by decide⟩
  have reached : Run.run step sampleService
      [.cpwd "AT+CPWD=\"SC\",\"9999\",\"4321\"".toList] = some _ := rfl
  exact ⟨by decide, pin_retries_bounded inRange reached⟩

/-- A wrong PIN next to a new PIN of two digits is not counted: the command is
refused before the PIN is looked at. -/
theorem wrong_pin_with_short_new_pin_not_counted :
    (sampleService.attempt (.cpin "AT+CPIN=9999,12".toList)).presentsPin =
        some "9999".toList ∧
      WellFormedPin "9999".toList ∧ "9999".toList ≠ sampleService.pin1Status.pin ∧
      0 < sampleService.pin1Status.pinRemainingTimes ∧
      ¬ (sampleService.handle (.cpin "AT+CPIN=9999,12".toList)).1.pin1Status.pinRemainingTimes <
        sampleService.pin1Status.pinRemainingTimes := by
  decide

end Cuttlefish.ModemSimulator.SimService
