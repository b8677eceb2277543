import Cuttlefish.ModemSimulator.PinRetries

/-! # SIM status and retry counters

Which commands keep the reported status in agreement with the retry counters of
PIN1 and its PUK. -/

namespace Cuttlefish.ModemSimulator.SimService

open PinStatus

/-- An exhausted PIN1 is reported as such: the PUK is asked for while it has
tries left, and the SIM is absent afterwards. -/
def Lock.Agrees (lock : Lock) : Prop :=
  lock.pin1.pinRemainingTimes = 0 →
    (0 < lock.pin1.pukRemainingTimes → lock.status = .puk) ∧
      (lock.pin1.pukRemainingTimes = 0 → lock.status = .absent)

/-- The status is the one that an exhausted PIN1 calls for, or becomes it in the
change path. -/
def Lock.FitsExhaustion (lock : Lock) : Prop :=
  lock.pin1.pukRemainingTimes < 0 ∨
    lock.status = .puk ∧ 0 < lock.pin1.pukRemainingTimes ∨
    (lock.status = .pin ∨ lock.status = .absent) ∧ lock.pin1.pukRemainingTimes = 0

/-- The attempts after which status and counters do not disagree. -/
def Attempt.KeepsAgreement (lock : Lock) : Attempt → Prop
  | .none => True
  | .verify pin =>
      lock.pin1.pukRemainingTimes = 0 → lock.pin1.pinRemainingTimes ≠ 0 ∧
        ¬ (lock.pin1.pinRemainingTimes = 1 ∧ WellFormedPin pin ∧ pin ≠ lock.pin1.pin)
  | .change .withPin pin newPin =>
      lock.pin1.pinRemainingTimes = 1 → validPinSize newPin = true → WellFormedPin pin →
        pin ≠ lock.pin1.pin → lock.FitsExhaustion
  | .change .withPuk puk newPin =>
      ¬ (lock.pin1.pinRemainingTimes = 0 ∧ lock.pin1.pukRemainingTimes = 1 ∧
        validPinSize newPin = true ∧ WellFormedPuk puk ∧ puk ≠ lock.pin1.puk)

instance (lock : Lock) : Decidable lock.FitsExhaustion :=
  inferInstanceAs (Decidable (_ ∨ _))

instance Attempt.KeepsAgreement.decidable (lock : Lock) :
    ∀ attempt, Decidable (Attempt.KeepsAgreement lock attempt)
  | .none => isTrue trivial
  | .verify _ => inferInstanceAs (Decidable (_ → _))
  | .change .withPin _ _ => inferInstanceAs (Decidable (_ → _))
  | .change .withPuk _ _ => inferInstanceAs (Decidable (¬ _))

private theorem verify_agrees_iff (lock : Lock) (pin : Text) :
    ((Attempt.verify pin).apply lock).2.Agrees ↔ Attempt.KeepsAgreement lock (.verify pin) := by
  simp only [Attempt.apply, Attempt.KeepsAgreement]
  rcases lock.pin1.verifyPIN_cases pin with
    ⟨reason, result⟩ | ⟨wellFormed, positive, same, result⟩ |
    ⟨wellFormed, positive, different, result⟩
  · have notCompared : ¬ (lock.pin1.pinRemainingTimes = 1 ∧ WellFormedPin pin ∧
        pin ≠ lock.pin1.pin) := by
      intro parts
      rcases parts with ⟨one, wellFormed, -⟩
      rcases reason with malformed | exhausted
      · exact malformed wellFormed
      · omega
    rw [result]
    simp only [Lock.Agrees, notCompared, not_false_iff, and_true]
    constructor
    · intro kept noPuk exhausted
      have absent := (kept exhausted).2 noPuk
      simp [exhausted] at absent
    · intro allowed exhausted
      refine ⟨fun _ => by simp [exhausted], fun noPuk => ?_⟩
      exact absurd exhausted (allowed noPuk)
  · rw [result]
    have three : simPinMaxRetryTimes ≠ 0 := by decide
    simp only [Lock.Agrees, three, false_implies, true_iff]
    intro _
    exact ⟨by omega, fun compared => compared.2.2 same⟩
  · rw [result]
    simp only [Lock.Agrees]
    constructor
    · intro kept noPuk
      refine ⟨by omega, fun compared => ?_⟩
      have exhausted : lock.pin1.pinRemainingTimes - 1 = 0 := by omega
      have absent := (kept exhausted).2 noPuk
      simp [exhausted] at absent
    · intro allowed exhausted
      refine ⟨fun _ => by simp [exhausted], fun noPuk => ?_⟩
      exact absurd ⟨by omega, wellFormed, different⟩ (allowed noPuk).2

private theorem refused_change_agrees {lock : Lock} (agrees : lock.Agrees)
    {mode : ChangeMode} {pinOrPuk newPin : Text}
    (refused : lock.pin1.changePIN mode pinOrPuk newPin = (false, lock.pin1)) :
    ((Attempt.change mode pinOrPuk newPin).apply lock).2.Agrees := by
  simp only [Attempt.apply, refused]
  intro exhausted
  dsimp only at exhausted ⊢
  rcases agrees exhausted with ⟨asksPuk, isAbsent⟩
  constructor
  · intro positive
    simp [asksPuk positive]
  · intro noPuk
    simp [isAbsent noPuk]

private theorem verified_change_agrees {lock : Lock} {mode : ChangeMode}
    {pinOrPuk newPin : Text} (size : validPinSize newPin = true)
    (reset : (lock.pin1.verifyFor mode pinOrPuk).2.pinRemainingTimes = simPinMaxRetryTimes) :
    ((Attempt.change mode pinOrPuk newPin).apply lock).2.Agrees := by
  have times := (changePIN_keeps_times lock.pin1 mode pinOrPuk newPin size).1
  rw [reset] at times
  simp only [Attempt.apply]
  rcases changed : lock.pin1.changePIN mode pinOrPuk newPin with ⟨accepted, next⟩
  have notZero : ¬ next.pinRemainingTimes = 0 := by
    rw [changed] at times
    change next.pinRemainingTimes = simPinMaxRetryTimes at times
    rw [times]
    decide
  cases accepted with
  | true => exact fun exhausted => absurd exhausted notZero
  | false => exact fun exhausted => absurd exhausted notZero

private theorem changeWithPin_agrees_iff {lock : Lock} (agrees : lock.Agrees)
    (pin newPin : Text) :
    ((Attempt.change .withPin pin newPin).apply lock).2.Agrees ↔
      Attempt.KeepsAgreement lock (.change .withPin pin newPin) := by
  simp only [Attempt.KeepsAgreement]
  by_cases size : validPinSize newPin = true
  · rcases lock.pin1.verifyPIN_cases pin with
      ⟨reason, result⟩ | ⟨wellFormed, positive, same, result⟩ |
      ⟨wellFormed, positive, different, result⟩
    · have refused : lock.pin1.changePIN .withPin pin newPin = (false, lock.pin1) :=
        changePIN_refused fun _ => result
      refine iff_of_true (refused_change_agrees agrees refused) ?_
      intro one _ wellFormed
      rcases reason with malformed | exhausted
      · exact absurd wellFormed malformed
      · omega
    · refine iff_of_true (verified_change_agrees size ?_) fun _ _ _ wrong => absurd same wrong
      rw [verifyFor, result]
    · have changed : lock.pin1.changePIN .withPin pin newPin =
          (false, { lock.pin1 with
            pinRemainingTimes := lock.pin1.pinRemainingTimes - 1 }) := by
        simp [changePIN, size, verifyFor, result]
      simp only [Attempt.apply, changed, Lock.Agrees, Lock.FitsExhaustion]
      have exhaustion : lock.pin1.pinRemainingTimes - 1 = 0 ↔
          lock.pin1.pinRemainingTimes = 1 := by omega
      simp only [size, wellFormed, different, exhaustion, ne_eq, not_false_iff, true_implies]
      refine imp_congr_right fun one => ?_
      have last : lock.pin1.pinRemainingTimes - 1 ≤ 0 := by omega
      simp only [last, and_true]
      by_cases noPuk : lock.pin1.pukRemainingTimes ≤ 0
      · have notPositive : ¬ 0 < lock.pin1.pukRemainingTimes := by omega
        cases lock.status <;> simp [noPuk, notPositive] <;> omega
      · have positive : 0 < lock.pin1.pukRemainingTimes := by omega
        have notZero : lock.pin1.pukRemainingTimes ≠ 0 := by omega
        have notNegative : ¬ lock.pin1.pukRemainingTimes < 0 := by omega
        cases lock.status <;> simp [noPuk, positive, notZero, notNegative]
  · have refused : lock.pin1.changePIN .withPin pin newPin = (false, lock.pin1) :=
      changePIN_refused fun valid => absurd valid size
    exact iff_of_true (refused_change_agrees agrees refused) fun _ valid => absurd valid size

private theorem changeWithPuk_agrees_iff {lock : Lock} (agrees : lock.Agrees)
    (puk newPin : Text) :
    ((Attempt.change .withPuk puk newPin).apply lock).2.Agrees ↔
      Attempt.KeepsAgreement lock (.change .withPuk puk newPin) := by
  simp only [Attempt.KeepsAgreement]
  by_cases size : validPinSize newPin = true
  · rcases lock.pin1.verifyPUK_cases puk with
      ⟨reason, result⟩ | ⟨wellFormed, positive, same, result⟩ |
      ⟨wellFormed, positive, different, result⟩
    · have refused : lock.pin1.changePIN .withPuk puk newPin = (false, lock.pin1) :=
        changePIN_refused fun _ => result
      refine iff_of_true (refused_change_agrees agrees refused) ?_
      intro parts
      rcases parts with ⟨-, one, -, wellFormed, -⟩
      rcases reason with malformed | exhausted
      · exact malformed wellFormed
      · omega
    · refine iff_of_true (verified_change_agrees size ?_) fun wrong => wrong.2.2.2.2 same
      rw [verifyFor, result]
    · have changed : lock.pin1.changePIN .withPuk puk newPin =
          (false, { lock.pin1 with
            pukRemainingTimes := lock.pin1.pukRemainingTimes - 1 }) := by
        simp [changePIN, size, verifyFor, result]
      simp only [Attempt.apply, changed, Lock.Agrees, size, wellFormed, different, ne_eq, not_false_iff, and_true]
      constructor
      · intro kept parts
        rcases parts with ⟨exhausted, one⟩
        have asksPuk := (agrees exhausted).1 positive
        have absent := (kept exhausted).2 (by omega)
        simp [asksPuk] at absent
      · intro allowed exhausted
        have asksPuk := (agrees exhausted).1 positive
        refine ⟨fun _ => by simp [asksPuk], fun last => ?_⟩
        exact absurd ⟨exhausted, by omega⟩ allowed
  · have refused : lock.pin1.changePIN .withPuk puk newPin = (false, lock.pin1) :=
      changePIN_refused fun valid => absurd valid size
    exact iff_of_true (refused_change_agrees agrees refused) fun wrong => size wrong.2.2.1

theorem Attempt.apply_agrees_iff {lock : Lock} (agrees : lock.Agrees) (attempt : Attempt) :
    (attempt.apply lock).2.Agrees ↔ attempt.KeepsAgreement lock := by
  cases attempt with
  | none => exact iff_of_true agrees trivial
  | verify pin => exact verify_agrees_iff lock pin
  | change mode pinOrPuk newPin =>
      cases mode with
      | withPin => exact changeWithPin_agrees_iff agrees pinOrPuk newPin
      | withPuk => exact changeWithPuk_agrees_iff agrees pinOrPuk newPin

/-! ## Runs -/

/-- The attempt of the command keeps status and counters in agreement. -/
def KeepsAgreement (service : SimService) (command : Command) : Prop :=
  (service.attempt command).KeepsAgreement service.lock

instance (service : SimService) (command : Command) :
    Decidable (service.KeepsAgreement command) :=
  inferInstanceAs (Decidable (Attempt.KeepsAgreement _ _))

/-- From a SIM that is ready or asks for its PIN, status and counters agree in
every state exactly if PIN1 has tries left at the start and every command keeps
them in agreement. -/
theorem status_agrees_always_iff {service : SimService}
    (start : service.simStatus = .pin ∨ service.simStatus = .ready)
    (commands : List Command) :
    Run.Always step (fun state => state.lock.Agrees) service commands ↔
      (service.pin1Status.pinRemainingTimes ≠ 0 ∨ service.pin1Status.pukRemainingTimes < 0) ∧
        Run.Along step KeepsAgreement service commands := by
  have preserved : ∀ (state : SimService) command next, True → state.lock.Agrees →
      state.KeepsAgreement command → state.step command = some next → True :=
    fun _ _ _ _ _ _ _ => trivial
  have survives : ∀ (state : SimService) command next, True → state.lock.Agrees →
      state.step command = some next → (next.lock.Agrees ↔ state.KeepsAgreement command) := by
    intro state command next _ agrees stepped
    cases stepped
    rw [(state.handle_attempt command).1]
    exact Attempt.apply_agrees_iff agrees _
  rw [Run.always_iff_along preserved survives trivial]
  refine and_congr_left fun _ => ?_
  have statuses : service.lock.status ≠ .puk ∧ service.lock.status ≠ .absent := by
    change service.simStatus ≠ .puk ∧ service.simStatus ≠ .absent
    rcases start with status | status
    · simp [status]
    · simp [status]
  constructor
  · intro agrees
    by_cases exhausted : service.pin1Status.pinRemainingTimes = 0
    · have notPositive : ¬ 0 < service.pin1Status.pukRemainingTimes := fun positive =>
        statuses.1 ((agrees exhausted).1 positive)
      have notZero : service.pin1Status.pukRemainingTimes ≠ 0 := fun zero =>
        statuses.2 ((agrees exhausted).2 zero)
      omega
    · exact .inl exhausted
  · intro condition exhausted
    change service.pin1Status.pinRemainingTimes = 0 at exhausted
    change (0 < service.pin1Status.pukRemainingTimes → _) ∧
      (service.pin1Status.pukRemainingTimes = 0 → _)
    exact ⟨by omega, by omega⟩

theorem status_agrees_always_iff_wrong_pins :
    Run.Along step KeepsAgreement { sampleService with simStatus := .pin }
        (List.replicate 3 (.cpin "AT+CPIN=9999".toList)) ∧
      Run.Always step (fun state => state.lock.Agrees)
        { sampleService with simStatus := .pin }
        (List.replicate 3 (.cpin "AT+CPIN=9999".toList)) := by
  have keeps : Run.Along step KeepsAgreement { sampleService with simStatus := .pin }
      (List.replicate 3 (.cpin "AT+CPIN=9999".toList)) := by decide
  exact ⟨keeps, (status_agrees_always_iff (.inl rfl) _).mpr ⟨.inl (by decide), keeps⟩⟩

/-- Exhausting PIN1 through the change path makes the SIM ask for the PIN, with
none of its tries left. -/
theorem exhausting_change_reports_pin :
    ∃ final, Run.run step sampleService
        (List.replicate 3 (.cpwd "AT+CPWD=\"SC\",\"9999\",\"4321\"".toList)) =
          some final ∧
      final.lock = ⟨.pin, "1234".toList, "12345678".toList, 0, 10⟩ ∧
      ¬ final.lock.Agrees := by
  refine ⟨_, rfl, by decide, ?_⟩
  intro agrees
  have asksPuk := (agrees (by decide)).1 (by decide)
  revert asksPuk
  decide

end Cuttlefish.ModemSimulator.SimService
