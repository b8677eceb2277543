import Cuttlefish.ModemSimulator.CommandParser

/-! # PIN and PUK bookkeeping

`SimService::PinStatus`: a PIN and its PUK, with the number of tries that are
left for each. -/

namespace Cuttlefish.ModemSimulator

def simPinSizeMin : Nat := 4
def simPinSizeMax : Nat := 8
def simPukSize : Nat := 8
def simPinMaxRetryTimes : Int := 3
def simPukMaxRetryTimes : Int := 10

structure PinStatus where
  pin : Text
  puk : Text
  pinRemainingTimes : Int
  pukRemainingTimes : Int
  deriving DecidableEq, Repr

inductive ChangeMode
  | withPin
  | withPuk
  deriving DecidableEq, Repr

namespace PinStatus

def checkPasswordValid (password : Text) : Bool := password.all Decimal.isDigit

def validPinSize (pin : Text) : Bool :=
  simPinSizeMin ≤ pin.length && pin.length ≤ simPinSizeMax

def verifyPIN (status : PinStatus) (pin : Text) : Bool × PinStatus :=
  if !validPinSize pin then (false, status)
  else if !checkPasswordValid pin then (false, status)
  else if status.pinRemainingTimes ≤ 0 then (false, status)
  else if pin = status.pin then (true, { status with pinRemainingTimes := simPinMaxRetryTimes })
  else (false, { status with pinRemainingTimes := status.pinRemainingTimes - 1 })

def verifyPUK (status : PinStatus) (puk : Text) : Bool × PinStatus :=
  if puk.length ≠ simPukSize then (false, status)
  else if !checkPasswordValid puk then (false, status)
  else if status.pukRemainingTimes ≤ 0 then (false, status)
  else if puk = status.puk then
    (true, { status with pinRemainingTimes := simPinMaxRetryTimes
                         pukRemainingTimes := simPukMaxRetryTimes })
  else (false, { status with pukRemainingTimes := status.pukRemainingTimes - 1 })

def verifyFor (status : PinStatus) : ChangeMode → Text → Bool × PinStatus
  | .withPin, pin => status.verifyPIN pin
  | .withPuk, puk => status.verifyPUK puk

def changePIN (status : PinStatus) (mode : ChangeMode) (pinOrPuk newPin : Text) :
    Bool × PinStatus :=
  if !validPinSize newPin then (false, status)
  else
    match status.verifyFor mode pinOrPuk with
    | (false, status) => (false, status)
    | (true, status) =>
        if !checkPasswordValid newPin then (false, status)
        else (true, { status with pin := newPin })

/-! ## What the checks do -/

/-- A PIN that is worth comparing: four to eight digits. -/
def WellFormedPin (pin : Text) : Prop := validPinSize pin = true ∧ checkPasswordValid pin = true

def WellFormedPuk (puk : Text) : Prop :=
  puk.length = simPukSize ∧ checkPasswordValid puk = true

instance (pin : Text) : Decidable (WellFormedPin pin) :=
  inferInstanceAs (Decidable (_ ∧ _))

instance (puk : Text) : Decidable (WellFormedPuk puk) :=
  inferInstanceAs (Decidable (_ ∧ _))

theorem verifyPIN_cases (status : PinStatus) (pin : Text) :
    (¬ WellFormedPin pin ∨ status.pinRemainingTimes ≤ 0) ∧
      status.verifyPIN pin = (false, status) ∨
    WellFormedPin pin ∧ 0 < status.pinRemainingTimes ∧ pin = status.pin ∧
      status.verifyPIN pin =
        (true, { status with pinRemainingTimes := simPinMaxRetryTimes }) ∨
    WellFormedPin pin ∧ 0 < status.pinRemainingTimes ∧ pin ≠ status.pin ∧
      status.verifyPIN pin =
        (false, { status with pinRemainingTimes := status.pinRemainingTimes - 1 }) := by
  by_cases size : validPinSize pin = true
  · by_cases digits : checkPasswordValid pin = true
    · have wellFormed : WellFormedPin pin := ⟨size, digits⟩
      by_cases exhausted : status.pinRemainingTimes ≤ 0
      · exact .inl ⟨.inr exhausted, by simp [verifyPIN, size, digits, exhausted]⟩
      · have positive : 0 < status.pinRemainingTimes := by omega
        by_cases same : pin = status.pin
        · refine .inr (.inl ⟨wellFormed, positive, same, ?_⟩)
          rw [same] at size digits ⊢
          simp [verifyPIN, size, digits, exhausted]
        · exact .inr (.inr ⟨wellFormed, positive, same, by
            simp [verifyPIN, size, digits, exhausted, same]⟩)
    · exact .inl ⟨.inl fun wellFormed => digits wellFormed.2, by
        simp [verifyPIN, size, digits]⟩
  · exact .inl ⟨.inl fun wellFormed => size wellFormed.1, by simp [verifyPIN, size]⟩

theorem verifyPUK_cases (status : PinStatus) (puk : Text) :
    (¬ WellFormedPuk puk ∨ status.pukRemainingTimes ≤ 0) ∧
      status.verifyPUK puk = (false, status) ∨
    WellFormedPuk puk ∧ 0 < status.pukRemainingTimes ∧ puk = status.puk ∧
      status.verifyPUK puk =
        (true, { status with pinRemainingTimes := simPinMaxRetryTimes
                             pukRemainingTimes := simPukMaxRetryTimes }) ∨
    WellFormedPuk puk ∧ 0 < status.pukRemainingTimes ∧ puk ≠ status.puk ∧
      status.verifyPUK puk =
        (false, { status with pukRemainingTimes := status.pukRemainingTimes - 1 }) := by
  by_cases size : puk.length = simPukSize
  · by_cases digits : checkPasswordValid puk = true
    · have wellFormed : WellFormedPuk puk := ⟨size, digits⟩
      by_cases exhausted : status.pukRemainingTimes ≤ 0
      · exact .inl ⟨.inr exhausted, by simp [verifyPUK, size, digits, exhausted]⟩
      · have positive : 0 < status.pukRemainingTimes := by omega
        by_cases same : puk = status.puk
        · refine .inr (.inl ⟨wellFormed, positive, same, ?_⟩)
          rw [same] at size digits ⊢
          simp [verifyPUK, size, digits, exhausted]
        · exact .inr (.inr ⟨wellFormed, positive, same, by
            simp [verifyPUK, size, digits, exhausted, same]⟩)
    · exact .inl ⟨.inl fun wellFormed => digits wellFormed.2, by
        simp [verifyPUK, size, digits]⟩
  · exact .inl ⟨.inl fun wellFormed => size wellFormed.1, by simp [verifyPUK, size]⟩

theorem changePIN_keeps_times (status : PinStatus) (mode : ChangeMode)
    (pinOrPuk newPin : Text) (size : validPinSize newPin = true) :
    (status.changePIN mode pinOrPuk newPin).2.pinRemainingTimes =
        (status.verifyFor mode pinOrPuk).2.pinRemainingTimes ∧
      (status.changePIN mode pinOrPuk newPin).2.pukRemainingTimes =
        (status.verifyFor mode pinOrPuk).2.pukRemainingTimes ∧
      ((status.verifyFor mode pinOrPuk).1 = false →
        (status.changePIN mode pinOrPuk newPin).2 = (status.verifyFor mode pinOrPuk).2) := by
  rw [changePIN]
  simp only [size, Bool.not_true, Bool.false_eq_true, if_false]
  rcases status.verifyFor mode pinOrPuk with ⟨accepted, next⟩
  cases accepted with
  | false => exact ⟨rfl, rfl, fun _ => rfl⟩
  | true =>
      by_cases digits : checkPasswordValid newPin = true
      · simp [digits]
      · simp [digits]

theorem changePIN_refused {status : PinStatus} {mode : ChangeMode} {pinOrPuk newPin : Text}
    (refused : validPinSize newPin = true →
      status.verifyFor mode pinOrPuk = (false, status)) :
    status.changePIN mode pinOrPuk newPin = (false, status) := by
  rw [changePIN]
  by_cases size : validPinSize newPin = true
  · simp [size, refused size]
  · simp [size]

end PinStatus

end Cuttlefish.ModemSimulator
