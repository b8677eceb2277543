/-! # Results

`Result<T>` of the host code, together with the failed `CHECK`s that end the
process instead of returning. -/

namespace Cuttlefish

/-- Why a function did not return a value: a `CF_ERR` error that is returned to
the caller, or a failed `CHECK` or an uncaught exception that aborts. -/
inductive Failure
  | err (message : String)
  | abort (message : String)
  deriving DecidableEq, Repr

abbrev Result := Except Failure

namespace Result

/-- An error was returned to the caller. An aborted process returns nothing. -/
def ReturnsError (result : Result α) : Prop := ∃ message, result = .error (.err message)

def isError : Result α → Bool
  | .error (.err _) => true
  | _ => false

@[simp] theorem isError_iff (result : Result α) :
    isError result = true ↔ result.ReturnsError := by
  unfold isError ReturnsError
  rcases result with (message | message) | value <;> simp

instance (result : Result α) : Decidable result.ReturnsError :=
  decidable_of_iff _ (isError_iff result)

@[simp] theorem returnsError_ok (value : α) :
    ¬ Result.ReturnsError (.ok value : Result α) := by
  simp [ReturnsError]

@[simp] theorem returnsError_err (message : String) :
    Result.ReturnsError (.error (.err message) : Result α) :=
  ⟨message, rfl⟩

@[simp] theorem returnsError_abort (message : String) :
    ¬ Result.ReturnsError (.error (.abort message) : Result α) := by
  simp [ReturnsError]

theorem bind_eq_ok {result : Result α} {next : α → Result β} {value : β} :
    (result >>= next) = .ok value ↔ ∃ first, result = .ok first ∧ next first = .ok value := by
  rcases result with failure | first
  · simp [Bind.bind, Except.bind]
  · simp [Bind.bind, Except.bind]

end Result

/-- `CF_EXPECT(condition, message)`. -/
def cfExpect (condition : Bool) (message : String) : Result Unit :=
  if condition then .ok () else .error (.err message)

@[simp] theorem cfExpect_true (message : String) : cfExpect true message = .ok () := rfl

@[simp] theorem cfExpect_false (message : String) :
    cfExpect false message = .error (.err message) := rfl

theorem cfExpect_eq_ok {condition : Bool} {message : String} {value : Unit} :
    cfExpect condition message = .ok value ↔ condition = true := by
  cases condition <;> simp [cfExpect]

end Cuttlefish
