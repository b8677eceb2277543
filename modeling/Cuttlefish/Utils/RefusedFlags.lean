import Cuttlefish.Utils.FlagParser

/-! # What flags refuse

`InvalidFlagGuard`, which refuses the arguments that look like flags, and what the setters of
`GflagsCompatFlag` leave in their variables when they refuse a value. -/

namespace Cuttlefish.FlagParser

/-! ## Unknown flags -/

def invalidFlagGuard : Flag Unit where
  aliases := [⟨.flagPrefix, ['-']⟩]
  setter := some fun found value => (.error (.err ("Unknown flag " ++ quoted found.value)), value)

def StartsWith (char : Char) (args : List Text) : Prop := ∃ arg ∈ args, arg.head? = some char

theorem takes_guard (arg : Text) : FlagAlias.takes ⟨.flagPrefix, ['-']⟩ arg = true ↔
    arg.head? = some '-' ∨ arg.head? = some '_' := by
  cases arg with
  | nil => simp [FlagAlias.takes, normalize]
  | cons char rest =>
      change ('_' == normalizeChar char && true) = true ↔ some char = some '-' ∨ some char = some '_'
      rw [Bool.and_true, beq_iff_eq, normalizeChar]
      split
      · next isDash => simp [isDash]
      · next notDash => simp [notDash, eq_comm]

theorem process_invalidFlagGuard (arg : Text) (nextArg : Option Text) :
    (arg.head? = some '-' ∨ arg.head? = some '_') ∧
        (∃ failure, invalidFlagGuard.process arg nextArg () = (.error failure, ())) ∨
      ¬ (arg.head? = some '-' ∨ arg.head? = some '_') ∧
        invalidFlagGuard.process arg nextArg () = (.ok .flagSkip, ()) := by
  have found : invalidFlagGuard.aliases.find? (·.takes arg) =
      match FlagAlias.takes ⟨.flagPrefix, ['-']⟩ arg with
      | true => some ⟨.flagPrefix, ['-']⟩
      | false => none := rfl
  rw [← takes_guard, Flag.process_of_setter rfl, found]
  cases FlagAlias.takes ⟨.flagPrefix, ['-']⟩ arg with
  | true => exact .inl ⟨rfl, _, rfl⟩
  | false => exact .inr ⟨Bool.false_ne_true, rfl⟩

theorem parse_invalidFlagGuard (args : List Text) :
    (StartsWith '-' args ∨ StartsWith '_' args) ∧
        (∃ failure, (invalidFlagGuard.parse args ()).status = .error failure) ∨
      ¬ (StartsWith '-' args ∨ StartsWith '_' args) ∧
        invalidFlagGuard.parse args () = ⟨.ok (), (), args⟩ := by
  induction args with
  | nil =>
      refine .inr ⟨?_, by rw [Flag.parse]⟩
      simp [StartsWith]
  | cons arg rest induction =>
      have first : ∀ char, StartsWith char (arg :: rest) ↔
          arg.head? = some char ∨ StartsWith char rest := by
        intro char
        simp only [StartsWith, List.mem_cons, or_and_right, exists_or, exists_eq_left]
      rw [Flag.parse, first, first]
      rcases process_invalidFlagGuard arg rest.head? with
        ⟨taken, failure, refused⟩ | ⟨notTaken, skipped⟩
      · refine .inl ⟨?_, failure, by rw [refused]⟩
        rcases taken with isDash | isUnderscore
        · exact .inl (.inl isDash)
        · exact .inr (.inl isUnderscore)
      · rw [skipped]
        rcases induction with ⟨some, failure, refused⟩ | ⟨none, passed⟩
        · refine .inl ⟨?_, failure, refused⟩
          rcases some with isDash | isUnderscore
          · exact .inl (.inr isDash)
          · exact .inr (.inr isUnderscore)
        · refine .inr ⟨?_, ?_⟩
          · intro some
            rcases some with (isDash | inRest) | (isUnderscore | inRest)
            · exact notTaken (.inl isDash)
            · exact none (.inl inRest)
            · exact notTaken (.inr isUnderscore)
            · exact none (.inr inRest)
          · dsimp only
            rw [passed]

/-- The guard fails exactly on arguments with a dash in front, and otherwise changes none. -/
def GuardsDashes (args : List Text) : Prop :=
  ((∃ failure, (invalidFlagGuard.parse args ()).status = .error failure) ↔ StartsWith '-' args) ∧
    ((invalidFlagGuard.parse args ()).status = .ok () →
      (invalidFlagGuard.parse args ()).arguments = args)

/-- The guard also refuses arguments that start with an underscore. -/
theorem guardsDashes_iff (args : List Text) :
    GuardsDashes args ↔ (StartsWith '_' args → StartsWith '-' args) := by
  rw [GuardsDashes]
  rcases parse_invalidFlagGuard args with ⟨some, failure, refused⟩ | ⟨none, passed⟩
  · rw [refused]
    constructor
    · intro guards _
      exact guards.1.mp ⟨failure, rfl⟩
    · intro dashes
      refine ⟨iff_of_true ⟨failure, rfl⟩ (some.elim id dashes), ?_⟩
      intro ok
      cases ok
  · rw [passed]
    refine iff_of_true ⟨iff_of_false ?_ (mt .inl none), fun _ => rfl⟩ (mt .inr none).elim
    intro fails
    rcases fails with ⟨failure, isError⟩
    cases isError

/-- A positional argument that starts with an underscore. -/
theorem not_guardsDashes_underscore : ¬ GuardsDashes [['_', 'x']] := by
  intro guards
  rcases parse_invalidFlagGuard [['_', 'x']] with ⟨-, fails⟩ | ⟨none, -⟩
  · rcases guards.1.mp fails with ⟨arg, member, isDash⟩
    rw [List.mem_singleton.mp member] at isDash
    exact absurd isDash (by decide)
  · exact none (.inr ⟨['_', 'x'], List.mem_singleton_self _, rfl⟩)

/-! ## Refused values -/

section

variable {Value : Type}

/-- What an alias that takes the argument hands to the setter. -/
def FlagAlias.found (flagAlias : FlagAlias) (arg : Text) : Option Text → Option FlagMatch
  | none =>
      match flagAlias.mode with
      | .flagConsumesArbitrary => some ⟨arg, []⟩
      | .flagConsumesFollowing => none
      | .flagExact => some ⟨arg, arg⟩
      | .flagPrefix => some ⟨flagAlias.name, arg.drop flagAlias.name.length⟩
  | some next =>
      match flagAlias.mode with
      | .flagConsumesArbitrary => some ⟨arg, if likelyFlag next then [] else next⟩
      | .flagConsumesFollowing => some ⟨arg, next⟩
      | .flagExact => some ⟨arg, arg⟩
      | .flagPrefix => some ⟨flagAlias.name, arg.drop flagAlias.name.length⟩

def Flag.found (flag : Flag Value) (arg : Text) (nextArg : Option Text) : Option FlagMatch :=
  (flag.aliases.find? (·.takes arg)).bind (·.found arg nextArg)

def Spoils (setter : FlagMatch → Value → Result Unit × Value) (found : FlagMatch)
    (value : Value) : Prop :=
  (setter found value).1.isOk = false ∧ (setter found value).2 ≠ value

/-- If the argument is refused, then the variable is as it was before. -/
def LeavesAlone (flag : Flag Value) (arg : Text) (nextArg : Option Text) (value : Value) : Prop :=
  (flag.process arg nextArg value).1.isOk = false → (flag.process arg nextArg value).2 = value

variable {setter : FlagMatch → Value → Result Unit × Value} {value : Value}

theorem callSetter_leaves_iff (found : FlagMatch) (result : FlagProcessResult) (message : String) :
    ((callSetter setter found result message value).1.isOk = false →
        (callSetter setter found result message value).2 = value) ↔ ¬ Spoils setter found value := by
  rw [callSetter, Spoils, not_and, not_not]
  cases setter found value with
  | mk status after => cases status <;> rfl

theorem processAlias_leaves_iff (flagAlias : FlagAlias) (arg : Text) (nextArg : Option Text) :
    ((processAlias setter flagAlias arg nextArg value).1.isOk = false →
        (processAlias setter flagAlias arg nextArg value).2 = value) ↔
      ∀ found, flagAlias.found arg nextArg = some found → ¬ Spoils setter found value := by
  rcases flagAlias with ⟨mode, name⟩
  have called : ∀ found result message,
      ((callSetter setter found result message value).1.isOk = false →
          (callSetter setter found result message value).2 = value) ↔
        ∀ other, some found = some other → ¬ Spoils setter other value := by
    intro found result message
    rw [callSetter_leaves_iff]
    simp only [Option.some.injEq, forall_eq']
  cases nextArg with
  | none =>
      cases mode with
      | flagConsumesFollowing =>
          refine iff_of_true (fun _ => rfl) ?_
          intro found missing
          cases missing
      | flagPrefix => exact called _ _ _
      | flagExact => exact called _ _ _
      | flagConsumesArbitrary => exact called _ _ _
  | some next =>
      cases mode with
      | flagConsumesFollowing => exact called _ _ _
      | flagPrefix => exact called _ _ _
      | flagExact => exact called _ _ _
      | flagConsumesArbitrary =>
          simp only [processAlias, FlagAlias.found]
          cases likelyFlag next with
          | true => exact called _ _ _
          | false => exact called _ _ _

theorem leavesAlone_iff {flag : Flag Value} (isSetter : flag.setter = some setter) (arg : Text)
    (nextArg : Option Text) :
    LeavesAlone flag arg nextArg value ↔
      ∀ found, flag.found arg nextArg = some found → ¬ Spoils setter found value := by
  rw [LeavesAlone, Flag.process_of_setter isSetter, Flag.found]
  cases flag.aliases.find? (·.takes arg) with
  | none =>
      refine iff_of_true (fun _ => rfl) ?_
      intro found skipped
      cases skipped
  | some flagAlias => exact processAlias_leaves_iff flagAlias arg nextArg

theorem not_spoils_assigns (read : Text → Option Value) (message : Text → String)
    (found : FlagMatch) : ¬ Spoils (assigns read message) found value := by
  intro spoils
  rcases spoils with ⟨failed, changed⟩
  rw [assigns] at failed changed
  cases isRead : read found.value with
  | none => exact changed (by rw [isRead])
  | some result =>
      rw [isRead] at failed
      cases failed

end

theorem not_spoils_bool (name : Text) (found : FlagMatch) (value : Bool) :
    ¬ Spoils (gflagsCompatBoolFlagSetter name) found value := by
  intro spoils
  rcases spoils with ⟨failed, changed⟩
  rw [gflagsCompatBoolFlagSetter] at failed changed
  split at failed
  · cases failed
  · split at failed
    · cases failed
    · next notSet notCleared =>
        rw [if_neg notSet, if_neg notCleared] at changed
        split at failed
        · split at failed
          · cases failed
          · split at failed
            · cases failed
            · next assigned notTrue notFalse =>
                exact changed (by rw [if_pos assigned, if_neg notTrue, if_neg notFalse])
        · next notAssigned => exact changed (by rw [if_neg notAssigned])

section

variable (absl : Absl) (name : Text)

def Unreadable (texts : List Text) : Prop :=
  ∃ text ∈ texts, text ≠ [] ∧ absl.simpleAtob text = none

theorem parseBools_isOk_iff (defaultValue : Bool) (texts : List Text) :
    (parseBools absl name defaultValue texts).isOk = false ↔ Unreadable absl texts := by
  induction texts with
  | nil => simp [parseBools, Unreadable, Except.isOk, Except.toBool]
  | cons text rest induction =>
      have first : Unreadable absl (text :: rest) ↔
          text ≠ [] ∧ absl.simpleAtob text = none ∨ Unreadable absl rest := by
        simp only [Unreadable, List.mem_cons, or_and_right, exists_or, exists_eq_left]
      have mapped : ∀ value,
          ((parseBools absl name defaultValue rest).map (value :: ·)).isOk = false ↔
            Unreadable absl rest := by
        intro value
        rw [← induction]
        cases parseBools absl name defaultValue rest <;> rfl
      rw [first, parseBools]
      by_cases isEmpty : text = []
      · rw [if_pos isEmpty, mapped]
        simp [isEmpty]
      · rw [if_neg isEmpty]
        cases readable : absl.simpleAtob text with
        | none => simp [isEmpty, Except.isOk, Except.toBool]
        | some value =>
            dsimp only
            rw [mapped]
            simp

/-- The types of variables that `GflagsCompatFlag` binds. -/
inductive GflagsCompatKind
  | string
  | int32
  | size
  | bool
  | strings
  | bools (defaultValue : Bool)

namespace GflagsCompatKind

@[reducible] def Value : GflagsCompatKind → Type
  | string => Text
  | int32 => Int
  | size => Nat
  | bool => Bool
  | strings => List Text
  | bools _ => List Bool

def flag : (kind : GflagsCompatKind) → Flag kind.Value
  | string => gflagsCompatString name
  | int32 => gflagsCompatInt name
  | size => gflagsCompatSize absl name
  | bool => gflagsCompatBool name
  | strings => gflagsCompatStrings name
  | bools defaultValue => gflagsCompatBools absl name defaultValue

/-- A vector of booleans that is not empty is given a list with an unreadable element. -/
def ClearsRefused (arg : Text) (nextArg : Option Text) :
    (kind : GflagsCompatKind) → kind.Value → Prop
  | bools defaultValue, value =>
      value ≠ [] ∧ ∃ found, ((bools defaultValue).flag absl name).found arg nextArg = some found ∧
        Unreadable absl (found.value.splitOn ',')
  | string, _ | int32, _ | size, _ | bool, _ | strings, _ => False

end GflagsCompatKind

theorem spoils_bools_iff (defaultValue : Bool)
    {setter : FlagMatch → List Bool → Result Unit × List Bool}
    (isSetter : (gflagsCompatBools absl name defaultValue).setter = some setter)
    (found : FlagMatch) (value : List Bool) :
    Spoils setter found value ↔ value ≠ [] ∧ Unreadable absl (found.value.splitOn ',') := by
  rw [← Option.some.inj isSetter, Spoils, ← parseBools_isOk_iff absl name defaultValue]
  by_cases isEmpty : found.value = []
  · rw [if_pos isEmpty, isEmpty]
    refine iff_of_false ?_ ?_
    · intro spoils
      cases spoils.1
    · intro unreadable
      cases unreadable.2
  · rw [if_neg isEmpty]
    cases parseBools absl name defaultValue (found.value.splitOn ',') with
    | error failure =>
        constructor
        · intro spoils
          exact ⟨fun cleared => spoils.2 cleared.symm, rfl⟩
        · intro unreadable
          exact ⟨rfl, fun cleared => unreadable.1 cleared.symm⟩
    | ok values =>
        refine iff_of_false ?_ ?_
        · intro spoils
          cases spoils.1
        · intro unreadable
          cases unreadable.2

/-- The setter of a vector of booleans clears the vector before it reads the elements. -/
theorem leavesAlone_iff_not_clearsRefused (kind : GflagsCompatKind) (arg : Text)
    (nextArg : Option Text) (value : kind.Value) :
    LeavesAlone (kind.flag absl name) arg nextArg value ↔
      ¬ kind.ClearsRefused absl name arg nextArg value := by
  cases kind with
  | string =>
      refine iff_of_true ((leavesAlone_iff rfl arg nextArg).mpr ?_) id
      intro found _ spoils
      cases spoils.1
  | int32 =>
      refine iff_of_true ((leavesAlone_iff rfl arg nextArg).mpr ?_) id
      intro found _
      exact not_spoils_assigns _ _ found
  | size =>
      refine iff_of_true ((leavesAlone_iff rfl arg nextArg).mpr ?_) id
      intro found _
      exact not_spoils_assigns _ _ found
  | bool =>
      refine iff_of_true ((leavesAlone_iff rfl arg nextArg).mpr ?_) id
      intro found _
      exact not_spoils_bool name found value
  | strings =>
      refine iff_of_true ((leavesAlone_iff rfl arg nextArg).mpr ?_) id
      intro found _ spoils
      rcases spoils with ⟨failed, -⟩
      dsimp only at failed
      split at failed
      · cases failed
      · cases failed
  | bools defaultValue =>
      change LeavesAlone (gflagsCompatBools absl name defaultValue) arg nextArg value ↔
        ¬ (value ≠ [] ∧ ∃ found, (gflagsCompatBools absl name defaultValue).found arg nextArg =
          some found ∧ Unreadable absl (found.value.splitOn ','))
      rw [leavesAlone_iff rfl, not_and, not_exists]
      constructor
      · intro unspoilt notEmpty found
        rintro ⟨isFound, unreadable⟩
        exact unspoilt found isFound
          ((spoils_bools_iff absl name defaultValue rfl found value).mpr ⟨notEmpty, unreadable⟩)
      · intro readable found isFound spoils
        rcases (spoils_bools_iff absl name defaultValue rfl found value).mp spoils with
          ⟨notEmpty, unreadable⟩
        exact readable notEmpty found ⟨isFound, unreadable⟩

end

def letters : Absl where
  simpleAtoi _ := none
  simpleAtob text :=
    if text = ['t'] then some true else if text = ['f'] then some false else none

/-- `-x=t,a` for a vector that holds one element. -/
theorem not_leavesAlone_bools :
    ¬ LeavesAlone (gflagsCompatBools letters ['x'] true) ['-', 'x', '=', 't', ',', 'a'] none
      [true] := by
  intro leaves
  have cleared : ([] : List Bool) = [true] := leaves rfl
  cases cleared

end Cuttlefish.FlagParser
