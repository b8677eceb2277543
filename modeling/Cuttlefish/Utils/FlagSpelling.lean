import Mathlib.Data.List.Forall2
import Cuttlefish.Utils.FlagParser

/-! # Dashes and underscores in flag names

When it makes no difference to `Flag::Parse` whether the name of a flag is written with
dashes or with underscores. -/

namespace Cuttlefish.FlagParser

/-! ## Other spellings of arguments -/

def leadingDashes : Text → Text
  | '-' :: '-' :: _ => ['-', '-']
  | '-' :: _ => ['-']
  | _ => []

/-- The part of an argument behind the leading dashes and before the first `=`. -/
def flagName (arg : Text) : Text :=
  if leadingDashes arg = [] then []
  else (arg.drop (leadingDashes arg).length).takeWhile (· ≠ '=')

def behindName (arg : Text) : Text := arg.drop ((leadingDashes arg).length + (flagName arg).length)

/-- The arguments differ at most by dashes and underscores in the flag name. -/
def Respells (arg other : Text) : Prop :=
  ∃ name, normalize name = normalize (flagName arg) ∧
    other = leadingDashes arg ++ name ++ behindName arg

theorem leadingDashes_prefix (arg : Text) : leadingDashes arg <+: arg := by
  unfold leadingDashes
  split
  · exact ⟨_, rfl⟩
  · exact ⟨_, rfl⟩
  · exact List.nil_prefix

theorem flagName_prefix (arg : Text) : flagName arg <+: arg.drop (leadingDashes arg).length := by
  rw [flagName]
  split
  · exact List.nil_prefix
  · exact List.takeWhile_prefix _

theorem leadingDashes_append (arg : Text) :
    leadingDashes arg ++ flagName arg ++ behindName arg = arg := by
  rcases leadingDashes_prefix arg with ⟨tail, isArg⟩
  have isTail : arg.drop (leadingDashes arg).length = tail := by
    have dropped : (leadingDashes arg ++ tail).drop (leadingDashes arg).length = tail :=
      List.drop_left
    rwa [isArg] at dropped
  rcases flagName_prefix arg with ⟨rest, isRest⟩
  rw [behindName, ← List.drop_drop, ← isRest, List.drop_left, List.append_assoc, isRest, isTail,
    isArg]

theorem Respells.refl (arg : Text) : Respells arg arg :=
  ⟨flagName arg, rfl, (leadingDashes_append arg).symm⟩

theorem normalize_append (first second : Text) :
    normalize (first ++ second) = normalize first ++ normalize second :=
  List.map_append

@[simp] theorem length_normalize (text : Text) : (normalize text).length = text.length :=
  List.length_map _

theorem Respells.normalize_eq {arg other : Text} (spells : Respells arg other) :
    normalize other = normalize arg := by
  rcases spells with ⟨name, sameName, rfl⟩
  conv_rhs => rw [← leadingDashes_append arg]
  simp only [normalize_append, sameName]

theorem Respells.length_eq {arg other : Text} (spells : Respells arg other) :
    other.length = arg.length := by
  rw [← length_normalize other, spells.normalize_eq, length_normalize]

theorem normalizeChar_eq_equals {char : Char} : normalizeChar char = '=' ↔ char = '=' := by
  rw [normalizeChar]
  split
  next isDash => simp [isDash]
  next => rfl

theorem equals_not_mem_leadingDashes (arg : Text) : '=' ∉ leadingDashes arg := by
  unfold leadingDashes
  split
  · decide
  · decide
  · exact List.not_mem_nil

theorem length_flagName_le {arg before after : Text} (isArg : arg = before ++ '=' :: after)
    (some : leadingDashes arg ≠ []) :
    (leadingDashes arg).length + (flagName arg).length ≤ before.length := by
  by_contra less
  have whole : leadingDashes arg ++ flagName arg <+: arg := ⟨_, leadingDashes_append arg⟩
  have start : before ++ ['='] <+: arg := ⟨after, by rw [isArg]; simp⟩
  have inside : before ++ ['='] <+: leadingDashes arg ++ flagName arg := by
    apply List.prefix_of_prefix_length_le start whole
    rw [List.length_append, List.length_append, List.length_singleton]
    omega
  have member : '=' ∈ leadingDashes arg ++ flagName arg := inside.subset (by simp)
  rcases List.mem_append.mp member with inDashes | inName
  · exact absurd inDashes (equals_not_mem_leadingDashes arg)
  · rw [flagName, if_neg some] at inName
    exact absurd (List.mem_takeWhile_imp inName) (by decide)

theorem Respells.drop_eq {arg other : Text} (spells : Respells arg other) {before after : Text}
    (isArg : arg = before ++ '=' :: after) :
    other.drop (before.length + 1) = arg.drop (before.length + 1) := by
  rcases spells with ⟨name, sameName, rfl⟩
  have sameLength : name.length = (flagName arg).length := by
    rw [← length_normalize name, sameName, length_normalize]
  by_cases none : leadingDashes arg = []
  · have noName : flagName arg = [] := if_pos none
    have isNil : name = [] := List.length_eq_zero_iff.mp (by rw [sameLength, noName]; rfl)
    rw [isNil, ← noName, leadingDashes_append]
  · have behind := length_flagName_le isArg none
    have dropped : ∀ name : Text, name.length = (flagName arg).length →
        (leadingDashes arg ++ name ++ behindName arg).drop (before.length + 1) =
          (behindName arg).drop
            (before.length + 1 - ((leadingDashes arg).length + (flagName arg).length)) := by
      intro name same
      have length : (leadingDashes arg ++ name).length =
          (leadingDashes arg).length + (flagName arg).length := by
        rw [List.length_append, same]
      rw [List.drop_append, List.drop_eq_nil_of_le (by rw [length]; omega), length,
        List.nil_append]
    have same := dropped (flagName arg) rfl
    rw [leadingDashes_append] at same
    rw [dropped name sameLength, same]

/-! ## Runs on two spellings -/

section

variable {Value : Type}

def Flag.takesFollowing (flag : Flag Value) (arg : Text) : Bool :=
  match flag.aliases.find? (·.takes arg) with
  | none => false
  | some flagAlias => flagAlias.mode == .flagConsumesFollowing

/-- The lists differ at most by dashes and underscores in flag names. An argument that is
the value of the flag before it has no flag name. -/
inductive Respelled (flag : Flag Value) : List Text → List Text → Prop
  | nil : Respelled flag [] []
  | cons {arg other : Text} {rest others : List Text} (spells : Respells arg other)
      (noValue : flag.takesFollowing arg = false) (later : Respelled flag rest others) :
      Respelled flag (arg :: rest) (other :: others)
  | last {arg other : Text} (spells : Respells arg other)
      (takesValue : flag.takesFollowing arg = true) : Respelled flag [arg] [other]
  | consValue {arg other : Text} (value : Text) {rest others : List Text}
      (spells : Respells arg other) (takesValue : flag.takesFollowing arg = true)
      (later : Respelled flag rest others) :
      Respelled flag (arg :: value :: rest) (other :: value :: others)

/-- The same success or failure, the same variable, and the same arguments left up to their
spelling. -/
structure Flag.Parsed.Same (parsed other : Flag.Parsed Value) : Prop where
  status : parsed.status.toOption = other.status.toOption
  value : parsed.value = other.value
  arguments : List.Forall₂ Respells parsed.arguments other.arguments

/-- No other spelling of flag names gives another result. -/
def Flag.Insensitive (flag : Flag Value) (args : List Text) (value : Value) : Prop :=
  ∀ others, Respelled flag args others → (flag.parse args value).Same (flag.parse others value)

theorem Respelled.forall₂ {flag : Flag Value} {args others : List Text}
    (respelled : Respelled flag args others) : List.Forall₂ Respells args others := by
  induction respelled with
  | nil => exact .nil
  | cons spells _ _ later => exact .cons spells later
  | last spells _ => exact .cons spells .nil
  | consValue value spells _ _ later => exact .cons spells (.cons (Respells.refl value) later)

def SameStep (step other : Result FlagProcessResult × Value) : Prop :=
  step.1.toOption = other.1.toOption ∧ step.2 = other.2

theorem SameStep.refl (step : Result FlagProcessResult × Value) : SameStep step step := ⟨rfl, rfl⟩

theorem sameStep_callSetter {setter : FlagMatch → Value → Result Unit × Value}
    {found other : FlagMatch} {value : Value} (same : setter found value = setter other value)
    (result : FlagProcessResult) (message text : String) :
    SameStep (callSetter setter found result message value)
      (callSetter setter other result text value) := by
  unfold callSetter
  rw [same]
  rcases setter other value with ⟨failure | success, result⟩
  · exact ⟨rfl, rfl⟩
  · exact ⟨rfl, rfl⟩

theorem same_parse_nil (flag : Flag Value) (value : Value) :
    (flag.parse [] value).Same (flag.parse [] value) := by
  rw [Flag.parse]
  exact ⟨rfl, rfl, .nil⟩

theorem same_parse_cons {flag : Flag Value} {arg other : Text} {rest others : List Text}
    {value : Value}
    (step : SameStep (flag.process arg rest.head? value) (flag.process other others.head? value))
    (spelled : List.Forall₂ Respells (arg :: rest) (other :: others))
    (never : ∀ value', flag.process arg rest.head? value ≠ (.ok .flagConsumedOnlyFollowing, value'))
    (one : ∀ value', flag.process arg rest.head? value = (.ok .flagSkip, value') ∨
        flag.process arg rest.head? value = (.ok .flagConsumed, value') →
      (flag.parse rest value').Same (flag.parse others value'))
    (two : ∀ value',
      flag.process arg rest.head? value = (.ok .flagConsumedWithFollowing, value') →
      (flag.parse (rest.drop 1) value').Same (flag.parse (others.drop 1) value')) :
    (flag.parse (arg :: rest) value).Same (flag.parse (other :: others) value) := by
  rw [Flag.parse, Flag.parse]
  generalize flag.process arg rest.head? value = first at step never one two
  generalize flag.process other others.head? value = second at step
  rcases first with ⟨firstResult, firstValue⟩
  rcases second with ⟨secondResult, secondValue⟩
  rcases step with ⟨sameResult, sameValue⟩
  dsimp only at sameResult sameValue
  subst sameValue
  cases firstResult with
  | error failure =>
      cases secondResult with
      | error otherFailure => exact ⟨rfl, rfl, spelled⟩
      | ok result => cases sameResult
  | ok result =>
      cases secondResult with
      | error otherFailure => cases sameResult
      | ok otherResult =>
          obtain rfl : result = otherResult := Option.some.inj sameResult
          cases result with
          | flagSkip =>
              rcases one firstValue (.inl rfl) with ⟨status, value, arguments⟩
              exact ⟨status, value, .cons (List.forall₂_cons.mp spelled).1 arguments⟩
          | flagConsumed => exact one firstValue (.inr rfl)
          | flagConsumedWithFollowing => exact two firstValue rfl
          | flagConsumedOnlyFollowing => exact absurd rfl (never firstValue)

theorem Respells.takes_eq {arg other : Text} (spells : Respells arg other)
    (flagAlias : FlagAlias) : flagAlias.takes other = flagAlias.takes arg := by
  unfold FlagAlias.takes
  rw [spells.normalize_eq]

theorem Respells.find?_eq {arg other : Text} (spells : Respells arg other)
    (aliases : List FlagAlias) :
    aliases.find? (·.takes other) = aliases.find? (·.takes arg) := by
  simp only [spells.takes_eq]

theorem Respells.value_eq {arg other : Text} (spells : Respells arg other) {text : Text}
    (takes : FlagAlias.takes ⟨.flagPrefix, withEquals text⟩ arg = true) :
    other.drop (withEquals text).length = arg.drop (withEquals text).length := by
  rcases List.isPrefixOf_iff_prefix.mp takes with ⟨after, isAfter⟩
  rw [withEquals, normalize_append] at isAfter
  rcases List.map_eq_append_iff.mp (isAfter.symm.trans (List.append_assoc ..)) with
    ⟨before, behind, rfl, sameBefore, sameBehind⟩
  rcases List.map_eq_cons_iff.mp sameBehind with ⟨equals, rest, rfl, isEquals, -⟩
  obtain rfl : equals = '=' := normalizeChar_eq_equals.mp isEquals
  have sameLength : before.length = text.length := by
    rw [← List.length_map, sameBefore, length_normalize]
  have length : (withEquals text).length = before.length + 1 := by
    rw [withEquals, List.length_append, sameLength, List.length_singleton]
  rw [length]
  exact spells.drop_eq rfl

/-! ## Flags that take a value -/

def IgnoresKey (setter : FlagMatch → Value → Result Unit × Value) : Prop :=
  ∀ key key' text value, setter ⟨key, text⟩ value = setter ⟨key', text⟩ value

variable {setter : FlagMatch → Value → Result Unit × Value}

theorem mem_aliases_gflagsCompatFlag {name : Text} {flagAlias : FlagAlias}
    (member : flagAlias ∈ (gflagsCompatFlag name setter).aliases) :
    (∃ text, flagAlias = ⟨.flagPrefix, withEquals text⟩) ∨
      flagAlias.mode = .flagConsumesFollowing := by
  simp only [gflagsCompatFlag, List.mem_cons, List.not_mem_nil, or_false] at member
  rcases member with rfl | rfl | rfl | rfl
  · exact .inl ⟨_, rfl⟩
  · exact .inl ⟨_, rfl⟩
  · exact .inr rfl
  · exact .inr rfl

theorem sameStep_processAlias (ignores : IgnoresKey setter) {flagAlias : FlagAlias}
    (known : (∃ text, flagAlias = ⟨.flagPrefix, withEquals text⟩) ∨
      flagAlias.mode = .flagConsumesFollowing)
    {arg other : Text} (spells : Respells arg other) (takes : flagAlias.takes arg = true)
    {next next' : Option Text} (sameNext : flagAlias.mode = .flagConsumesFollowing → next = next')
    (value : Value) :
    SameStep (processAlias setter flagAlias arg next value)
      (processAlias setter flagAlias other next' value) := by
  rcases known with ⟨text, rfl⟩ | following
  · apply sameStep_callSetter
    rw [spells.value_eq takes]
  · rcases sameNext following with rfl
    unfold processAlias
    rw [following]
    cases next with
    | none => exact ⟨rfl, rfl⟩
    | some next =>
        apply sameStep_callSetter
        exact ignores arg other next value

theorem sameStep_process (ignores : IgnoresKey setter) {name arg other : Text}
    (spells : Respells arg other) {next next' : Option Text}
    (sameNext : (gflagsCompatFlag name setter).takesFollowing arg = true → next = next')
    (value : Value) :
    SameStep ((gflagsCompatFlag name setter).process arg next value)
      ((gflagsCompatFlag name setter).process other next' value) := by
  rw [Flag.takesFollowing] at sameNext
  rw [Flag.process_of_setter rfl, Flag.process_of_setter rfl, spells.find?_eq]
  cases found : (gflagsCompatFlag name setter).aliases.find? (·.takes arg) with
  | none => exact SameStep.refl _
  | some flagAlias =>
      rw [found] at sameNext
      apply sameStep_processAlias ignores
      · exact mem_aliases_gflagsCompatFlag (List.mem_of_find?_eq_some found)
      · exact spells
      · exact List.find?_some (p := fun flagAlias : FlagAlias => flagAlias.takes arg) found
      · intro following
        exact sameNext (beq_iff_eq.mpr following)

theorem process_eq_ok {name arg : Text} {next : Option Text} {value after : Value}
    {result : FlagProcessResult}
    (ok : (gflagsCompatFlag name setter).process arg next value = (.ok result, after)) :
    result = .flagConsumedWithFollowing ∧
        (gflagsCompatFlag name setter).takesFollowing arg = true ∨
      (result = .flagSkip ∨ result = .flagConsumed) ∧
        (gflagsCompatFlag name setter).takesFollowing arg = false := by
  rw [Flag.takesFollowing]
  rw [Flag.process_of_setter rfl] at ok
  cases found : (gflagsCompatFlag name setter).aliases.find? (·.takes arg) with
  | none =>
      rw [found] at ok
      exact .inr ⟨.inl (Except.ok.inj (Prod.mk.inj ok).1).symm, rfl⟩
  | some flagAlias =>
      rw [found] at ok
      rcases mem_aliases_gflagsCompatFlag (List.mem_of_find?_eq_some found) with
        ⟨text, rfl⟩ | following
      · exact .inr ⟨.inr (callSetter_eq_ok ok), rfl⟩
      · dsimp only [processAlias] at ok
        rw [following] at ok
        refine .inl ⟨?_, beq_iff_eq.mpr following⟩
        cases next with
        | none => exact nomatch (Prod.mk.inj ok).1
        | some next => exact callSetter_eq_ok ok

theorem gflagsCompatFlag_insensitive (ignores : IgnoresKey setter) (name : Text)
    (args : List Text) (value : Value) :
    (gflagsCompatFlag name setter).Insensitive args value := by
  intro others respelled
  induction respelled generalizing value with
  | nil => exact same_parse_nil _ value
  | cons spells noValue later induction =>
      apply same_parse_cons
      · apply sameStep_process ignores spells
        rw [noValue]
        exact nofun
      · exact .cons spells later.forall₂
      · intro after ok
        have results := process_eq_ok ok
        simp [noValue] at results
      · intro after _
        exact induction after
      · intro after ok
        have results := process_eq_ok ok
        simp [noValue] at results
  | last spells takesValue =>
      apply same_parse_cons
      · exact sameStep_process ignores spells (fun _ => rfl) value
      · exact .cons spells .nil
      · intro after ok
        have results := process_eq_ok ok
        simp [takesValue] at results
      · intro after _
        exact same_parse_nil _ after
      · intro after _
        exact same_parse_nil _ after
  | consValue next spells takesValue later induction =>
      apply same_parse_cons
      · exact sameStep_process ignores spells (fun _ => rfl) value
      · exact .cons spells (.cons (Respells.refl next) later.forall₂)
      · intro after ok
        have results := process_eq_ok ok
        simp [takesValue] at results
      · intro after ok
        rcases ok with ok | ok
        · have results := process_eq_ok ok
          simp [takesValue] at results
        · have results := process_eq_ok ok
          simp [takesValue] at results
      · intro after _
        exact induction after

end

/-! ## Boolean flags -/

def spellings (name : Text) : List Text :=
  [dash name, dashes name, dash (withNo name), dashes (withNo name)]

def optionValue (name arg : Text) : Option Text :=
  if FlagAlias.takes ⟨.flagPrefix, withEquals (dash name)⟩ arg = true then
    some (arg.drop (withEquals (dash name)).length)
  else if FlagAlias.takes ⟨.flagPrefix, withEquals (dashes name)⟩ arg = true then
    some (arg.drop (withEquals (dashes name)).length)
  else none

def Names (name arg : Text) : Prop :=
  ∃ spelling ∈ spellings name, normalize arg = normalize spelling

instance (name arg : Text) : Decidable (Names name arg) :=
  inferInstanceAs (Decidable (∃ spelling ∈ spellings name, _))

def boolStep (name arg : Text) (value : Bool) : Result FlagProcessResult × Bool :=
  match optionValue name arg with
  | some text =>
      if text = "true".toList then (.ok .flagConsumed, true)
      else if text = "false".toList then (.ok .flagConsumed, false)
      else (.error (.err "Unexpected boolean value"), value)
  | none =>
      if ¬ Names name arg then (.ok .flagSkip, value)
      else if arg = dash name ∨ arg = dashes name then (.ok .flagConsumed, true)
      else if arg = dash (withNo name) ∨ arg = dashes (withNo name) then (.ok .flagConsumed, false)
      else (.error (.err "Unexpected key"), value)

theorem count_equals_of_mem_spellings {name spelling : Text} (member : spelling ∈ spellings name) :
    spelling.count '=' = name.count '=' := by
  simp only [spellings, List.mem_cons, List.not_mem_nil, or_false] at member
  rcases member with rfl | rfl | rfl | rfl
  · simp [dash]
  · simp [dashes]
  · simp [dash, withNo]
  · simp [dashes, withNo]

theorem withEquals_not_mem_spellings {name text : Text} (member : text ∈ spellings name) :
    withEquals text ∉ spellings name := by
  intro again
  have first := count_equals_of_mem_spellings member
  have second := count_equals_of_mem_spellings again
  simp [withEquals] at second
  omega

theorem eq_of_mem_spellings {name first second : Text} (firstMember : first ∈ spellings name)
    (secondMember : second ∈ spellings name) (sameLength : first.length = second.length) :
    first = second := by
  simp only [spellings, List.mem_cons, List.not_mem_nil, or_false] at firstMember secondMember
  rcases firstMember with rfl | rfl | rfl | rfl <;>
    rcases secondMember with rfl | rfl | rfl | rfl <;>
    first
    | rfl
    | simp only [dash, dashes, withNo, List.length_cons] at sameLength
      omega

theorem not_mem_spellings {name arg : Text} :
    arg ∉ spellings name ↔ ¬ (arg = dash name ∨ arg = dashes name) ∧
      ¬ (arg = dash (withNo name) ∨ arg = dashes (withNo name)) := by
  simp [spellings, and_assoc]

theorem takes_self (text : Text) : FlagAlias.takes ⟨.flagPrefix, text⟩ text = true :=
  List.isPrefixOf_iff_prefix.mpr List.prefix_rfl

theorem optionValue_eq_none {name arg : Text} :
    optionValue name arg = none ↔
      ¬ FlagAlias.takes ⟨.flagPrefix, withEquals (dash name)⟩ arg = true ∧
        ¬ FlagAlias.takes ⟨.flagPrefix, withEquals (dashes name)⟩ arg = true := by
  rw [optionValue]
  split
  next takes => simp [takes]
  next notDash =>
    split
    next takes => simp [takes]
    next notDashes => simp [notDash, notDashes]

theorem setter_withEquals {name key : Text} (isKey : key = dash name ∨ key = dashes name)
    (text : Text) (value : Bool) (message : String) :
    SameStep (callSetter (gflagsCompatBoolFlagSetter name) ⟨withEquals key, text⟩ .flagConsumed
        message value)
      (if text = "true".toList then (.ok .flagConsumed, true)
      else if text = "false".toList then (.ok .flagConsumed, false)
      else (.error (.err "Unexpected boolean value"), value)) := by
  have member : key ∈ spellings name := by
    rcases isKey with rfl | rfl
    · simp [spellings]
    · simp [spellings]
  rcases not_mem_spellings.mp (withEquals_not_mem_spellings member) with ⟨notYes, notNo⟩
  have withValue : withEquals key = withEquals (dash name) ∨
      withEquals key = withEquals (dashes name) := by
    rcases isKey with rfl | rfl
    · exact .inl rfl
    · exact .inr rfl
  rw [callSetter, gflagsCompatBoolFlagSetter]
  simp only [if_neg notYes, if_neg notNo, if_pos withValue]
  by_cases yes : text = "true".toList
  · simp only [if_pos yes]
    exact SameStep.refl _
  · by_cases no : text = "false".toList
    · simp only [if_neg yes, if_pos no]
      exact SameStep.refl _
    · simp only [if_neg yes, if_neg no]
      exact ⟨rfl, rfl⟩

theorem setter_exact {name arg : Text} (noValue : optionValue name arg = none) (value : Bool)
    (message : String) :
    SameStep (callSetter (gflagsCompatBoolFlagSetter name) ⟨arg, arg⟩ .flagConsumed message value)
      (if arg = dash name ∨ arg = dashes name then (.ok .flagConsumed, true)
      else if arg = dash (withNo name) ∨ arg = dashes (withNo name) then (.ok .flagConsumed, false)
      else (.error (.err "Unexpected key"), value)) := by
  have notValue : ¬ (arg = withEquals (dash name) ∨ arg = withEquals (dashes name)) := by
    rcases optionValue_eq_none.mp noValue with ⟨notDash, notDashes⟩
    rintro (rfl | rfl)
    · exact notDash (takes_self _)
    · exact notDashes (takes_self _)
  rw [callSetter, gflagsCompatBoolFlagSetter]
  simp only [if_neg notValue]
  by_cases yes : arg = dash name ∨ arg = dashes name
  · simp only [if_pos yes]
    exact SameStep.refl _
  · by_cases no : arg = dash (withNo name) ∨ arg = dashes (withNo name)
    · simp only [if_neg yes, if_pos no]
      exact SameStep.refl _
    · simp only [if_neg yes, if_neg no]
      exact ⟨rfl, rfl⟩

theorem find?_exactAliases (name arg : Text) :
    match ((spellings name).map (FlagAlias.mk .flagExact)).find? (·.takes arg) with
    | none => ¬ Names name arg
    | some flagAlias => Names name arg ∧ flagAlias.mode = .flagExact := by
  cases found : ((spellings name).map (FlagAlias.mk .flagExact)).find? (·.takes arg) with
  | none =>
      rintro ⟨spelling, member, same⟩
      have notTaken := List.find?_eq_none.mp found _ (List.mem_map_of_mem member)
      exact notTaken (beq_iff_eq.mpr same)
  | some flagAlias =>
      rcases List.mem_map.mp (List.mem_of_find?_eq_some found) with ⟨spelling, member, rfl⟩
      have taken := List.find?_some (p := fun flagAlias : FlagAlias => flagAlias.takes arg) found
      exact ⟨⟨spelling, member, beq_iff_eq.mp taken⟩, rfl⟩

theorem sameStep_boolStep (name arg : Text) (next : Option Text) (value : Bool) :
    SameStep ((gflagsCompatBool name).process arg next value) (boolStep name arg value) := by
  have aliases : (gflagsCompatBool name).aliases =
      ⟨.flagPrefix, withEquals (dash name)⟩ :: ⟨.flagPrefix, withEquals (dashes name)⟩ ::
        (spellings name).map (FlagAlias.mk .flagExact) := rfl
  rw [Flag.process_of_setter rfl, aliases, List.find?_cons, List.find?_cons]
  rw [boolStep]
  cases noValue : optionValue name arg with
  | some text =>
      rw [optionValue] at noValue
      split at noValue
      next takes =>
        rcases Option.some.inj noValue with rfl
        simp only [takes]
        exact setter_withEquals (.inl rfl) _ value _
      next notDash =>
        split at noValue
        next takes =>
          rcases Option.some.inj noValue with rfl
          simp only [notDash, takes]
          exact setter_withEquals (.inr rfl) _ value _
        next => exact nomatch noValue
  | none =>
      rcases optionValue_eq_none.mp noValue with ⟨notDash, notDashes⟩
      have named := find?_exactAliases name arg
      simp only [notDash, notDashes]
      cases found : ((spellings name).map (FlagAlias.mk .flagExact)).find? (·.takes arg) with
      | none =>
          rw [found] at named
          simp only [if_pos named]
          exact SameStep.refl _
      | some flagAlias =>
          rw [found] at named
          simp only [not_not.mpr named.1, ↓reduceIte]
          dsimp only [processAlias]
          rw [named.2]
          exact setter_exact noValue value _

/-! ### Arguments whose spelling matters -/

def Refuses (name arg : Text) : Prop :=
  match optionValue name arg with
  | some text => text ≠ "true".toList ∧ text ≠ "false".toList
  | none => Names name arg ∧ arg ∉ spellings name

/-- The argument has a dash or an underscore in its flag name, and is the flag's own name
up to these. -/
def Fragile (name arg : Text) : Prop :=
  optionValue name arg = none ∧ ('-' ∈ flagName arg ∨ '_' ∈ flagName arg) ∧
    ∃ spelling ∈ spellings name, Respells arg spelling

/-- No argument is fragile, up to the first one that ends the parse. -/
def Robust (name : Text) : List Text → Prop
  | [] => True
  | arg :: rest => ¬ Fragile name arg ∧ (Refuses name arg ∨ Robust name rest)

theorem Respells.optionValue_eq {arg other : Text} (spells : Respells arg other) (name : Text) :
    optionValue name other = optionValue name arg := by
  unfold optionValue
  rw [spells.takes_eq, spells.takes_eq]
  split
  next takes => rw [spells.value_eq takes]
  next =>
    split
    next takes => rw [spells.value_eq takes]
    next => rfl

theorem Respells.names_iff {arg other : Text} (spells : Respells arg other) (name : Text) :
    Names name other ↔ Names name arg := by
  unfold Names
  rw [spells.normalize_eq]

theorem eq_of_normalize_eq {name text : Text} (same : normalize name = normalize text)
    (plain : ¬ ('-' ∈ text ∨ '_' ∈ text)) : name = text := by
  induction text generalizing name with
  | nil => exact List.map_eq_nil_iff.mp same
  | cons char rest induction =>
      rcases List.map_eq_cons_iff.mp same with ⟨first, others, rfl, sameChar, sameRest⟩
      simp only [List.mem_cons, not_or] at plain
      rcases plain with ⟨⟨notDash, noDash⟩, notUnderscore, noUnderscore⟩
      have isChar : first = char := by
        unfold normalizeChar at sameChar
        rw [if_neg (Ne.symm notDash)] at sameChar
        split at sameChar
        · exact absurd sameChar notUnderscore
        · exact sameChar
      rw [isChar, induction sameRest (not_or.mpr ⟨noDash, noUnderscore⟩)]

theorem Respells.eq_of_plain {arg other : Text} (spells : Respells arg other)
    (plain : ¬ ('-' ∈ flagName arg ∨ '_' ∈ flagName arg)) : other = arg := by
  rcases spells with ⟨name, sameName, rfl⟩
  rw [eq_of_normalize_eq sameName plain, leadingDashes_append]

theorem Respells.boolStep_eq {name arg other : Text} (spells : Respells arg other)
    (robust : ¬ Fragile name arg) (value : Bool) :
    boolStep name other value = boolStep name arg value := by
  by_cases plain : '-' ∈ flagName arg ∨ '_' ∈ flagName arg
  · unfold boolStep
    simp only [spells.optionValue_eq, spells.names_iff]
    cases noValue : optionValue name arg with
    | some text => rfl
    | none =>
        have unknown : ∀ spelling ∈ spellings name, ¬ Respells arg spelling := by
          intro spelling member respells
          exact robust ⟨noValue, plain, spelling, member, respells⟩
        have notArg := not_mem_spellings.mp fun member => unknown arg member (Respells.refl arg)
        have notOther := not_mem_spellings.mp fun member => unknown other member spells
        simp only [if_neg notArg.1, if_neg notArg.2, if_neg notOther.1, if_neg notOther.2]
  · rw [spells.eq_of_plain plain]

def toggle (char : Char) : Char :=
  if char = '-' then '_' else if char = '_' then '-' else char

theorem normalizeChar_toggle (char : Char) : normalizeChar (toggle char) = normalizeChar char := by
  rw [toggle]
  split
  next isDash =>
    rw [isDash]
    rfl
  next =>
    split
    next isUnderscore =>
      rw [isUnderscore]
      rfl
    next => rfl

theorem map_toggle_ne {text : Text} (mixed : '-' ∈ text ∨ '_' ∈ text) :
    text.map toggle ≠ text := by
  intro same
  have fixed : ∀ char ∈ text, toggle char = char :=
    List.map_inj_left.mp (same.trans (List.map_id text).symm)
  rcases mixed with dash | underscore
  · exact absurd (fixed _ dash) (by decide)
  · exact absurd (fixed _ underscore) (by decide)

theorem exists_other_spelling {arg : Text} (mixed : '-' ∈ flagName arg ∨ '_' ∈ flagName arg) :
    ∃ other, Respells arg other ∧ other ≠ arg := by
  refine ⟨leadingDashes arg ++ (flagName arg).map toggle ++ behindName arg,
    ⟨(flagName arg).map toggle, ?_, rfl⟩, ?_⟩
  · simp only [normalize, List.map_map]
    exact List.map_congr_left fun char _ => normalizeChar_toggle char
  · intro same
    apply map_toggle_ne mixed
    conv_rhs at same => rw [← leadingDashes_append arg]
    exact List.append_cancel_left (List.append_cancel_right same)

theorem boolStep_of_mem {name arg : Text} (noValue : optionValue name arg = none)
    (member : arg ∈ spellings name) (value : Bool) :
    ∃ set, boolStep name arg value = (.ok .flagConsumed, set) := by
  have named : Names name arg := ⟨arg, member, rfl⟩
  rw [boolStep]
  rw [noValue]
  by_cases yes : arg = dash name ∨ arg = dashes name
  · exact ⟨true, by simp only [named, not_true_eq_false, if_false, if_pos yes]⟩
  · have no : arg = dash (withNo name) ∨ arg = dashes (withNo name) := by
      by_contra no
      exact not_mem_spellings.mpr ⟨yes, no⟩ member
    exact ⟨false, by simp only [named, not_true_eq_false, if_false, if_neg yes, if_pos no]⟩

theorem boolStep_of_refuses {name arg : Text} (refuses : Refuses name arg) (value : Bool) :
    ∃ failure, boolStep name arg value = (.error failure, value) := by
  rw [Refuses] at refuses
  rw [boolStep]
  split at refuses
  next text isValue =>
    simp only [if_neg refuses.1, if_neg refuses.2]
    exact ⟨_, rfl⟩
  next noValue =>
    rcases not_mem_spellings.mp refuses.2 with ⟨yes, no⟩
    simp only [refuses.1, not_true_eq_false, if_false, if_neg yes, if_neg no]
    exact ⟨_, rfl⟩

theorem boolStep_of_not_refuses {name arg : Text} (accepts : ¬ Refuses name arg) (value : Bool) :
    ∃ result set, boolStep name arg value = (.ok result, set) ∧
      (result = .flagSkip ∨ result = .flagConsumed) := by
  rw [Refuses] at accepts
  cases noValue : optionValue name arg with
  | some text =>
      rw [noValue] at accepts
      rw [boolStep]
      rw [noValue]
      by_cases yes : text = "true".toList
      · simp only [if_pos yes]
        exact ⟨_, _, rfl, .inr rfl⟩
      · have no : text = "false".toList := not_not.mp fun no => accepts ⟨yes, no⟩
        simp only [if_neg yes, if_pos no]
        exact ⟨_, _, rfl, .inr rfl⟩
  | none =>
      rw [noValue] at accepts
      by_cases named : Names name arg
      · obtain ⟨set, isStep⟩ :=
          boolStep_of_mem noValue (not_not.mp fun unknown => accepts ⟨named, unknown⟩) value
        exact ⟨_, set, isStep, .inr rfl⟩
      · refine ⟨.flagSkip, value, ?_, .inl rfl⟩
        rw [boolStep, noValue]
        exact if_pos named

theorem exists_spelling_of_fragile {name arg : Text} (fragile : Fragile name arg) :
    ∃ other, Respells arg other ∧ optionValue name other = none ∧ optionValue name arg = none ∧
      (arg ∈ spellings name ∧ Refuses name other ∨ Refuses name arg ∧ other ∈ spellings name) := by
  rcases fragile with ⟨noValue, mixed, spelling, member, spells⟩
  have named : Names name arg := ⟨spelling, member, spells.normalize_eq.symm⟩
  by_cases known : arg ∈ spellings name
  · rcases exists_other_spelling mixed with ⟨other, respells, differs⟩
    have noOtherValue := (respells.optionValue_eq name).trans noValue
    refine ⟨other, respells, noOtherValue, noValue, .inl ⟨known, ?_⟩⟩
    rw [Refuses]
    rw [noOtherValue]
    refine ⟨(respells.names_iff name).mpr named, ?_⟩
    intro otherKnown
    exact differs (eq_of_mem_spellings otherKnown known respells.length_eq)
  · refine ⟨spelling, spells, (spells.optionValue_eq name).trans noValue, noValue,
      .inr ⟨?_, member⟩⟩
    rw [Refuses]
    rw [noValue]
    exact ⟨named, known⟩

/-! ### Parsing boolean flags -/

theorem takesFollowing_gflagsCompatBool (name arg : Text) :
    (gflagsCompatBool name).takesFollowing arg = false := by
  rw [Flag.takesFollowing]
  split
  next => rfl
  next flagAlias found =>
    have member := List.mem_of_find?_eq_some found
    simp only [gflagsCompatBool, List.mem_cons, List.not_mem_nil, or_false] at member
    rcases member with rfl | rfl | rfl | rfl | rfl | rfl
    all_goals rfl

theorem respelled_gflagsCompatBool {args others : List Text}
    (spelled : List.Forall₂ Respells args others) (name : Text) :
    Respelled (gflagsCompatBool name) args others := by
  induction spelled with
  | nil => exact .nil
  | cons spells _ later => exact .cons spells (takesFollowing_gflagsCompatBool name _) later

theorem process_of_boolStep {name arg : Text} {value set : Bool} {result : FlagProcessResult}
    (isStep : boolStep name arg value = (.ok result, set)) (next : Option Text) :
    (gflagsCompatBool name).process arg next value = (.ok result, set) := by
  rcases sameStep_boolStep name arg next value with ⟨sameResult, sameValue⟩
  rw [isStep] at sameResult sameValue
  generalize (gflagsCompatBool name).process arg next value = step at sameResult sameValue
  rcases step with ⟨stepResult, stepValue⟩
  cases stepResult with
  | error failure => exact nomatch sameResult
  | ok stepResult =>
      obtain rfl : stepResult = result := Option.some.inj sameResult
      exact Prod.ext rfl sameValue

theorem arguments_of_refuses {name arg : Text} (refuses : Refuses name arg) (rest : List Text)
    (value : Bool) : ((gflagsCompatBool name).parse (arg :: rest) value).arguments = arg :: rest := by
  rcases boolStep_of_refuses refuses value with ⟨failure, isStep⟩
  rcases sameStep_boolStep name arg rest.head? value with ⟨sameResult, -⟩
  rw [isStep] at sameResult
  rw [Flag.parse]
  generalize (gflagsCompatBool name).process arg rest.head? value = step at sameResult
  rcases step with ⟨stepResult, stepValue⟩
  cases stepResult with
  | error failure => rfl
  | ok result => cases sameResult

theorem length_arguments_le {Value : Type} (flag : Flag Value) (args : List Text)
    (value : Value) : (flag.parse args value).arguments.length ≤ args.length := by
  fun_induction Flag.parse flag args value with
  | case1 => exact Nat.le_refl 0
  | case2 => exact Nat.le_refl _
  | case3 _ _ _ _ _ later => exact Nat.le_succ_of_le later
  | case4 _ rest _ _ _ later =>
      rw [List.length_drop] at later
      rw [List.length_cons]
      omega
  | case5 => exact Nat.zero_le _
  | case6 _ _ _ _ _ _ later => exact Nat.le_succ_of_le later
  | case7 _ _ _ _ _ _ later => exact Nat.succ_le_succ later

theorem length_arguments_of_mem {name arg : Text} (noValue : optionValue name arg = none)
    (member : arg ∈ spellings name) (rest : List Text) (value : Bool) :
    ((gflagsCompatBool name).parse (arg :: rest) value).arguments.length ≤ rest.length := by
  rcases boolStep_of_mem noValue member value with ⟨set, isStep⟩
  rw [Flag.parse, process_of_boolStep isStep]
  exact length_arguments_le _ rest set

theorem not_fragile_of_insensitive {name arg : Text} {rest : List Text} {value : Bool}
    (insensitive : (gflagsCompatBool name).Insensitive (arg :: rest) value) :
    ¬ Fragile name arg := by
  intro fragile
  rcases exists_spelling_of_fragile fragile with ⟨other, spells, noOtherValue, noValue, differs⟩
  have spelled : List.Forall₂ Respells (arg :: rest) (other :: rest) :=
    .cons spells (List.forall₂_same.mpr fun text _ => Respells.refl text)
  have same := (insensitive _ (respelled_gflagsCompatBool spelled name)).arguments.length_eq
  -- One of the two runs has consumed the argument, and the other one has stopped at it.
  rcases differs with ⟨known, refused⟩ | ⟨refused, known⟩
  · have consumed := length_arguments_of_mem noValue known rest value
    rw [same, arguments_of_refuses refused, List.length_cons] at consumed
    omega
  · have consumed := length_arguments_of_mem noOtherValue known rest value
    rw [← same, arguments_of_refuses refused, List.length_cons] at consumed
    omega

theorem insensitive_rest {name arg : Text} {rest : List Text} {value : Bool}
    (insensitive : (gflagsCompatBool name).Insensitive (arg :: rest) value)
    (accepts : ¬ Refuses name arg) :
    ∃ set, (gflagsCompatBool name).Insensitive rest set := by
  rcases boolStep_of_not_refuses accepts value with ⟨result, set, isStep, isResult⟩
  refine ⟨set, ?_⟩
  intro others respelled
  have spelled : List.Forall₂ Respells (arg :: rest) (arg :: others) :=
    .cons (Respells.refl arg) respelled.forall₂
  have same := insensitive _ (respelled_gflagsCompatBool spelled name)
  rw [Flag.parse, Flag.parse, process_of_boolStep isStep, process_of_boolStep isStep] at same
  rcases isResult with rfl | rfl
  · exact ⟨same.status, same.value, (List.forall₂_cons.mp same.arguments).2⟩
  · exact same

theorem robust_of_insensitive {name : Text} {args : List Text} {value : Bool}
    (insensitive : (gflagsCompatBool name).Insensitive args value) : Robust name args := by
  induction args generalizing value with
  | nil => trivial
  | cons arg rest induction =>
      refine ⟨not_fragile_of_insensitive insensitive, ?_⟩
      by_cases refuses : Refuses name arg
      · exact .inl refuses
      · rcases insensitive_rest insensitive refuses with ⟨set, later⟩
        exact .inr (induction later)

theorem SameStep.symm {Value : Type} {step other : Result FlagProcessResult × Value}
    (same : SameStep step other) : SameStep other step :=
  ⟨same.1.symm, same.2.symm⟩

theorem SameStep.trans {Value : Type} {step other last : Result FlagProcessResult × Value}
    (first : SameStep step other) (second : SameStep other last) : SameStep step last :=
  ⟨first.1.trans second.1, first.2.trans second.2⟩

theorem process_gflagsCompatBool_eq_ok {name arg : Text} {next : Option Text} {value set : Bool}
    {result : FlagProcessResult}
    (ok : (gflagsCompatBool name).process arg next value = (.ok result, set)) :
    ¬ Refuses name arg ∧ (result = .flagSkip ∨ result = .flagConsumed) := by
  have accepts : ¬ Refuses name arg := by
    intro refuses
    rcases boolStep_of_refuses refuses value with ⟨failure, isStep⟩
    have same := (sameStep_boolStep name arg next value).1
    rw [ok, isStep] at same
    exact nomatch same
  rcases boolStep_of_not_refuses accepts value with ⟨other, otherSet, isStep, isResult⟩
  rw [process_of_boolStep isStep] at ok
  obtain rfl : other = result := Except.ok.inj (Prod.mk.inj ok).1
  exact ⟨accepts, isResult⟩

theorem insensitive_of_robust {name : Text} {args : List Text} (robust : Robust name args)
    (value : Bool) : (gflagsCompatBool name).Insensitive args value := by
  intro others respelled
  induction respelled generalizing value with
  | nil => exact same_parse_nil _ value
  | @cons arg other rest others spells _ later induction =>
      have step := spells.boolStep_eq robust.1 value
      apply same_parse_cons
      · refine (sameStep_boolStep name arg _ value).trans ?_
        rw [← step]
        exact (sameStep_boolStep name other _ value).symm
      · exact .cons spells later.forall₂
      · intro after ok
        have results := (process_gflagsCompatBool_eq_ok ok).2
        simp at results
      · intro after ok
        have accepts : ¬ Refuses name arg := by
          rcases ok with ok | ok
          · exact (process_gflagsCompatBool_eq_ok ok).1
          · exact (process_gflagsCompatBool_eq_ok ok).1
        exact induction (robust.2.resolve_left accepts) after
      · intro after ok
        have results := (process_gflagsCompatBool_eq_ok ok).2
        simp at results
  | last _ takesValue =>
      rw [takesFollowing_gflagsCompatBool] at takesValue
      exact nomatch takesValue
  | consValue _ _ takesValue _ _ =>
      rw [takesFollowing_gflagsCompatBool] at takesValue
      exact nomatch takesValue

/-- Flags that take a value do not distinguish dashes and underscores in their names. A
boolean flag does exactly if `Parse` comes to an argument that is the flag's name, or the
name with `no` in front, and has a dash or an underscore in it. -/
theorem flag_names_insensitive (name : Text) (args : List Text) :
    (∀ value, (gflagsCompatString name).Insensitive args value) ∧
    (∀ value, (gflagsCompatInt name).Insensitive args value) ∧
    (∀ absl value, (gflagsCompatSize absl name).Insensitive args value) ∧
    (∀ value, (gflagsCompatStrings name).Insensitive args value) ∧
    (∀ absl defaultValue value, (gflagsCompatBools absl name defaultValue).Insensitive args value) ∧
    ∀ value, (gflagsCompatBool name).Insensitive args value ↔ Robust name args := by
  refine ⟨?_, ?_, ?_, ?_, ?_, ?_⟩
  · exact gflagsCompatFlag_insensitive (fun _ _ _ _ => rfl) name args
  · exact gflagsCompatFlag_insensitive (fun _ _ _ _ => rfl) name args
  · intro absl
    exact gflagsCompatFlag_insensitive (fun _ _ _ _ => rfl) name args
  · exact gflagsCompatFlag_insensitive (fun _ _ _ _ => rfl) name args
  · intro absl defaultValue
    exact gflagsCompatFlag_insensitive (fun _ _ _ _ => rfl) name args
  · intro value
    exact ⟨robust_of_insensitive, fun robust => insensitive_of_robust robust value⟩

/-- `--my_flag` sets the boolean flag `my_flag`, and `--my-flag` is an error. -/
theorem bool_flag_with_dash_refused :
    Respells "--my_flag".toList "--my-flag".toList ∧
      ((gflagsCompatBool "my_flag".toList).parse ["--my_flag".toList] false).status.toOption =
        some () ∧
      ((gflagsCompatBool "my_flag".toList).parse ["--my-flag".toList] false).status.toOption =
        none ∧
      ¬ (gflagsCompatBool "my_flag".toList).Insensitive ["--my_flag".toList] false := by
  have spells : Respells "--my_flag".toList "--my-flag".toList :=
    ⟨"my-flag".toList, by decide +kernel, by decide +kernel⟩
  have underscore : (gflagsCompatBool "my_flag".toList).process "--my_flag".toList none false =
      (.ok .flagConsumed, true) := by decide +kernel
  have hyphen : ((gflagsCompatBool "my_flag".toList).process "--my-flag".toList none
      false).1.toOption = none := by decide +kernel
  have accepted : ((gflagsCompatBool "my_flag".toList).parse ["--my_flag".toList]
      false).status.toOption = some () := by
    rw [Flag.parse, List.head?_nil, underscore]
    simp only [Flag.parse]
    rfl
  have refused : ((gflagsCompatBool "my_flag".toList).parse ["--my-flag".toList]
      false).status.toOption = none := by
    rw [Flag.parse, List.head?_nil]
    generalize (gflagsCompatBool "my_flag".toList).process "--my-flag".toList none false = step
      at hyphen
    rcases step with ⟨failure | result, value⟩
    · rfl
    · cases hyphen
  refine ⟨spells, accepted, refused, ?_⟩
  intro insensitive
  have same := insensitive _ (respelled_gflagsCompatBool (.cons spells .nil) _)
  have refuses := accepted.symm.trans (same.status.trans refused)
  cases refuses

end Cuttlefish.FlagParser
