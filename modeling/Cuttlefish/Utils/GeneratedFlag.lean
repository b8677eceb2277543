import Cuttlefish.Utils.FlagParser

/-! # Flags that another program has written

`--name=value` among other flags of that form, as `GenerateFlag` makes them, and what
`GflagsCompatFlag(name)` finds there. -/

namespace Cuttlefish.FlagParser

/-- `fmt::format("--{}={}", name, value)`. -/
def generateFlag (name value : Text) : Text := withEquals (dashes name) ++ value

/-- A name that starts with a letter and has no value. -/
def IsName (name : Text) : Prop :=
  name.head? ≠ some '-' ∧ name.head? ≠ some '_' ∧ '=' ∉ name

instance (name : Text) : Decidable (IsName name) := inferInstanceAs (Decidable (_ ∧ _))

theorem normalize_generateFlag (name value : Text) :
    normalize (generateFlag name value) =
      '_' :: '_' :: (normalize name ++ '=' :: normalize value) := by
  simp [generateFlag, withEquals, dashes, normalize, normalizeChar]

theorem IsName.normalize_head {name : Text} (isName : IsName name) :
    (normalize name).head? ≠ some '_' := by
  cases name with
  | nil => simp [normalize]
  | cons char rest =>
      intro head
      have isUnderscore : normalizeChar char = '_' := by simpa [normalize] using head
      rw [normalizeChar] at isUnderscore
      split at isUnderscore
      · next isDash => exact isName.1 (by rw [isDash]; rfl)
      · exact isName.2.1 (by rw [isUnderscore]; rfl)

theorem IsName.equals_notMem {name : Text} (isName : IsName name) : '=' ∉ normalize name := by
  intro member
  rcases List.mem_map.mp member with ⟨char, inName, isEquals⟩
  rw [normalizeChar] at isEquals
  split at isEquals
  · exact absurd isEquals (by decide)
  · exact isName.2.2 (isEquals ▸ inName)

theorem append_cons_prefix_iff {char : Char} {first second rest : Text} (notFirst : char ∉ first)
    (notSecond : char ∉ second) :
    first ++ [char] <+: second ++ char :: rest ↔ first = second := by
  constructor
  · rintro ⟨behind, same⟩
    have parts : first ++ char :: behind = second ++ char :: rest := by
      rw [← same, List.append_assoc]
      rfl
    have front : ∀ {before : Text} (behind : Text), char ∉ before →
        (before ++ char :: behind).takeWhile (· ≠ char) = before := by
      intro before behind notBefore
      have all : ∀ other ∈ before, decide (other ≠ char) = true := fun other inBefore =>
        decide_eq_true fun isChar => notBefore (isChar ▸ inBefore)
      rw [List.takeWhile_append_of_pos all, List.takeWhile_cons_of_neg (by simp), List.append_nil]
    rw [← front behind notFirst, parts, front rest notSecond]
  · rintro rfl
    exact ⟨rest, by simp⟩

section

variable {Value : Type} {setter : FlagMatch → Value → Result Unit × Value}

theorem find?_generateFlag {name other : Text} (isName : IsName name) (isOther : IsName other)
    (value : Text) :
    (gflagsCompatFlag name setter).aliases.find? (·.takes (generateFlag other value)) =
      if normalize name = normalize other then some ⟨.flagPrefix, withEquals (dashes name)⟩
      else none := by
  have oneDash : normalize (dash name) = '_' :: normalize name := rfl
  have twoDashes : normalize (dashes name) = '_' :: '_' :: normalize name := rfl
  have withValue : ∀ text, normalize (withEquals text) = normalize text ++ ['='] := fun text => by
    simp [withEquals, normalize, normalizeChar]
  have notDash : FlagAlias.takes ⟨.flagPrefix, withEquals (dash name)⟩
      (generateFlag other value) = false := by
    rw [FlagAlias.takes, normalize_generateFlag, withValue, oneDash, Bool.eq_false_iff, ne_eq,
      List.isPrefixOf_iff_prefix, List.cons_append, List.cons_prefix_cons]
    rintro ⟨-, behind, same⟩
    have head := congrArg List.head? same
    cases isNil : normalize name with
    | nil => simp [isNil] at head
    | cons char rest =>
        rw [isNil] at head
        exact isName.normalize_head (by rw [isNil]; exact head)
  have isDashes : FlagAlias.takes ⟨.flagPrefix, withEquals (dashes name)⟩
      (generateFlag other value) = decide (normalize name = normalize other) := by
    rw [FlagAlias.takes, normalize_generateFlag, withValue, twoDashes, Bool.eq_iff_iff,
      decide_eq_true_iff, List.isPrefixOf_iff_prefix, List.cons_append, List.cons_append,
      List.cons_prefix_cons, List.cons_prefix_cons,
      append_cons_prefix_iff isName.equals_notMem isOther.equals_notMem]
    simp
  have noFollowing : ∀ text, '=' ∉ normalize text →
      FlagAlias.takes ⟨.flagConsumesFollowing, text⟩ (generateFlag other value) = false := by
    intro text noEquals
    rw [FlagAlias.takes, normalize_generateFlag]
    refine beq_false_of_ne fun same => noEquals ?_
    rw [← same]
    simp
  have notFollowingDash := noFollowing (dash name) (by
    rw [oneDash]
    simpa using isName.equals_notMem)
  have notFollowingDashes := noFollowing (dashes name) (by
    rw [twoDashes]
    simpa using isName.equals_notMem)
  simp only [gflagsCompatFlag, List.find?_cons, notDash, isDashes, notFollowingDash,
    notFollowingDashes, List.find?_nil]
  by_cases same : normalize name = normalize other <;> simp [same]

theorem parse_generateFlag_other {name other : Text} (isName : IsName name)
    (isOther : IsName other) (different : normalize name ≠ normalize other) (value : Text)
    (rest : List Text) (old : Value) :
    (gflagsCompatFlag name setter).parse (generateFlag other value :: rest) old =
      let parsed := (gflagsCompatFlag name setter).parse rest old
      { parsed with arguments := generateFlag other value :: parsed.arguments } := by
  rw [Flag.parse, Flag.process_of_setter rfl, find?_generateFlag isName isOther,
    if_neg different]

theorem parse_generateFlag_self {name : Text} (isName : IsName name) (value : Text)
    (rest : List Text) {old new : Value}
    (sets : setter ⟨withEquals (dashes name), value⟩ old = (.ok (), new)) :
    (gflagsCompatFlag name setter).parse (generateFlag name value :: rest) old =
      (gflagsCompatFlag name setter).parse rest new := by
  rw [Flag.parse, Flag.process_of_setter rfl, find?_generateFlag isName isName, if_pos rfl]
  simp only [processAlias, generateFlag, List.drop_left, callSetter, sets]

theorem parse_generateFlag_refused {name : Text} (isName : IsName name) (value : Text)
    (rest : List Text) {old new : Value} {failure : Failure}
    (refuses : setter ⟨withEquals (dashes name), value⟩ old = (.error failure, new)) :
    ∃ failed, (gflagsCompatFlag name setter).parse (generateFlag name value :: rest) old =
      ⟨.error failed, new, generateFlag name value :: rest⟩ := by
  rw [Flag.parse, Flag.process_of_setter rfl, find?_generateFlag isName isName, if_pos rfl]
  simp only [processAlias, generateFlag, List.drop_left, callSetter, refuses]
  exact ⟨_, rfl⟩

theorem parse_generateFlags_append {name : Text} (isName : IsName name)
    {others : List (Text × Text)}
    (different : ∀ other ∈ others.map (·.1), IsName other ∧ normalize name ≠ normalize other)
    (rest : List Text) (old : Value) :
    (gflagsCompatFlag name setter).parse
        (others.map (fun entry => generateFlag entry.1 entry.2) ++ rest) old =
      let parsed := (gflagsCompatFlag name setter).parse rest old
      { parsed with arguments :=
          others.map (fun entry => generateFlag entry.1 entry.2) ++ parsed.arguments } := by
  induction others with
  | nil => rfl
  | cons other others induction =>
      rw [List.map_cons, List.forall_mem_cons] at different
      rw [List.map_cons, List.cons_append,
        parse_generateFlag_other isName different.1.1 different.1.2, induction different.2]
      rfl

theorem parse_generateFlags {name : Text} (isName : IsName name) {others : List (Text × Text)}
    (different : ∀ other ∈ others.map (·.1), IsName other ∧ normalize name ≠ normalize other)
    (old : Value) :
    (gflagsCompatFlag name setter).parse
        (others.map fun entry => generateFlag entry.1 entry.2) old =
      ⟨.ok (), old, others.map fun entry => generateFlag entry.1 entry.2⟩ := by
  rw [← List.append_nil (others.map _), parse_generateFlags_append isName different, Flag.parse]

end

end Cuttlefish.FlagParser
