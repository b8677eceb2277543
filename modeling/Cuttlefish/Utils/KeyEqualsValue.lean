import Cuttlefish.Foundation.Decimal
import Cuttlefish.Foundation.SortedMap
import Cuttlefish.Foundation.Substrings
import Cuttlefish.Result
import Mathlib.Data.Char
import Mathlib.Data.List.Lex

/-! # Files of keys and values

`key_equals_value.cc`: texts with a `key=value` on every line. -/

namespace Cuttlefish.Utils.KeyEqualsValue

abbrev KeyValues := SortedMap Text Text

def serializeKeyEqualsValue (keyEqualsValue : KeyValues) : Text :=
  keyEqualsValue.entries.flatMap fun entry => entry.1 ++ '=' :: entry.2 ++ ['\n']

def splitAtEquals (line : Text) : Text × Text :=
  (line.takeWhile (· ≠ '='), (line.dropWhile (· ≠ '=')).drop 1)

def stripAsciiWhitespace (text : Text) : Text := Substrings.strip Decimal.isSpace text

def parseLines (keyEqualsValue : KeyValues) : List Text → Result KeyValues
  | [] => .ok keyEqualsValue
  | line :: rest =>
      let (first, second) := splitAtEquals line
      let key := stripAsciiWhitespace first
      if key.isEmpty then parseLines keyEqualsValue rest
      else
        let value := stripAsciiWhitespace second
        match keyEqualsValue.find key with
        | none => parseLines (keyEqualsValue.emplace key value) rest
        | some previous => do
            cfExpect (previous = value) ("Duplicate key with different value. key:\"" ++
              String.ofList key ++ "\", previous value:\"" ++ String.ofList previous ++
              "\", this value:\"" ++ String.ofList value ++ "\"")
            parseLines keyEqualsValue rest

def parseKeyEqualsValue (contents : Text) : Result KeyValues :=
  parseLines .empty (contents.splitOn '\n')

/-! ## What a line says -/

def entryOf (line : Text) : Option (Text × Text) :=
  let key := stripAsciiWhitespace (splitAtEquals line).1
  if key.isEmpty then none else some (key, stripAsciiWhitespace (splitAtEquals line).2)

def Blank (text : Text) : Prop := ∀ char ∈ text, Decimal.isSpace char = true

inductive Padded : Text → Text → Prop
  | key {key before after : Text} (noValue : '=' ∉ key) (blankBefore : Blank before)
      (blankAfter : Blank after) : Padded key (before ++ key ++ after)
  | entry {key value before behind ahead after : Text} (isKey : '=' ∉ key)
      (blankBefore : Blank before) (blankBehind : Blank behind) (blankAhead : Blank ahead)
      (blankAfter : Blank after) :
      Padded (key ++ '=' :: value) (before ++ key ++ behind ++ '=' :: (ahead ++ value ++ after))

theorem Blank.notMem_equals {text : Text} (blank : Blank text) : '=' ∉ text := by
  intro member
  exact absurd (blank '=' member) (by decide)

theorem splitAtEquals_key {key : Text} (noValue : '=' ∉ key) : splitAtEquals key = (key, []) := by
  have noEquals : ∀ char ∈ key, decide (char ≠ '=') = true := by
    intro char member
    exact decide_eq_true fun same => noValue (same ▸ member)
  rw [splitAtEquals, List.takeWhile_eq_self_iff.mpr noEquals,
    List.dropWhile_eq_nil_iff.mpr noEquals]
  rfl

theorem splitAtEquals_entry {key : Text} (isKey : '=' ∉ key) (value : Text) :
    splitAtEquals (key ++ '=' :: value) = (key, value) := by
  rw [splitAtEquals, Substrings.takeWhile_ne_append isKey, Substrings.dropWhile_ne_append isKey]
  rfl

theorem stripAsciiWhitespace_append {before after : Text} (blankBefore : Blank before)
    (blankAfter : Blank after) (text : Text) :
    stripAsciiWhitespace (before ++ text ++ after) = stripAsciiWhitespace text :=
  Substrings.strip_append blankBefore blankAfter text

theorem Padded.entryOf_eq {line padded : Text} (isPadded : Padded line padded) :
    entryOf padded = entryOf line := by
  cases isPadded with
  | @key _ before after noValue blankBefore blankAfter =>
      have noEquals : '=' ∉ before ++ line ++ after := by
        simp [noValue, blankBefore.notMem_equals, blankAfter.notMem_equals]
      rw [entryOf, entryOf, splitAtEquals_key noEquals, splitAtEquals_key noValue,
        stripAsciiWhitespace_append blankBefore blankAfter]
  | @entry key value before behind ahead after isKey blankBefore blankBehind blankAhead
      blankAfter =>
      have noEquals : '=' ∉ before ++ key ++ behind := by
        simp [isKey, blankBefore.notMem_equals, blankBehind.notMem_equals]
      rw [entryOf, entryOf, splitAtEquals_entry noEquals, splitAtEquals_entry isKey,
        stripAsciiWhitespace_append blankBefore blankBehind,
        stripAsciiWhitespace_append blankAhead blankAfter]

/-! ## The loop -/

def Consistent (entries : List (Text × Text)) : Prop :=
  ∀ entry ∈ entries, ∀ other ∈ entries, entry.1 = other.1 → entry.2 = other.2

theorem Consistent.congr {entries others : List (Text × Text)}
    (same : ∀ entry, entry ∈ entries ↔ entry ∈ others) : Consistent entries ↔ Consistent others := by
  rw [Consistent, Consistent]
  simp only [same]

theorem consistent_entries (map : KeyValues) : Consistent map.entries := by
  intro entry member other isOther sameKey
  have isEntry : (other.1, entry.2) ∈ map.entries := by
    rw [← sameKey]
    exact member
  exact SortedMap.eq_of_mem isEntry isOther

theorem entryOf_eq_some {line key value : Text} :
    entryOf line = some (key, value) ↔ key ≠ [] ∧
      stripAsciiWhitespace (splitAtEquals line).1 = key ∧
      stripAsciiWhitespace (splitAtEquals line).2 = value := by
  rw [entryOf]
  by_cases empty : stripAsciiWhitespace (splitAtEquals line).1 = []
  · rw [empty]
    simp only [List.isEmpty_nil, if_true, reduceCtorEq, false_iff]
    intro isKey
    exact isKey.1 isKey.2.1.symm
  · rw [if_neg (by simpa using empty), Option.some.injEq, Prod.mk.injEq]
    constructor
    · intro same
      exact ⟨same.1 ▸ empty, same⟩
    · intro isKey
      exact isKey.2

theorem parseLines_cons (map : KeyValues) (line : Text) (rest : List Text) :
    (entryOf line = none ∧ parseLines map (line :: rest) = parseLines map rest) ∨
    ∃ key value, entryOf line = some (key, value) ∧
      ((map.find key = none ∧
          parseLines map (line :: rest) = parseLines (map.emplace key value) rest) ∨
        (map.find key = some value ∧ parseLines map (line :: rest) = parseLines map rest) ∨
        ∃ previous failure, map.find key = some previous ∧ previous ≠ value ∧
          parseLines map (line :: rest) = .error failure) := by
  rw [entryOf, parseLines]
  dsimp only
  by_cases empty : (stripAsciiWhitespace (splitAtEquals line).1).isEmpty = true
  · rw [if_pos empty, if_pos empty]
    exact .inl ⟨rfl, rfl⟩
  · rw [if_neg empty, if_neg empty]
    refine .inr ⟨_, _, rfl, ?_⟩
    cases found : map.find (stripAsciiWhitespace (splitAtEquals line).1) with
    | none => exact .inl ⟨rfl, rfl⟩
    | some previous =>
        right
        dsimp only
        by_cases same : previous = stripAsciiWhitespace (splitAtEquals line).2
        · left
          rw [same, decide_eq_true rfl]
          exact ⟨rfl, rfl⟩
        · right
          rw [decide_eq_false same]
          exact ⟨previous, _, rfl, same, rfl⟩

def entries (lines : List Text) : List (Text × Text) := lines.filterMap entryOf

theorem parseLines_eq_ok {map result : KeyValues} {lines : List Text} :
    parseLines map lines = .ok result ↔
      Consistent (map.entries ++ entries lines) ∧
        ∀ entry, entry ∈ result.entries ↔ entry ∈ map.entries ++ entries lines := by
  induction lines generalizing map with
  | nil =>
      rw [entries, List.filterMap_nil, List.append_nil, parseLines]
      constructor
      · intro same
        rw [← Except.ok.inj same]
        exact ⟨consistent_entries map, fun _ => Iff.rfl⟩
      · intro isResult
        rw [SortedMap.ext_mem isResult.2]
  | cons line rest induction =>
      rcases parseLines_cons map line rest with ⟨noEntry, parsed⟩ |
        ⟨key, value, isEntry, ⟨isNew, parsed⟩ | ⟨found, parsed⟩ |
          ⟨previous, failure, found, different, parsed⟩⟩
      · rw [parsed, induction, entries, entries, List.filterMap_cons_none noEntry]
      · have same : ∀ entry, entry ∈ (map.emplace key value).entries ++ entries rest ↔
            entry ∈ map.entries ++ entries (line :: rest) := by
          intro entry
          rw [entries, entries, List.filterMap_cons_some isEntry, List.mem_append,
            SortedMap.mem_emplace isNew, List.mem_append, List.mem_cons]
          tauto
        rw [parsed, induction, Consistent.congr same]
        simp only [same]
      · have same : ∀ entry, entry ∈ map.entries ++ entries rest ↔
            entry ∈ map.entries ++ entries (line :: rest) := by
          intro entry
          have isOld := SortedMap.find_eq_some.mp found
          rw [entries, entries, List.filterMap_cons_some isEntry, List.mem_append, List.mem_append,
            List.mem_cons]
          constructor
          · tauto
          · intro member
            rcases member with isOld | isLine | inRest
            · exact .inl isOld
            · exact .inl (isLine ▸ isOld)
            · exact .inr inRest
        rw [parsed, induction, Consistent.congr same]
        simp only [same]
      · rw [parsed]
        constructor
        · intro accepted
          cases accepted
        · intro isResult
          have isOld := SortedMap.find_eq_some.mp found
          have isLine : (key, value) ∈ entries (line :: rest) :=
            List.mem_filterMap.mpr ⟨line, List.mem_cons_self, isEntry⟩
          exact absurd (isResult.1 (key, previous) (List.mem_append_left _ isOld) (key, value)
            (List.mem_append_right _ isLine) rfl) different

def lines (contents : Text) : List Text := contents.splitOn '\n'

theorem parseKeyEqualsValue_eq_ok {contents : Text} {result : KeyValues} :
    parseKeyEqualsValue contents = .ok result ↔
      Consistent (entries (lines contents)) ∧
        ∀ entry, entry ∈ result.entries ↔ entry ∈ entries (lines contents) := by
  rw [parseKeyEqualsValue, parseLines_eq_ok]
  rfl

theorem parseKeyEqualsValue_congr {contents other : Text} {result : KeyValues}
    (same : ∀ entry, entry ∈ entries (lines contents) ↔ entry ∈ entries (lines other))
    (accepted : parseKeyEqualsValue contents = .ok result) :
    parseKeyEqualsValue other = .ok result := by
  rw [parseKeyEqualsValue_eq_ok] at accepted ⊢
  rw [← Consistent.congr same]
  simpa only [← same] using accepted

/-! ## Writing and reading back -/

/-- What the parser yields: a key that is not empty and has no `=`, no blanks at the ends, and no
line feeds. -/
structure WellFormed (entry : Text × Text) : Prop where
  key : entry.1 ≠ []
  noEquals : '=' ∉ entry.1
  keyStripped : stripAsciiWhitespace entry.1 = entry.1
  valueStripped : stripAsciiWhitespace entry.2 = entry.2
  keyOnLine : '\n' ∉ entry.1
  valueOnLine : '\n' ∉ entry.2

theorem wellFormed_of_mem_entries {contents : Text} {entry : Text × Text}
    (member : entry ∈ entries (lines contents)) : WellFormed entry := by
  obtain ⟨line, isLine, isEntry⟩ := List.mem_filterMap.mp member
  have onLine : '\n' ∉ line := Substrings.notMem_of_mem_splitOn isLine
  obtain ⟨isKey, keyIs, valueIs⟩ := entryOf_eq_some.mp isEntry
  have keyChars : ∀ char ∈ entry.1, char ∈ line.takeWhile (· ≠ '=') := by
    intro char isChar
    rw [← keyIs] at isChar
    exact Substrings.mem_of_mem_strip isChar
  have valueChars : ∀ char ∈ entry.2, char ∈ line := by
    intro char isChar
    rw [← valueIs] at isChar
    have inRest := List.mem_of_mem_drop (Substrings.mem_of_mem_strip isChar)
    exact (List.dropWhile_suffix _).subset inRest
  constructor
  · exact isKey
  · intro isEquals
    have notEquals := List.mem_takeWhile_imp (keyChars '=' isEquals)
    simp at notEquals
  · rw [← keyIs]
    exact Substrings.strip_strip _
  · rw [← valueIs]
    exact Substrings.strip_strip _
  · intro isFeed
    exact onLine ((List.takeWhile_prefix _).subset (keyChars '\n' isFeed))
  · intro isFeed
    exact onLine (valueChars '\n' isFeed)

theorem WellFormed.entryOf_line {entry : Text × Text} (wellFormed : WellFormed entry) :
    entryOf (entry.1 ++ '=' :: entry.2) = some entry := by
  apply entryOf_eq_some.mpr
  rw [splitAtEquals_entry wellFormed.noEquals]
  exact ⟨wellFormed.key, wellFormed.keyStripped, wellFormed.valueStripped⟩

theorem entries_serializeKeyEqualsValue {map : KeyValues}
    (wellFormed : ∀ entry ∈ map.entries, WellFormed entry) :
    entries (lines (serializeKeyEqualsValue map)) = map.entries := by
  have clean : ∀ entry ∈ map.entries, '\n' ∉ entry.1 ++ '=' :: entry.2 := by
    intro entry member
    have isEntry := wellFormed entry member
    simp [isEntry.keyOnLine, isEntry.valueOnLine]
  have written : lines (serializeKeyEqualsValue map) =
      map.entries.map (fun entry => entry.1 ++ '=' :: entry.2) ++ [[]] :=
    Substrings.splitOn_flatMap clean
  have noEntry : entryOf [] = none := by decide
  rw [written, entries, List.filterMap_append, List.filterMap_map,
    List.filterMap_cons_none noEntry, List.filterMap_nil, List.append_nil]
  conv_rhs => rw [← @List.filterMap_some _ map.entries]
  apply List.filterMap_congr
  intro entry member
  exact (wellFormed entry member).entryOf_line

/-- The lines of one text are those of the other, in any order and number, and with more blanks. -/
def SameLines (contents other : Text) : Prop :=
  (∀ line ∈ lines contents, ∃ padded ∈ lines other, Padded line padded) ∧
    ∀ padded ∈ lines other, ∃ line ∈ lines contents, Padded line padded

theorem SameLines.mem_entries {contents other : Text} (sameLines : SameLines contents other)
    (entry : Text × Text) : entry ∈ entries (lines contents) ↔ entry ∈ entries (lines other) := by
  rw [entries, entries, List.mem_filterMap, List.mem_filterMap]
  constructor
  · rintro ⟨line, isLine, isEntry⟩
    obtain ⟨padded, inOther, isPadded⟩ := sameLines.1 line isLine
    exact ⟨padded, inOther, isPadded.entryOf_eq.trans isEntry⟩
  · rintro ⟨padded, inOther, isEntry⟩
    obtain ⟨line, isLine, isPadded⟩ := sameLines.2 padded inOther
    exact ⟨line, isLine, isPadded.entryOf_eq.symm.trans isEntry⟩

/-- A map that was parsed is read back from its text, and from every text with the same lines. -/
theorem parseKeyEqualsValue_canonical {contents : Text} {result : KeyValues}
    (accepted : parseKeyEqualsValue contents = .ok result) :
    parseKeyEqualsValue (serializeKeyEqualsValue result) = .ok result ∧
      ∀ other, SameLines contents other → parseKeyEqualsValue other = .ok result := by
  constructor
  · have parsed := parseKeyEqualsValue_eq_ok.mp accepted
    have wellFormed : ∀ entry ∈ result.entries, WellFormed entry := by
      intro entry member
      exact wellFormed_of_mem_entries ((parsed.2 entry).mp member)
    apply parseKeyEqualsValue_congr ?_ accepted
    intro entry
    rw [entries_serializeKeyEqualsValue wellFormed, parsed.2 entry]
  · intro other sameLines
    exact parseKeyEqualsValue_congr sameLines.mem_entries accepted

def twoKeys : KeyValues where
  entries := [(['a'], ['1', '=']), (['b'], [])]
  sorted := by decide

def twoKeysContents : Text := [' ', 'b', '\n', 'a', ' ', '=', '\t', '1', '=', '\n', 'b', '=']

theorem parseKeyEqualsValue_canonical_twoKeys :
    parseKeyEqualsValue (serializeKeyEqualsValue twoKeys) = .ok twoKeys ∧
      ∀ other, SameLines twoKeysContents other → parseKeyEqualsValue other = .ok twoKeys :=
  parseKeyEqualsValue_canonical (by decide)

end Cuttlefish.Utils.KeyEqualsValue
