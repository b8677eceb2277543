import Cuttlefish.Result
import Cuttlefish.Foundation.Hexadecimal

/-! # Command line flags

`Flag` of `flag_parser.cpp` and the flags that `GflagsCompatFlag` makes. The variable that
a flag is bound to is passed along as a value. -/

namespace Cuttlefish.FlagParser

inductive FlagAliasMode
  | flagPrefix
  | flagExact
  | flagConsumesFollowing
  | flagConsumesArbitrary
  deriving DecidableEq

structure FlagAlias where
  mode : FlagAliasMode
  name : Text
  deriving DecidableEq

structure FlagMatch where
  key : Text
  value : Text
  deriving DecidableEq

/-- A flag bound to a variable of the given type. A setter that fails may have changed the
variable. -/
structure Flag (Value : Type) where
  aliases : List FlagAlias
  setter : Option (FlagMatch → Value → Result Unit × Value)

inductive FlagProcessResult
  | flagSkip
  | flagConsumed
  | flagConsumedWithFollowing
  | flagConsumedOnlyFollowing
  deriving DecidableEq

def quoted (text : Text) : String := "\"" ++ String.ofList text ++ "\""

def withContext (message : String) : Failure → Failure
  | .err inner => .err (message ++ "\n" ++ inner)
  | .abort inner => .abort inner

def normalizeChar (char : Char) : Char := if char = '-' then '_' else char

/-- `absl::StrReplaceAll(text, {{"-", "_"}})`. -/
def normalize (text : Text) : Text := text.map normalizeChar

def likelyFlag (nextArg : Text) : Bool := nextArg.head? == some '-'

def FlagAlias.takes (flagAlias : FlagAlias) (arg : Text) : Bool :=
  match flagAlias.mode with
  | .flagPrefix => (normalize flagAlias.name).isPrefixOf (normalize arg)
  | .flagExact | .flagConsumesFollowing | .flagConsumesArbitrary =>
      normalize arg == normalize flagAlias.name

section

variable {Value : Type}

/-- The setter is called, and if it succeeds, then `Process` returns the result. -/
def callSetter (setter : FlagMatch → Value → Result Unit × Value) (found : FlagMatch)
    (result : FlagProcessResult) (message : String) (value : Value) :
    Result FlagProcessResult × Value :=
  match setter found value with
  | (.ok _, value) => (.ok result, value)
  | (.error failure, value) => (.error (withContext message failure), value)

theorem callSetter_eq_ok {setter : FlagMatch → Value → Result Unit × Value} {found : FlagMatch}
    {result other : FlagProcessResult} {message : String} {value after : Value}
    (ok : callSetter setter found result message value = (.ok other, after)) : other = result := by
  rw [callSetter] at ok
  split at ok
  · exact (Except.ok.inj (Prod.mk.inj ok).1).symm
  · exact nomatch (Prod.mk.inj ok).1

def processAlias (setter : FlagMatch → Value → Result Unit × Value) (flagAlias : FlagAlias)
    (arg : Text) (nextArg : Option Text) (value : Value) : Result FlagProcessResult × Value :=
  let failed := "Processing " ++ quoted arg ++ " failed"
  match flagAlias.mode, nextArg with
  | .flagConsumesArbitrary, none => callSetter setter ⟨arg, []⟩ .flagConsumed failed value
  | .flagConsumesArbitrary, some next =>
      if likelyFlag next then callSetter setter ⟨arg, []⟩ .flagConsumed failed value
      else
        callSetter setter ⟨arg, next⟩ .flagConsumedOnlyFollowing
          ("Processing " ++ quoted arg ++ " " ++ quoted next ++ " failed") value
  | .flagConsumesFollowing, none =>
      (.error (.err ("Expected an argument after " ++ quoted arg)), value)
  | .flagConsumesFollowing, some next =>
      callSetter setter ⟨arg, next⟩ .flagConsumedWithFollowing
        ("Processing " ++ quoted arg ++ " " ++ quoted next ++ " failed") value
  | .flagExact, _ => callSetter setter ⟨arg, arg⟩ .flagConsumed failed value
  | .flagPrefix, _ =>
      callSetter setter ⟨flagAlias.name, arg.drop flagAlias.name.length⟩ .flagConsumed failed value

namespace Flag

def process (flag : Flag Value) (arg : Text) (nextArg : Option Text) (value : Value) :
    Result FlagProcessResult × Value :=
  match flag.setter, flag.aliases with
  | none, [] => (.ok .flagSkip, value)
  | none, flagAlias :: _ =>
      (.error (.err ("No setter for flag with alias " ++ String.ofList flagAlias.name)), value)
  | some setter, aliases =>
      match aliases.find? (·.takes arg) with
      | none => (.ok .flagSkip, value)
      | some flagAlias => processAlias setter flagAlias arg nextArg value

theorem process_of_setter {flag : Flag Value} {setter : FlagMatch → Value → Result Unit × Value}
    (isSetter : flag.setter = some setter) (arg : Text) (nextArg : Option Text) (value : Value) :
    flag.process arg nextArg value =
      match flag.aliases.find? (·.takes arg) with
      | none => (.ok .flagSkip, value)
      | some flagAlias => processAlias setter flagAlias arg nextArg value := by
  rw [process, isSetter]

/-- What `Parse` returns, and what it leaves in the variable and in the arguments. -/
structure Parsed (Value : Type) where
  status : Result Unit
  value : Value
  arguments : List Text

def parse (flag : Flag Value) : List Text → Value → Parsed Value
  | [], value => ⟨.ok (), value, []⟩
  | arg :: rest, value =>
      match flag.process arg rest.head? value with
      | (.error failure, value) => ⟨.error failure, value, arg :: rest⟩
      | (.ok .flagConsumed, value) => flag.parse rest value
      | (.ok .flagConsumedWithFollowing, value) => flag.parse (rest.drop 1) value
      | (.ok .flagConsumedOnlyFollowing, value) =>
          match rest with
          | [] => ⟨.ok (), value, []⟩
          | _ :: later => flag.parse (arg :: later) value
      | (.ok .flagSkip, value) =>
          let parsed := flag.parse rest value
          { parsed with arguments := arg :: parsed.arguments }
  termination_by args => args.length

end Flag

/-! ### What setters keep -/

section Keeping

variable {setter : FlagMatch → Value → Result Unit × Value} {Kept : Value → Prop}
  (keeps : ∀ found value, Kept value → Kept (setter found value).2)

include keeps

theorem callSetter_keeps (found : FlagMatch) (result : FlagProcessResult) (message : String)
    {value : Value} (kept : Kept value) :
    Kept (callSetter setter found result message value).2 := by
  have after := keeps found value kept
  rw [callSetter]
  split
  · next called =>
    rw [called] at after
    exact after
  · next called =>
    rw [called] at after
    exact after

theorem processAlias_keeps (flagAlias : FlagAlias) (arg : Text) (nextArg : Option Text)
    {value : Value} (kept : Kept value) :
    Kept (processAlias setter flagAlias arg nextArg value).2 := by
  unfold processAlias
  dsimp only
  split
  · exact callSetter_keeps keeps _ _ _ kept
  · split <;> exact callSetter_keeps keeps _ _ _ kept
  · exact kept
  · exact callSetter_keeps keeps _ _ _ kept
  · exact callSetter_keeps keeps _ _ _ kept
  · exact callSetter_keeps keeps _ _ _ kept

theorem Flag.process_keeps {flag : Flag Value} (isSetter : flag.setter = some setter) (arg : Text)
    (nextArg : Option Text) {value : Value} (kept : Kept value) :
    Kept (flag.process arg nextArg value).2 := by
  rw [Flag.process_of_setter isSetter]
  split
  · exact kept
  · exact processAlias_keeps keeps _ _ _ kept

theorem Flag.parse_keeps {flag : Flag Value} (isSetter : flag.setter = some setter)
    (args : List Text) {value : Value} (kept : Kept value) :
    Kept (flag.parse args value).value := by
  have step : ∀ {arg nextArg value result after},
      flag.process arg nextArg value = (result, after) → Kept value → Kept after := by
    intro arg nextArg value result after processed kept
    have keptAfter := Flag.process_keeps keeps isSetter arg nextArg kept
    rw [processed] at keptAfter
    exact keptAfter
  fun_induction Flag.parse flag args value with
  | case1 value => exact kept
  | case2 arg rest value failure after processed => exact step processed kept
  | case3 arg rest value after processed induction => exact induction (step processed kept)
  | case4 arg rest value after processed induction => exact induction (step processed kept)
  | case5 arg value after processed => exact step processed kept
  | case6 arg value next later after processed induction => exact induction (step processed kept)
  | case7 arg rest value after processed parsed induction => exact induction (step processed kept)

end Keeping

end

/-! ## Flags in the manner of gflags -/

def dash (name : Text) : Text := '-' :: name

def dashes (name : Text) : Text := '-' :: '-' :: name

def withNo (name : Text) : Text := 'n' :: 'o' :: name

def withEquals (text : Text) : Text := text ++ ['=']

def gflagsCompatFlag {Value : Type} (name : Text)
    (setter : FlagMatch → Value → Result Unit × Value) : Flag Value where
  aliases := [⟨.flagPrefix, withEquals (dash name)⟩, ⟨.flagPrefix, withEquals (dashes name)⟩,
    ⟨.flagConsumesFollowing, dash name⟩, ⟨.flagConsumesFollowing, dashes name⟩]
  setter := some setter

def assigns {Value : Type} (read : Text → Option Value) (message : Text → String)
    (found : FlagMatch) (value : Value) : Result Unit × Value :=
  match read found.value with
  | none => (.error (.err (message found.value)), value)
  | some result => (.ok (), result)

def gflagsCompatString (name : Text) : Flag Text :=
  gflagsCompatFlag name (fun found _ => (.ok (), found.value))

/-- The number that `strtoll` reads in the base it detects, if the text is nothing else. -/
def magnitude (text : Text) : Option Nat :=
  let behindMarker := Hexadecimal.skipMarker text
  if behindMarker ≠ text then
    if behindMarker.all Hexadecimal.isDigit then some (Hexadecimal.digitsValue behindMarker)
    else none
  else if text.head? = some '0' then
    if text.all fun char => Decimal.isDigit char && char.toNat ≤ '7'.toNat then
      some (Nat.ofDigitChars 8 text 0)
    else none
  else if text ≠ [] ∧ text.all Decimal.isDigit then some (Decimal.digitsValue text)
  else none

/-- `ParseInteger<int32_t>`. -/
def parseInteger (value : Text) : Option Int :=
  let (negative, rest) := Decimal.splitSign (value.dropWhile Decimal.isSpace)
  match magnitude rest with
  | none => none
  | some absolute =>
      let result : Int := if negative then -absolute else absolute
      if Decimal.FitsInt result then some result else none

def gflagsCompatInt (name : Text) : Flag Int :=
  gflagsCompatFlag name
    (assigns parseInteger fun value => "Failed to parse " ++ quoted value ++ " as an integer")

structure Absl where
  simpleAtoi : Text → Option Nat
  simpleAtob : Text → Option Bool

def gflagsCompatSize (absl : Absl) (name : Text) : Flag Nat :=
  gflagsCompatFlag name (assigns absl.simpleAtoi fun value =>
    "Failed to parse " ++ quoted value ++ " as an unsigned integer")

def gflagsCompatStrings (name : Text) : Flag (List Text) :=
  gflagsCompatFlag name fun found _ =>
    if found.value = [] then (.ok (), []) else (.ok (), found.value.splitOn ',')

/-- The elements of a list of booleans, up to the first one that `ParseBool` refuses. -/
def parseBools (absl : Absl) (name : Text) (defaultValue : Bool) :
    List Text → Result (List Bool)
  | [] => .ok []
  | text :: rest =>
      if text = [] then (parseBools absl name defaultValue rest).map (defaultValue :: ·)
      else
        match absl.simpleAtob text with
        | none =>
            .error (.err ("Failed to parse value " ++ quoted text ++ " for " ++ String.ofList name))
        | some value => (parseBools absl name defaultValue rest).map (value :: ·)

/-- The vector is cleared before its new elements are parsed. -/
def gflagsCompatBools (absl : Absl) (name : Text) (defaultValue : Bool) : Flag (List Bool) :=
  gflagsCompatFlag name fun found _ =>
    if found.value = [] then (.ok (), [])
    else
      match parseBools absl name defaultValue (found.value.splitOn ',') with
      | .error failure => (.error failure, [])
      | .ok values => (.ok (), values)

def gflagsCompatBoolFlagSetter (name : Text) (found : FlagMatch) (value : Bool) :
    Result Unit × Bool :=
  let key := found.key
  if key = dash name ∨ key = dashes name then (.ok (), true)
  else if key = dash (withNo name) ∨ key = dashes (withNo name) then (.ok (), false)
  else if key = withEquals (dash name) ∨ key = withEquals (dashes name) then
    if found.value = "true".toList then (.ok (), true)
    else if found.value = "false".toList then (.ok (), false)
    else
      (.error (.err ("Unexpected boolean value " ++ quoted found.value ++ " for " ++
        String.ofList name ++ "\"")), value)
  else (.error (.err ("Unexpected key " ++ quoted key ++ " for " ++ quoted name)), value)

/-- `GflagsCompatFlag(name, bool&)`. -/
def gflagsCompatBool (name : Text) : Flag Bool where
  aliases := [⟨.flagPrefix, withEquals (dash name)⟩, ⟨.flagPrefix, withEquals (dashes name)⟩,
    ⟨.flagExact, dash name⟩, ⟨.flagExact, dashes name⟩, ⟨.flagExact, dash (withNo name)⟩,
    ⟨.flagExact, dashes (withNo name)⟩]
  setter := some (gflagsCompatBoolFlagSetter name)

end Cuttlefish.FlagParser
