import Cuttlefish.Foundation.Json
import Mathlib.Data.List.Infix

/-! # Overrides of a config

`load_configs_parser.cpp` of `host/commands/cvd/cli/parser`: the values of `--override` flags are
merged into the JSON config one after another. -/

namespace Cuttlefish.CliParser

structure Override where
  configPath : Text
  newValue : Text
  deriving DecidableEq

def overrideSetter (value : Text) : Option Override :=
  match value.dropWhile (· ≠ ':') with
  | [] => none
  | _ :: newValue =>
      let configPath := value.takeWhile (· ≠ ':')
      if configPath = [] ∨ newValue = [] then none
      else if configPath.head? = some '.' ∨ configPath.getLast? = some '.' then none
      else if ['.', '.'] <:+: configPath then none
      else some ⟨configPath, newValue⟩

/-! ## An override as JSON -/

def isUnsignedInteger (str : Text) : Bool := !str.isEmpty && str.all Decimal.isDigit

/-- `absl::SimpleAtoi` of digits to a `uint32_t`. -/
def simpleAtoi (str : Text) : Option Nat :=
  let value := Decimal.digitsValue str
  if value < 4294967296 then some value else none

inductive ArgValueType
  | uinteger
  | boolean
  | text

def getArgValueType (str : Text) : ArgValueType :=
  if isUnsignedInteger str then .uinteger
  else if str = "true".toList ∨ str = "false".toList then .boolean
  else .text

/-- The tokens that `std::getline` reads: behind a dot at the end there is none. -/
def levels (key : Text) : List Text :=
  let tokens := key.splitOn '.'
  if tokens.getLast? = some [] then tokens.dropLast else tokens

def leafJson (leafValue : Text) : Option Json :=
  match getArgValueType leafValue with
  | .uinteger => (simpleAtoi leafValue).map fun (value : Nat) => .int value
  | .boolean => some (.bool (leafValue = "true".toList))
  | .text => some (.string leafValue)

/-- One turn of the loop over the levels. `curr[index_val]` makes an array with nulls in front. -/
def nest (level : Text) (leaf : Json) : Option Json :=
  match getArgValueType level with
  | .uinteger => (simpleAtoi level).map fun position =>
      .array (List.replicate position .null ++ [leaf])
  | _ => some (.object [(level, leaf)])

def overrideToJson (override : Override) : Json :=
  match leafJson override.newValue with
  | none => .null
  | some leaf => ((levels override.configPath).foldr (fun level json => json.bind (nest level))
      (some leaf)).getD .null

/-! ## Merging -/

def sizeAsInt (elements : List Json) : Int := Decimal.toInt elements.length

mutual

/-- `MergeTwoJsonObjs`; none where the JSON library throws: a member of what is no object, or an
element of what is no array, is asked for. -/
def mergeTwoJsonObjs (dst src : Json) : Option Json :=
  match src with
  | .null => some dst
  | .object members => mergeMembers dst members
  | _ => none
termination_by structural src

def mergeMembers (dst : Json) (members : List (Text × Json)) : Option Json :=
  match members with
  | [] => some dst
  | (key, value) :: members =>
      match mergeMember dst key value with
      | none => none
      | some dst => mergeMembers dst members
termination_by structural members

def mergeMember (dst : Json) (key : Text) (value : Json) : Option Json :=
  match value with
  | .array elements =>
      if sizeAsInt elements ≤ 0 then some dst
      else
        match dst.members? with
        | none => none
        | some old =>
            match mergeElements (Json.member old key) 0 elements with
            | none => none
            | some merged => some (.object (Json.setMember old key merged))
  | .object members =>
      match dst.members? with
      | none => none
      | some old =>
          match mergeMembers (Json.member old key) members with
          | none => none
          | some merged => some (.object (Json.setMember old key merged))
  | value =>
      match dst.members? with
      | none => none
      | some old => some (.object (Json.setMember old key value))
termination_by structural value

def mergeElements (dst : Json) (position : Nat) (elements : List Json) : Option Json :=
  match elements with
  | [] => some dst
  | value :: values =>
      match dst.elements? with
      | none => none
      | some old =>
          match mergeTwoJsonObjs (Json.element old position) value with
          | none => none
          | some merged =>
              mergeElements (.array (Json.setElement old position merged)) (position + 1) values
termination_by structural elements

end

/-- `GetOverriddenConfig` once the file has been parsed. -/
def getOverriddenConfig (config : Json) (overrideFlags : List Override) : Option Json :=
  overrideFlags.foldlM (fun result flag => mergeTwoJsonObjs result (overrideToJson flag)) config

end Cuttlefish.CliParser
