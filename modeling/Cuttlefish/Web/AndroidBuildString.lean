import Cuttlefish.Utils.FlagParser

/-! # Build strings

`android_build_string.cpp` of `host/libs/web`: what is fetched, and the flags for it. -/

namespace Cuttlefish.Web

open FlagParser

structure DeviceBuildString where
  branchOrId : Text
  target : Option Text
  filepath : Option Text
  deriving DecidableEq

structure DirectoryBuildString where
  paths : List Text
  target : Text
  filepath : Option Text
  deriving DecidableEq

inductive BuildString
  | device (value : DeviceBuildString)
  | directory (value : DirectoryBuildString)
  deriving DecidableEq

/-- The text in front of the brackets and the path between them. A closing bracket in front of
the opening one makes the count of `substr` negative, that is, all of the rest is taken. -/
def parseFilepath (buildString : Text) : Result (Text × Option Text) :=
  match buildString.findIdx? (· = '{'), buildString.findIdx? (· = '}') with
  | none, none => .ok (buildString, none)
  | some openBracket, some closeBracket =>
      let remainingSubstring := buildString.take openBracket
      if remainingSubstring = [] then
        .error (.err ("The build string excluding filepath cannot be empty.  Input: " ++
          String.ofList buildString))
      else
        let filepathStart := openBracket + 1
        let behind := buildString.drop filepathStart
        let filepathSubstring :=
          if closeBracket < filepathStart then behind
          else behind.take (closeBracket - filepathStart)
        if filepathSubstring = [] then
          .error (.err ("The filepath between positions " ++ toString filepathStart ++ "," ++
            toString closeBracket ++ " cannot be empty.  Input: " ++ String.ofList buildString))
        else .ok (remainingSubstring, some filepathSubstring)
  | _, _ =>
      .error (.err ("Open or close curly bracket exists without its complement in " ++
        quoted buildString))

def parseDeviceBuildString (buildString : Text) (filepath : Option Text) :
    Result DeviceBuildString :=
  match buildString.findIdx? (· = '/') with
  | none => .ok ⟨buildString, none, filepath⟩
  | some slashPos =>
      let target := buildString.drop (slashPos + 1)
      match target.findIdx? (· = '/') with
      | none => .ok ⟨buildString.take slashPos, some target, filepath⟩
      | some behind =>
          .error (.err ("Build string argument cannot have more than one '/'.  Found at " ++
            "positions " ++ toString slashPos ++ "," ++ toString (slashPos + 1 + behind) ++ "."))

def parseDirectoryBuildString (buildString : Text) (filepath : Option Text) :
    DirectoryBuildString :=
  let split := buildString.splitOn ':'
  ⟨split.dropLast, split.getLast?.getD [], filepath⟩

def parseBuildString (buildString : Text) : Result BuildString :=
  if buildString = [] then .error (.err "The given build string cannot be empty")
  else
    match parseFilepath buildString with
    | .error failure => .error failure
    | .ok (remainingBuildString, filepath) =>
        if ':' ∈ remainingBuildString then
          .ok (.directory (parseDirectoryBuildString remainingBuildString filepath))
        else (parseDeviceBuildString remainingBuildString filepath).map .device

def parseBuildStrings : List Text → Result Unit × List (Option BuildString)
  | [] => (.ok (), [])
  | strVal :: strVals =>
      match if strVal = [] then .ok none else (parseBuildString strVal).map some with
      | .error failure => (.error failure, [])
      | .ok value =>
          let (status, values) := parseBuildStrings strVals
          (status, value :: values)

def setBuildStrings (found : FlagMatch) (_ : List (Option BuildString)) :
    Result Unit × List (Option BuildString) :=
  if found.value = [] then (.ok (), []) else parseBuildStrings (found.value.splitOn ',')

def gflagsCompatBuildStrings (name : Text) : Flag (List (Option BuildString)) :=
  gflagsCompatFlag name setBuildStrings

end Cuttlefish.Web
