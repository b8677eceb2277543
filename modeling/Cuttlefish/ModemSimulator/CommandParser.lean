import Cuttlefish.Foundation.Hexadecimal

/-! # AT command parser

`CommandParser` of `host/commands/modem_simulator`. A parser is the rest of the
command that has not been consumed; every operation returns what it parsed and
the new rest. A character stands for one byte of the command. -/

namespace Cuttlefish.ModemSimulator

namespace CommandParser

def afterFirst (flag : Char) (command : Text) : Text :=
  (command.dropWhile (· != flag)).drop 1

def skipPast (flag : Char) (command : Text) : Text :=
  if command.contains flag then afterFirst flag command else command

def skipPrefix (command : Text) : Text := skipPast '=' command

def skipComma (command : Text) : Text := skipPast ',' command

def skipWhiteSpace (command : Text) : Text := skipPast ' ' command

def skipPrefixAT : Text → Text
  | 'A' :: 'T' :: rest => rest
  | command => command

def getNextStr (command : Text) : Text × Text :=
  if command.contains '"' then
    let rest := afterFirst '"' command
    if rest.contains '"' then
      (rest.takeWhile (· != '"'), skipComma (afterFirst '"' rest))
    else ([], rest)
  else ([], command)

def getNextStrUntil (flag : Char) (command : Text) : Text × Text :=
  (command.takeWhile (· != flag), afterFirst flag command)

def parseInt (snumber : Text) : Int :=
  match Decimal.strtol snumber with
  | none => -1
  | some value => Decimal.toInt value

def getNextInt (command : Text) : Int × Text :=
  if command.isEmpty then (-1, command)
  else
    let (sub, rest) := getNextStrUntil ',' command
    (parseInt sub, rest)

def getNextStrDeciToHex (command : Text) : Text × Text :=
  let (value, rest) := getNextInt command
  (if value = -1 then [] else Hexadecimal.print value, rest)

/-! ## What is read -/

end CommandParser

end Cuttlefish.ModemSimulator
