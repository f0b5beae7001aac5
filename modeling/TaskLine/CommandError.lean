import TaskLine.Location
import TaskLine.Numeral

namespace TaskLine

inductive CommandError where
  | emptyCommandLine
  | noMatch (args : Arguments) (location : Option Location)
  | trailing (remainder : Arguments) (location : Option Location)
  | overlongId (digits : Nat)
deriving DecidableEq, Repr

namespace CommandError

def summary : CommandError → String
  | emptyCommandLine => "Command line is empty"
  | noMatch [] _ => "No command given"
  | noMatch args _ => "No command matches arguments: " ++ " ".intercalate args
  | trailing [] _ => "Unexpected arguments"
  | trailing (first :: _) _ => "Unexpected argument '" ++ first ++ "'"
  | overlongId digits => Numeral.overlongMessage digits

def location? : CommandError → Option Location
  | noMatch _ location | trailing _ location => location
  | emptyCommandLine | overlongId _ => none

def message (error : CommandError) : String :=
  match error.location? with
  | none => error.summary
  | some location =>
    if location.lines = [] then error.summary else error.summary ++ "\n" ++ location.format

end CommandError

end TaskLine
