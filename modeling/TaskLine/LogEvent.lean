import TaskLine.Grammar
import TaskLine.Text.Quoted

namespace TaskLine

inductive LogEvent where
  | matched (grammar : Grammar) (left : Nat)
  | noMatch (args : Arguments)
  | ignored (rest : Arguments)
deriving DecidableEq, Repr

namespace LogEvent

inductive Source where
  | dispatch
  | command
deriving DecidableEq, Repr

def source : LogEvent → Source
  | matched .. | noMatch _ => .dispatch
  | ignored _ => .command

def message : LogEvent → String
  | matched grammar left =>
    "Matched " ++ grammar.name ++ " grammar, " ++ left.repr ++ " argument(s) left"
  | noMatch args => "No grammar matched " ++ Text.quoteList args
  | ignored rest => "Ignoring trailing arguments " ++ Text.quoteList rest

end LogEvent

end TaskLine
