import TaskLine.InvalidValue
import TaskLine.Parser

namespace TaskLine

inductive Status where
  | pending
  | completed
  | deleted
deriving DecidableEq, Repr

namespace Status

def all : List Status := [pending, completed, deleted]

def name : Status → String
  | pending => "pending"
  | completed => "completed"
  | deleted => "deleted"

def ofName? (text : String) : Except InvalidValue Status :=
  match all.find? (·.name = text) with
  | some status => .ok status
  | none => .error .unknownStatus

def argument (status : Status) : String := "status:" ++ status.name

def ofArgument? (text : String) : Option Status := all.find? (·.argument = text)

def parser : Parser Status := Parser.argument fun text => .ofOption (ofArgument? text)

theorem ofArgument?_argument (status : Status) : ofArgument? status.argument = some status := by
  cases status <;> decide +kernel

theorem ofArgument?_eq_some_iff {text : String} {status : Status} :
    ofArgument? text = some status ↔ text = status.argument := by
  constructor
  · intro h
    have hfound := List.find?_some h
    exact (of_decide_eq_true hfound).symm
  · rintro rfl
    exact ofArgument?_argument status

theorem toList_argument (status : Status) :
    status.argument.toList = 's' :: ("tatus:" ++ status.name).toList := by
  cases status <;> decide +kernel

theorem argument_injective {status other : Status} (h : status.argument = other.argument) :
    status = other := by
  have hfound := ofArgument?_argument status
  rw [h, ofArgument?_argument, Option.some.injEq] at hfound
  exact hfound.symm

end Status

end TaskLine
