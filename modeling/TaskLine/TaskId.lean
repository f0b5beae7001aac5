import TaskLine.InvalidValue

namespace TaskLine

inductive TaskId where
  | workingSet (number : Nat) (positive : 0 < number)
  | partialUuid (text : String)
deriving DecidableEq, Repr

namespace TaskId

def toString : TaskId → String
  | workingSet number _ => number.repr
  | partialUuid text => text

instance : ToString TaskId := ⟨toString⟩

def ofInt? (number : Int) : Except InvalidValue TaskId :=
  if h : 0 < number then .ok (workingSet number.toNat (by omega)) else .error .idNotPositive

end TaskId

end TaskLine
