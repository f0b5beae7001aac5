import TaskLine.Status
import TaskLine.TaskId

namespace TaskLine

inductive Universe where
  | pendingTasks
  | idList (ids : List TaskId)
deriving DecidableEq, Repr

namespace Universe

def ofIds : List TaskId → Universe
  | [] => pendingTasks
  | ids => idList ids

def ids : Universe → List TaskId
  | pendingTasks => []
  | idList ids => ids

theorem ids_ofIds (ids : List TaskId) : (ofIds ids).ids = ids := by
  cases ids <;> rfl

def forNumbers? (numbers : List Int) : Except InvalidValue Universe :=
  (numbers.mapM TaskId.ofInt?).map idList

end Universe

inductive Condition where
  | hasTag (tag : String)
  | noTag (tag : String)
  | statusIs (status : Status)
deriving DecidableEq, Repr

structure Filter where
  base : Universe := .pendingTasks
  conditions : List Condition := []
deriving DecidableEq, Repr

structure Report where
  filter : Filter := {}
deriving DecidableEq, Repr

end TaskLine
