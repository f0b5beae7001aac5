import TaskLine.Filter
import TaskLine.Tag
import TaskLine.TaskId.Read

namespace TaskLine

namespace Filter

inductive Argument where
  | ids (ids : List TaskId)
  | condition (condition : Condition)
deriving DecidableEq, Repr

namespace Argument

def listedIds : Argument → List TaskId
  | ids list => list
  | condition _ => []

def condition? : Argument → Option Condition
  | ids _ => none
  | condition c => some c

def parser : Parser Argument := Parser.alt [
  TaskId.listParser.map ids,
  Tag.plus.map fun tag => condition (.hasTag tag),
  Tag.minus.map fun tag => condition (.noTag tag),
  Status.parser.map fun status => condition (.statusIs status)]

end Argument

def ofArguments (arguments : List Argument) : Filter where
  base := Universe.ofIds (arguments.flatMap Argument.listedIds)
  conditions := arguments.filterMap Argument.condition?

def parser : Parser Filter := (Parser.many Argument.parser).map ofArguments

end Filter

def Report.parser : Parser Report := Filter.parser.map fun filter => { filter }

end TaskLine
