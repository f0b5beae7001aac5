import TaskLine.Filter
import TaskLine.Modification

namespace TaskLine

inductive Subcommand where
  | version
  | help (summary : Bool)
  | add (modification : Modification)
  | modify (filter : Filter) (modification : Modification)
  | list (report : Report)
  | info (filter : Filter) (debug : Bool)
  | gc
  | sync
deriving DecidableEq, Repr

end TaskLine
