import TaskLine.Arguments
import TaskLine.Text.Quoted

namespace TaskLine

structure Location where
  argv : Arguments := []
  index : Option Int := none
deriving DecidableEq, Repr

namespace Location

def argumentLine (argv : Arguments) (index : Int) : List String :=
  if index < 0 then []
  else match argv[index.toNat]? with
    | some text => ["  at argument " ++ index.toNat.repr ++ ": " ++ Text.quote text]
    | none => []

def commandLine : Arguments → List String
  | [] => []
  | argv => ["  command: " ++ " ".intercalate argv]

def lines (location : Location) : List String :=
  (match location.index with
    | some index => argumentLine location.argv index
    | none => []) ++ commandLine location.argv

def format (location : Location) : String := "\n".intercalate location.lines

theorem lines_of_index {argv : Arguments} {index : Nat} {text : String}
    (h : argv[index]? = some text) :
    lines { argv := argv, index := some (index : Int) } =
      ["  at argument " ++ index.repr ++ ": " ++ Text.quote text,
        "  command: " ++ " ".intercalate argv] := by
  cases argv with
  | nil => simp at h
  | cons name args =>
    have hindex : ¬ (index : Int) < 0 := by omega
    simp only [lines, argumentLine, if_neg hindex, Int.toNat_natCast, h, commandLine]
    rfl

theorem format_of_index {argv : Arguments} {index : Nat} {text : String}
    (h : argv[index]? = some text) :
    format { argv := argv, index := some (index : Int) } =
      "  at argument " ++ index.repr ++ ": " ++ Text.quote text ++ "\n" ++
        ("  command: " ++ " ".intercalate argv) := by
  rw [format, lines_of_index h, String.intercalate_cons_cons, String.intercalate_singleton]

end Location

end TaskLine
