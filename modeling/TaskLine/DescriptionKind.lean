namespace TaskLine

inductive DescriptionKind where
  | unset
  | set
  | append
  | prepend
deriving DecidableEq, Repr

namespace DescriptionKind

def all : List DescriptionKind := [unset, set, append, prepend]

def name : DescriptionKind → String
  | unset => "unset"
  | set => "set"
  | append => "append"
  | prepend => "prepend"

def ofName? (text : String) : Option DescriptionKind := all.find? (·.name = text)

theorem mem_all (kind : DescriptionKind) : kind ∈ all := by
  cases kind <;> decide

end DescriptionKind

end TaskLine
