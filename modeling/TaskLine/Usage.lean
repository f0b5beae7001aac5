import TaskLine.Text.Margin

namespace TaskLine

structure Usage.Entry where
  name : String
  form : String
  summary : String
  description : String
deriving DecidableEq, Repr

namespace Usage.Entry

def ofSource (name form summary description : String) : Entry where
  name := name
  form := form
  summary := summary
  description := String.ofList (Text.normal description.toList)

theorem toList_description_ofSource (name form summary description : String) :
    (ofSource name form summary description).description.toList =
      Text.normal description.toList :=
  String.toList_ofList

end Usage.Entry

structure Usage where
  entries : List Usage.Entry := []
deriving DecidableEq, Repr

namespace Usage

def size (usage : Usage) : Nat := usage.entries.length

def names (usage : Usage) : List String := usage.entries.map Entry.name

def add (usage : Usage) (entry : Entry) : Usage where
  entries := usage.entries ++ [entry]

theorem entries_foldl_add (usage : Usage) (entries : List Entry) :
    (entries.foldl add usage).entries = usage.entries ++ entries := by
  induction entries generalizing usage with
  | nil => simp
  | cons entry entries ih => simp [ih, add]

end Usage

end TaskLine
