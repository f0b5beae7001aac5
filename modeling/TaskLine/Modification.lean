import TaskLine.DescriptionChange
import TaskLine.Status
import TaskLine.TagSet

namespace TaskLine

structure Modification where
  description : DescriptionChange := .unset
  status : Option Status := none
  active : Option Bool := none
  addTags : TagSet := ∅
  removeTags : TagSet := ∅
deriving DecidableEq, Repr

end TaskLine
