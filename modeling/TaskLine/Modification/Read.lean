import TaskLine.Modification
import TaskLine.Tag

namespace TaskLine.Modification

inductive Argument where
  | addTag (tag : String)
  | removeTag (tag : String)
  | word (text : String)
deriving DecidableEq, Repr

namespace Argument

def addTag? : Argument → Option String
  | addTag tag => some tag
  | _ => none

def removeTag? : Argument → Option String
  | removeTag tag => some tag
  | _ => none

def word? : Argument → Option String
  | word text => some text
  | _ => none

def parser : Parser Argument := Parser.alt [
  Tag.plus.map addTag,
  Tag.minus.map removeTag,
  Parser.anyArgument.map word]

end Argument

def descriptionOf : List String → DescriptionChange
  | [] => .unset
  | words => .set (" ".intercalate words)

def ofArguments (arguments : List Argument) : Modification where
  description := descriptionOf (arguments.filterMap Argument.word?)
  addTags := TagSet.ofList (arguments.filterMap Argument.addTag?)
  removeTags := TagSet.ofList (arguments.filterMap Argument.removeTag?)

def parser : Parser Modification := (Parser.many Argument.parser).map ofArguments

end TaskLine.Modification
