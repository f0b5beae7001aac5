namespace TaskLine

/-- Of a number with a fraction only matters whether it is zero, and of dates nothing. -/
inductive ConfigValue where
  | null
  | boolean (value : Bool)
  | integer (value : Int)
  | decimal (isZero : Bool)
  | text (value : String)
  | date
  | dateTime
  | list (items : List ConfigValue)
  | mapping (entries : List (ConfigValue × ConfigValue))
deriving Inhabited, Repr

namespace ConfigValue

def kindName : ConfigValue → String
  | null => "NoneType"
  | boolean _ => "bool"
  | integer _ => "int"
  | decimal _ => "float"
  | text _ => "str"
  | date => "date"
  | dateTime => "datetime"
  | list _ => "list"
  | mapping _ => "dict"

def isVoid : ConfigValue → Bool
  | null => true
  | boolean value => !value
  | integer value => value == 0
  | decimal isZero => isZero
  | text value => value.isEmpty
  | date | dateTime => false
  | list items => items.isEmpty
  | mapping entries => entries.isEmpty

end ConfigValue

end TaskLine
