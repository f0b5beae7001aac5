import TaskLine.DescriptionKind

namespace TaskLine

inductive InvalidValue where
  | unknownDescriptionKind
  | unsetDescriptionWithText
  | descriptionWithoutText (kind : DescriptionKind)
  | unknownStatus
  | idNotPositive
deriving DecidableEq, Repr

namespace InvalidValue

def message : InvalidValue → String
  | unknownDescriptionKind => "kind: Input should be 'unset', 'set', 'append' or 'prepend'"
  | unsetDescriptionWithText => ": Value error, an unset description has no text"
  | descriptionWithoutText kind => s!": Value error, a {kind.name} description needs text"
  | unknownStatus => "status: Input should be 'pending', 'completed' or 'deleted'"
  | idNotPositive => "id: Input should be greater than 0"

end InvalidValue

end TaskLine
