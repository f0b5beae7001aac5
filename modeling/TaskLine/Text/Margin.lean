import TaskLine.Text.Blank

namespace TaskLine.Text

def isIndent (c : Char) : Bool := c == ' ' || c == '\t'

def commonStart : List Char → List Char → List Char
  | a :: as, b :: bs => if a = b then a :: commonStart as bs else []
  | _, _ => []

def commonStarts : List (List Char) → List Char
  | [] => []
  | [text] => text
  | text :: texts => commonStart text (commonStarts texts)

def margin (lines : List (List Char)) : List Char :=
  commonStarts ((lines.filter fun line => !line.all isIndent).map (·.takeWhile isIndent))

def dedentLine (width : Nat) (line : List Char) : List Char :=
  if line.all isIndent then [] else line.drop width

def dedentLines (lines : List (List Char)) : List (List Char) :=
  lines.map (dedentLine (margin lines).length)

def dedent (text : List Char) : List Char :=
  ['\n'].intercalate (dedentLines (text.splitOn '\n'))

def normal (text : List Char) : List Char := strip (dedent text)

end TaskLine.Text
