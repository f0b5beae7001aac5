import TaskLine.Text.Hex
import TaskLine.Yaml.Rejection
import TaskLine.Yaml.Source

namespace TaskLine.Yaml

inductive Piece where
  | solid (c : Char)
  | blank (c : Char)
  | lineBreak (c : Char)
  | joint

namespace Piece

def ofBreak (c : Char) : Piece := lineBreak (if c == '\x85' then '\n' else c)

def folded (first : Option Char) (others : List Char) : List Char :=
  match first with
  | none => others
  | some '\n' => if others.isEmpty then [' '] else others
  | some c => c :: others

inductive Gap where
  | blanks (text : List Char)
  | breaks (first : Option Char) (others : List Char)

def Gap.text : Gap → List Char
  | blanks text => text
  | breaks first others => folded first others

def foldFrom : Gap → List Piece → List Char
  | gap, [] => gap.text
  | gap, solid c :: rest => gap.text ++ c :: foldFrom (.blanks []) rest
  | .blanks text, blank c :: rest => foldFrom (.blanks (text ++ [c])) rest
  | .blanks _, lineBreak c :: rest => foldFrom (.breaks (some c) []) rest
  | .breaks first others, blank _ :: rest => foldFrom (.breaks first others) rest
  | .breaks first others, lineBreak c :: rest => foldFrom (.breaks first (others ++ [c])) rest
  | gap, joint :: rest => gap.text ++ foldFrom (.breaks none []) rest

def fold (pieces : List Piece) : List Char := foldFrom (.blanks []) pieces

end Piece

/-- What is expected between quotes: text, what follows a quote that may be the last, what follows a
backslash, or hexadecimal digits after those of a code. -/
inductive Quoting where
  | text
  | afterQuote
  | escape
  | code (left : Nat) (soFar : Nat)

def escapeNames : List (Char × Char) := [
  ('0', '\x00'), ('a', '\x07'), ('b', '\x08'), ('t', '\t'), ('\t', '\t'), ('n', '\n'),
  ('v', '\x0b'), ('f', '\x0c'), ('r', '\r'), ('e', '\x1b'), (' ', ' '), ('\x22', '\x22'),
  ('\\', '\\'), ('/', '/'), ('N', '\x85'), ('_', '\xa0'), ('L', '\u2028'), ('P', '\u2029')]

def codeWidth? (c : Char) : Option Nat := ([('x', 2), ('u', 4), ('U', 8)].find? (·.1 == c)).map (·.2)

/-- The codes of surrogates, which stand for no character alone, give the replacement character. -/
def charOfCode (code : Nat) : Except Rejection Char :=
  if code.isValidChar then .ok (Char.ofNat code)
  else if code < 0x110000 then .ok '\ufffd'
  else if code < 0x80000000 then .error .codeOutOfRange
  else .error .codeTooLarge

def quoted (double : Bool) : Quoting → List Placed → Except Rejection (List Piece × List Placed)
  | .afterQuote, [] => .ok ([], [])
  | _, [] => .error .malformed
  | .text, here :: rest =>
    let add (piece : Piece) := (quoted double .text rest).map fun (pieces, left) =>
      (piece :: pieces, left)
    if isBreak here.char then
      if atMarker rest then .error .malformed else add (.ofBreak here.char)
    else if isSpace here.char then add (.blank here.char)
    else if double then
      if here.char == '\x22' then .ok ([], rest)
      else if here.char == '\\' then quoted double .escape rest
      else add (.solid here.char)
    else if here.char == '\x27' then quoted double .afterQuote rest
    else add (.solid here.char)
  | .afterQuote, here :: rest =>
    if here.char == '\x27' then
      (quoted double .text rest).map fun (pieces, left) => (.solid here.char :: pieces, left)
    else .ok ([], here :: rest)
  | .escape, here :: rest =>
    let add (piece : Piece) := (quoted double .text rest).map fun (pieces, left) =>
      (piece :: pieces, left)
    if isBreak here.char then if atMarker rest then .error .malformed else add .joint
    else if let some width := codeWidth? here.char then quoted double (.code width 0) rest
    else match escapeNames.lookup here.char with
      | some c => add (.solid c)
      | none => .error .malformed
  | .code left soFar, here :: rest =>
    match Text.hexValue? here.char with
    | none => .error .malformed
    | some digit =>
      if left ≤ 1 then do
        let c ← charOfCode (16 * soFar + digit)
        let (pieces, left) ← quoted double .text rest
        return (.solid c :: pieces, left)
      else quoted double (.code (left - 1) (16 * soFar + digit)) rest

def isFlowIndicator (c : Char) : Bool := ",[]\x7b\x7d".toList.contains c

def endsPlain (inFlow : Bool) (c : Char) (rest : List Placed) : Bool :=
  c == '\t' || (inFlow && (isFlowIndicator c || c == '?')) ||
    (c == ':' && (atGap rest || (inFlow && rest.head?.any (isFlowIndicator ·.char))))

def startsPlain (inFlow : Bool) (c : Char) (rest : List Placed) : Bool :=
  if c == '-' then !atGap rest
  else if c == '?' || c == ':' then !inFlow && !atGap rest
  else !(isSpace c || isBreak c || "-?:,[]\x7b\x7d#&*!|>\x27\x22%@\x60".toList.contains c)

inductive PlainGap where
  | none
  | blanks
  | breaks

/-- The pieces up to the last solid character of a plain scalar, and what follows it; nothing when
no solid character follows. A line of it has to be indented far enough, unless in a flow
collection. -/
def plainTail (inFlow : Bool) (indent : Nat) : PlainGap → List Placed →
    Option (List Piece × List Placed)
  | _, [] => none
  | gap, here :: rest =>
    let add (piece : Piece) (gap : PlainGap) := (plainTail inFlow indent gap rest).map
      fun (pieces, left) => (piece :: pieces, left)
    if here.char == ' ' then
      match gap with
      | .breaks => add (.blank here.char) .breaks
      | _ => add (.blank here.char) .blanks
    else if isBreak here.char then
      if atMarker rest then none else add (.ofBreak here.char) .breaks
    else
      let refused := match gap with
        | .none => false
        | .blanks => here.char == '#'
        | .breaks => here.char == '#' || (!inFlow && here.column < indent)
      if refused || endsPlain inFlow here.char rest then none
      else some ((add (.solid here.char) .none).getD ([.solid here.char], rest))

def plain (inFlow : Bool) (indent : Nat) (first : Placed) (rest : List Placed) :
    List Piece × List Placed :=
  match plainTail inFlow indent .none rest with
  | some (pieces, left) => (.solid first.char :: pieces, left)
  | none => ([.solid first.char], rest)

end TaskLine.Yaml
