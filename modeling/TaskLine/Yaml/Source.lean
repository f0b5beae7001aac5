namespace TaskLine.Yaml

def isBreak (c : Char) : Bool := c == '\n' || c == '\x85' || c == '\u2028' || c == '\u2029'

def isSpace (c : Char) : Bool := c == ' ' || c == '\t'

def isAllowed (c : Char) : Bool :=
  c == '\t' || c == '\n' || c == '\x85' || (' ' ≤ c && c ≤ '\x7e') ||
    ('\xa0' ≤ c && c ≤ '\ud7ff') || ('\ue000' ≤ c && c ≤ '\ufffd') || '\uffff' < c

def unifyBreaks : List Char → List Char
  | [] => []
  | '\r' :: '\n' :: rest => '\n' :: unifyBreaks rest
  | '\r' :: rest => '\n' :: unifyBreaks rest
  | c :: rest => c :: unifyBreaks rest

structure Placed where
  char : Char
  offset : Nat
  line : Nat
  column : Nat

def byteOrderMark : Char := '\ufeff'

def placeFrom (offset line column : Nat) : List Char → List Placed
  | [] => []
  | c :: rest =>
    ⟨c, offset, line, column⟩ ::
      if isBreak c then placeFrom (offset + 1) (line + 1) 0 rest
      else placeFrom (offset + 1) line (if c == byteOrderMark then column else column + 1) rest

def place (text : List Char) : List Placed :=
  (placeFrom 0 0 0 text).dropWhile fun here => here.offset == 0 && here.char == byteOrderMark

def atGap : List Placed → Bool
  | [] => true
  | next :: _ => isSpace next.char || isBreak next.char

def marks (c : Char) : List Placed → Bool
  | first :: second :: third :: rest =>
    first.char == c && second.char == c && third.char == c && atGap rest
  | _ => false

def atMarker (rest : List Placed) : Bool := marks '-' rest || marks '.' rest

end TaskLine.Yaml
