import TaskLine.Text.Hex
import TaskLine.Text.Printable

namespace TaskLine.Text

def singleQuote : Char := '\x27'

def doubleQuote : Char := '\x22'

def quoteMark (text : List Char) : Char :=
  if singleQuote ∈ text ∧ doubleQuote ∉ text then doubleQuote else singleQuote

def escapeChar (mark c : Char) : List Char :=
  if c = mark ∨ c = '\\' then ['\\', c]
  else if c = '\t' then ['\\', 't']
  else if c = '\n' then ['\\', 'n']
  else if c = '\r' then ['\\', 'r']
  else if isPrintable c then [c]
  else if c.toNat < 0x100 then '\\' :: 'x' :: hexDigits 2 c.toNat
  else if c.toNat < 0x10000 then '\\' :: 'u' :: hexDigits 4 c.toNat
  else '\\' :: 'U' :: hexDigits 8 c.toNat

def quoteChars (text : List Char) : List Char :=
  quoteMark text :: text.flatMap (escapeChar (quoteMark text)) ++ [quoteMark text]

def quote (text : String) : String := String.ofList (quoteChars text.toList)

def quoteList : List String → String
  | [] => "()"
  | [text] => "(" ++ quote text ++ ",)"
  | texts => "(" ++ ", ".intercalate (texts.map quote) ++ ")"

end TaskLine.Text
