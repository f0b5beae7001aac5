import TaskLine.ConfigValue
import TaskLine.Text.Hex
import TaskLine.Underflow
import TaskLine.Yaml.Rejection

namespace TaskLine.Yaml.Number

def infinityWords : List String := ["inf", "Inf", "INF"]

def notNumberWords : List String := ["nan", "NaN", "NAN"]

def unsigned : List Char → List Char
  | '-' :: rest | '+' :: rest => rest
  | text => text

def isBelow (base : Nat) (c : Char) : Bool := (Text.hexValue? c).any (· < base)

def isDigits (base : Nat) (text : List Char) : Bool := text.all fun c => isBelow base c || c == '_'

def isNumber : List Char → Bool
  | [] => false
  | first :: rest => first.isDigit && isDigits 10 rest

def isSixtieth : List Char → Bool
  | [low] => low.isDigit
  | [high, low] => isBelow 6 high && low.isDigit
  | _ => false

def isSexagesimal (text : List Char) : Bool :=
  match text.splitOn ':' with
  | first :: second :: rest => isNumber first && (second :: rest).all isSixtieth
  | _ => false

def digits (text : List Char) : List Nat := text.filterMap Text.hexValue?

def natOf (base : Nat) (text : List Char) : Nat :=
  (digits text).foldl (fun sofar digit => base * sofar + digit) 0

def sixtiesOf (text : List Char) : Nat :=
  (text.splitOn ':').foldl (fun sofar part => 60 * sofar + natOf 10 part) 0

def marked? (base : Nat) (text : List Char) : Option (Except Rejection Nat) :=
  if text = [] ∨ !isDigits base text then none
  else if digits text = [] then some (.error (.noDigits base))
  else some (.ok (natOf base text))

def bounded (first : List Char) (size : Nat) : Except Rejection Nat :=
  let length := (digits first).length
  if length > Numeral.maxDigits then .error (.overlong length) else .ok size

def size? : List Char → Option (Except Rejection Nat)
  | ['0'] => some (.ok 0)
  | '0' :: 'b' :: rest => marked? 2 rest
  | '0' :: 'x' :: rest => marked? 16 rest
  | '0' :: rest => if isDigits 8 rest then some (.ok (natOf 8 rest)) else none
  | text =>
    if isNumber text then some (bounded text (natOf 10 text))
    else if isSexagesimal text then some (bounded (text.takeWhile (· != ':')) (sixtiesOf text))
    else none

def integer? (text : List Char) : Option (Except Rejection ConfigValue) :=
  (size? (unsigned text)).map fun size => size.map fun size =>
    .integer (if text.head? = some '-' then -(size : Int) else size)

def exponent? : List Char → Option Int
  | [] => some 0
  | mark :: sign :: first :: rest =>
    let size : Int := natOf 10 (first :: rest)
    if !((mark == 'e' || mark == 'E') && (first :: rest).all Char.isDigit) then none
    else if sign == '-' then some (-size)
    else if sign == '+' then some size
    else none
  | _ => none

/-- A colon in the whole part makes no difference here: with a digit other than zero before the
point the number is no smaller than one. -/
def decimal (whole fraction : List Char) (exponent : Int) : ConfigValue :=
  .decimal (Underflow.vanishes (natOf 10 (whole ++ fraction))
    ((digits fraction).length - exponent).toNat)

/-- The last power of sixty within double precision, whose numbers end below `2 ^ 1024`. -/
def maxSixties : Nat := 173

def decimal? (text : List Char) : Option (Except Rejection ConfigValue) :=
  let whole := text.takeWhile (· != '.')
  match text.dropWhile (· != '.') with
  | [] => none
  | _ :: tail =>
    let fraction := tail.takeWhile fun c => c.isDigit || c == '_'
    let exponent := tail.dropWhile fun c => c.isDigit || c == '_'
    let word := String.ofList tail
    if unsigned whole = [] ∧ infinityWords.contains word then some (.ok (.decimal false))
    else if whole = [] ∧ notNumberWords.contains word then some (.ok (.decimal false))
    else if isNumber (unsigned whole) ∨ (whole = [] ∧ isNumber fraction) then
      (exponent? exponent).map fun exponent => .ok (decimal whole fraction exponent)
    else if isSexagesimal (unsigned whole) ∧ exponent = [] then
      if whole.count ':' > maxSixties then some (.error .tooManySixties)
      else some (.ok (decimal whole fraction 0))
    else none

end TaskLine.Yaml.Number
