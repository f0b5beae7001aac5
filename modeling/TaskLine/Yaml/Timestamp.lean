import TaskLine.ConfigValue
import TaskLine.Yaml.Number
import TaskLine.Yaml.Source

namespace TaskLine.Yaml

structure Clock where
  hour : Nat
  minute : Nat
  second : Nat
  offset : Int

structure Timestamp where
  year : Nat
  month : Nat
  day : Nat
  clock : Option Clock

namespace Timestamp

def digits? (least most : Nat) (text : List Char) : Option (Nat × List Char) :=
  let digits := text.takeWhile Char.isDigit
  if least ≤ digits.length ∧ digits.length ≤ most then
    some (Number.natOf 10 digits, text.dropWhile Char.isDigit)
  else none

def after? (mark : Char) : List Char → Option (List Char)
  | [] => none
  | first :: rest => if first = mark then some rest else none

def offsetMinutes? (text : List Char) : Option Nat := do
  let (hours, rest) ← digits? 1 2 text
  if rest = [] then return 60 * hours
  let (minutes, rest) ← digits? 2 2 (← after? ':' rest)
  if rest = [] then return 60 * hours + minutes else none

def offset? (text : List Char) : Option Int :=
  if text = [] then some 0
  else match text.dropWhile isSpace with
    | ['Z'] => some 0
    | '+' :: rest => (offsetMinutes? rest).map Int.ofNat
    | '-' :: rest => (offsetMinutes? rest).map fun minutes => -minutes
    | _ => none

def afterFraction : List Char → List Char
  | '.' :: rest => rest.dropWhile Char.isDigit
  | text => text

def clock? (text : List Char) : Option Clock := do
  let (hour, rest) ← digits? 1 2 text
  let (minute, rest) ← digits? 2 2 (← after? ':' rest)
  let (second, rest) ← digits? 2 2 (← after? ':' rest)
  return { hour, minute, second, offset := ← offset? (afterFraction rest) }

def read? (text : List Char) : Option Timestamp := do
  let (year, rest) ← digits? 4 4 text
  let (month, rest) ← digits? 1 2 (← after? '-' rest)
  let (day, rest) ← digits? 1 2 (← after? '-' rest)
  match rest with
  | [] => if text.length = 10 then return { year, month, day, clock := none } else none
  | mark :: rest =>
    let time ←
      if mark = 'T' ∨ mark = 't' then some rest
      else if isSpace mark then some (rest.dropWhile isSpace)
      else none
    return { year, month, day, clock := some (← clock? time) }

def daysIn (year month : Nat) : Nat :=
  if month = 2 then
    if year % 4 = 0 ∧ (year % 100 ≠ 0 ∨ year % 400 = 0) then 29 else 28
  else if month = 4 ∨ month = 6 ∨ month = 9 ∨ month = 11 then 30
  else 31

def checkDate (time : Timestamp) : Except Rejection Unit :=
  if time.year = 0 then .error (.yearOutOfRange time.year)
  else if time.month = 0 ∨ 12 < time.month then .error .monthOutOfRange
  else if time.day = 0 ∨ daysIn time.year time.month < time.day then .error .dayOutOfRange
  else .ok ()

def checkClock (clock : Clock) : Except Rejection Unit :=
  if 23 < clock.hour then .error .hourOutOfRange
  else if 59 < clock.minute then .error .minuteOutOfRange
  else if 59 < clock.second then .error .secondOutOfRange
  else .ok ()

def checkOffset (clock : Clock) : Except Rejection Unit :=
  if clock.offset.natAbs < 24 * 60 then .ok () else .error (.offsetOutOfRange clock.offset)

def value (time : Timestamp) : Except Rejection ConfigValue :=
  match time.clock with
  | none => do
    time.checkDate
    return .date
  | some clock => do
    checkOffset clock
    time.checkDate
    checkClock clock
    return .dateTime

end Timestamp

end TaskLine.Yaml
