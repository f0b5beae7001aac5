import TaskLine.Numeral

namespace TaskLine.Yaml

inductive Rejection where
  | malformed
  | overlong (digits : Nat)
  | noDigits (base : Nat)
  | tooManySixties
  | yearOutOfRange (year : Nat)
  | monthOutOfRange
  | dayOutOfRange
  | hourOutOfRange
  | minuteOutOfRange
  | secondOutOfRange
  | offsetOutOfRange (minutes : Int)
  | codeOutOfRange
  | codeTooLarge
deriving DecidableEq, Repr

def spanText (minutes : Int) : String :=
  let seconds := minutes % 1440 * 60
  "datetime.timedelta(days=" ++ (minutes / 1440).repr ++
    (if seconds = 0 then "" else ", seconds=" ++ seconds.repr) ++ ")"

def Rejection.message : Rejection → String
  | malformed => "malformed document"
  | overlong digits => Numeral.overlongMessage digits
  | noDigits base => "invalid literal for int() with base " ++ base.repr ++ ": ''"
  | tooManySixties => "int too large to convert to float"
  | yearOutOfRange year => "year " ++ year.repr ++ " is out of range"
  | monthOutOfRange => "month must be in 1..12"
  | dayOutOfRange => "day is out of range for month"
  | hourOutOfRange => "hour must be in 0..23"
  | minuteOutOfRange => "minute must be in 0..59"
  | secondOutOfRange => "second must be in 0..59"
  | offsetOutOfRange minutes =>
    "offset must be a timedelta strictly between -timedelta(hours=24) and " ++
      "timedelta(hours=24), not " ++ spanText minutes ++ "."
  | codeOutOfRange => "chr() arg not in range(0x110000)"
  | codeTooLarge => "character code too large"

end TaskLine.Yaml
