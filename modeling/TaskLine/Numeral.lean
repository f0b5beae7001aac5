namespace TaskLine.Numeral

def maxDigits : Nat := 4300

def overlongMessage (digits : Nat) : String :=
  "Exceeds the limit (" ++ maxDigits.repr ++
    " digits) for integer string conversion: value has " ++ digits.repr ++
    " digits; use sys.set_int_max_str_digits() to increase the limit"

end TaskLine.Numeral
