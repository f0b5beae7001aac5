namespace TaskLine.Underflow

/-- The least number above zero is `2 ^ -1074`. Up to its half a number becomes zero. -/
def halfLeast : Nat := 1075

/-- Whether `mantissa / 10 ^ places` becomes zero. That many places settle it without their power of
ten. -/
def vanishes (mantissa places : Nat) : Bool :=
  mantissa.log2 + halfLeast < 3 * places || mantissa * Nat.pow 2 halfLeast ≤ Nat.pow 10 places

end TaskLine.Underflow
