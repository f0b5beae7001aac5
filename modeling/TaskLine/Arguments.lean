namespace TaskLine

abbrev Arguments := List String

namespace Arguments

def advance (count : Int) (args : Arguments) : Arguments :=
  if 0 ≤ count then args.drop count.toNat else args.drop (args.length - (-count).toNat)

end Arguments

end TaskLine
