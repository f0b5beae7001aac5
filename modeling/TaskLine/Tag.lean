import TaskLine.Parser

namespace TaskLine.Tag

/-- A letter, and then letters, digits, underscores and dashes; letters and digits are ASCII. A name
never starts with a dash, so a long option such as `--help` is not a signed tag. -/
def isName : List Char → Bool
  | [] => false
  | first :: rest => first.isAlpha && rest.all fun c => c.isAlphanum || c == '_' || c == '-'

def signed? (sign : Char) (text : String) : Option String :=
  match text.toList with
  | [] => none
  | first :: name => if first = sign ∧ isName name then some (String.ofList name) else none

theorem signed?_eq_some_iff {sign : Char} {text name : String} :
    signed? sign text = some name ↔ text.toList = sign :: name.toList ∧ isName name.toList := by
  unfold signed?
  split
  · next h => simp [h]
  · next first rest h =>
    rw [h]
    split
    · next hname =>
      obtain ⟨rfl, hname⟩ := hname
      simp only [Option.some.injEq, List.cons.injEq, true_and]
      constructor
      · rintro rfl
        simpa using hname
      · rintro ⟨rfl, -⟩
        exact String.ofList_toList
    · next hname =>
      simp only [reduceCtorEq, List.cons.injEq, false_iff, not_and]
      rintro ⟨rfl, rfl⟩
      simpa using hname

def plus : Parser String := Parser.argument fun text => .ofOption (signed? '+' text)

def minus : Parser String := Parser.argument fun text => .ofOption (signed? '-' text)

end TaskLine.Tag
