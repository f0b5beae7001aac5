import TaskLine.Arguments
import TaskLine.Reading

namespace TaskLine

abbrev Parser (α : Type) := Arguments → Reading (α × Arguments)

namespace Parser

variable {α β : Type}

def succeed (value : α) : Parser α := fun args => .found (value, args)

def argument (read : String → Reading α) : Parser α
  | [] => .declined
  | first :: rest => (read first).map fun value => (value, rest)

def literal (text : String) : Parser String :=
  argument fun first => if first = text then .found first else .declined

def anyArgument : Parser String := argument .found

def map (f : α → β) (p : Parser α) : Parser β := fun args =>
  (p args).map fun (value, rest) => (f value, rest)

def alt : List (Parser α) → Parser α
  | [], _ => .declined
  | p :: ps, args => (p args).orElse fun _ => alt ps args

def oneOf (options : List String) : Parser String := alt (options.map literal)

def pair (p : Parser α) (q : Parser β) : Parser (α × β) := fun args =>
  (p args).bind fun (first, rest) => (q rest).map fun (second, left) => ((first, second), left)

def sequence : List (Parser α) → Parser (List α)
  | [], args => .found ([], args)
  | p :: ps, args =>
    (p args).bind fun (value, rest) => (sequence ps rest).map fun (values, left) =>
      (value :: values, left)

/-- Repeats a parser as long as it consumes something. The value of a step that consumes nothing is
dropped. -/
def many (p : Parser α) : Parser (List α) := fun args =>
  match p args with
  | .found (value, rest) =>
    if rest.length < args.length then
      (many p rest).map fun (values, left) => (value :: values, left)
    else .found ([], args)
  | .declined => .found ([], args)
  | .overlong digits => .overlong digits
termination_by args => args.length

theorem many_eq (p : Parser α) (args : Arguments) :
    many p args = match p args with
      | .found (value, rest) =>
        if rest.length < args.length then
          (many p rest).map fun (values, left) => (value :: values, left)
        else .found ([], args)
      | .declined => .found ([], args)
      | .overlong digits => .overlong digits := by
  rw [many]

@[simp] theorem argument_nil (read : String → Reading α) : argument read [] = .declined := rfl

@[simp] theorem argument_cons (read : String → Reading α) (first : String) (rest : Arguments) :
    argument read (first :: rest) = (read first).map fun value => (value, rest) := rfl

@[simp] theorem literal_cons (text first : String) (rest : Arguments) :
    literal text (first :: rest) = if first = text then .found (first, rest) else .declined := by
  unfold literal
  split <;> simp_all

@[simp] theorem alt_nil (args : Arguments) : alt ([] : List (Parser α)) args = .declined := rfl

@[simp] theorem alt_cons (p : Parser α) (ps : List (Parser α)) (args : Arguments) :
    alt (p :: ps) args = (p args).orElse fun _ => alt ps args := rfl

@[simp] theorem oneOf_nil (options : List String) : oneOf options [] = .declined := by
  induction options with
  | nil => rfl
  | cons option options ih => exact ih

theorem oneOf_cons (options : List String) (first : String) (rest : Arguments) :
    oneOf options (first :: rest) =
      if first ∈ options then .found (first, rest) else .declined := by
  induction options with
  | nil => rfl
  | cons option options ih =>
    rw [oneOf, List.map_cons, alt_cons, literal_cons]
    by_cases h : first = option
    · simp [h]
    · simp only [h, ↓reduceIte, Reading.orElse_declined, List.mem_cons, false_or]
      exact ih

end Parser

end TaskLine
