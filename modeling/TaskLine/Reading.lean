/-!
What an attempt to read something comes to. Declining is the ordinary failure, after which another
alternative may be tried; a numeral too long to be converted ends all reading.
-/

namespace TaskLine

inductive Reading (α : Type) where
  | found (value : α)
  | declined
  | overlong (digits : Nat)
deriving DecidableEq, Repr

namespace Reading

variable {α β : Type}

def ofOption : Option α → Reading α
  | some value => .found value
  | none => .declined

def map (f : α → β) : Reading α → Reading β
  | .found value => .found (f value)
  | .declined => .declined
  | .overlong digits => .overlong digits

def bind : Reading α → (α → Reading β) → Reading β
  | .found value, next => next value
  | .declined, _ => .declined
  | .overlong digits, _ => .overlong digits

def orElse : Reading α → (Unit → Reading α) → Reading α
  | .found value, _ => .found value
  | .declined, other => other ()
  | .overlong digits, _ => .overlong digits

@[simp] theorem map_found (f : α → β) (value : α) : map f (.found value) = .found (f value) := rfl

@[simp] theorem map_declined (f : α → β) : map f (.declined : Reading α) = .declined := rfl

@[simp] theorem map_overlong (f : α → β) (digits : Nat) :
    map f (.overlong digits : Reading α) = .overlong digits := rfl

@[simp] theorem bind_found (value : α) (next : α → Reading β) :
    bind (.found value) next = next value := rfl

@[simp] theorem bind_declined (next : α → Reading β) :
    bind (.declined : Reading α) next = .declined := rfl

@[simp] theorem bind_overlong (digits : Nat) (next : α → Reading β) :
    bind (.overlong digits : Reading α) next = .overlong digits := rfl

@[simp] theorem orElse_found (value : α) (other : Unit → Reading α) :
    orElse (.found value) other = .found value := rfl

@[simp] theorem orElse_declined (other : Unit → Reading α) :
    orElse (.declined : Reading α) other = other () := rfl

@[simp] theorem orElse_overlong (digits : Nat) (other : Unit → Reading α) :
    orElse (.overlong digits : Reading α) other = .overlong digits := rfl

instance (reading : Reading α) : Decidable (∃ value, reading = .found value) :=
  match reading with
  | .found value => isTrue ⟨value, rfl⟩
  | .declined => isFalse (by simp)
  | .overlong _ => isFalse (by simp)

end Reading

end TaskLine
