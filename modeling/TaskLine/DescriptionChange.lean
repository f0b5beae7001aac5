import TaskLine.InvalidValue
import TaskLine.Text.Quoted

namespace TaskLine

inductive DescriptionChange where
  | unset
  | set (text : String)
  | append (text : String)
  | prepend (text : String)
deriving DecidableEq, Repr

namespace DescriptionChange

def kind : DescriptionChange → DescriptionKind
  | unset => .unset
  | set _ => .set
  | append _ => .append
  | prepend _ => .prepend

def text? : DescriptionChange → Option String
  | unset => none
  | set text | append text | prepend text => some text

def isSet (change : DescriptionChange) : Bool := change.kind = .set

def ofParts? : DescriptionKind → Option String → Except InvalidValue DescriptionChange
  | .unset, none => .ok unset
  | .unset, some _ => .error .unsetDescriptionWithText
  | .set, some text => .ok (set text)
  | .append, some text => .ok (append text)
  | .prepend, some text => .ok (prepend text)
  | kind, none => .error (.descriptionWithoutText kind)

def ofNamedParts? (kind : String) (text : Option String) : Except InvalidValue DescriptionChange :=
  match DescriptionKind.ofName? kind with
  | some kind => ofParts? kind text
  | none => .error .unknownDescriptionKind

def toString (change : DescriptionChange) : String :=
  match change.text? with
  | none => change.kind.name
  | some text => change.kind.name ++ "(" ++ Text.quote text ++ ")"

instance : ToString DescriptionChange := ⟨toString⟩

theorem text?_eq_none_iff {change : DescriptionChange} :
    change.text? = none ↔ change.kind = .unset := by
  cases change <;> simp [text?, kind]

theorem toString_of_none {change : DescriptionChange} (h : change.text? = none) :
    change.toString = change.kind.name := by
  rw [toString, h]

theorem toString_of_some {change : DescriptionChange} {text : String}
    (h : change.text? = some text) :
    change.toString = change.kind.name ++ "(" ++ Text.quote text ++ ")" := by
  rw [toString, h]

theorem ofParts?_kind_text? (change : DescriptionChange) :
    ofParts? change.kind change.text? = .ok change := by
  cases change <;> rfl

theorem ofParts?_eq_ok_iff {kind : DescriptionKind} {text : Option String}
    {change : DescriptionChange} :
    ofParts? kind text = .ok change ↔ change.kind = kind ∧ change.text? = text := by
  constructor
  · intro h
    cases kind <;> cases text <;> cases h <;> exact ⟨rfl, rfl⟩
  · rintro ⟨rfl, rfl⟩
    exact ofParts?_kind_text? change

end DescriptionChange

end TaskLine
