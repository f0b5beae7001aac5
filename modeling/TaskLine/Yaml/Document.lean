import TaskLine.Yaml.Node
import TaskLine.Yaml.Plain

/-!
The value that a YAML document holds. Collections are filled from the outside in, so that of several
faults the outermost counts, and the first of those.
-/

namespace TaskLine.Yaml

structure Fault where
  depth : Nat
  reason : Rejection

abbrev Checked (α : Type) := Except Fault α

namespace Checked

def both : Checked α → Checked β → Checked (α × β)
  | .ok first, .ok second => .ok (first, second)
  | .ok _, .error fault => .error fault
  | .error fault, .ok _ => .error fault
  | .error fault, .error other => .error (if other.depth < fault.depth then other else fault)

def all : List (Checked α) → Checked (List α)
  | [] => .ok []
  | item :: items => (both item (all items)).map fun (item, items) => item :: items

def deeper (result : Checked α) : Checked α :=
  result.mapError fun fault => { fault with depth := fault.depth + 1 }

end Checked

namespace Node

def meaning (scalar : Scalar) : Except Rejection Meaning :=
  if scalar.plain then Plain.meaning scalar.text
  else .ok (.value (.text (String.ofList scalar.text)))

def isMerge : Node → Bool
  | scalar text => text.plain && text.text == ['<', '<']
  | sequence _ | mapping _ => false

def scalarValue (scalar : Scalar) : Except Rejection ConfigValue := do
  match ← meaning scalar with
  | .value value => return value
  | .mergeMark | .defaultMark => throw .malformed

def key : Node → Except Rejection ConfigValue
  | scalar text => do
    match ← meaning text with
    | .value value => return value
    | .defaultMark => return .text (String.ofList text.text)
    | .mergeMark => throw .malformed
  | sequence _ | mapping _ => throw .malformed

def atSurface (result : Except Rejection α) : Checked α := result.mapError (Fault.mk 0)

def within (node : Node) (value : Checked ConfigValue) : Checked ConfigValue :=
  match node with
  | scalar _ => value
  | sequence _ | mapping _ => value.deeper

abbrev Entries := List (Checked (ConfigValue × ConfigValue))

mutual

def value : Node → Checked ConfigValue
  | scalar text => atSurface (scalarValue text)
  | sequence items => (Checked.all (values items)).map .list
  | mapping pairs => do
    let entries ← atSurface (allEntries pairs)
    return .mapping (← Checked.all entries)

def values : List Node → List (Checked ConfigValue)
  | [] => []
  | item :: items => within item (value item) :: values items

/-- Entries brought in by merges come first, so that the mapping's own override them. -/
def allEntries (pairs : List (Node × Node)) : Except Rejection Entries := do
  let (brought, own) ← entries pairs
  return brought ++ own

def entries : List (Node × Node) → Except Rejection (Entries × Entries)
  | [] => return ([], [])
  | (name, item) :: pairs => do
    if name.isMerge then
      let merged ← merged item
      let (brought, own) ← entries pairs
      return (merged ++ brought, own)
    else
      let (brought, own) ← entries pairs
      return (brought, Checked.both (atSurface (key name)) (within item (value item)) :: own)

def merged : Node → Except Rejection Entries
  | scalar _ => throw .malformed
  | sequence items => return (← mergedAll items).reverse.flatten
  | mapping pairs => allEntries pairs

def mergedAll : List Node → Except Rejection (List Entries)
  | [] => return []
  | mapping pairs :: items => return (← allEntries pairs) :: (← mergedAll items)
  | _ :: _ => throw .malformed

end

end Node

def load (text : String) : Except Rejection ConfigValue := do
  let node ← Node.ofTokens (Token.ofText (unifyBreaks text.toList))
  node.value.mapError Fault.reason

end TaskLine.Yaml
