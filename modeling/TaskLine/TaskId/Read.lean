import TaskLine.Numeral
import TaskLine.Parser
import TaskLine.TaskId
import TaskLine.Text.Hex

/-!
Reading task ids. A run of digits is always a number, even where it has the form of a partial UUID.
-/

namespace TaskLine.TaskId

def isNumeral (text : List Char) : Bool := !text.isEmpty && text.all Char.isDigit

def isUuidOf (isDigit : Char → Bool) (text : List Char) : Bool :=
  8 ≤ text.length && text.length ≤ 36 && (text.take 8).all isDigit &&
    (text.drop 8).all fun c => isDigit c || c == '-'

def isPartialUuid (text : List Char) : Bool := isUuidOf Text.isHexDigit text

def read (text : List Char) : Reading TaskId :=
  if isNumeral text then
    if text.length > Numeral.maxDigits then .overlong text.length
    else if h : 0 < Nat.ofDigitChars 10 text 0 then .found (workingSet _ h)
    else .declined
  else if isPartialUuid text then .found (partialUuid (String.ofList (text.map Char.toLower)))
  else .declined

def parse (text : String) : Reading TaskId := read text.toList

def readEach : List (List Char) → Reading (List TaskId)
  | [] => .found []
  | item :: items => (read item).bind fun id => (readEach items).map (id :: ·)

def readList (text : String) : Reading (List TaskId) := readEach (text.toList.splitOn ',')

def listParser : Parser (List TaskId) := Parser.argument readList

theorem isNumeral_iff {text : List Char} :
    isNumeral text ↔ text ≠ [] ∧ text.all Char.isDigit := by
  rw [isNumeral, Bool.and_eq_true, Bool.not_eq_true', List.isEmpty_eq_false_iff]

section Uuids

variable {isDigit : Char → Bool} {text : List Char}

theorem isUuidOf_iff : isUuidOf isDigit text ↔
    8 ≤ text.length ∧ text.length ≤ 36 ∧ (∀ c ∈ text.take 8, isDigit c) ∧
      ∀ c ∈ text.drop 8, isDigit c ∨ c = '-' := by
  simp only [isUuidOf, Bool.and_eq_true, decide_eq_true_eq, List.all_eq_true, Bool.or_eq_true,
    beq_iff_eq, and_assoc]

theorem mem_of_isUuidOf (h : isUuidOf isDigit text) {c : Char} (hc : c ∈ text) :
    isDigit c ∨ c = '-' := by
  obtain ⟨-, -, hfirst, hrest⟩ := isUuidOf_iff.mp h
  rw [← List.take_append_drop 8 text, List.mem_append] at hc
  rcases hc with hc | hc
  · exact .inl (hfirst c hc)
  · exact hrest c hc

theorem isUuidOf_map {isOther : Char → Bool} {change : Char → Char}
    (hdigit : ∀ c, isDigit c → isOther (change c)) (hdash : change '-' = '-')
    (h : isUuidOf isDigit text) : isUuidOf isOther (text.map change) := by
  obtain ⟨hshort, hlong, hfirst, hrest⟩ := isUuidOf_iff.mp h
  rw [isUuidOf_iff, List.length_map, ← List.map_take, ← List.map_drop, List.forall_mem_map,
    List.forall_mem_map]
  refine ⟨hshort, hlong, fun c hc => hdigit c (hfirst c hc), ?_⟩
  intro c hc
  rcases hrest c hc with hc | rfl
  · exact .inl (hdigit c hc)
  · exact .inr hdash

end Uuids

end TaskLine.TaskId
