import TaskLine.Modification
import TaskLine.Parser

namespace TaskLine

inductive Keyword where
  | modify
  | prepend
  | append
  | start
  | stop
  | done
deriving DecidableEq, Repr

namespace Keyword

def all : List Keyword := [modify, prepend, append, start, stop, done]

def name : Keyword → String
  | modify => "modify"
  | prepend => "prepend"
  | append => "append"
  | start => "start"
  | stop => "stop"
  | done => "done"

def ofName? (text : String) : Option Keyword := all.find? (·.name = text)

def parser : Parser Keyword := Parser.argument fun text => .ofOption (ofName? text)

def adjust (keyword : Keyword) (change : Modification) : Modification :=
  match keyword, change.description with
  | prepend, .set text => { change with description := .prepend text }
  | append, .set text => { change with description := .append text }
  | start, _ => { change with active := some true }
  | stop, _ => { change with active := some false }
  | done, _ => { change with status := some .completed }
  | _, _ => change

theorem ofName?_name (keyword : Keyword) : ofName? keyword.name = some keyword := by
  cases keyword <;> decide +kernel

theorem mem_names_iff {word : String} :
    word ∈ all.map name ↔ ∃ keyword, ofName? word = some keyword := by
  constructor
  · intro h
    obtain ⟨keyword, -, rfl⟩ := List.mem_map.mp h
    exact ⟨keyword, ofName?_name keyword⟩
  · rintro ⟨keyword, h⟩
    have hname := List.find?_some h
    exact List.mem_map.mpr ⟨keyword, List.mem_of_find?_eq_some h, of_decide_eq_true hname⟩

theorem adjust_addTags (keyword : Keyword) (change : Modification) :
    (keyword.adjust change).addTags = change.addTags := by
  unfold adjust
  split <;> rfl

theorem adjust_removeTags (keyword : Keyword) (change : Modification) :
    (keyword.adjust change).removeTags = change.removeTags := by
  unfold adjust
  split <;> rfl

theorem adjust_text? (keyword : Keyword) (change : Modification) :
    (keyword.adjust change).description.text? = change.description.text? := by
  unfold adjust
  split
  · next hdescription => rw [hdescription]; rfl
  · next hdescription => rw [hdescription]; rfl
  all_goals rfl

theorem adjust_status (keyword : Keyword) (change : Modification) :
    (keyword.adjust change).status =
      if keyword = done then some .completed else change.status := by
  cases keyword <;> cases hdescription : change.description <;> simp [adjust, hdescription]

theorem adjust_active (keyword : Keyword) (change : Modification) :
    (keyword.adjust change).active =
      if keyword = start then some true else if keyword = stop then some false
      else change.active := by
  cases keyword <;> cases hdescription : change.description <;> simp [adjust, hdescription]

theorem adjust_kind (keyword : Keyword) (change : Modification) :
    (keyword.adjust change).description.kind =
      if change.description.kind = .set ∧ keyword = prepend then .prepend
      else if change.description.kind = .set ∧ keyword = append then .append
      else change.description.kind := by
  cases keyword <;> cases hdescription : change.description <;>
    simp [adjust, hdescription, DescriptionChange.kind]

end Keyword

namespace Modification

def adjust (word : String) (change : Modification) : Modification :=
  match Keyword.ofName? word with
  | some keyword => keyword.adjust change
  | none => change

def reclassifies? (word : String) : Option DescriptionKind :=
  if word = "prepend" then some .prepend else if word = "append" then some .append else none

/-- A text that would be set gets another kind, and with it has to pass the check. -/
def reclassify? (kind : DescriptionKind) (change : Modification) :
    Except InvalidValue Modification :=
  if change.description.isSet then
    (DescriptionChange.ofParts? kind change.description.text?).map fun description =>
      { change with description }
  else .ok change

def adjust? (word : String) (change : Modification) : Except InvalidValue Modification :=
  match reclassifies? word with
  | some kind => change.reclassify? kind
  | none => .ok (change.adjust word)

theorem adjust_name (keyword : Keyword) (change : Modification) :
    change.adjust keyword.name = keyword.adjust change := by
  rw [adjust, Keyword.ofName?_name]

theorem reclassifies?_eq_none {word : String} (h : ∀ keyword : Keyword, word ≠ keyword.name) :
    reclassifies? word = none := by
  have hprepend : word ≠ "prepend" := h .prepend
  have happend : word ≠ "append" := h .append
  simp [reclassifies?, hprepend, happend]

section Word

variable (word : String) (change : Modification)

theorem adjust_cases :
    (∃ keyword : Keyword, word = keyword.name ∧ change.adjust word = keyword.adjust change) ∨
      ((∀ keyword : Keyword, word ≠ keyword.name) ∧ change.adjust word = change) := by
  by_cases hname : ∃ keyword : Keyword, word = keyword.name
  · obtain ⟨keyword, rfl⟩ := hname
    exact .inl ⟨keyword, rfl, adjust_name keyword change⟩
  · have hnone : Keyword.ofName? word = none := by
      apply List.find?_eq_none.mpr
      intro keyword _ hfound
      exact hname ⟨keyword, (of_decide_eq_true hfound).symm⟩
    refine .inr ⟨fun keyword hword => hname ⟨keyword, hword⟩, ?_⟩
    rw [adjust, hnone]

theorem reclassify?_eq_ok {keyword : Keyword} {kind : DescriptionKind}
    (h : reclassifies? keyword.name = some kind) :
    change.reclassify? kind = .ok (keyword.adjust change) := by
  obtain ⟨description, status, active, addTags, removeTags⟩ := change
  -- The check cannot fail: only a description that would be set is built anew, and it has a text.
  cases keyword <;> simp [reclassifies?, Keyword.name] at h
  case prepend =>
    subst h
    cases description <;> rfl
  case append =>
    subst h
    cases description <;> rfl

theorem adjust?_eq_ok : change.adjust? word = .ok (change.adjust word) := by
  rw [adjust?]
  cases hkind : reclassifies? word with
  | none => rfl
  | some kind =>
    rcases adjust_cases word change with ⟨keyword, rfl, h⟩ | ⟨hnot, -⟩
    · rw [h]
      exact reclassify?_eq_ok change hkind
    · rw [reclassifies?_eq_none hnot] at hkind
      cases hkind

end Word

end Modification

end TaskLine
