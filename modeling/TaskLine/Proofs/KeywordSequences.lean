import TaskLine.Proofs.LaterArguments

namespace TaskLine

namespace Modification

def flags? (word : String) : Option Bool :=
  if word = "start" then some true else if word = "stop" then some false else none

def adjusting : List String := ["prepend", "append", "start", "stop", "done"]

def adjustEach (words : List String) (change : Modification) : Modification :=
  words.foldl (fun change word => change.adjust word) change

def kindAfter (words : List String) (kind : DescriptionKind) : DescriptionKind :=
  if kind = .set then (words.findSome? reclassifies?).getD .set else kind

theorem flags?_eq_none {word : String} (h : ∀ keyword : Keyword, word ≠ keyword.name) :
    flags? word = none := by
  have hstart : word ≠ "start" := h .start
  have hstop : word ≠ "stop" := h .stop
  simp [flags?, hstart, hstop]

section Word

variable (word : String) (change : Modification)

theorem adjust_keeps {β : Type} (part : Modification → β)
    (h : ∀ (keyword : Keyword) change, part (keyword.adjust change) = part change) :
    part (change.adjust word) = part change := by
  rcases adjust_cases word change with ⟨keyword, -, hkeyword⟩ | ⟨-, hnone⟩
  · rw [hkeyword, h]
  · rw [hnone]

theorem adjust_kind :
    (change.adjust word).description.kind = kindAfter [word] change.description.kind := by
  rcases adjust_cases word change with ⟨keyword, rfl, h⟩ | ⟨hnot, h⟩
  · rw [h, Keyword.adjust_kind]
    by_cases hset : change.description.kind = .set
    · cases keyword <;> simp [hset, kindAfter, reclassifies?, Keyword.name]
    · simp [hset, kindAfter]
  · rw [h, kindAfter, List.findSome?_singleton, reclassifies?_eq_none hnot]
    by_cases hset : change.description.kind = .set <;> simp [hset]

theorem adjust_active : (change.adjust word).active = (flags? word).or change.active := by
  rcases adjust_cases word change with ⟨keyword, rfl, h⟩ | ⟨hnot, h⟩
  · rw [h, Keyword.adjust_active]
    cases keyword <;> simp [flags?, Keyword.name]
  · rw [h, flags?_eq_none hnot, Option.none_or]

theorem adjust_status : (change.adjust word).status =
    if word = "done" then some .completed else change.status := by
  rcases adjust_cases word change with ⟨keyword, rfl, h⟩ | ⟨hnot, h⟩
  · rw [h, Keyword.adjust_status]
    cases keyword <;> simp [Keyword.name]
  · rw [h, if_neg (show word ≠ "done" from hnot .done)]

theorem adjust_of_not_mem (h : word ∉ adjusting) : change.adjust word = change := by
  rcases adjust_cases word change with ⟨keyword, rfl, hkeyword⟩ | ⟨-, hnone⟩
  · rw [hkeyword]
    cases keyword with
    | modify => rfl
    | prepend | append | start | stop | done => exact absurd h (by decide)
  · exact hnone

end Word

section Words

variable (words : List String) (change : Modification)

theorem adjustEach_cons (word : String) :
    adjustEach (word :: words) change = adjustEach words (change.adjust word) := rfl

theorem kindAfter_cons (word : String) (kind : DescriptionKind) :
    kindAfter (word :: words) kind = kindAfter words (kindAfter [word] kind) := by
  -- Once a word has named a kind, the description is no longer set and the other words are idle.
  by_cases hset : kind = .set
  · by_cases hprepend : word = "prepend"
    · simp [kindAfter, hset, hprepend, reclassifies?]
    · by_cases happend : word = "append" <;>
        simp [kindAfter, hset, hprepend, happend, reclassifies?]
  · simp [kindAfter, hset]

theorem adjustEach_keeps {β : Type} (part : Modification → β)
    (h : ∀ (keyword : Keyword) change, part (keyword.adjust change) = part change) :
    part (adjustEach words change) = part change := by
  induction words generalizing change with
  | nil => rfl
  | cons word words ih => rw [adjustEach_cons, ih, adjust_keeps word change part h]

theorem adjustEach_text? :
    (adjustEach words change).description.text? = change.description.text? :=
  adjustEach_keeps words change (fun change => change.description.text?) Keyword.adjust_text?

theorem adjustEach_kind :
    (adjustEach words change).description.kind = kindAfter words change.description.kind := by
  induction words generalizing change with
  | nil => by_cases hset : change.description.kind = .set <;> simp [adjustEach, kindAfter, hset]
  | cons word words ih => rw [adjustEach_cons, ih, adjust_kind, ← kindAfter_cons]

theorem adjustEach_active :
    (adjustEach words change).active = (words.reverse.findSome? flags?).or change.active := by
  induction words generalizing change with
  | nil => rfl
  | cons word words ih =>
    -- Read from the back, the first word comes last: it decides only where no later word does.
    rw [adjustEach_cons, ih, adjust_active, List.reverse_cons, List.findSome?_append,
      List.findSome?_singleton, Option.or_assoc]

theorem adjustEach_status : (adjustEach words change).status =
    if "done" ∈ words then some .completed else change.status := by
  induction words generalizing change with
  | nil => rfl
  | cons word words ih =>
    rw [adjustEach_cons, ih, adjust_status]
    by_cases hdone : "done" ∈ words
    · simp [hdone]
    · simp [hdone, eq_comm]

theorem adjustEach_filter :
    adjustEach (words.filter (· ∈ adjusting)) change = adjustEach words change := by
  induction words generalizing change with
  | nil => rfl
  | cons word words ih =>
    by_cases hword : word ∈ adjusting
    · rw [List.filter_cons_of_pos (by simpa using hword), adjustEach_cons, adjustEach_cons, ih]
    · rw [List.filter_cons_of_neg (by simpa using hword), adjustEach_cons, ih,
        adjust_of_not_mem word change hword]

theorem foldlM_adjust? :
    words.foldlM (fun change word => change.adjust? word) change = .ok (adjustEach words change) := by
  induction words generalizing change with
  | nil => rfl
  | cons word words ih =>
    rw [List.foldlM_cons, adjust?_eq_ok]
    exact ih (change.adjust word)

end Words

theorem adjustEach_effect (words : List String) (change : Modification) :
    let result := change.adjustEach words
    words.foldlM (fun change word => change.adjust? word) change = .ok result ∧
    result.addTags = change.addTags ∧ result.removeTags = change.removeTags ∧
    result.description.text? = change.description.text? ∧
    (change.description.kind = .set →
      result.description.kind = (words.findSome? reclassifies?).getD .set) ∧
    (change.description.kind ≠ .set → result.description.kind = change.description.kind) ∧
    result.active = (words.reverse.findSome? flags?).or change.active ∧
    result.status = (if "done" ∈ words then some .completed else change.status) ∧
    result = change.adjustEach (words.filter (· ∈ adjusting)) ∧
    ∀ kind text, DescriptionChange.ofParts? kind text = .ok change.description →
      DescriptionChange.ofParts? (kindAfter words kind) text = .ok result.description := by
  intro result
  have hkind := adjustEach_kind words change
  have htext := adjustEach_text? words change
  refine ⟨foldlM_adjust? words change, adjustEach_keeps words change addTags Keyword.adjust_addTags,
    adjustEach_keeps words change removeTags Keyword.adjust_removeTags, htext, ?_, ?_,
    adjustEach_active words change, adjustEach_status words change,
    (adjustEach_filter words change).symm, ?_⟩
  · intro hset
    exact hkind.trans (if_pos hset)
  · intro hset
    exact hkind.trans (if_neg hset)
  · intro kind text h
    obtain ⟨rfl, rfl⟩ := DescriptionChange.ofParts?_eq_ok_iff.mp h
    exact DescriptionChange.ofParts?_eq_ok_iff.mpr ⟨hkind, htext⟩

theorem adjustEach_effect_on_set :
    let words := ["stop", "append", "modify", "done", "prepend", "start", "frob", "done"]
    let change : Modification := { description := .set "a", status := some .deleted }
    DescriptionChange.ofParts? .set (some "a") = .ok change.description ∧
      (change.adjustEach words).description.kind = .append ∧
      DescriptionChange.ofParts? (kindAfter words .set) (some "a") =
        .ok (change.adjustEach words).description ∧
      (change.adjustEach words).active = some true ∧
      (change.adjustEach words).status = some .completed := by
  intro words change
  obtain ⟨-, -, -, -, hkind, -, hactive, hstatus, -, hchecked⟩ := adjustEach_effect words change
  refine ⟨rfl, ?_, hchecked .set (some "a") rfl, ?_, ?_⟩
  · rw [hkind rfl]
    decide
  · rw [hactive]
    decide
  · rw [hstatus]
    decide

end Modification

end TaskLine
