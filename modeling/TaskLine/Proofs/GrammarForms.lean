import TaskLine.Grammar
import TaskLine.Proofs.FilterExtent
import TaskLine.Proofs.ModificationWords

/-!
The one form that all grammars have: a filter where the grammar takes one, then a word that tells
the grammar, then what the grammar makes of both and of the arguments that follow.
-/

namespace TaskLine

namespace Grammar

def words : Grammar → List String
  | version => ["version", "--version"]
  | help => ["help", "--help", "-h"]
  | add => ["add"]
  | modify => Keyword.all.map Keyword.name
  | list => ["list"]
  | info => ["info", "debug"]
  | gc => ["gc"]
  | sync => ["sync"]

def takesFilter : Grammar → Bool
  | modify | list | info => true
  | version | help | add | gc | sync => false

def complete (filter : Filter) (word : String) (rest : Arguments) :
    Grammar → Subcommand × Arguments
  | version => (.version, rest)
  | help => (.help (word == "-h"), rest)
  | add => (.add (Modification.ofWords rest), [])
  | modify => (.modify filter ((Modification.ofWords rest).adjust word), [])
  | list => (.list ⟨filter⟩, rest)
  | info => (.info filter (word == "debug"), rest)
  | gc => (.gc, rest)
  | sync => (.sync, rest)

def afterFilter (grammar : Grammar) (filter : Filter) : Parser Subcommand
  | [] => .declined
  | word :: rest =>
    if word ∈ grammar.words then .found (grammar.complete filter word rest) else .declined

theorem mem_all (grammar : Grammar) : grammar ∈ all := by
  cases grammar <;> decide

theorem oneOf_map_eq_afterFilter (grammar : Grammar) (filter : Filter) (make : String → Subcommand)
    (h : ∀ word rest, grammar.complete filter word rest = (make word, rest)) :
    (Parser.oneOf grammar.words).map make = grammar.afterFilter filter := by
  funext args
  cases args with
  | nil => rw [Parser.map, Parser.oneOf_nil]; rfl
  | cons word rest =>
    rw [Parser.map, Parser.oneOf_cons, afterFilter]
    by_cases hword : word ∈ grammar.words
    · rw [if_pos hword, if_pos hword, h]; rfl
    · rw [if_neg hword, if_neg hword]; rfl

theorem literal_eq_oneOf (text : String) : Parser.literal text = Parser.oneOf [text] := by
  funext args
  cases args with
  | nil => rfl
  | cons first rest => simp [Parser.oneOf_cons]

theorem parser_of_keyword_first {grammar : Grammar} (h : grammar.takesFilter = false) :
    grammar.parser = grammar.afterFilter {} := by
  cases grammar with
  | version => exact oneOf_map_eq_afterFilter version {} _ fun _ _ => rfl
  | help => exact oneOf_map_eq_afterFilter help {} _ fun _ _ => rfl
  | gc =>
    rw [parser, literal_eq_oneOf]
    exact oneOf_map_eq_afterFilter gc {} _ fun _ _ => rfl
  | sync =>
    rw [parser, literal_eq_oneOf]
    exact oneOf_map_eq_afterFilter sync {} _ fun _ _ => rfl
  | add =>
    funext args
    cases args with
    | nil => rfl
    | cons word rest =>
      by_cases hword : word = "add"
      · simp [parser, Parser.map, Parser.pair, afterFilter, words, hword,
          Modification.parser_eq_found, complete]
      · simp [parser, Parser.map, Parser.pair, afterFilter, words, hword]
  | modify | list | info => exact Bool.noConfusion h

theorem keyword_pair_eq_afterFilter (filter : Filter) :
    ((Keyword.parser.pair Modification.parser).map fun (keyword, change) =>
      .modify filter (keyword.adjust change)) = modify.afterFilter filter := by
  funext args
  cases args with
  | nil => rfl
  | cons word rest =>
    rw [afterFilter, words]
    cases hname : Keyword.ofName? word with
    | some keyword =>
      rw [if_pos (Keyword.mem_names_iff.mpr ⟨keyword, hname⟩)]
      simp [Parser.map, Parser.pair, Keyword.parser, hname, Reading.ofOption,
        Modification.parser_eq_found, complete, Modification.adjust]
    | none =>
      have hword : word ∉ Keyword.all.map Keyword.name := by
        rw [Keyword.mem_names_iff, hname]
        simp
      rw [if_neg hword]
      simp [Parser.map, Parser.pair, Keyword.parser, hname, Reading.ofOption]

theorem parser_of_takesFilter {grammar : Grammar} (h : grammar.takesFilter = true)
    (args : Arguments) :
    grammar.parser args = (Filter.parser args).bind fun (filter, rest) =>
      grammar.afterFilter filter rest := by
  cases grammar with
  | modify =>
    simp only [← keyword_pair_eq_afterFilter]
    rw [parser, Parser.map_pair]
  | list =>
    have hform (filter : Filter) := oneOf_map_eq_afterFilter list filter
      (fun _ => .list { filter }) fun _ _ => rfl
    simp only [← hform]
    rw [parser, literal_eq_oneOf, Parser.map_pair, Report.parser, Parser.map, Reading.bind_map]
    rfl
  | info =>
    have hform (filter : Filter) := oneOf_map_eq_afterFilter info filter
      (fun word => .info filter (word == "debug")) fun _ _ => rfl
    simp only [← hform]
    rw [parser, Parser.map_pair]
    rfl
  | version | help | add | gc | sync => exact Bool.noConfusion h

def ofWord? (word : String) : Option Grammar := all.find? fun grammar => word ∈ grammar.words

theorem ofWord?_eq_some_iff {word : String} {grammar : Grammar} :
    ofWord? word = some grammar ↔ word ∈ grammar.words := by
  constructor
  · intro h
    have hfound := List.find?_some h
    exact of_decide_eq_true hfound
  · intro h
    have hall : ∀ grammar ∈ all, ∀ word ∈ grammar.words, ofWord? word = some grammar := by
      decide +kernel
    exact hall grammar (mem_all grammar) word h

theorem eq_of_mem_words {word : String} {grammar other : Grammar} (h : word ∈ grammar.words)
    (hother : word ∈ other.words) : grammar = other := by
  rw [← ofWord?_eq_some_iff] at h hother
  exact Option.some.inj (h.symm.trans hother)

/-- `add` looks hexadecimal and `-h` looks like a tag, but only the second is a filter argument. -/
theorem read_of_mem_words {word : String} {grammar : Grammar} (h : word ∈ grammar.words)
    (hword : word ≠ "-h") : Filter.Argument.read word = .declined := by
  have hall : ∀ grammar ∈ all, ∀ word ∈ grammar.words,
      word ≠ "-h" → Filter.Argument.read word = .declined := by
    decide +kernel
  exact hall grammar (mem_all grammar) word h hword

theorem afterFilter_of_mem {grammar : Grammar} {word : String} (h : word ∈ grammar.words)
    (filter : Filter) (rest : Arguments) :
    grammar.afterFilter filter (word :: rest) = .found (grammar.complete filter word rest) :=
  if_pos h

theorem afterFilter_ne_declined {grammar : Grammar} {filter : Filter} {args : Arguments}
    (h : grammar.afterFilter filter args ≠ .declined) :
    ∃ word rest, args = word :: rest ∧ word ∈ grammar.words ∧
      grammar.afterFilter filter args = .found (grammar.complete filter word rest) := by
  cases args with
  | nil => exact absurd rfl h
  | cons word rest =>
    by_cases hword : word ∈ grammar.words
    · exact ⟨word, rest, rfl, hword, afterFilter_of_mem hword filter rest⟩
    · exact absurd (if_neg hword) h

theorem parser_of_filter_found {grammar : Grammar} {args rest : Arguments} {filter : Filter}
    {word : String} (htakes : grammar.takesFilter = true) (hword : word ∈ grammar.words)
    (h : Filter.parser args = .found (filter, word :: rest)) :
    grammar.parser args = .found (grammar.complete filter word rest) := by
  rw [parser_of_takesFilter htakes, h]
  exact afterFilter_of_mem hword filter rest

theorem parser_of_filter_overlong {grammar : Grammar} {args : Arguments} {digits : Nat}
    (htakes : grammar.takesFilter = true) (h : Filter.parser args = .overlong digits) :
    grammar.parser args = .overlong digits := by
  rw [parser_of_takesFilter htakes, h, Reading.bind_overlong]

theorem parser_of_first_word {grammar : Grammar} {word : String}
    (htakes : grammar.takesFilter = false) (hword : word ∈ grammar.words) (rest : Arguments) :
    grammar.parser (word :: rest) = .found (grammar.complete {} word rest) := by
  rw [parser_of_keyword_first htakes]
  exact afterFilter_of_mem hword {} rest

theorem parser_cases {grammar : Grammar} {args : Arguments} (h : grammar.parser args ≠ .declined) :
    (grammar.takesFilter = false ∧ ∃ word rest, args = word :: rest ∧ word ∈ grammar.words ∧
      grammar.parser args = .found (grammar.complete {} word rest)) ∨
    (grammar.takesFilter = true ∧ ∃ filter word rest,
      Filter.parser args = .found (filter, word :: rest) ∧ word ∈ grammar.words ∧
      grammar.parser args = .found (grammar.complete filter word rest)) ∨
    (grammar.takesFilter = true ∧ ∃ digits, Filter.parser args = .overlong digits ∧
      grammar.parser args = .overlong digits) := by
  cases htakes : grammar.takesFilter with
  | false =>
    rw [parser_of_keyword_first htakes] at h ⊢
    exact .inl ⟨rfl, afterFilter_ne_declined h⟩
  | true =>
    refine .inr ?_
    rw [parser_of_takesFilter htakes] at h ⊢
    cases hfilter : Filter.parser args with
    | found answer =>
      obtain ⟨filter, rest⟩ := answer
      rw [hfilter, Reading.bind_found] at h
      obtain ⟨word, rest, rfl, hword, hfound⟩ := afterFilter_ne_declined h
      exact .inl ⟨rfl, filter, word, rest, rfl, hword, hfound⟩
    | declined => exact absurd hfilter (Filter.parser_ne_declined args)
    | overlong digits => exact .inr ⟨rfl, digits, rfl, rfl⟩

theorem exists_complete_of_found {grammar : Grammar} {args : Arguments}
    {answer : Subcommand × Arguments} (h : grammar.parser args = .found answer) :
    ∃ filter word rest, word ∈ grammar.words ∧ grammar.complete filter word rest = answer ∧
      (grammar.takesFilter = true → Filter.parser args = .found (filter, word :: rest)) := by
  have hne : grammar.parser args ≠ .declined := by simp [h]
  rcases parser_cases hne with ⟨htakes, word, rest, -, hword, hfound⟩ |
    ⟨-, filter, word, rest, hfilter, hword, hfound⟩ | ⟨-, digits, -, hoverlong⟩
  · rw [h, Reading.found.injEq] at hfound
    exact ⟨{}, word, rest, hword, hfound.symm, by simp [htakes]⟩
  · rw [h, Reading.found.injEq] at hfound
    exact ⟨filter, word, rest, hword, hfound.symm, fun _ => hfilter⟩
  · rw [h] at hoverlong
    cases hoverlong

end Grammar

end TaskLine
