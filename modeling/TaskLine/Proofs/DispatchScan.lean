import TaskLine.Proofs.DispatchOrder

/-!
The dispatcher as one scan of the arguments: the first argument decides, or else the one that stops
the filter, and the filter is read only once.
-/

namespace TaskLine.Subcommand

def scanWord (filter : Filter) : Parser Subcommand
  | [] => .declined
  | word :: rest =>
    if word ∈ ["modify", "prepend", "append", "start", "stop", "done"] then
      .found (.modify filter ((Modification.ofWords rest).adjust word), [])
    else match word with
      | "list" => .found (.list { filter }, rest)
      | "info" => .found (.info filter false, rest)
      | "debug" => .found (.info filter true, rest)
      | _ => .declined

def scan : Parser Subcommand
  | [] => .declined
  | first :: rest => match first with
    | "version" | "--version" => .found (.version, rest)
    | "help" | "--help" => .found (.help false, rest)
    | "-h" => .found (.help true, rest)
    | "gc" => .found (.gc, rest)
    | "sync" => .found (.sync, rest)
    | "add" => .found (.add (Modification.ofWords rest), [])
    | _ => (Filter.parser (first :: rest)).bind fun (filter, left) => scanWord filter left

open Grammar (words takesFilter complete)

theorem scan_of_first_word {grammar : Grammar} {word : String}
    (htakes : grammar.takesFilter = false) (hword : word ∈ grammar.words) (rest : Arguments) :
    scan (word :: rest) = .found (grammar.complete {} word rest) := by
  cases grammar with
  | version =>
    simp only [words, List.mem_cons, List.not_mem_nil, or_false] at hword
    rcases hword with rfl | rfl <;> simp [scan, complete]
  | help =>
    simp only [words, List.mem_cons, List.not_mem_nil, or_false] at hword
    rcases hword with rfl | rfl | rfl <;> simp [scan, complete]
  | add =>
    obtain rfl := List.mem_singleton.mp hword
    simp [scan, complete]
  | gc =>
    obtain rfl := List.mem_singleton.mp hword
    simp [scan, complete]
  | sync =>
    obtain rfl := List.mem_singleton.mp hword
    simp [scan, complete]
  | modify | list | info => exact Bool.noConfusion htakes

theorem scan_of_other_first_word {first : String} (rest : Arguments)
    (h : ∀ grammar : Grammar, grammar.takesFilter = false → first ∉ grammar.words) :
    scan (first :: rest) = (Filter.parser (first :: rest)).bind fun (filter, left) =>
      scanWord filter left := by
  rw [scan]
  · rintro rfl
    exact h .version rfl (by decide)
  · rintro rfl
    exact h .version rfl (by decide)
  · rintro rfl
    exact h .help rfl (by decide)
  · rintro rfl
    exact h .help rfl (by decide)
  · rintro rfl
    exact h .help rfl (by decide)
  · rintro rfl
    exact h .gc rfl (by decide)
  · rintro rfl
    exact h .sync rfl (by decide)
  · rintro rfl
    exact h .add rfl (by decide)

theorem scanWord_of_mem {grammar : Grammar} {word : String} (htakes : grammar.takesFilter = true)
    (hword : word ∈ grammar.words) (filter : Filter) (rest : Arguments) :
    scanWord filter (word :: rest) = .found (grammar.complete filter word rest) := by
  cases grammar with
  | modify => exact if_pos hword
  | list =>
    obtain rfl := List.mem_singleton.mp hword
    simp [scanWord, complete]
  | info =>
    simp only [words, List.mem_cons, List.not_mem_nil, or_false] at hword
    rcases hword with rfl | rfl <;> simp [scanWord, complete]
  | version | help | add | gc | sync => exact Bool.noConfusion htakes

theorem scanWord_of_not_mem {word : String} (filter : Filter) (rest : Arguments)
    (h : ∀ grammar : Grammar, grammar.takesFilter = true → word ∉ grammar.words) :
    scanWord filter (word :: rest) = .declined := by
  have hmodify : word ∉ ["modify", "prepend", "append", "start", "stop", "done"] := h .modify rfl
  rw [scanWord, if_neg hmodify]
  · rintro rfl
    exact h .list rfl (by decide)
  · rintro rfl
    exact h .info rfl (by decide)
  · rintro rfl
    exact h .info rfl (by decide)

theorem parser_of_first_word {grammar : Grammar} {word : String}
    (htakes : grammar.takesFilter = false) (hword : word ∈ grammar.words) (rest : Arguments) :
    parser (word :: rest) = .found (grammar.complete {} word rest) := by
  by_cases hhelp : word = "-h"
  · subst hhelp
    obtain rfl : Grammar.help = grammar := Grammar.eq_of_mem_words (by decide) hword
    exact parser_help rest
  · have hfound := Grammar.parser_of_first_word htakes hword rest
    exact parser_eq_of_grammar hfound (by simp) (by simpa using hhelp)

theorem parser_nil : parser [] = .declined := by
  rw [parser_eq_declined_iff]
  intro grammar
  cases htakes : grammar.takesFilter with
  | false =>
    rw [Grammar.parser_of_keyword_first htakes]
    rfl
  | true =>
    rw [Grammar.parser_of_takesFilter htakes, Filter.parser_nil]
    rfl

theorem parser_declined_of_filter {first : String} {rest : Arguments}
    (h : ∀ grammar : Grammar, grammar.takesFilter = false → first ∉ grammar.words)
    (hfilter : ∀ grammar : Grammar, grammar.takesFilter = true →
      grammar.parser (first :: rest) = .declined) : parser (first :: rest) = .declined := by
  rw [parser_eq_declined_iff]
  intro grammar
  cases htakes : grammar.takesFilter with
  | false => exact Grammar.parser_of_other_first_word htakes (h grammar htakes) rest
  | true => exact hfilter grammar htakes

theorem parser_of_other_first_word {first : String} (rest : Arguments)
    (h : ∀ grammar : Grammar, grammar.takesFilter = false → first ∉ grammar.words) :
    parser (first :: rest) = (Filter.parser (first :: rest)).bind fun (filter, left) =>
      scanWord filter left := by
  have hhead : (first :: rest).head? ≠ some "-h" := by
    intro hhead
    rw [List.head?_cons, Option.some.injEq] at hhead
    subst hhead
    exact h .help rfl (by decide)
  cases hfilter : Filter.parser (first :: rest) with
  | found answer =>
    obtain ⟨filter, left⟩ := answer
    simp only [Reading.bind_found]
    cases left with
    | nil =>
      apply parser_declined_of_filter h
      intro grammar htakes
      rw [Grammar.parser_of_takesFilter htakes, hfilter]
      rfl
    | cons word left =>
      by_cases hword : ∃ grammar : Grammar, grammar.takesFilter = true ∧ word ∈ grammar.words
      · obtain ⟨grammar, htakes, hword⟩ := hword
        have hfound := Grammar.parser_of_filter_found htakes hword hfilter
        rw [parser_eq_of_grammar hfound (by simp) hhead]
        exact (scanWord_of_mem htakes hword filter left).symm
      · have hnot : ∀ grammar : Grammar, grammar.takesFilter = true → word ∉ grammar.words :=
          fun grammar htakes hmem => hword ⟨grammar, htakes, hmem⟩
        rw [scanWord_of_not_mem filter left hnot]
        apply parser_declined_of_filter h
        intro grammar htakes
        exact Grammar.parser_of_other_word htakes (hnot grammar htakes) hfilter
  | declined => exact absurd hfilter (Filter.parser_ne_declined _)
  | overlong digits =>
    have hoverlong : Grammar.modify.parser (first :: rest) = .overlong digits :=
      Grammar.parser_of_filter_overlong rfl hfilter
    rw [parser_eq_of_grammar hoverlong (by simp) hhead, Reading.bind_overlong]

theorem parser_eq_scan :
    (∀ args, parser args = scan args) ∧
      ∀ args, Modification.parser args = .found (Modification.ofWords args, []) := by
  refine ⟨?_, Modification.parser_eq_found⟩
  intro args
  cases args with
  | nil => exact parser_nil
  | cons first rest =>
    by_cases h : ∃ grammar : Grammar, grammar.takesFilter = false ∧ first ∈ grammar.words
    · obtain ⟨grammar, htakes, hword⟩ := h
      rw [parser_of_first_word htakes hword, scan_of_first_word htakes hword]
    · have hnot : ∀ grammar : Grammar, grammar.takesFilter = false → first ∉ grammar.words :=
        fun grammar htakes hmem => h ⟨grammar, htakes, hmem⟩
      rw [parser_of_other_first_word rest hnot, scan_of_other_first_word rest hnot]

end TaskLine.Subcommand
