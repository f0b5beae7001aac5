import TaskLine.Proofs.OverlongNumerals

/-!
How a command line opens: arguments of a filter, and then the word that tells its grammar, which is
none of them. Nothing after that word has a say in which grammar matches or what its filter is.
-/

namespace TaskLine

def Subcommand.takesAll : Subcommand → Bool
  | add _ | modify _ _ => true
  | version | help _ | list _ | info _ _ | gc | sync => false

namespace Grammar

/-- After these arguments, which make this filter, the word tells the grammar. -/
structure Opens (grammar : Grammar) (taken : Arguments) (filter : Filter) (word : String) :
    Prop where
  tells : word ∈ grammar.words
  filters : Filter.parser taken = .found (filter, [])
  bare : grammar.takesFilter = false → taken = []
  not_help : taken.head? ≠ some "-h"

section Opens

variable {grammar : Grammar} {taken : Arguments} {filter : Filter} {word : String}

theorem opens_nil (h : word ∈ grammar.words) : grammar.Opens [] {} word :=
  ⟨h, Filter.parser_nil, fun _ => rfl, by simp⟩

theorem Opens.isArgument (h : grammar.Opens taken filter word) :
    ∀ text ∈ taken, Filter.IsArgument text :=
  Filter.parser_all_iff.mp ⟨filter, h.filters⟩

theorem ne_help_of_takesFilter (hword : word ∈ grammar.words) (h : grammar.takesFilter = true) :
    word ≠ "-h" := by
  rintro rfl
  have hhelp : help = grammar := eq_of_mem_words (by decide) hword
  subst hhelp
  exact Bool.noConfusion h

theorem not_isArgument_of_mem_words (h : word ∈ grammar.words) (hword : word ≠ "-h") :
    ¬ Filter.IsArgument word :=
  Filter.not_isArgument_of_declined (read_of_mem_words h hword)

theorem Opens.not_isArgument (h : grammar.Opens taken filter word) {left : Arguments}
    (hhead : (taken ++ word :: left).head? ≠ some "-h") : ¬ Filter.IsArgument word := by
  apply not_isArgument_of_mem_words h.tells
  rintro rfl
  have hhelp : help = grammar := eq_of_mem_words (by decide) h.tells
  rw [h.bare (by rw [← hhelp]; rfl)] at hhead
  exact hhead rfl

theorem Opens.head?_ne (h : grammar.Opens taken filter word) (hword : word ≠ "-h")
    (left : Arguments) : (taken ++ word :: left).head? ≠ some "-h" := by
  cases taken with
  | nil => simpa using hword
  | cons first taken => exact h.not_help

end Opens

theorem grammar_of_dispatch {grammar : Grammar} {args rest : Arguments} {subcommand : Subcommand}
    (h : dispatch args = .found ((grammar, subcommand), rest)) :
    grammar.parser args = .found (subcommand, rest) := by
  have hne : dispatch args ≠ .declined := by simp [h]
  obtain ⟨before, p, after, hall, -, hp⟩ := Parser.exists_deciding hne
  have hmem : p ∈ all.map fun grammar => grammar.parser.map (grammar, ·) := by simp [hall]
  obtain ⟨other, -, rfl⟩ := List.mem_map.mp hmem
  change Parser.map (other, ·) other.parser args = dispatch args at hp
  rw [h, Parser.map] at hp
  cases hother : other.parser args with
  | found answer =>
    rw [hother, Reading.map_found, Reading.found.injEq, Prod.mk.injEq, Prod.mk.injEq] at hp
    obtain ⟨⟨rfl, rfl⟩, rfl⟩ := hp
    exact hother
  | declined => simp [hother] at hp
  | overlong digits => simp [hother] at hp

theorem dispatch_of_grammar {grammar : Grammar} {args rest : Arguments} {subcommand : Subcommand}
    (h : grammar.parser args = .found (subcommand, rest)) (hhead : args.head? ≠ some "-h") :
    dispatch args = .found ((grammar, subcommand), rest) := by
  have hparser : Parser.map (grammar, ·) grammar.parser args =
      .found ((grammar, subcommand), rest) := by
    rw [Parser.map, h]
    rfl
  rw [← hparser]
  apply Parser.alt_eq_of_agree
  · exact List.mem_map.mpr ⟨grammar, mem_all grammar, rfl⟩
  · simp [hparser]
  · intro q hq hne
    obtain ⟨other, -, rfl⟩ := List.mem_map.mp hq
    have hother : other.parser args ≠ .declined := by
      intro hdeclined
      simp [Parser.map, hdeclined] at hne
    have hmatches : grammar.Matches args := ⟨_, h⟩
    rcases eq_or_overlong hmatches.ne_declined hother (.inr hhead) with rfl |
      ⟨htakes, -, digits, hfilter⟩
    · rfl
    · exact absurd hfilter (not_overlong_of_matches hmatches htakes)

theorem dispatch_help (rest : Arguments) :
    dispatch ("-h" :: rest) = .found ((help, .help true), rest) := by
  have hversion : version.parser ("-h" :: rest) = .declined :=
    parser_of_other_first_word rfl (by decide) rest
  rw [dispatch, dispatchIn, all, List.map_cons, Parser.alt_cons, Parser.map, hversion,
    Reading.map_declined, Reading.orElse_declined, List.map_cons, Parser.alt_cons, Parser.map,
    help_parser_found]
  rfl

theorem Opens.dispatch_eq {grammar : Grammar} {taken : Arguments} {filter : Filter} {word : String}
    (h : grammar.Opens taken filter word) (left : Arguments) :
    dispatch (taken ++ word :: left) =
      .found ((grammar, (grammar.complete filter word left).1),
        (grammar.complete filter word left).2) := by
  cases htakes : grammar.takesFilter with
  | true =>
    have hword := ne_help_of_takesFilter h.tells htakes
    have hfilter : Filter.parser (taken ++ word :: left) = .found (filter, word :: left) :=
      Filter.parser_eq_found_iff_taken.mpr
        ⟨taken, rfl, h.filters, by simpa using read_of_mem_words h.tells hword⟩
    exact dispatch_of_grammar (parser_of_filter_found htakes h.tells hfilter) (h.head?_ne hword left)
  | false =>
    have htaken := h.bare htakes
    have hfilters := h.filters
    rw [htaken, Filter.parser_nil, Reading.found.injEq, Prod.mk.injEq] at hfilters
    rw [htaken, ← hfilters.1, List.nil_append]
    by_cases hword : word = "-h"
    · subst hword
      have hhelp : help = grammar := eq_of_mem_words (by decide) h.tells
      rw [← hhelp]
      exact dispatch_help left
    · apply dispatch_of_grammar (parser_of_first_word htakes h.tells left)
      simpa using hword

theorem exists_opens_of_dispatch {grammar : Grammar} {args rest : Arguments}
    {subcommand : Subcommand} (h : dispatch args = .found ((grammar, subcommand), rest)) :
    ∃ taken filter word left, args = taken ++ word :: left ∧ grammar.Opens taken filter word ∧
      grammar.complete filter word left = (subcommand, rest) := by
  have hparser := grammar_of_dispatch h
  have hne : grammar.parser args ≠ .declined := by simp [hparser]
  rcases parser_cases hne with ⟨htakes, word, left, rfl, hword, hfound⟩ |
    ⟨htakes, filter, word, left, hfilter, hword, hfound⟩ | ⟨-, digits, -, hoverlong⟩
  · rw [hparser, Reading.found.injEq] at hfound
    exact ⟨[], {}, word, left, rfl, opens_nil hword, hfound.symm⟩
  · rw [hparser, Reading.found.injEq] at hfound
    obtain ⟨taken, rfl, htaken, -⟩ := Filter.parser_eq_found_iff_taken.mp hfilter
    refine ⟨taken, filter, word, left, rfl, ⟨hword, htaken, by simp [htakes], ?_⟩, hfound.symm⟩
    -- `-h` in front would have asked for help, which takes no filter.
    intro hhead
    obtain ⟨others, rfl⟩ := List.head?_eq_some_iff.mp hhead
    rw [List.cons_append, dispatch_help, Reading.found.injEq, Prod.mk.injEq, Prod.mk.injEq] at h
    rw [← h.1.1] at htakes
    exact Bool.noConfusion htakes
  · simp [hparser] at hoverlong

theorem dispatch_eq_found_iff {grammar : Grammar} {args rest : Arguments}
    {subcommand : Subcommand} :
    dispatch args = .found ((grammar, subcommand), rest) ↔
      ∃ taken filter word left, args = taken ++ word :: left ∧ grammar.Opens taken filter word ∧
        grammar.complete filter word left = (subcommand, rest) := by
  constructor
  · exact exists_opens_of_dispatch
  · rintro ⟨taken, filter, word, left, rfl, hopens, hcomplete⟩
    rw [hopens.dispatch_eq, hcomplete]

theorem dispatch_of_arguments {args : Arguments} (h : ∀ text ∈ args, Filter.IsArgument text)
    (hhead : args.head? ≠ some "-h") : dispatch args = .declined := by
  cases hdispatch : dispatch args with
  | found answer =>
    obtain ⟨⟨grammar, subcommand⟩, rest⟩ := answer
    obtain ⟨taken, filter, word, left, rfl, hopens, -⟩ := dispatch_eq_found_iff.mp hdispatch
    exact absurd (h word (by simp)) (hopens.not_isArgument hhead)
  | declined => rfl
  | overlong digits =>
    rw [Command.dispatch_eq_overlong_iff, Subcommand.parser_eq_overlong_iff] at hdispatch
    obtain ⟨-, taken, text, rest, rfl, -, htext⟩ := hdispatch
    exact absurd (h text (by simp)) (Filter.not_isArgument_of_overlong htext)

theorem complete_of_not_takesAll {grammar : Grammar} {filter : Filter} {word : String}
    {left rest : Arguments} {subcommand : Subcommand}
    (h : grammar.complete filter word left = (subcommand, rest))
    (htakes : subcommand.takesAll = false) :
    rest = left ∧ ∀ others, grammar.complete filter word others = (subcommand, others) := by
  cases grammar with
  | version | help | list | info | gc | sync =>
    rw [complete, Prod.mk.injEq] at h
    obtain ⟨rfl, rfl⟩ := h
    exact ⟨rfl, fun others => rfl⟩
  | add | modify =>
    rw [complete, Prod.mk.injEq] at h
    rw [← h.1] at htakes
    exact Bool.noConfusion htakes

theorem takesAll_of_complete {grammar : Grammar} {filter : Filter} {word : String}
    {left rest : Arguments} {subcommand : Subcommand}
    (h : grammar.complete filter word left = (subcommand, rest)) (hrest : rest ≠ []) :
    subcommand.takesAll = false := by
  cases grammar with
  | version | help | list | info | gc | sync =>
    rw [complete, Prod.mk.injEq] at h
    rw [← h.1]
    rfl
  | add | modify =>
    rw [complete, Prod.mk.injEq] at h
    exact absurd h.2.symm hrest

end Grammar

end TaskLine
