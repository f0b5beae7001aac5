import Mathlib.Data.List.Basic
import TaskLine.Proofs.GrammarForms

/-!
What the order of the grammars decides: nothing, except where a command line begins with `-h`, which
asks for help and is a filter argument too.
-/

namespace TaskLine

namespace Grammar

def Matches (grammar : Grammar) (args : Arguments) : Prop :=
  ∃ answer, grammar.parser args = .found answer

def Precedes (order : List Grammar) (grammar other : Grammar) : Prop :=
  order.idxOf grammar < order.idxOf other

instance (order : List Grammar) (grammar other : Grammar) :
    Decidable (Precedes order grammar other) :=
  inferInstanceAs (Decidable (order.idxOf grammar < order.idxOf other))

theorem Matches.ne_declined {grammar : Grammar} {args : Arguments} (h : grammar.Matches args) :
    grammar.parser args ≠ .declined := by
  obtain ⟨answer, hanswer⟩ := h
  simp [hanswer]

theorem dispatchIn_map_snd (order : List Grammar) :
    Parser.map Prod.snd (dispatchIn order) = Parser.alt (order.map parser) := by
  funext args
  rw [dispatchIn, Parser.map]
  induction order with
  | nil => rfl
  | cons grammar order ih =>
    simp only [List.map_cons, Parser.alt_cons, Reading.map_orElse, ih]
    rw [Parser.map, Reading.map_map]
    cases grammar.parser args <;> rfl

theorem parser_of_other_first_word {grammar : Grammar} {word : String}
    (htakes : grammar.takesFilter = false) (hword : word ∉ grammar.words) (rest : Arguments) :
    grammar.parser (word :: rest) = .declined := by
  rw [parser_of_keyword_first htakes]
  exact if_neg hword

theorem parser_of_other_word {grammar : Grammar} {args rest : Arguments} {filter : Filter}
    {word : String} (htakes : grammar.takesFilter = true) (hword : word ∉ grammar.words)
    (h : Filter.parser args = .found (filter, word :: rest)) :
    grammar.parser args = .declined := by
  rw [parser_of_takesFilter htakes, h]
  exact if_neg hword

theorem declined_of_keyword_first {grammar other : Grammar} {args : Arguments}
    (h : grammar.parser args ≠ .declined) (htakes : grammar.takesFilter = false)
    (hother : other.takesFilter = true) (hhead : args.head? ≠ some "-h") :
    other.parser args = .declined := by
  rw [parser_of_keyword_first htakes] at h
  obtain ⟨word, rest, rfl, hword, -⟩ := afterFilter_ne_declined h
  have hhelp : word ≠ "-h" := by simpa using hhead
  have hnot : word ∉ other.words := by
    intro hmem
    rw [eq_of_mem_words hword hmem, hother] at htakes
    exact Bool.noConfusion htakes
  exact parser_of_other_word hother hnot
    (Filter.parser_of_declined (read_of_mem_words hword hhelp) rest)

theorem takesFilter_eq {grammar other : Grammar} {args : Arguments}
    (h : grammar.parser args ≠ .declined) (hother : other.parser args ≠ .declined)
    (hsame : grammar.takesFilter = other.takesFilter ∨ args.head? ≠ some "-h") :
    grammar.takesFilter = other.takesFilter := by
  rcases hsame with hsame | hhead
  · exact hsame
  · cases htakes : grammar.takesFilter with
    | false =>
      cases htakes' : other.takesFilter with
      | false => rfl
      | true => exact absurd (declined_of_keyword_first h htakes htakes' hhead) hother
    | true =>
      cases htakes' : other.takesFilter with
      | false => exact absurd (declined_of_keyword_first hother htakes' htakes hhead) h
      | true => rfl

theorem eq_or_overlong {grammar other : Grammar} {args : Arguments}
    (h : grammar.parser args ≠ .declined) (hother : other.parser args ≠ .declined)
    (hsame : grammar.takesFilter = other.takesFilter ∨ args.head? ≠ some "-h") :
    grammar = other ∨ (grammar.takesFilter = true ∧ other.takesFilter = true ∧
      ∃ digits, Filter.parser args = .overlong digits) := by
  have hkind := takesFilter_eq h hother hsame
  rcases parser_cases h with ⟨htakes, word, rest, rfl, hword, -⟩ |
    ⟨htakes, filter, word, rest, hfilter, hword, -⟩ | ⟨htakes, digits, hfilter, -⟩
  · rw [parser_of_keyword_first (hkind.symm.trans htakes)] at hother
    obtain ⟨word', rest', hargs, hword', -⟩ := afterFilter_ne_declined hother
    rw [List.cons.injEq] at hargs
    rw [← hargs.1] at hword'
    exact .inl (eq_of_mem_words hword hword')
  · rw [parser_of_takesFilter (hkind.symm.trans htakes), hfilter, Reading.bind_found] at hother
    obtain ⟨word', rest', hargs, hword', -⟩ := afterFilter_ne_declined hother
    rw [List.cons.injEq] at hargs
    rw [← hargs.1] at hword'
    exact .inl (eq_of_mem_words hword hword')
  · exact .inr ⟨htakes, hkind.symm.trans htakes, digits, hfilter⟩

theorem alt_parsers_eq {order : List Grammar} {grammar : Grammar} {args : Arguments}
    (hmem : grammar ∈ order) (hne : grammar.parser args ≠ .declined)
    (hhead : args.head? ≠ some "-h") : Parser.alt (order.map parser) args = grammar.parser args := by
  apply Parser.alt_eq_of_agree (List.mem_map_of_mem hmem) hne
  intro q hq hqne
  obtain ⟨other, -, rfl⟩ := List.mem_map.mp hq
  rcases eq_or_overlong hne hqne (.inr hhead) with rfl | ⟨htakes, hother, digits, hfilter⟩
  · rfl
  · rw [parser_of_filter_overlong htakes hfilter, parser_of_filter_overlong hother hfilter]

theorem precedes_iff {before after : List Grammar} {grammar other : Grammar}
    (h : grammar ∉ before) :
    Precedes (before ++ grammar :: after) grammar other ↔ other ≠ grammar ∧ other ∉ before := by
  rw [Precedes, List.idxOf_append_of_notMem h, List.idxOf_cons_self]
  by_cases hother : other ∈ before
  · rw [List.idxOf_append_of_mem hother]
    have hlt := List.idxOf_lt_length_of_mem hother
    simp only [hother, not_true_eq_false, and_false, iff_false]
    omega
  · rw [List.idxOf_append_of_notMem hother]
    by_cases heq : other = grammar
    · simp [heq]
    · rw [List.idxOf_cons_ne _ (Ne.symm heq)]
      simp only [heq, hother, not_false_eq_true, ne_eq, and_self, iff_true]
      omega

theorem help_parser_found (rest : Arguments) :
    help.parser ("-h" :: rest) = .found (.help true, rest) := by
  have hword : "-h" ∈ help.words := by decide
  exact parser_of_first_word rfl hword rest

theorem alt_parsers_help {order : List Grammar} (hmem : help ∈ order)
    (hfirst : ∀ grammar, grammar.takesFilter = true → Precedes order help grammar)
    (rest : Arguments) :
    Parser.alt (order.map parser) ("-h" :: rest) = .found (.help true, rest) := by
  obtain ⟨before, after, rfl, hbefore⟩ := List.eq_append_cons_of_mem hmem
  have hdeclined : ∀ p ∈ before.map parser, p ("-h" :: rest) = .declined := by
    intro p hp
    obtain ⟨grammar, hgrammar, rfl⟩ := List.mem_map.mp hp
    have htakes : grammar.takesFilter = false := by
      apply Bool.eq_false_iff.mpr
      intro htakes
      exact ((precedes_iff hbefore).mp (hfirst grammar htakes)).2 hgrammar
    apply parser_of_other_first_word htakes
    intro hword
    have hhelp : help = grammar := eq_of_mem_words (by decide) hword
    rw [hhelp] at hbefore
    exact hbefore hgrammar
  rw [List.map_append, Parser.alt_append_of_declined hdeclined, List.map_cons,
    Parser.alt_cons_of_found (help_parser_found rest)]

theorem filter_parser_help {word : String} (h : Filter.Argument.read word = .declined) :
    Filter.parser ["-h", word] = .found ({ conditions := [.noTag "h"] }, [word]) := by
  have hread : Filter.Argument.read "-h" = .found (.condition (.noTag "h")) := by decide +kernel
  exact Filter.parser_eq_found_iff.mpr
    ⟨["-h"], [.condition (.noTag "h")], rfl, by simp [hread], by simpa using h, rfl⟩

theorem complete_ne_help {grammar : Grammar} {filter : Filter} {word : String}
    {rest left : Arguments} {summary : Bool} (htakes : grammar.takesFilter = true) :
    grammar.complete filter word rest ≠ (.help summary, left) := by
  intro h
  cases grammar with
  | modify | list | info => simp [complete] at h
  | version | help | add | gc | sync => exact Bool.noConfusion htakes

theorem parser_help_word {grammar other : Grammar} {word : String}
    (hread : Filter.Argument.read word = .declined) (hword : word ∈ grammar.words)
    (hne : other ≠ grammar) (hhelp : other ≠ help) : other.parser ["-h", word] = .declined := by
  cases htakes : other.takesFilter with
  | false =>
    apply parser_of_other_first_word htakes
    intro hmem
    exact hhelp (eq_of_mem_words hmem (by decide))
  | true =>
    apply parser_of_other_word htakes _ (filter_parser_help hread)
    intro hmem
    exact hne (eq_of_mem_words hmem hword)

/-- The command line `-h` and then the word of a grammar tells whether that grammar comes before help. -/
theorem alt_parsers_not_help {order : List Grammar} {grammar : Grammar} (hmem : grammar ∈ order)
    (htakes : grammar.takesFilter = true) (hnot : ¬ Precedes order help grammar) :
    ∃ word, ∀ rest, Parser.alt (order.map parser) ["-h", word] ≠ .found (.help true, rest) := by
  obtain ⟨before, after, rfl, hbefore⟩ := List.eq_append_cons_of_mem hmem
  have hhelp : help ∉ before := by
    intro hhelp
    apply hnot
    rw [Precedes, List.idxOf_append_of_mem hhelp, List.idxOf_append_of_notMem hbefore]
    have hlt := List.idxOf_lt_length_of_mem hhelp
    omega
  obtain ⟨word, hword, hwordne⟩ : ∃ word ∈ grammar.words, word ≠ "-h" := by
    cases grammar <;> simp [words, Keyword.all, Keyword.name]
  have hread := read_of_mem_words hword hwordne
  have hdeclined : ∀ p ∈ before.map parser, p ["-h", word] = .declined := by
    intro p hp
    obtain ⟨other, hother, rfl⟩ := List.mem_map.mp hp
    exact parser_help_word hread hword (ne_of_mem_of_not_mem hother hbefore)
      (ne_of_mem_of_not_mem hother hhelp)
  have hfound := parser_of_filter_found htakes hword (filter_parser_help hread)
  refine ⟨word, fun rest => ?_⟩
  rw [List.map_append, Parser.alt_append_of_declined hdeclined, List.map_cons,
    Parser.alt_cons_of_found hfound, Ne, Reading.found.injEq]
  exact complete_ne_help htakes

theorem takesFilter_iff {grammar : Grammar} :
    grammar.takesFilter = true ↔ grammar ∈ [modify, list, info] := by
  cases grammar <;> decide

end Grammar

theorem Subcommand.parser_eq_alt : Subcommand.parser = Parser.alt (Grammar.all.map Grammar.parser) :=
  Grammar.dispatchIn_map_snd Grammar.all

theorem Subcommand.parser_help (rest : Arguments) :
    Subcommand.parser ("-h" :: rest) = .found (.help true, rest) := by
  rw [parser_eq_alt]
  apply Grammar.alt_parsers_help (Grammar.mem_all .help)
  have hfirst : ∀ grammar ∈ Grammar.all, grammar.takesFilter = true →
      Grammar.Precedes Grammar.all .help grammar := by decide
  exact fun grammar => hfirst grammar (Grammar.mem_all grammar)

theorem Subcommand.parser_eq_declined_iff {args : Arguments} :
    parser args = .declined ↔ ∀ grammar : Grammar, grammar.parser args = .declined := by
  rw [parser_eq_alt, Parser.alt_eq_declined_iff, List.forall_mem_map]
  exact ⟨fun h grammar => h grammar (Grammar.mem_all grammar), fun h grammar _ => h grammar⟩

theorem Subcommand.parser_eq_of_grammar {grammar : Grammar} {args : Arguments}
    {reading : Reading (Subcommand × Arguments)} (h : grammar.parser args = reading)
    (hne : reading ≠ .declined) (hhead : args.head? ≠ some "-h") : parser args = reading := by
  subst h
  rw [parser_eq_alt]
  exact Grammar.alt_parsers_eq (Grammar.mem_all grammar) hne hhead

theorem Subcommand.exists_grammar_eq {args : Arguments}
    {reading : Reading (Subcommand × Arguments)} (h : parser args = reading)
    (hne : reading ≠ .declined) (hhead : args.head? ≠ some "-h") :
    ∃ grammar : Grammar, grammar.parser args = reading := by
  subst h
  rw [Ne, parser_eq_declined_iff, not_forall] at hne
  obtain ⟨grammar, hgrammar⟩ := hne
  exact ⟨grammar, (parser_eq_of_grammar rfl hgrammar hhead).symm⟩

namespace Grammar

theorem takesFilter_eq_false_iff {grammar : Grammar} :
    grammar.takesFilter = false ↔ grammar ∈ [version, help, add, gc, sync] := by
  cases grammar <;> decide

theorem not_overlong_of_matches {grammar : Grammar} {args : Arguments} {digits : Nat}
    (h : grammar.Matches args) (htakes : grammar.takesFilter = true) :
    Filter.parser args ≠ .overlong digits := by
  intro hfilter
  obtain ⟨answer, hanswer⟩ := h
  rw [parser_of_filter_overlong htakes hfilter] at hanswer
  simp at hanswer

theorem eq_of_matches {grammar other : Grammar} {args : Arguments} (h : grammar.Matches args)
    (hother : other.Matches args)
    (hsame : grammar.takesFilter = other.takesFilter ∨ args.head? ≠ some "-h") :
    grammar = other := by
  rcases eq_or_overlong h.ne_declined hother.ne_declined hsame with heq |
    ⟨htakes, -, digits, hfilter⟩
  · exact heq
  · exact absurd hfilter (not_overlong_of_matches h htakes)

theorem filter_overlong_of_overlong {grammar : Grammar} {args : Arguments} {digits : Nat}
    (h : grammar.parser args = .overlong digits) :
    grammar.takesFilter = true ∧ Filter.parser args = .overlong digits := by
  have hne : grammar.parser args ≠ .declined := by simp [h]
  rcases parser_cases hne with ⟨-, word, rest, -, -, hfound⟩ |
    ⟨-, filter, word, rest, -, -, hfound⟩ | ⟨htakes, seen, hfilter, hseen⟩
  · simp [h] at hfound
  · simp [h] at hfound
  · rw [h, Reading.overlong.injEq] at hseen
    rw [hseen]
    exact ⟨htakes, hfilter⟩

theorem declined_of_overlong {grammar other : Grammar} {args : Arguments} {digits : Nat}
    (h : grammar.parser args = .overlong digits) (hhead : args.head? ≠ some "-h")
    (hother : other.takesFilter = false) : other.parser args = .declined := by
  obtain ⟨htakes, -⟩ := filter_overlong_of_overlong h
  by_contra hne
  have hgrammar : grammar.parser args ≠ .declined := by simp [h]
  have hkind := takesFilter_eq hgrammar hne (.inr hhead)
  rw [htakes, hother] at hkind
  exact Bool.noConfusion hkind

theorem alt_parsers_of_perm {order : List Grammar} {args : Arguments} (h : order.Perm all)
    (hhead : args.head? ≠ some "-h") :
    Parser.alt (order.map parser) args = Subcommand.parser args := by
  by_cases hall : ∀ grammar : Grammar, grammar.parser args = .declined
  · rw [Subcommand.parser_eq_declined_iff.mpr hall, Parser.alt_eq_declined_iff, List.forall_mem_map]
    exact fun grammar _ => hall grammar
  · obtain ⟨grammar, hne⟩ := not_forall.mp hall
    rw [Subcommand.parser_eq_of_grammar rfl hne hhead]
    exact alt_parsers_eq (h.mem_iff.mpr (mem_all grammar)) hne hhead

theorem alt_parsers_eq_iff {order : List Grammar} (h : order.Perm all) :
    (∀ args, Parser.alt (order.map parser) args = Subcommand.parser args) ↔
      ∀ grammar, grammar.takesFilter = true → Precedes order help grammar := by
  constructor
  · intro hsame grammar htakes
    by_contra hnot
    obtain ⟨word, hword⟩ := alt_parsers_not_help (h.mem_iff.mpr (mem_all grammar)) htakes hnot
    exact hword [word] ((hsame ["-h", word]).trans (Subcommand.parser_help [word]))
  · intro hfirst args
    by_cases hhead : args.head? = some "-h"
    · obtain ⟨rest, rfl⟩ := List.head?_eq_some_iff.mp hhead
      rw [alt_parsers_help (h.mem_iff.mpr (mem_all help)) hfirst, Subcommand.parser_help]
    · exact alt_parsers_of_perm h hhead

theorem not_matches_of_help {grammar : Grammar} (htakes : grammar.takesFilter = false)
    (hne : grammar ≠ help) (rest : Arguments) : ¬ Matches grammar ("-h" :: rest) := by
  intro h
  have hsame : grammar.takesFilter = help.takesFilter := htakes
  exact hne (eq_of_matches h ⟨_, help_parser_found rest⟩ (.inl hsame))

theorem exclusive_but_for_help :
    (∀ args : Arguments, args.head? ≠ some "-h" →
      (∀ grammar other, Matches grammar args → Matches other args → grammar = other) ∧
      ∀ grammar digits, parser grammar args = .overlong digits →
        (∀ other ∈ [modify, list, info], parser other args = .overlong digits) ∧
        ∀ other ∈ [version, help, add, gc, sync], parser other args = .declined) ∧
    (∀ rest : Arguments, Matches help ("-h" :: rest) ∧
      (∀ grammar ∈ [modify, list, info], ∀ other ∈ [modify, list, info],
        Matches grammar ("-h" :: rest) → Matches other ("-h" :: rest) → grammar = other) ∧
      ∀ grammar ∈ [version, add, gc, sync], ¬ Matches grammar ("-h" :: rest)) ∧
    ∀ order : List Grammar, order.Perm all →
      ((∀ args, Parser.map Prod.snd (dispatchIn order) args = Subcommand.parser args) ↔
        ∀ grammar ∈ [modify, list, info], Precedes order help grammar) := by
  refine ⟨?_, ?_, ?_⟩
  · intro args hhead
    refine ⟨fun grammar other h hother => eq_of_matches h hother (.inr hhead), ?_⟩
    intro grammar digits h
    refine ⟨fun other hother => ?_, fun other hother => ?_⟩
    · exact parser_of_filter_overlong (takesFilter_iff.mpr hother) (filter_overlong_of_overlong h).2
    · exact declined_of_overlong h hhead (takesFilter_eq_false_iff.mpr hother)
  · intro rest
    refine ⟨⟨_, help_parser_found rest⟩, ?_, ?_⟩
    · intro grammar hgrammar other hother h h'
      rw [← takesFilter_iff] at hgrammar hother
      exact eq_of_matches h h' (.inl (hgrammar.trans hother.symm))
    · have hothers : ∀ grammar ∈ [version, add, gc, sync],
          grammar.takesFilter = false ∧ grammar ≠ help := by decide
      intro grammar hgrammar
      obtain ⟨htakes, hne⟩ := hothers grammar hgrammar
      exact not_matches_of_help htakes hne rest
  · intro order h
    rw [dispatchIn_map_snd, alt_parsers_eq_iff h]
    simp only [takesFilter_iff]

theorem exclusive_but_for_help_reordered :
    [sync, gc, help, info, list, modify, add, version].Perm all ∧
      Parser.map Prod.snd (dispatchIn [sync, gc, help, info, list, modify, add, version])
        ["-h", "list"] = Subcommand.parser ["-h", "list"] := by
  have hperm : [sync, gc, help, info, list, modify, add, version].Perm all := by decide
  have hfirst : ∀ grammar ∈ [modify, list, info],
      Precedes [sync, gc, help, info, list, modify, add, version] help grammar := by decide
  exact ⟨hperm, (exclusive_but_for_help.2.2 _ hperm).mpr hfirst ["-h", "list"]⟩

end Grammar

end TaskLine
