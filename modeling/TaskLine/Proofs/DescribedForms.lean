import TaskLine.Proofs.Openings
import TaskLine.Usage.Describe

/-!
What the usage entries promise is what the dispatcher does. An entry's name opens a command line of
the grammar that describes it, with a filter before it exactly if the entry's form begins with one,
and no other word opens one, except for asking for help and the long option for the version.
-/

namespace TaskLine

def Subcommand.filter? : Subcommand → Option Filter
  | modify filter _ | info filter _ => some filter
  | list report => some report.filter
  | version | help _ | add _ | gc | sync => none

def Usage.Entry.BeginsWithFilter (entry : Usage.Entry) : Prop :=
  "[filter]".toList <+: entry.form.toList

instance (entry : Usage.Entry) : Decidable entry.BeginsWithFilter :=
  inferInstanceAs (Decidable ("[filter]".toList <+: entry.form.toList))

namespace Grammar

theorem name_mem_words {grammar : Grammar} {entry : Usage.Entry}
    (h : entry ∈ grammar.usageEntries) : entry.name ∈ grammar.words ∧ entry.name ≠ "-h" := by
  have hall : ∀ grammar ∈ all, ∀ entry ∈ grammar.usageEntries,
      entry.name ∈ grammar.words ∧ entry.name ≠ "-h" := by
    decide +kernel
  exact hall grammar (mem_all grammar) entry h

theorem beginsWithFilter_iff {grammar : Grammar} {entry : Usage.Entry}
    (h : entry ∈ grammar.usageEntries) :
    entry.BeginsWithFilter ↔ grammar.takesFilter = true := by
  have hall : ∀ grammar ∈ all, ∀ entry ∈ grammar.usageEntries,
      (entry.BeginsWithFilter ↔ grammar.takesFilter = true) := by
    decide +kernel
  exact hall grammar (mem_all grammar) entry h

theorem word_described {grammar : Grammar} {word : String} (h : word ∈ grammar.words)
    (hhelp : grammar ≠ help) :
    (word = "--version" ∧ grammar = version) ∨
      ∃ entry ∈ grammar.usageEntries, entry.name = word := by
  have hall : ∀ grammar ∈ all, ∀ word ∈ grammar.words, grammar ≠ help →
      (word = "--version" ∧ grammar = version) ∨
        ∃ entry ∈ grammar.usageEntries, entry.name = word := by
    decide +kernel
  exact hall grammar (mem_all grammar) word h hhelp

theorem filter?_complete (grammar : Grammar) (filter : Filter) (word : String)
    (rest : Arguments) :
    (grammar.complete filter word rest).1.filter? =
      if grammar.takesFilter then some filter else none := by
  cases grammar <;> rfl

theorem complete_suffix {grammar : Grammar} {filter : Filter} {word : String}
    {left rest : Arguments} {subcommand : Subcommand}
    (h : grammar.complete filter word left = (subcommand, rest)) : rest <:+ left := by
  cases htakes : subcommand.takesAll with
  | false =>
    obtain ⟨rfl, -⟩ := complete_of_not_takesAll h htakes
    exact List.suffix_refl rest
  | true =>
    have hrest : rest = [] := by
      by_contra hrest
      rw [takesAll_of_complete h hrest] at htakes
      exact Bool.noConfusion htakes
    rw [hrest]
    exact List.nil_suffix

theorem dispatch_of_name {grammar : Grammar} {entry : Usage.Entry}
    (h : entry ∈ grammar.usageEntries) (args : Arguments) :
    (∃ subcommand rest,
      dispatch (entry.name :: args) = .found ((grammar, subcommand), rest)) ∧
    ∀ other : Grammar, other.Matches (entry.name :: args) → other = grammar := by
  obtain ⟨hword, hne⟩ := name_mem_words h
  have hdispatch := (opens_nil hword).dispatch_eq args
  refine ⟨⟨_, _, hdispatch⟩, ?_⟩
  intro other hother
  have hmatches : grammar.Matches (entry.name :: args) := ⟨_, grammar_of_dispatch hdispatch⟩
  exact eq_of_matches hother hmatches (.inr (by simpa using hne))

theorem dispatch_of_filter_name {grammar : Grammar} {entry : Usage.Entry}
    (h : entry ∈ grammar.usageEntries) (hform : entry.BeginsWithFilter) {taken : Arguments}
    (htaken : ∀ text ∈ taken, Filter.IsArgument text) (hhead : taken.head? ≠ some "-h")
    (args : Arguments) :
    ∃ filter subcommand rest, Filter.parser taken = .found (filter, []) ∧
      dispatch (taken ++ entry.name :: args) = .found ((grammar, subcommand), rest) ∧
      subcommand.filter? = some filter := by
  have htakes := (beginsWithFilter_iff h).mp hform
  obtain ⟨filter, hfilter⟩ := Filter.parser_all_iff.mpr htaken
  have hopens : grammar.Opens taken filter entry.name :=
    ⟨(name_mem_words h).1, hfilter, by simp [htakes], hhead⟩
  refine ⟨filter, _, _, hfilter, hopens.dispatch_eq args, ?_⟩
  rw [filter?_complete, if_pos htakes]

theorem dispatch_of_bare_name {grammar : Grammar} {entry : Usage.Entry}
    (h : entry ∈ grammar.usageEntries) (hform : ¬ entry.BeginsWithFilter) {taken : Arguments}
    (hne : taken ≠ []) (htaken : ∀ text ∈ taken, Filter.IsArgument text)
    (hhead : taken.head? ≠ some "-h") (args : Arguments) :
    dispatch (taken ++ entry.name :: args) = .declined := by
  obtain ⟨hword, hnotHelp⟩ := name_mem_words h
  have hname := not_isArgument_of_mem_words hword hnotHelp
  have hfront : (taken ++ entry.name :: args).head? ≠ some "-h" := by
    rw [List.head?_append_of_ne_nil _ hne]
    exact hhead
  cases hdispatch : dispatch (taken ++ entry.name :: args) with
  | found answer =>
    obtain ⟨⟨other, subcommand⟩, rest⟩ := answer
    obtain ⟨others, filter, word, left, hargs, hopens, -⟩ := dispatch_eq_found_iff.mp hdispatch
    have hnot : ¬ Filter.IsArgument word := by
      apply hopens.not_isArgument
      rw [← hargs]
      exact hfront
    obtain ⟨rfl, rfl, -⟩ := Filter.stop_unique hargs htaken hname hopens.isArgument hnot
    have hsame : grammar = other := eq_of_mem_words hword hopens.tells
    have hbare : other.takesFilter = false := by
      rw [← hsame, ← Bool.not_eq_true, ← beginsWithFilter_iff h]
      exact hform
    exact absurd (hopens.bare hbare) hne
  | declined => rfl
  | overlong digits =>
    rw [Command.dispatch_eq_overlong_iff, Subcommand.parser_eq_overlong_iff] at hdispatch
    obtain ⟨-, others, text, rest, hargs, hothers, htext⟩ := hdispatch
    have hnot := Filter.not_isArgument_of_overlong htext
    obtain ⟨rfl, rfl, -⟩ := Filter.stop_unique hargs htaken hname hothers hnot
    rw [← Filter.Argument.read_eq_overlong_iff, read_of_mem_words hword hnotHelp] at htext
    cases htext

theorem described_of_dispatch {grammar : Grammar} {args rest : Arguments}
    {subcommand : Subcommand} (h : dispatch args = .found ((grammar, subcommand), rest))
    (hhelp : ∀ summary, subcommand ≠ .help summary) :
    ∃ before word after, args = before ++ word :: after ∧ rest <:+ after ∧
      (∀ text ∈ before, Filter.IsArgument text) ∧ ¬ Filter.IsArgument word ∧
      (subcommand.filter? = none → before = []) ∧
      ((word = "--version" ∧ grammar = version) ∨
        ∃ entry ∈ grammar.usageEntries, entry.name = word) := by
  obtain ⟨before, filter, word, after, rfl, hopens, hcomplete⟩ := dispatch_eq_found_iff.mp h
  have hgrammar : grammar ≠ help := by
    rintro rfl
    rw [complete, Prod.mk.injEq] at hcomplete
    exact hhelp _ hcomplete.1.symm
  have hword : word ≠ "-h" := by
    rintro rfl
    exact hgrammar (eq_of_mem_words hopens.tells (by decide))
  refine ⟨before, word, after, rfl, complete_suffix hcomplete, hopens.isArgument,
    not_isArgument_of_mem_words hopens.tells hword, ?_, word_described hopens.tells hgrammar⟩
  intro hnone
  apply hopens.bare
  have hfilter := filter?_complete grammar filter word after
  rw [hcomplete, hnone] at hfilter
  cases htakes : grammar.takesFilter with
  | false => rfl
  | true => simp [htakes] at hfilter

end Grammar

namespace Usage

open Grammar (dispatch)

theorem mem_describe_iff {grammar : Grammar} {entry : Entry} :
    entry ∈ (describe {} grammar).entries ↔ entry ∈ grammar.usageEntries := by
  rw [entries_describe, List.nil_append]

theorem mem_describeAll_iff {entry : Entry} :
    entry ∈ (describeAll {}).entries ↔ ∃ grammar : Grammar, entry ∈ grammar.usageEntries := by
  rw [entries_describeAll, List.nil_append, List.mem_flatMap]
  constructor
  · rintro ⟨grammar, -, h⟩
    exact ⟨grammar, h⟩
  · rintro ⟨grammar, h⟩
    exact ⟨grammar, Grammar.mem_all grammar, h⟩

theorem agrees_with_dispatch :
    (∀ grammar : Grammar, ∀ entry ∈ (describe {} grammar).entries,
      (∀ args,
        (∃ subcommand rest,
          dispatch (entry.name :: args) = .found ((grammar, subcommand), rest)) ∧
        ∀ other : Grammar, other.Matches (entry.name :: args) → other = grammar) ∧
      (entry.BeginsWithFilter → ∀ taken args, (∀ text ∈ taken, Filter.IsArgument text) →
        taken.head? ≠ some "-h" →
        ∃ filter subcommand rest, Filter.parser taken = .found (filter, []) ∧
          dispatch (taken ++ entry.name :: args) = .found ((grammar, subcommand), rest) ∧
          subcommand.filter? = some filter) ∧
      (¬ entry.BeginsWithFilter → ∀ taken args, taken ≠ [] →
        (∀ text ∈ taken, Filter.IsArgument text) → taken.head? ≠ some "-h" →
        dispatch (taken ++ entry.name :: args) = .declined)) ∧
    ∀ args grammar subcommand rest, dispatch args = .found ((grammar, subcommand), rest) →
      (∀ summary, subcommand ≠ .help summary) →
      ∃ before word after, args = before ++ word :: after ∧ rest <:+ after ∧
        (∀ text ∈ before, Filter.IsArgument text) ∧ ¬ Filter.IsArgument word ∧
        (subcommand.filter? = none → before = []) ∧
        ((word = "--version" ∧ grammar = .version) ∨
          ∃ entry ∈ (describeAll {}).entries, entry.name = word ∧
            entry ∈ (describe {} grammar).entries) := by
  simp only [mem_describe_iff]
  refine ⟨?_, ?_⟩
  · intro grammar entry hentry
    refine ⟨Grammar.dispatch_of_name hentry, ?_, ?_⟩
    · intro hform taken args htaken hhead
      exact Grammar.dispatch_of_filter_name hentry hform htaken hhead args
    · intro hform taken args hne htaken hhead
      exact Grammar.dispatch_of_bare_name hentry hform hne htaken hhead args
  · intro args grammar subcommand rest h hhelp
    obtain ⟨before, word, after, hargs, hrest, hbefore, hword, hbare, hdescribed⟩ :=
      Grammar.described_of_dispatch h hhelp
    refine ⟨before, word, after, hargs, hrest, hbefore, hword, hbare, ?_⟩
    rcases hdescribed with hversion | ⟨entry, hentry, hname⟩
    · exact .inl hversion
    · exact .inr ⟨entry, mem_describeAll_iff.mpr ⟨grammar, hentry⟩, hname, hentry⟩

theorem agrees_with_dispatch_instances :
    let taken := ["12", "-h"]
    (∃ entry ∈ (describe {} .list).entries, entry.BeginsWithFilter ∧
      ∃ filter subcommand rest, Filter.parser taken = .found (filter, []) ∧
        dispatch (taken ++ entry.name :: ["x"]) = .found ((.list, subcommand), rest) ∧
        subcommand.filter? = some filter) ∧
    (∃ entry ∈ (describe {} .gc).entries, ¬ entry.BeginsWithFilter ∧
      dispatch (taken ++ entry.name :: []) = .declined) ∧
    ∃ subcommand, dispatch ["12", "done", "x"] = .found ((.modify, subcommand), []) ∧
      ∃ before word after, ["12", "done", "x"] = before ++ word :: after ∧
        ¬ Filter.IsArgument word ∧ ((word = "--version" ∧ Grammar.modify = .version) ∨
          ∃ entry ∈ (describeAll {}).entries, entry.name = word ∧
            entry ∈ (describe {} .modify).entries) := by
  intro taken
  have hfilter : Filter.parser taken = .found (({
      base := .idList [.workingSet 12 (by decide)]
      conditions := [.noTag "h"] } : Filter), []) := by decide +kernel
  have htaken := Filter.parser_all_iff.mp ⟨_, hfilter⟩
  have hhead : taken.head? ≠ some "-h" := by decide
  refine ⟨?_, ?_, ?_⟩
  · have hmem : ∃ entry ∈ (describe {} .list).entries, entry.BeginsWithFilter := by
      decide +kernel
    obtain ⟨entry, hmem, hform⟩ := hmem
    exact ⟨entry, hmem, hform, (agrees_with_dispatch.1 _ _ hmem).2.1 hform _ _ htaken hhead⟩
  · have hmem : ∃ entry ∈ (describe {} .gc).entries, ¬ entry.BeginsWithFilter := by decide +kernel
    obtain ⟨entry, hmem, hform⟩ := hmem
    exact ⟨entry, hmem, hform,
      (agrees_with_dispatch.1 _ _ hmem).2.2 hform _ _ (by decide) htaken hhead⟩
  · have hdispatch : dispatch ["12", "done", "x"] = .found ((.modify, .modify {
        base := .idList [.workingSet 12 (by decide)] } {
        description := .set "x"
        status := some .completed }), []) := by decide +kernel
    obtain ⟨before, word, after, hargs, -, -, hword, -, hdescribed⟩ :=
      agrees_with_dispatch.2 _ _ _ _ hdispatch (by simp)
    exact ⟨_, hdispatch, before, word, after, hargs, hword, hdescribed⟩

end Usage

end TaskLine
