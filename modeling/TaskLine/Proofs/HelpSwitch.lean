import TaskLine.Proofs.DescribedForms
import TaskLine.Proofs.FilterSelection
import TaskLine.Proofs.LaterArguments
import TaskLine.Proofs.WrittenSubcommands

/-!
The help switch has the form of a tag that tasks must not have. In front of a command line it asks for
help, so no filter begins with it; later among the arguments of a filter it is the tag it looks like.
-/

namespace TaskLine

namespace Filter

theorem mem_conditions_iff {taken : Arguments} {filter : Filter}
    (h : parser taken = .found (filter, [])) (c : Condition) :
    c ∈ filter.conditions ↔ c.written ∈ conditionWords taken := by
  obtain ⟨arguments, hread, rfl⟩ := parser_eq_found_nil_iff.mp h
  rw [← (selects_ofArguments hread).conditions]
  exact (List.mem_map_of_injective fun _ _ => Condition.written_injective).symm

theorem noTag_mem_conditions_iff {taken : Arguments} {filter : Filter} {tag : String}
    (h : parser taken = .found (filter, [])) (htag : Tag.isName tag.toList) :
    .noTag tag ∈ filter.conditions ↔ "-" ++ tag ∈ taken := by
  have hsigned : Tag.signed? '-' ("-" ++ tag) = some tag := Tag.signed?_minus htag
  have hids : ¬ ListsIds ("-" ++ tag) :=
    not_listsIds_of_isSigned (Tag.isSigned_of_signed? (.inr rfl) hsigned)
  rw [mem_conditions_iff h, Condition.written, conditionWords, List.mem_filter]
  simp [hids]

end Filter

namespace Grammar

variable {grammar : Grammar} {taken : Arguments} {filter : Filter} {word : String}

theorem Opens.takeWhile_isArgument (h : grammar.Opens taken filter word) (hword : word ≠ "-h")
    (left : Arguments) : (taken ++ word :: left).takeWhile (Filter.IsArgument ·) = taken := by
  have hnot := not_isArgument_of_mem_words h.tells hword
  rw [List.takeWhile_append_of_pos (by simpa using h.isArgument),
    List.takeWhile_cons_of_neg (by simpa using hnot), List.append_nil]

theorem Opens.help_mem_iff (h : grammar.Opens taken filter word) :
    "-h" ∈ taken ↔ "-h" ∈ taken.tail := by
  have hhead := h.not_help
  cases taken with
  | nil => simp
  | cons first others =>
    have hfirst : "-h" ≠ first := by
      rintro rfl
      exact hhead rfl
    rw [List.tail_cons, List.mem_cons]
    exact or_iff_right hfirst

end Grammar

namespace Subcommand

theorem exists_opens_of_filter? {args rest : Arguments} {subcommand : Subcommand} {filter : Filter}
    (h : ofArguments args = .ok (subcommand, rest)) (hfilter : subcommand.filter? = some filter) :
    ∃ grammar taken word left, args = taken ++ word :: left ∧ word ≠ "-h" ∧
      Grammar.Opens grammar taken filter word := by
  obtain ⟨grammar, hdispatch⟩ := parser_eq_found_iff.mp (ofArguments_eq_ok_iff.mp h)
  obtain ⟨taken, read, word, left, rfl, hopens, hcomplete⟩ :=
    Grammar.dispatch_eq_found_iff.mp hdispatch
  have hread := Grammar.filter?_complete grammar read word left
  rw [hcomplete, hfilter] at hread
  cases htakes : grammar.takesFilter with
  | false => simp [htakes] at hread
  | true =>
    rw [htakes, if_pos rfl, Option.some.injEq] at hread
    subst hread
    exact ⟨grammar, taken, word, left, rfl, Grammar.ne_help_of_takesFilter hopens.tells htakes,
      hopens⟩

theorem ofArguments_help (rest : Arguments) : ofArguments ("-h" :: rest) = .ok (.help true, rest) :=
  ofArguments_eq_ok_iff.mpr (parser_help rest)

theorem help_switch_filters_iff_later :
    (∀ rest, ofArguments ("-h" :: rest) = .ok (.help true, rest)) ∧
    ∀ args subcommand rest filter, ofArguments args = .ok (subcommand, rest) →
      subcommand.filter? = some filter →
      args.head? ≠ some "-h" ∧
      (.noTag "h" ∈ filter.conditions ↔ "-h" ∈ (args.takeWhile (Filter.IsArgument ·)).tail) := by
  refine ⟨ofArguments_help, ?_⟩
  intro args subcommand rest filter h hfilter
  obtain ⟨grammar, taken, word, left, rfl, hword, hopens⟩ := exists_opens_of_filter? h hfilter
  refine ⟨hopens.head?_ne hword left, ?_⟩
  rw [hopens.takeWhile_isArgument hword, ← hopens.help_mem_iff]
  exact Filter.noTag_mem_conditions_iff hopens.filters (by decide)

theorem help_switch_filters_iff_later_twice :
    let args := ["+a", "-h", "12", "-h", "done", "-h"]
    ∃ subcommand filter, ofArguments args = .ok (subcommand, []) ∧
      subcommand.filter? = some filter ∧ args.head? ≠ some "-h" ∧
      Condition.noTag "h" ∈ filter.conditions ∧
      "-h" ∈ (args.takeWhile (Filter.IsArgument ·)).tail := by
  intro args
  have h : ofArguments args = .ok (.modify {
      base := .idList [.workingSet 12 (by decide)]
      conditions := [.hasTag "a", .noTag "h", .noTag "h"] } {
      status := some .completed
      removeTags := .ofList ["h"] }, []) := by decide +kernel
  obtain ⟨hhead, hiff⟩ := help_switch_filters_iff_later.2 _ _ _ _ h rfl
  have hcondition : "-h" ∈ (args.takeWhile (Filter.IsArgument ·)).tail := by decide +kernel
  exact ⟨_, _, h, rfl, hhead, hiff.mpr hcondition, hcondition⟩

theorem help_switch_becomes_condition :
    ¬ ∀ args subcommand rest filter, ofArguments args = .ok (subcommand, rest) →
      subcommand.filter? = some filter → Condition.noTag "h" ∉ filter.conditions := by
  intro hnever
  have h : ofArguments ["12", "-h", "list"] = .ok (.list ⟨{
      base := .idList [.workingSet 12 (by decide)]
      conditions := [.noTag "h"] }⟩, []) := by decide +kernel
  exact hnever _ _ _ _ h rfl (by decide)

end Subcommand

end TaskLine
