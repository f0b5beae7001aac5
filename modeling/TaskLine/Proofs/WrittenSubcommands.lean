import TaskLine.Command
import TaskLine.Proofs.DispatchScan
import TaskLine.Proofs.WrittenFilters
import TaskLine.Proofs.WrittenModifications

namespace TaskLine.Subcommand

open Grammar (words takesFilter complete)

def Writable : Subcommand → Prop
  | version | help _ | gc | sync => True
  | add change => change.WellFormed ∧ change.IsBase
  | modify filter change => filter.Writable ∧ change.WellFormed ∧ change.IsAdjusted
  | list report => report.filter.Writable
  | info filter _ => filter.Writable

theorem complete_writable {grammar : Grammar} {filter : Filter} {word : String}
    (hfilter : grammar.takesFilter = true → filter.Writable) (hword : word ∈ grammar.words)
    (rest : Arguments) : (grammar.complete filter word rest).1.Writable := by
  cases grammar with
  | version => trivial
  | help => trivial
  | add => exact Modification.exists_ofWords_iff.mp ⟨rest, rfl⟩
  | modify =>
    obtain ⟨keyword, -, rfl⟩ := List.mem_map.mp hword
    refine ⟨hfilter rfl, ?_⟩
    rw [Modification.adjust_name]
    exact Modification.exists_adjust_iff.mp ⟨keyword, rest, rfl⟩
  | list => exact hfilter rfl
  | info => exact hfilter rfl
  | gc => trivial
  | sync => trivial

theorem writable_of_found {args rest : Arguments} {subcommand : Subcommand}
    (h : parser args = .found (subcommand, rest)) : subcommand.Writable := by
  by_cases hhead : args.head? = some "-h"
  · obtain ⟨others, rfl⟩ := List.head?_eq_some_iff.mp hhead
    rw [parser_help, Reading.found.injEq, Prod.mk.injEq] at h
    rw [← h.1]
    trivial
  · obtain ⟨grammar, hgrammar⟩ := exists_grammar_eq h (by simp) hhead
    obtain ⟨filter, word, left, hword, hanswer, hfilter⟩ :=
      Grammar.exists_complete_of_found hgrammar
    have hwritable := complete_writable
      (fun htakes => Filter.writable_of_found (hfilter htakes) hhead) hword left
    rw [hanswer] at hwritable
    exact hwritable

def written : Subcommand → Arguments
  | version => ["version"]
  | help false => ["help"]
  | help true => ["-h"]
  | add change => "add" :: change.written
  | modify filter change => filter.written ++ change.keyword.name :: change.written
  | list report => report.filter.written ++ ["list"]
  | info filter false => filter.written ++ ["info"]
  | info filter true => filter.written ++ ["debug"]
  | gc => ["gc"]
  | sync => ["sync"]

theorem parser_of_written_filter {grammar : Grammar} {filter : Filter} {word : String}
    (h : filter.Writable) (htakes : grammar.takesFilter = true) (hword : word ∈ grammar.words)
    (rest : Arguments) :
    parser (filter.written ++ word :: rest) = .found (grammar.complete filter word rest) := by
  have hhelp : word ≠ "-h" := by
    rintro rfl
    obtain rfl : Grammar.help = grammar := Grammar.eq_of_mem_words (by decide) hword
    exact Bool.noConfusion htakes
  have hfilter : Filter.parser (filter.written ++ word :: rest) = .found (filter, word :: rest) := by
    apply Filter.parser_written h
    simpa using Grammar.read_of_mem_words hword hhelp
  have hfound := Grammar.parser_of_filter_found htakes hword hfilter
  exact parser_eq_of_grammar hfound (by simp) (Filter.head?_written_ne h hhelp rest)

theorem parser_written {subcommand : Subcommand} (h : subcommand.Writable) :
    parser subcommand.written = .found (subcommand, []) := by
  match subcommand with
  | version =>
    have hword : "version" ∈ words .version := by decide
    exact parser_of_first_word rfl hword []
  | help false =>
    have hword : "help" ∈ words .help := by decide
    exact parser_of_first_word rfl hword []
  | help true => exact parser_help []
  | add change =>
    obtain ⟨hwell, hbase⟩ := h
    have hword : "add" ∈ words .add := by decide
    rw [written, parser_of_first_word rfl hword, complete, Modification.ofWords_written hwell,
      Modification.plain_of_isBase hbase]
  | modify filter change =>
    obtain ⟨hfilter, hwell, hadjusted⟩ := h
    have hword : change.keyword.name ∈ words .modify :=
      Keyword.mem_names_iff.mpr ⟨change.keyword, Keyword.ofName?_name change.keyword⟩
    rw [written, parser_of_written_filter hfilter rfl hword, complete,
      Modification.ofWords_written hwell, Modification.adjust_name,
      Modification.keyword_adjust_plain hadjusted]
  | list report =>
    have hword : "list" ∈ words .list := by decide
    exact parser_of_written_filter h rfl hword []
  | info filter false =>
    have hword : "info" ∈ words .info := by decide
    exact parser_of_written_filter h rfl hword []
  | info filter true =>
    have hword : "debug" ∈ words .info := by decide
    exact parser_of_written_filter h rfl hword []
  | gc =>
    have hword : "gc" ∈ words .gc := by decide
    exact parser_of_first_word rfl hword []
  | sync =>
    have hword : "sync" ∈ words .sync := by decide
    exact parser_of_first_word rfl hword []

theorem ofArguments_eq_ok_iff {args : Arguments} {answer : Subcommand × Arguments} :
    ofArguments args = .ok answer ↔ parser args = .found answer := by
  rw [ofArguments]
  cases parser args <;> simp

theorem exists_ofArguments_eq_ok_iff {subcommand : Subcommand} :
    (∃ args rest, ofArguments args = .ok (subcommand, rest)) ↔ subcommand.Writable := by
  simp only [ofArguments_eq_ok_iff]
  constructor
  · rintro ⟨args, rest, h⟩
    exact writable_of_found h
  · intro h
    exact ⟨subcommand.written, [], parser_written h⟩

end TaskLine.Subcommand
