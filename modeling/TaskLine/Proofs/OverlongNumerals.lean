import TaskLine.Command
import TaskLine.Proofs.DispatchScan

namespace TaskLine

def CommandError.isParseError : CommandError → Bool
  | emptyCommandLine | noMatch .. | trailing .. => true
  | overlongId _ => false

namespace Subcommand

theorem parser_eq_overlong_iff {args : Arguments} {digits : Nat} :
    parser args = .overlong digits ↔ args.head? ≠ some "-h" ∧ Filter.StallsAt args digits := by
  rw [← Filter.parser_eq_overlong_iff]
  constructor
  · intro h
    have hhead : args.head? ≠ some "-h" := by
      intro hhead
      obtain ⟨rest, rfl⟩ := List.head?_eq_some_iff.mp hhead
      simp [parser_help] at h
    obtain ⟨grammar, hgrammar⟩ := exists_grammar_eq h (by simp) hhead
    exact ⟨hhead, (Grammar.filter_overlong_of_overlong hgrammar).2⟩
  · rintro ⟨hhead, hfilter⟩
    have hmodify : Grammar.modify.parser args = .overlong digits :=
      Grammar.parser_of_filter_overlong rfl hfilter
    exact parser_eq_of_grammar hmodify (by simp) hhead

theorem exists_parser_eq_overlong_iff {args : Arguments} :
    (∃ digits, parser args = .overlong digits) ↔
      args.head? ≠ some "-h" ∧ Filter.Stalls args := by
  simp only [parser_eq_overlong_iff, exists_and_left, Filter.Stalls]

theorem ofArguments_cases (args : Arguments) :
    ((∃ answer, ofArguments args = .ok answer) ∨ ofArguments args = .error (.noMatch args none)) ↔
      ¬ ∃ digits, parser args = .overlong digits := by
  rw [ofArguments]
  cases parser args <;> simp

end Subcommand

namespace Command

theorem dispatch_eq_overlong_iff {args : Arguments} {digits : Nat} :
    Grammar.dispatch args = .overlong digits ↔ Subcommand.parser args = .overlong digits := by
  rw [Subcommand.parser, Parser.map, Reading.map_eq_overlong_iff]

def Conforms (outcome : Except CommandError Command) : Prop :=
  (∃ command, outcome = .ok command) ∨ ∃ error, outcome = .error error ∧ error.isParseError

theorem conforms_ofArgv_cons (settings : Settings) (name : String) (args : Arguments) :
    Conforms (ofArgv settings (name :: args)) ↔
      ¬ ∃ digits, Subcommand.parser args = .overlong digits := by
  simp only [← dispatch_eq_overlong_iff, ofArgv, read]
  cases hdispatch : Grammar.dispatch args with
  | found answer =>
    obtain ⟨⟨grammar, subcommand⟩, rest⟩ := answer
    cases rest with
    | nil => simp [Conforms]
    | cons first rest =>
      cases settings.allowTrailing <;> simp [Conforms, CommandError.isParseError]
  | declined => simp [Conforms, CommandError.isParseError]
  | overlong digits => simp [Conforms, CommandError.isParseError]

theorem conforms_ofArgv (settings : Settings) (argv : Arguments) :
    Conforms (ofArgv settings argv) ↔
      ¬ ∃ digits, Subcommand.parser argv.tail = .overlong digits := by
  cases argv with
  | nil => simp [Conforms, ofArgv, read, CommandError.isParseError, Subcommand.parser_nil]
  | cons name args => exact conforms_ofArgv_cons settings name args

theorem fails_within_library_iff (settings : Settings) (args : Arguments) :
    ((∃ answer, Filter.parser args = .found answer) ↔ ¬ Filter.Stalls args) ∧
    ((∃ answer, Subcommand.ofArguments args = .ok answer) ∨
        Subcommand.ofArguments args = .error (.noMatch args none) ↔
      args.head? = some "-h" ∨ ¬ Filter.Stalls args) ∧
    (Conforms (ofArgv settings args) ↔
      args.tail.head? = some "-h" ∨ ¬ Filter.Stalls args.tail) ∧
    (Conforms (ofArgs settings args) ↔ args.head? = some "-h" ∨ ¬ Filter.Stalls args) := by
  have hnot (words : Arguments) : (¬ ∃ digits, Subcommand.parser words = .overlong digits) ↔
      words.head? = some "-h" ∨ ¬ Filter.Stalls words := by
    rw [Subcommand.exists_parser_eq_overlong_iff, not_and_or, not_not]
  refine ⟨Filter.exists_parser_eq_found_iff, ?_, ?_, ?_⟩
  · rw [Subcommand.ofArguments_cases, hnot]
  · rw [conforms_ofArgv, hnot]
  · rw [ofArgs, conforms_ofArgv_cons, hnot]

theorem overlong_numeral_escapes :
    let args := [String.ofList (List.replicate 4301 '1')]
    Filter.parser args = .overlong 4301 ∧
      Subcommand.ofArguments args = .error (.overlongId 4301) ∧
      ofArgv {} ("ta" :: args) = .error (.overlongId 4301) ∧
      ofArgs {} args = .error (.overlongId 4301) := by
  intro args
  have hholds : TaskId.HoldsOverlong (String.ofList (List.replicate 4301 '1')) 4301 := by
    refine ⟨[], List.replicate 4301 '1', [], ?_, by simp, ?_, List.length_replicate, by decide⟩
    · rw [String.toList_ofList]
      apply List.splitOn_eq_singleton
      intro hcomma
      exact absurd (List.eq_of_mem_replicate hcomma) (by decide)
    · rw [List.all_replicate]
      decide
  have hstalls : Filter.StallsAt args 4301 := ⟨[], _, [], rfl, by simp, hholds⟩
  have hhead : args.head? ≠ some "-h" := by
    intro h
    rw [Option.some.inj h] at hholds
    exact absurd (TaskId.readList_eq_overlong_iff.mpr hholds) (by decide +kernel)
  have hparser := Subcommand.parser_eq_overlong_iff.mpr ⟨hhead, hstalls⟩
  refine ⟨Filter.parser_eq_overlong_iff.mpr hstalls, ?_, ?_, ?_⟩
  · rw [Subcommand.ofArguments, hparser]
  · rw [ofArgv, read, dispatch_eq_overlong_iff.mpr hparser]
  · rw [ofArgs, ofArgv, read, dispatch_eq_overlong_iff.mpr hparser]

end Command

end TaskLine
