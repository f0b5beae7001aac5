import Mathlib.Data.List.DropRight
import TaskLine.Proofs.EntryPoints

/-!
What a reading puts on record is what it came to: nothing where nothing was decided, the arguments
where no grammar matched them, and otherwise the grammar that did, followed by the arguments left over
where these were passed over.
-/

namespace TaskLine

def Subcommand.grammar : Subcommand → Grammar
  | version => .version
  | help _ => .help
  | add _ => .add
  | modify _ _ => .modify
  | list _ => .list
  | info _ _ => .info
  | gc => .gc
  | sync => .sync

namespace Grammar

def Yields (grammar : Grammar) (subcommand : Subcommand) : Prop :=
  ∃ args rest, grammar.parser args = .found (subcommand, rest)

theorem grammar_complete (grammar : Grammar) (filter : Filter) (word : String) (rest : Arguments) :
    (grammar.complete filter word rest).1.grammar = grammar := by
  cases grammar <;> rfl

theorem Yields.eq_grammar {grammar : Grammar} {subcommand : Subcommand}
    (h : grammar.Yields subcommand) : grammar = subcommand.grammar := by
  obtain ⟨args, rest, h⟩ := h
  obtain ⟨filter, word, left, -, hcomplete, -⟩ := exists_complete_of_found h
  have hgrammar := grammar_complete grammar filter word left
  rw [hcomplete] at hgrammar
  exact hgrammar.symm

theorem yields_iff_of_dispatch {grammar : Grammar} {args rest : Arguments}
    {subcommand : Subcommand} (h : dispatch args = .found ((grammar, subcommand), rest))
    (other : Grammar) : other.Yields subcommand ↔ other = subcommand.grammar := by
  have hyields : grammar.Yields subcommand := ⟨args, rest, grammar_of_dispatch h⟩
  constructor
  · exact Yields.eq_grammar
  · rintro rfl
    rw [← hyields.eq_grammar]
    exact hyields

end Grammar

namespace Command

open Grammar (dispatch)

def Logged.records (logged : Logged) : List (LogEvent.Source × String) :=
  logged.log.map fun event => (event.source, event.message)

/-- The records agree with the answer to this command line, where arguments left over are allowed or
not. -/
structure Tells (allowed : Bool) (argv : Arguments) (logged : Logged) : Prop where
  silent : logged.records = [] ↔
    argv = [] ∨ ∃ digits, logged.answer = .error (.overlongId digits)
  unmatched : ∀ tokens location, logged.answer = .error (.noMatch tokens location) →
    logged.records = [(.dispatch, "No grammar matched " ++ Text.quoteList argv.tail)]
  matched : ∀ subcommand rest, Subcommand.ofArguments argv.tail = .ok (subcommand, rest) →
    (∀ grammar : Grammar, grammar.Yields subcommand ↔ grammar = subcommand.grammar) ∧
    logged.records =
      (.dispatch, "Matched " ++ subcommand.grammar.name ++ " grammar, " ++ rest.length.repr ++
        " argument(s) left") ::
      if 0 < rest.length ∧ allowed then
        [(.command, "Ignoring trailing arguments " ++ Text.quoteList (argv.rtake rest.length))]
      else []
  accepted : ∀ command, logged.answer = .ok command →
    ∃ rest, Subcommand.ofArguments argv.tail = .ok (command.subcommand, rest)
  refused : ∀ subcommand rest, Subcommand.ofArguments argv.tail = .ok (subcommand, rest) →
    (0 < rest.length ∧ logged.records.length = 1 ↔
      ∃ left location, logged.answer = .error (.trailing left location))
  located : ∀ left location, logged.answer = .error (.trailing left location) →
    ∃ subcommand, Subcommand.ofArguments argv.tail = .ok (subcommand, left) ∧
      location = some { argv := argv, index := some ((argv.length : Int) - left.length) }

theorem Tells.of_error {allowed : Bool} {argv : Arguments} {logged : Logged} {error : CommandError}
    (hanswer : logged.answer = .error error)
    (hnone : ∀ answer, Subcommand.ofArguments argv.tail ≠ .ok answer)
    (hleft : ∀ left location, error ≠ .trailing left location)
    (hsilent : logged.records = [] ↔ argv = [] ∨ ∃ digits, error = .overlongId digits)
    (hunmatched : ∀ tokens location, error = .noMatch tokens location →
      logged.records = [(.dispatch, "No grammar matched " ++ Text.quoteList argv.tail)]) :
    Tells allowed argv logged := by
  constructor
  · simpa [hanswer] using hsilent
  · simpa [hanswer] using hunmatched
  · intro subcommand rest hok
    exact absurd hok (hnone _)
  · simp [hanswer]
  · intro subcommand rest hok
    exact absurd hok (hnone _)
  · intro left location htrailing
    rw [hanswer, Except.error.injEq] at htrailing
    exact absurd htrailing (hleft left location)

section Cases

variable {args rest : Arguments} (settings : Settings) (name : String)

theorem rtake_of_suffix (h : rest <:+ args) : (name :: args).rtake rest.length = rest := by
  have hsuffix : rest <:+ name :: args := h.trans (List.suffix_cons name args)
  rw [List.rtake]
  exact (List.suffix_iff_eq_drop.mp hsuffix).symm

theorem records_of_declined (h : dispatch args = .declined) :
    (read settings (name :: args)).records =
      [(.dispatch, "No grammar matched " ++ Text.quoteList args)] := by
  rw [Logged.records, read, h]
  rfl

theorem records_of_overlong {digits : Nat} (h : dispatch args = .overlong digits) :
    (read settings (name :: args)).records = [] := by
  rw [Logged.records, read, h]
  rfl

theorem records_of_found {grammar : Grammar} {subcommand : Subcommand}
    (h : dispatch args = .found ((grammar, subcommand), rest)) :
    (read settings (name :: args)).records =
      (.dispatch, "Matched " ++ subcommand.grammar.name ++ " grammar, " ++ rest.length.repr ++
        " argument(s) left") ::
      if 0 < rest.length ∧ settings.allowTrailing then
        [(.command, "Ignoring trailing arguments " ++
          Text.quoteList ((name :: args).rtake rest.length))]
      else [] := by
  have hgrammar := (Grammar.yields_iff_of_dispatch h grammar).mp
    ⟨args, rest, Grammar.grammar_of_dispatch h⟩
  have hparser := Subcommand.parser_eq_found_iff.mpr ⟨grammar, h⟩
  have hsuffix := Parser.LeavesSuffix.subcommand args subcommand rest hparser
  rw [rtake_of_suffix name hsuffix, ← hgrammar, Logged.records, read, h]
  cases rest with
  | nil => rfl
  | cons first rest => cases hallowed : settings.allowTrailing <;> rfl

theorem answer_of_found {grammar : Grammar} {subcommand : Subcommand}
    (h : dispatch args = .found ((grammar, subcommand), rest)) :
    (read settings (name :: args)).answer =
      if 0 < rest.length ∧ settings.allowTrailing = false then
        .error (.trailing rest (some {
          argv := name :: args
          index := some (((name :: args).length : Int) - rest.length) }))
      else .ok ⟨name, subcommand⟩ := by
  have hok : Subcommand.ofArguments args = .ok (subcommand, rest) :=
    Subcommand.ofArguments_eq_ok_iff.mpr (Subcommand.parser_eq_found_iff.mpr ⟨grammar, h⟩)
  have hfollows := follows_ofArgv settings name args
  by_cases hrest : rest = []
  · subst hrest
    exact hfollows.exact subcommand hok
  · have hpos := List.length_pos_iff.mpr hrest
    cases hallowed : settings.allowTrailing with
    | true =>
      rw [if_neg (by simp)]
      exact hfollows.ignored subcommand rest hok hrest hallowed
    | false =>
      rw [if_pos ⟨hpos, rfl⟩]
      exact hfollows.refused subcommand rest hok hrest hallowed

theorem tells_nil : Tells settings.allowTrailing [] (read settings []) := by
  have hanswer : (read settings []).answer = .error .emptyCommandLine := by rw [read]
  have hrecords : (read settings []).records = [] := by rw [Logged.records, read, List.map_nil]
  have hnone : Subcommand.ofArguments [] = .error (.noMatch [] none) := by
    rw [Subcommand.ofArguments, Subcommand.parser_nil]
  apply Tells.of_error hanswer
  · simp [hnone]
  · simp
  · simp [hrecords]
  · simp

theorem tells_of_declined (h : dispatch args = .declined) :
    Tells settings.allowTrailing (name :: args) (read settings (name :: args)) := by
  have hrecords := records_of_declined settings name h
  have hnone : Subcommand.ofArguments args = .error (.noMatch args none) :=
    Subcommand.ofArguments_eq_noMatch_iff.mpr ⟨rfl, rfl, dispatch_eq_declined_iff.mp h⟩
  apply Tells.of_error (ofArgv_of_declined h)
  · simp [hnone]
  · simp
  · simp [hrecords]
  · simp [hrecords]

theorem tells_of_overlong {digits : Nat} (h : dispatch args = .overlong digits) :
    Tells settings.allowTrailing (name :: args) (read settings (name :: args)) := by
  have hrecords := records_of_overlong settings name h
  have hnone : Subcommand.ofArguments args = .error (.overlongId digits) :=
    Subcommand.ofArguments_eq_overlongId_iff.mpr (dispatch_eq_overlong_iff.mp h)
  apply Tells.of_error (ofArgv_of_overlong h)
  · simp [hnone]
  · simp
  · simp [hrecords]
  · simp

theorem length_records_eq_one_iff {grammar : Grammar} {subcommand : Subcommand}
    (h : dispatch args = .found ((grammar, subcommand), rest)) :
    (read settings (name :: args)).records.length = 1 ↔
      ¬ (0 < rest.length ∧ settings.allowTrailing = true) := by
  rw [records_of_found settings name h, List.length_cons]
  split
  · next hignored => simp [hignored]
  · next hnot => simp [hnot]

theorem refused_iff_of_found {grammar : Grammar} {subcommand : Subcommand}
    (h : dispatch args = .found ((grammar, subcommand), rest)) :
    (∃ left location, (read settings (name :: args)).answer = .error (.trailing left location)) ↔
      0 < rest.length ∧ settings.allowTrailing = false := by
  rw [answer_of_found settings name h]
  split
  · next hrefused => simp [hrefused]
  · next hnot => simp [hnot]

theorem tells_of_found {grammar : Grammar} {subcommand : Subcommand}
    (h : dispatch args = .found ((grammar, subcommand), rest)) :
    Tells settings.allowTrailing (name :: args) (read settings (name :: args)) := by
  have hok : Subcommand.ofArguments args = .ok (subcommand, rest) :=
    Subcommand.ofArguments_eq_ok_iff.mpr (Subcommand.parser_eq_found_iff.mpr ⟨grammar, h⟩)
  have hunique {other : Subcommand} {left : Arguments}
      (hother : Subcommand.ofArguments args = .ok (other, left)) :
      subcommand = other ∧ rest = left := by
    rw [hok, Except.ok.injEq, Prod.mk.injEq] at hother
    exact hother
  have hrecords := records_of_found settings name h
  have hanswer := answer_of_found settings name h
  constructor
  · have hnot (digits : Nat) :
        (read settings (name :: args)).answer ≠ .error (.overlongId digits) := by
      rw [hanswer]
      split <;> simp
    simp [hrecords, hnot]
  · intro tokens location hnone
    rw [hanswer] at hnone
    split at hnone <;> cases hnone
  · intro other left hother
    obtain ⟨rfl, rfl⟩ := hunique hother
    exact ⟨Grammar.yields_iff_of_dispatch h, hrecords⟩
  · intro command hcommand
    rw [hanswer] at hcommand
    split at hcommand
    · cases hcommand
    · cases hcommand
      exact ⟨rest, hok⟩
  · intro other left hother
    obtain ⟨rfl, rfl⟩ := hunique hother
    rw [length_records_eq_one_iff settings name h, refused_iff_of_found settings name h, not_and,
      Bool.not_eq_true]
    exact and_congr_right fun hpos => imp_iff_right hpos
  · intro left location htrailing
    rw [hanswer] at htrailing
    split at htrailing
    · cases htrailing
      exact ⟨subcommand, hok, rfl⟩
    · cases htrailing

end Cases

theorem log_tells_answer (settings : Settings) (argv : Arguments) :
    Tells settings.allowTrailing argv (read settings argv) := by
  cases argv with
  | nil => exact tells_nil settings
  | cons name args =>
    cases hdispatch : dispatch args with
    | found answer =>
      obtain ⟨⟨grammar, subcommand⟩, rest⟩ := answer
      exact tells_of_found settings name hdispatch
    | declined => exact tells_of_declined settings name hdispatch
    | overlong digits => exact tells_of_overlong settings name hdispatch

theorem log_tells_answer_of_left :
    let argv := ["ta", "12", "debug", "gc", "it's"]
    (read {} argv).answer = .error (.trailing ["gc", "it's"] (some {
      argv := argv
      index := some 3 })) ∧
    (read {} argv).records = [(.dispatch, "Matched info grammar, 2 argument(s) left")] ∧
    (read { allowTrailing := true } argv).records = [
      (.dispatch, "Matched info grammar, 2 argument(s) left"),
      (.command, "Ignoring trailing arguments ('gc', \x22it's\x22)")] := by
  intro argv
  have hok : Subcommand.ofArguments argv.tail = .ok (.info {
      base := .idList [.workingSet 12 (by decide)] } true, ["gc", "it's"]) := by decide +kernel
  have hrefused := log_tells_answer {} argv
  have hignored := log_tells_answer { allowTrailing := true } argv
  have hrecords : (read {} argv).records =
      [(.dispatch, "Matched info grammar, 2 argument(s) left")] :=
    (hrefused.matched _ _ hok).2.trans (by decide +kernel)
  have hone : (read {} argv).records.length = 1 := by rw [hrecords, List.length_singleton]
  obtain ⟨left, location, hanswer⟩ := (hrefused.refused _ _ hok).mp ⟨by decide, hone⟩
  obtain ⟨subcommand, hleft, rfl⟩ := hrefused.located _ _ hanswer
  rw [hok] at hleft
  cases hleft
  exact ⟨hanswer, hrecords, (hignored.matched _ _ hok).2.trans (by decide +kernel)⟩

end Command

end TaskLine
