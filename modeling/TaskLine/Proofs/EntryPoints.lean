import TaskLine.Proofs.AssembledParsers
import TaskLine.Proofs.LaterArguments
import TaskLine.Proofs.LeftoverCut
import TaskLine.Proofs.WrittenSubcommands

namespace TaskLine

namespace Subcommand

theorem ofArguments_eq_noMatch_iff {args tokens : Arguments} {location : Option Location} :
    ofArguments args = .error (.noMatch tokens location) ↔
      tokens = args ∧ location = none ∧ parser args = .declined := by
  rw [ofArguments]
  cases parser args <;> simp [eq_comm]

theorem ofArguments_eq_overlongId_iff {args : Arguments} {digits : Nat} :
    ofArguments args = .error (.overlongId digits) ↔ parser args = .overlong digits := by
  rw [ofArguments]
  cases parser args <;> simp

theorem ofArguments_outcomes (args : Arguments) :
    (∃ subcommand rest, ofArguments args = .ok (subcommand, rest) ∧ rest <:+ args) ∨
      ofArguments args = .error (.noMatch args none) ∨
      ∃ digits, ofArguments args = .error (.overlongId digits) := by
  rw [ofArguments]
  cases hparser : parser args with
  | found answer =>
    obtain ⟨subcommand, rest⟩ := answer
    have hsuffix := Parser.LeavesSuffix.subcommand args subcommand rest hparser
    exact .inl ⟨subcommand, rest, rfl, hsuffix⟩
  | declined => exact .inr (.inl rfl)
  | overlong digits => exact .inr (.inr ⟨digits, rfl⟩)

end Subcommand

def Location.named (name : String) (location : Location) : Location :=
  { location with argv := location.argv.set 0 name }

def CommandError.named (name : String) : CommandError → CommandError
  | noMatch args location => noMatch args (location.map (Location.named name))
  | trailing rest location => trailing rest (location.map (Location.named name))
  | emptyCommandLine => emptyCommandLine
  | overlongId digits => overlongId digits

namespace Command

open Grammar (dispatch)

def Logged.named (name : String) (logged : Logged) : Logged where
  answer := match logged.answer with
    | .ok command => .ok { command with commandName := name }
    | .error error => .error (error.named name)
  log := logged.log

/-- This is what the dispatcher's answer to these arguments comes to under this name, where arguments
left over are allowed or not. -/
structure Follows (allowed : Bool) (name : String) (args : Arguments)
    (outcome : Except CommandError Command) : Prop where
  exact : ∀ subcommand, Subcommand.ofArguments args = .ok (subcommand, []) →
    outcome = .ok ⟨name, subcommand⟩
  ignored : ∀ subcommand rest, Subcommand.ofArguments args = .ok (subcommand, rest) → rest ≠ [] →
    allowed = true → outcome = .ok ⟨name, subcommand⟩
  refused : ∀ subcommand rest, Subcommand.ofArguments args = .ok (subcommand, rest) → rest ≠ [] →
    allowed = false → outcome = .error (.trailing rest (some {
      argv := name :: args
      index := some ((args.length : Int) + 1 - rest.length) }))
  unmatched : ∀ tokens location,
    Subcommand.ofArguments args = .error (.noMatch tokens location) →
    outcome = .error (.noMatch tokens (some { argv := name :: args }))
  overlong : ∀ digits, Subcommand.ofArguments args = .error (.overlongId digits) →
    outcome = .error (.overlongId digits)

theorem dispatch_eq_declined_iff {args : Arguments} :
    dispatch args = .declined ↔ Subcommand.parser args = .declined := by
  rw [Subcommand.parser, Parser.map]
  cases dispatch args <;> simp

theorem ofArgv_of_overlong {settings : Settings} {name : String} {args : Arguments} {digits : Nat}
    (h : dispatch args = .overlong digits) :
    ofArgv settings (name :: args) = .error (.overlongId digits) := by
  rw [ofArgv, read, h]

theorem index_of_left {args rest : Arguments} (name : String) (h : rest <:+ args) :
    (((name :: args).length - rest.length : Nat) : Int) = (args.length : Int) + 1 - rest.length := by
  have hlength := h.length_le
  rw [List.length_cons]
  omega

theorem follows_ofArgv (settings : Settings) (name : String) (args : Arguments) :
    Follows settings.allowTrailing name args (ofArgv settings (name :: args)) := by
  have hfound {subcommand : Subcommand} {rest : Arguments}
      (h : Subcommand.ofArguments args = .ok (subcommand, rest)) :
      ∃ grammar, dispatch args = .found ((grammar, subcommand), rest) ∧ rest <:+ args := by
    have hparser := Subcommand.ofArguments_eq_ok_iff.mp h
    obtain ⟨grammar, hdispatch⟩ := Subcommand.parser_eq_found_iff.mp hparser
    exact ⟨grammar, hdispatch, Parser.LeavesSuffix.subcommand args subcommand rest hparser⟩
  constructor
  · intro subcommand h
    obtain ⟨grammar, hdispatch, -⟩ := hfound h
    exact ofArgv_of_exact hdispatch
  · intro subcommand rest h hrest hallowed
    obtain ⟨grammar, hdispatch, -⟩ := hfound h
    rw [ofArgv_of_left hdispatch hrest, hallowed]
    rfl
  · intro subcommand rest h hrest hallowed
    obtain ⟨grammar, hdispatch, hsuffix⟩ := hfound h
    rw [ofArgv_of_left hdispatch hrest, hallowed, index_of_left name hsuffix]
    rfl
  · intro tokens location h
    obtain ⟨rfl, -, hparser⟩ := Subcommand.ofArguments_eq_noMatch_iff.mp h
    exact ofArgv_of_declined (dispatch_eq_declined_iff.mpr hparser)
  · intro digits h
    have hparser := Subcommand.ofArguments_eq_overlongId_iff.mp h
    exact ofArgv_of_overlong (dispatch_eq_overlong_iff.mpr hparser)

theorem read_named (settings : Settings) (name other : String) (args : Arguments) :
    read settings (other :: args) = (read settings (name :: args)).named other := by
  simp only [read]
  cases dispatch args with
  | found answer =>
    obtain ⟨⟨grammar, subcommand⟩, rest⟩ := answer
    cases rest with
    | nil => rfl
    | cons first rest => cases settings.allowTrailing <;> rfl
  | declined => rfl
  | overlong digits => rfl

theorem entry_points_agree (settings others : Settings) (name : String) (args : Arguments) :
    ((∃ subcommand rest, Subcommand.ofArguments args = .ok (subcommand, rest) ∧ rest <:+ args) ∨
      Subcommand.ofArguments args = .error (.noMatch args none) ∨
      ∃ digits, Subcommand.ofArguments args = .error (.overlongId digits)) ∧
    Follows settings.allowTrailing name args (ofArgv settings (name :: args)) ∧
    Follows others.allowTrailing others.programName args (ofArgs others args) ∧
    ∀ other, read settings (other :: args) = (read settings (name :: args)).named other := by
  refine ⟨Subcommand.ofArguments_outcomes args, follows_ofArgv settings name args, ?_, ?_⟩
  · exact follows_ofArgv others others.programName args
  · intro other
    exact read_named settings name other args

theorem entry_points_agree_instances :
    let others : Settings := { allowTrailing := true, programName := "12" }
    let listing : Subcommand := .list {}
    Subcommand.ofArguments ["list", "gc"] = .ok (listing, ["gc"]) ∧
      ofArgv {} ("add" :: ["list", "gc"]) =
        .error (.trailing ["gc"] (some { argv := ["add", "list", "gc"], index := some 2 })) ∧
      ofArgs others ["list", "gc"] = .ok ⟨"12", listing⟩ ∧
      ofArgs others ["frob"] = .error (.noMatch ["frob"] (some { argv := ["12", "frob"] })) := by
  intro others listing
  have hlist : Subcommand.ofArguments ["list", "gc"] = .ok (listing, ["gc"]) := by decide +kernel
  have hfrob : Subcommand.ofArguments ["frob"] = .error (.noMatch ["frob"] none) := by
    decide +kernel
  obtain ⟨-, hargv, hargs, -⟩ := entry_points_agree {} others "add" ["list", "gc"]
  obtain ⟨-, -, hnone, -⟩ := entry_points_agree {} others "add" ["frob"]
  refine ⟨hlist, ?_, ?_, ?_⟩
  · exact hargv.refused listing ["gc"] hlist (by decide) rfl
  · exact hargs.ignored listing ["gc"] hlist (by decide) rfl
  · exact hnone.unmatched ["frob"] none hfrob

end Command

end TaskLine
