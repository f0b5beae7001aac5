import TaskLine.Proofs.Openings

namespace TaskLine

namespace Arguments

theorem take_opening (name word : String) (taken left : Arguments) :
    (name :: (taken ++ word :: left)).take (taken.length + 2) = name :: (taken ++ [word]) := by
  rw [List.take_succ_cons, List.take_length_add_append]
  rfl

theorem drop_opening (name word : String) (taken left : Arguments) :
    (name :: (taken ++ word :: left)).drop (taken.length + 2) = left := by
  rw [List.drop_succ_cons, List.drop_length_add_append]
  rfl

theorem length_opening (name word : String) (taken left : Arguments) :
    (name :: (taken ++ word :: left)).length = taken.length + 2 + left.length := by
  simp only [List.length_cons, List.length_append]
  omega

end Arguments

namespace Command

open Grammar (dispatch)

/-- So many of the first arguments are this command, and no other number of them is one. -/
structure CutsAt (argv : Arguments) (index : Nat) (command : Command) : Prop where
  accepted : ofArgv {} (argv.take index) = .ok command
  shorter : ∀ front, front <+: argv → front ≠ [] → front.length < index →
    ofArgv {} front = .error (.noMatch front.tail (some { argv := front }))
  longer : ∀ front, front <+: argv → index < front.length →
    ofArgv {} front =
      .error (.trailing (front.drop index) (some { argv := front, index := some (index : Int) }))

theorem ofArgv_of_exact {settings : Settings} {name : String} {args : Arguments}
    {grammar : Grammar} {subcommand : Subcommand}
    (h : dispatch args = .found ((grammar, subcommand), [])) :
    ofArgv settings (name :: args) = .ok ⟨name, subcommand⟩ := by
  rw [ofArgv, read, h]

theorem ofArgv_of_declined {settings : Settings} {name : String} {args : Arguments}
    (h : dispatch args = .declined) :
    ofArgv settings (name :: args) = .error (.noMatch args (some { argv := name :: args })) := by
  rw [ofArgv, read, h]

theorem ofArgv_of_left {settings : Settings} {name : String} {args rest : Arguments}
    {grammar : Grammar} {subcommand : Subcommand}
    (h : dispatch args = .found ((grammar, subcommand), rest)) (hrest : rest ≠ []) :
    ofArgv settings (name :: args) = if settings.allowTrailing then .ok ⟨name, subcommand⟩
      else .error (.trailing rest (some {
        argv := name :: args
        index := some (((name :: args).length - rest.length : Nat) : Int) })) := by
  obtain ⟨first, others, rfl⟩ := List.exists_cons_of_ne_nil hrest
  rw [ofArgv, read, h]
  cases settings.allowTrailing <;> rfl

theorem exists_dispatch_of_trailing {settings : Settings} {argv rest : Arguments}
    {location : Option Location} (h : ofArgv settings argv = .error (.trailing rest location)) :
    ∃ name args grammar subcommand, argv = name :: args ∧ rest ≠ [] ∧
      dispatch args = .found ((grammar, subcommand), rest) ∧
      location = some {
        argv := argv
        index := some ((argv.length - rest.length : Nat) : Int) } := by
  cases argv with
  | nil => simp [ofArgv, read] at h
  | cons name args =>
    cases hdispatch : dispatch args with
    | found answer =>
      obtain ⟨⟨grammar, subcommand⟩, left⟩ := answer
      by_cases hleft : left = []
      · rw [hleft] at hdispatch
        rw [ofArgv_of_exact hdispatch] at h
        cases h
      · rw [ofArgv_of_left hdispatch hleft] at h
        cases hallow : settings.allowTrailing with
        | false =>
          simp only [hallow, Bool.false_eq_true, if_false, Except.error.injEq,
            CommandError.trailing.injEq] at h
          obtain ⟨rfl, rfl⟩ := h
          exact ⟨name, args, grammar, subcommand, rfl, hleft, hdispatch, rfl⟩
        | true => simp [hallow] at h
    | declined =>
      rw [ofArgv_of_declined hdispatch] at h
      cases h
    | overlong digits => simp [ofArgv, read, hdispatch] at h

theorem cutsAt_of_opens {grammar : Grammar} {taken left : Arguments} {filter : Filter}
    {name word : String} {subcommand : Subcommand} (h : grammar.Opens taken filter word)
    (hcomplete : ∀ others, grammar.complete filter word others = (subcommand, others)) :
    CutsAt (name :: (taken ++ word :: left)) (taken.length + 2) ⟨name, subcommand⟩ := by
  have hdispatch (others : Arguments) :
      dispatch (taken ++ word :: others) = .found ((grammar, subcommand), others) :=
    Grammar.dispatch_eq_found_iff.mpr ⟨taken, filter, word, others, rfl, h, hcomplete others⟩
  constructor
  · rw [Arguments.take_opening]
    exact ofArgv_of_exact (hdispatch [])
  · intro front hfront hne hlength
    obtain ⟨first, front, rfl⟩ := List.exists_cons_of_ne_nil hne
    obtain ⟨rfl, back, hback⟩ := List.cons_prefix_cons.mp hfront
    rcases Arguments.prefix_or_of_append hback with htaken | ⟨middle, rfl, -⟩
    · apply ofArgv_of_declined
      apply Grammar.dispatch_of_arguments
      · intro text htext
        exact h.isArgument text (htaken.mem htext)
      · intro hhead
        obtain ⟨others, rfl⟩ := List.head?_eq_some_iff.mp hhead
        obtain ⟨rest, rfl⟩ := htaken
        exact h.not_help rfl
    · rw [Arguments.length_opening] at hlength
      omega
  · intro front hfront hlength
    obtain ⟨first, front, rfl⟩ := List.exists_cons_of_length_pos (by omega : 0 < front.length)
    obtain ⟨rfl, back, hback⟩ := List.cons_prefix_cons.mp hfront
    rcases Arguments.prefix_or_of_append hback with htaken | ⟨middle, rfl, -⟩
    · have hshort := htaken.length_le
      rw [List.length_cons] at hlength
      omega
    · have hmiddle : middle ≠ [] := by
        rintro rfl
        simp at hlength
      rw [ofArgv_of_left (hdispatch middle) hmiddle, Arguments.drop_opening,
        Arguments.length_opening, Nat.add_sub_cancel]
      rfl

theorem CutsAt.accepts_iff {argv front : Arguments} {index : Nat} {command : Command}
    (h : CutsAt argv index command) (hfront : front <+: argv) (hne : front ≠ []) :
    (∃ accepted, ofArgv {} front = .ok accepted) ↔ front = argv.take index := by
  constructor
  · rintro ⟨accepted, haccepted⟩
    have hlength : front.length = index := by
      rcases Nat.lt_trichotomy front.length index with hless | hsame | hmore
      · rw [h.shorter front hfront hne hless] at haccepted
        cases haccepted
      · exact hsame
      · rw [h.longer front hfront hmore] at haccepted
        cases haccepted
    rw [← hlength]
    exact List.prefix_iff_eq_take.mp hfront
  · rintro rfl
    exact ⟨command, h.accepted⟩

theorem message_of_index {argv rest : Arguments} {index : Nat} {text : String}
    (h : argv[index]? = some text) (hrest : rest.head? = some text) :
    (CommandError.trailing rest (some { argv := argv, index := some (index : Int) })).message =
      "Unexpected argument '" ++ text ++ "'" ++ "\n" ++
        ("  at argument " ++ index.repr ++ ": " ++ Text.quote text ++ "\n" ++
          ("  command: " ++ " ".intercalate argv)) := by
  obtain ⟨others, rfl⟩ := List.head?_eq_some_iff.mp hrest
  have hshown : Location.lines { argv := argv, index := some (index : Int) } ≠ [] := by
    simp [Location.lines_of_index h]
  have hsummary : (CommandError.trailing (text :: others)
      (some { argv := argv, index := some (index : Int) })).summary =
      "Unexpected argument '" ++ text ++ "'" := rfl
  simp only [CommandError.message, CommandError.location?, if_neg hshown]
  rw [Location.format_of_index h, hsummary]

theorem trailing_points_at_cut {settings : Settings} {argv rest : Arguments}
    {location : Option Location} (h : ofArgv settings argv = .error (.trailing rest location)) :
    ∃ (index : Nat) (text : String) (command : Command),
      2 ≤ index ∧ index < argv.length ∧ rest = argv.drop index ∧ argv[index]? = some text ∧
      location = some { argv := argv, index := some (index : Int) } ∧
      (CommandError.trailing rest location).message =
        "Unexpected argument '" ++ text ++ "'" ++ "\n" ++
          ("  at argument " ++ index.repr ++ ": " ++ Text.quote text ++ "\n" ++
            ("  command: " ++ " ".intercalate argv)) ∧
      CutsAt argv index command ∧
      (∀ front, front <+: argv → front ≠ [] →
        ((∃ accepted, ofArgv {} front = .ok accepted) ↔ front = argv.take index)) ∧
      ofArgv { settings with allowTrailing := true } argv = .ok command ∧
      argv.head? = some command.commandName ∧ command.subcommand.takesAll = false := by
  obtain ⟨name, args, grammar, subcommand, rfl, hrest, hdispatch, hlocation⟩ :=
    exists_dispatch_of_trailing h
  obtain ⟨taken, filter, word, left, rfl, hopens, hcomplete⟩ :=
    Grammar.dispatch_eq_found_iff.mp hdispatch
  have htakes := Grammar.takesAll_of_complete hcomplete hrest
  obtain ⟨rfl, hothers⟩ := Grammar.complete_of_not_takesAll hcomplete htakes
  have hcut : CutsAt (name :: (taken ++ word :: rest)) (taken.length + 2) ⟨name, subcommand⟩ :=
    cutsAt_of_opens hopens hothers
  obtain ⟨text, others, rfl⟩ := List.exists_cons_of_ne_nil hrest
  have hdrop := Arguments.drop_opening name word taken (text :: others)
  have hat : (name :: (taken ++ word :: text :: others))[taken.length + 2]? = some text := by
    rw [← List.head?_drop, hdrop]
    rfl
  rw [Arguments.length_opening, Nat.add_sub_cancel] at hlocation
  refine ⟨taken.length + 2, text, ⟨name, subcommand⟩, by omega, ?_, hdrop.symm, hat, hlocation, ?_,
    hcut, fun front => hcut.accepts_iff, ?_, rfl, htakes⟩
  · rw [Arguments.length_opening, List.length_cons]
    omega
  · rw [hlocation]
    exact message_of_index hat rfl
  · rw [ofArgv_of_left hdispatch hrest]
    rfl

theorem trailing_points_at_cut_after_filter :
    let argv := ["ta", "12", "-h", "list", "x", "add"]
    let location : Location := { argv := argv, index := some 4 }
    ofArgv {} argv = .error (.trailing ["x", "add"] (some location)) ∧
      ∃ (index : Nat) (command : Command), some (index : Int) = location.index ∧
        CutsAt argv index command ∧ command.subcommand.takesAll = false := by
  intro argv location
  have h : ofArgv {} argv = .error (.trailing ["x", "add"] (some location)) := by decide +kernel
  obtain ⟨index, text, command, -, -, -, -, hlocation, -, hcut, -, -, -, htakes⟩ :=
    trailing_points_at_cut h
  refine ⟨h, index, command, ?_, hcut, htakes⟩
  rw [Option.some.inj hlocation]

end Command

end TaskLine
