import TaskLine.Proofs.DispatchOrder

/-!
Parsers put together from the library's own leave an end of the arguments they were given. So a
repetition that goes on whenever the number of arguments has changed goes on only when there are
fewer, and comes to its end.
-/

namespace TaskLine

namespace Parser

variable {α β : Type}

def LeavesSuffix (p : Parser α) : Prop :=
  ∀ args value rest, p args = .found (value, rest) → rest <:+ args

/-- The pieces may be put together to any depth and any function may be mapped, also to bring values
of different kinds into one type. -/
inductive Assembled : {α : Type} → Parser α → Prop where
  | ids : Assembled TaskId.listParser
  | plusTag : Assembled Tag.plus
  | minusTag : Assembled Tag.minus
  | anyWord : Assembled anyArgument
  | status : Assembled Status.parser
  | filter : Assembled Filter.parser
  | modification : Assembled Modification.parser
  | report : Assembled Report.parser
  | subcommand : Assembled Subcommand.parser
  | nothing {α : Type} (value : α) : Assembled (succeed value)
  | literal (text : String) : Assembled (literal text)
  | oneOf (options : List String) : Assembled (oneOf options)
  | alt {α : Type} {ps : List (Parser α)} (h : ∀ p ∈ ps, Assembled p) : Assembled (alt ps)
  | sequence {α : Type} {ps : List (Parser α)} (h : ∀ p ∈ ps, Assembled p) : Assembled (sequence ps)
  | pair {α β : Type} {p : Parser α} {q : Parser β} (hp : Assembled p) (hq : Assembled q) :
      Assembled (p.pair q)
  | many {α : Type} {p : Parser α} (h : Assembled p) : Assembled (many p)
  | map {α β : Type} {p : Parser α} (f : α → β) (h : Assembled p) : Assembled (p.map f)

/-- The loop of a repetition, whose only guard is that the number of arguments has changed. It gives
nothing when it would go on after so many turns. -/
def loop (p : Parser α) (turns : Nat) (values : List α) (rest : Arguments) :
    Option (Reading (List α × Arguments)) :=
  match p rest with
  | .declined => some (.found (values, rest))
  | .overlong digits => some (.overlong digits)
  | .found (value, remaining) =>
    if remaining.length = rest.length then some (.found (values, rest))
    else match turns with
      | 0 => none
      | turns + 1 => loop p turns (values ++ [value]) remaining

namespace LeavesSuffix

theorem succeed (value : α) : LeavesSuffix (succeed value) := by
  intro args found rest h
  rw [Parser.succeed, Reading.found.injEq, Prod.mk.injEq] at h
  obtain ⟨-, rfl⟩ := h
  exact List.suffix_refl args

theorem argument (read : String → Reading α) : LeavesSuffix (argument read) := by
  intro args value rest h
  cases args with
  | nil => cases h
  | cons first args =>
    rw [argument_cons] at h
    cases hread : read first with
    | found found =>
      rw [hread, Reading.map_found, Reading.found.injEq, Prod.mk.injEq] at h
      rw [← h.2]
      exact List.suffix_cons first args
    | declined => simp [hread] at h
    | overlong digits => simp [hread] at h

theorem map {p : Parser α} (h : LeavesSuffix p) (f : α → β) : LeavesSuffix (p.map f) := by
  intro args value rest hmap
  obtain ⟨first, hp, -⟩ := map_eq_found hmap
  exact h args first rest hp

theorem alt {ps : List (Parser α)} (h : ∀ p ∈ ps, LeavesSuffix p) : LeavesSuffix (alt ps) := by
  intro args value rest halt
  have hne : Parser.alt ps args ≠ .declined := by simp [halt]
  obtain ⟨before, p, after, rfl, -, hp⟩ := exists_deciding hne
  rw [halt] at hp
  exact h p (by simp) args value rest hp

theorem oneOf (options : List String) : LeavesSuffix (oneOf options) := by
  apply alt
  intro p hp
  obtain ⟨option, -, rfl⟩ := List.mem_map.mp hp
  exact argument _

theorem pair {p : Parser α} {q : Parser β} (hp : LeavesSuffix p) (hq : LeavesSuffix q) :
    LeavesSuffix (p.pair q) := by
  intro args values rest h
  obtain ⟨middle, hfirst, hsecond⟩ := pair_eq_found h
  exact (hq middle _ rest hsecond).trans (hp args _ middle hfirst)

theorem sequence {ps : List (Parser α)} (h : ∀ p ∈ ps, LeavesSuffix p) :
    LeavesSuffix (sequence ps) := by
  induction ps with
  | nil => exact succeed []
  | cons p ps ih =>
    obtain ⟨hp, hps⟩ := List.forall_mem_cons.mp h
    intro args values rest hsequence
    obtain ⟨value, others, middle, -, hfirst, hothers⟩ := sequence_cons_eq_found hsequence
    exact (ih hps middle others rest hothers).trans (hp args value middle hfirst)

theorem many {p : Parser α} (h : LeavesSuffix p) : LeavesSuffix (many p) := by
  intro args
  induction hlength : args.length using Nat.strongRecOn generalizing args with
  | _ length ih =>
    intro values rest hmany
    rcases many_eq_found hmany with ⟨-, rfl⟩ | ⟨value, others, middle, -, hp, hshorter, hothers⟩
    · exact List.suffix_refl rest
    · rw [hlength] at hshorter
      exact (ih middle.length hshorter middle rfl others rest hothers).trans
        (h args value middle hp)

theorem filter : LeavesSuffix Filter.parser := by
  apply map
  apply many
  rw [Filter.Argument.parser_eq_argument]
  exact argument _

theorem modification : LeavesSuffix Modification.parser := by
  apply map
  apply many
  rw [Modification.Argument.parser_eq_argument]
  exact argument _

theorem grammar (grammar : Grammar) : LeavesSuffix grammar.parser := by
  cases grammar <;> rw [Grammar.parser]
  case version => exact (oneOf _).map _
  case help => exact (oneOf _).map _
  case add => exact ((argument _).pair modification).map _
  case modify => exact (filter.pair ((argument _).pair modification)).map _
  case list => exact ((filter.map _).pair (argument _)).map _
  case info => exact (filter.pair (oneOf _)).map _
  case gc => exact (argument _).map _
  case sync => exact (argument _).map _

theorem subcommand : LeavesSuffix Subcommand.parser := by
  rw [Subcommand.parser_eq_alt]
  apply alt
  intro p hp
  obtain ⟨g, -, rfl⟩ := List.mem_map.mp hp
  exact grammar g

end LeavesSuffix

theorem Assembled.leavesSuffix {p : Parser α} (h : Assembled p) : LeavesSuffix p := by
  induction h with
  | ids => exact .argument _
  | plusTag => exact .argument _
  | minusTag => exact .argument _
  | anyWord => exact .argument _
  | status => exact .argument _
  | filter => exact .filter
  | modification => exact .modification
  | report => exact LeavesSuffix.filter.map _
  | subcommand => exact .subcommand
  | nothing value => exact .succeed value
  | literal text => exact .argument _
  | oneOf options => exact .oneOf options
  | alt _ ih => exact .alt ih
  | sequence _ ih => exact .sequence ih
  | pair _ _ ihp ihq => exact ihp.pair ihq
  | many _ ih => exact ih.many
  | map f _ ih => exact ih.map f

theorem loop_eq_many {p : Parser α} (h : LeavesSuffix p) {turns : Nat} {values : List α}
    {rest : Arguments} (hturns : rest.length ≤ turns) :
    loop p turns values rest =
      some ((many p rest).map fun (others, left) => (values ++ others, left)) := by
  induction turns generalizing values rest with
  | zero =>
    rw [loop, many_eq]
    cases hp : p rest with
    | found answer =>
      obtain ⟨value, remaining⟩ := answer
      have hle := (h rest value remaining hp).length_le
      have hsame : remaining.length = rest.length := by omega
      simp [hsame]
    | declined => simp
    | overlong digits => simp
  | succ turns ih =>
    rw [loop, many_eq]
    cases hp : p rest with
    | found answer =>
      obtain ⟨value, remaining⟩ := answer
      have hle := (h rest value remaining hp).length_le
      by_cases hsame : remaining.length = rest.length
      · simp [hsame]
      · have hshorter : remaining.length < rest.length := by omega
        simp only [if_neg hsame, if_pos hshorter]
        rw [ih (by omega), Reading.map_map]
        congr 2
        funext answer
        simp
    | declined => simp
    | overlong digits => simp

theorem assembled_leaves_suffix_and_halts {p : Parser α} (h : Assembled p) (args : Arguments) :
    (∀ value rest, p args = .found (value, rest) → rest <:+ args ∧ rest.length ≤ args.length) ∧
    (∀ value rest, p args = .found (value, rest) → rest.length ≠ args.length →
      rest.length < args.length) ∧
    (∀ turns, args.length ≤ turns → loop p turns [] args = some (many p args)) ∧
    ∀ values rest, many p args = .found (values, rest) → values.length ≤ args.length := by
  have hsuffix := h.leavesSuffix
  refine ⟨?_, ?_, ?_, ?_⟩
  · intro value rest hp
    have hrest := hsuffix args value rest hp
    exact ⟨hrest, hrest.length_le⟩
  · intro value rest hp hdiffers
    have hle := (hsuffix args value rest hp).length_le
    omega
  · intro turns hturns
    rw [loop_eq_many hsuffix hturns]
    cases many p args <;> rfl
  · intro values rest hmany
    have hlength := length_le_of_many hmany
    omega

theorem leaves_suffix_and_halts_of_empty_turns :
    let p := alt [TaskId.listParser.map (List.map TaskId.toString), many (oneOf ["x", "y"]),
      succeed []]
    let args := ["x", "y", "12", "z"]
    Assembled p ∧ p args = .found (["x", "y"], ["12", "z"]) ∧ ["12", "z"] <:+ args ∧
      ["12", "z"].length < args.length ∧
      loop p args.length [] args = some (.found ([["x", "y"], ["12"]], ["z"])) ∧
      [["x", "y"], ["12"]].length ≤ args.length := by
  intro p args
  have hassembled : Assembled p := by
    apply Assembled.alt
    intro q hq
    simp only [List.mem_cons, List.not_mem_nil, or_false] at hq
    rcases hq with rfl | rfl | rfl
    · exact Assembled.ids.map _
    · exact (Assembled.oneOf _).many
    · exact Assembled.nothing _
  obtain ⟨hsuffix, hshorter, hloop, hvalues⟩ := assembled_leaves_suffix_and_halts hassembled args
  have hfirst : p args = .found (["x", "y"], ["12", "z"]) := by decide +kernel
  have hmany : many p args = .found ([["x", "y"], ["12"]], ["z"]) := by decide +kernel
  refine ⟨hassembled, hfirst, (hsuffix _ _ hfirst).1, hshorter _ _ hfirst (by decide), ?_,
    hvalues _ _ hmany⟩
  rw [hloop args.length (Nat.le_refl _), hmany]

end Parser

end TaskLine
