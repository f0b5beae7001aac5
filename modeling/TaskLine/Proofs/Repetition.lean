import TaskLine.Proofs.AssembledParsers

/-!
A repetition takes turns as long as each leaves fewer arguments, and ends where the repeated parser
can take no further one. What it has read is then read to the end: to repeat it again reads nothing.
-/

namespace TaskLine

namespace Parser

variable {α : Type} {p : Parser α}

/-- Turns of a repetition from some arguments to others, with the values read. -/
inductive Turns (p : Parser α) : Arguments → List α → Arguments → Prop where
  | done (args : Arguments) : Turns p args [] args
  | turn {args middle rest : Arguments} {value : α} {values : List α}
      (found : p args = .found (value, middle)) (shorter : middle.length < args.length)
      (others : Turns p middle values rest) : Turns p args (value :: values) rest

def Rests (p : Parser α) (args : Arguments) : Prop :=
  p args = .declined ∨ ∃ value, p args = .found (value, args)

theorem Turns.eq_of_nil {args rest : Arguments} (h : Turns p args [] rest) : rest = args := by
  cases h
  rfl

theorem many_of_shorter {args middle : Arguments} {value : α}
    (hp : p args = .found (value, middle)) (hshorter : middle.length < args.length) :
    many p args = (many p middle).map fun (values, rest) => (value :: values, rest) := by
  rw [many_eq, hp]
  simp only [if_pos hshorter]

theorem many_of_rests {args : Arguments} (h : Rests p args) : many p args = .found ([], args) := by
  rw [many_eq]
  rcases h with hp | ⟨value, hp⟩
  · simp only [hp]
  · simp only [hp, if_neg (Nat.lt_irrefl args.length)]

theorem many_of_overlong {args : Arguments} {digits : Nat} (h : p args = .overlong digits) :
    many p args = .overlong digits := by
  rw [many_eq, h]

theorem Turns.many_eq {args rest : Arguments} {values : List α} (h : Turns p args values rest) :
    many p args = (many p rest).map fun (others, left) => (values ++ others, left) := by
  induction h with
  | done args => cases many p args <;> rfl
  | turn found shorter others ih =>
    rw [many_of_shorter found shorter, ih, Reading.map_map]
    rfl

theorem turn_cases (h : LeavesSuffix p) (args : Arguments) :
    (∃ value middle, p args = .found (value, middle) ∧ middle.length < args.length) ∨
      Rests p args ∨ ∃ digits, p args = .overlong digits := by
  cases hp : p args with
  | found answer =>
    obtain ⟨value, middle⟩ := answer
    have hsuffix := h args value middle hp
    rcases Nat.lt_or_ge middle.length args.length with hshorter | hsame
    · exact .inl ⟨value, middle, rfl, hshorter⟩
    · obtain rfl := hsuffix.eq_of_length_le hsame
      exact .inr (.inl (.inr ⟨value, hp⟩))
  | declined => exact .inr (.inl (.inl hp))
  | overlong digits => exact .inr (.inr ⟨digits, rfl⟩)

theorem exists_turns (h : LeavesSuffix p) (args : Arguments) :
    ∃ values rest, Turns p args values rest ∧ (Rests p rest ∨ ∃ digits, p rest = .overlong digits) := by
  -- A turn leaves fewer arguments, so the induction is on their number.
  induction hlength : args.length using Nat.strongRecOn generalizing args with
  | _ length ih =>
    rcases turn_cases h args with ⟨value, middle, hp, hshorter⟩ | hend
    · obtain ⟨values, rest, hturns, hend⟩ := ih middle.length (hlength ▸ hshorter) middle rfl
      exact ⟨value :: values, rest, .turn hp hshorter hturns, hend⟩
    · exact ⟨[], args, .done args, hend⟩

theorem many_of_turns {args rest : Arguments} {values : List α} (h : Turns p args values rest)
    (hrests : Rests p rest) : many p args = .found (values, rest) := by
  rw [h.many_eq, many_of_rests hrests, Reading.map_found]
  simp only [List.append_nil]

theorem many_of_turns_overlong {args rest : Arguments} {values : List α} {digits : Nat}
    (h : Turns p args values rest) (hoverlong : p rest = .overlong digits) :
    many p args = .overlong digits := by
  rw [h.many_eq, many_of_overlong hoverlong, Reading.map_overlong]

theorem many_outcome (h : LeavesSuffix p) (args : Arguments) :
    ∃ values rest, Turns p args values rest ∧
      (Rests p rest ∧ many p args = .found (values, rest) ∨
        ∃ digits, p rest = .overlong digits ∧ many p args = .overlong digits) := by
  obtain ⟨values, rest, hturns, hrests | ⟨digits, hoverlong⟩⟩ := exists_turns h args
  · exact ⟨values, rest, hturns, .inl ⟨hrests, many_of_turns hturns hrests⟩⟩
  · exact ⟨values, rest, hturns, .inr ⟨digits, hoverlong, many_of_turns_overlong hturns hoverlong⟩⟩

theorem many_ne_declined (h : LeavesSuffix p) (args : Arguments) : many p args ≠ .declined := by
  obtain ⟨values, rest, -, ⟨-, hmany⟩ | ⟨digits, -, hmany⟩⟩ := many_outcome h args <;> simp [hmany]

theorem many_eq_found_iff (h : LeavesSuffix p) {args rest : Arguments} {values : List α} :
    many p args = .found (values, rest) ↔ Turns p args values rest ∧ Rests p rest := by
  constructor
  · intro hmany
    obtain ⟨values', rest', hturns, ⟨hrests, hfound⟩ | ⟨digits, -, hoverlong⟩⟩ := many_outcome h args
    · rw [hfound, Reading.found.injEq, Prod.mk.injEq] at hmany
      obtain ⟨rfl, rfl⟩ := hmany
      exact ⟨hturns, hrests⟩
    · simp [hoverlong] at hmany
  · rintro ⟨hturns, hrests⟩
    exact many_of_turns hturns hrests

theorem many_eq_overlong_iff (h : LeavesSuffix p) {args : Arguments} {digits : Nat} :
    many p args = .overlong digits ↔
      ∃ values rest, Turns p args values rest ∧ p rest = .overlong digits := by
  constructor
  · intro hmany
    obtain ⟨values, rest, hturns, ⟨-, hfound⟩ | ⟨digits', hoverlong, hmany'⟩⟩ := many_outcome h args
    · simp [hfound] at hmany
    · rw [hmany', Reading.overlong.injEq] at hmany
      rw [hmany] at hoverlong
      exact ⟨values, rest, hturns, hoverlong⟩
  · rintro ⟨values, rest, hturns, hoverlong⟩
    exact many_of_turns_overlong hturns hoverlong

theorem many_rest (h : LeavesSuffix p) {args rest : Arguments} {values : List α}
    (hmany : many p args = .found (values, rest)) : many p rest = .found ([], rest) :=
  many_of_rests ((many_eq_found_iff h).mp hmany).2

theorem many_many (h : LeavesSuffix p) (args : Arguments) :
    many (many p) args = (many p args).map fun (values, rest) =>
      (if values = [] then [] else [values], rest) := by
  cases hmany : many p args with
  | found answer =>
    obtain ⟨values, rest⟩ := answer
    have hturns := ((many_eq_found_iff h).mp hmany).1
    have hrest : Rests (many p) rest := .inr ⟨[], many_rest h hmany⟩
    -- The outer repetition counts the inner one as a turn only if that has taken any itself.
    cases values with
    | nil =>
      obtain rfl := hturns.eq_of_nil
      exact many_of_rests hrest
    | cons value values =>
      have hlength := length_le_of_many hmany
      rw [List.length_cons] at hlength
      exact many_of_turns (.turn hmany (by omega) (.done rest)) hrest
  | declined => exact absurd hmany (many_ne_declined h args)
  | overlong digits => exact many_of_overlong hmany

theorem many_is_greedy {p : Parser α} (h : Assembled p) (args : Arguments) :
    (∀ turns, args.length ≤ turns → loop p turns [] args = some (many p args)) ∧
    (∀ values rest, many p args = .found (values, rest) ↔
      Turns p args values rest ∧ (p rest = .declined ∨ ∃ value, p rest = .found (value, rest))) ∧
    (∀ digits, many p args = .overlong digits ↔
      ∃ values rest, Turns p args values rest ∧ p rest = .overlong digits) ∧
    many p args ≠ .declined ∧
    ∀ values rest, many p args = .found (values, rest) →
      values.length + rest.length ≤ args.length ∧
      many p rest = .found ([], rest) ∧
      many (many p) args = .found (if values = [] then [] else [values], rest) := by
  have hsuffix := h.leavesSuffix
  refine ⟨?_, ?_, ?_, many_ne_declined hsuffix args, ?_⟩
  · intro turns hturns
    rw [loop_eq_many hsuffix hturns]
    cases many p args <;> rfl
  · intro values rest
    exact many_eq_found_iff hsuffix
  · intro digits
    exact many_eq_overlong_iff hsuffix
  · intro values rest hmany
    refine ⟨length_le_of_many hmany, many_rest hsuffix hmany, ?_⟩
    rw [many_many hsuffix, hmany, Reading.map_found]

theorem many_is_greedy_of_nested_turns :
    let p := alt [Tag.plus.map fun tag => [tag], many (literal "x")]
    let args := ["+a", "x", "x", "-b", "x"]
    let values := [["a"], ["x", "x"]]
    Assembled p ∧ many p args = .found (values, ["-b", "x"]) ∧
      Turns p args values ["-b", "x"] ∧ p ["-b", "x"] = .found ([], ["-b", "x"]) ∧
      many p ["-b", "x"] = .found ([], ["-b", "x"]) ∧
      many (many p) args = .found ([values], ["-b", "x"]) := by
  intro p args values
  have hassembled : Assembled p := by
    apply Assembled.alt
    intro q hq
    simp only [List.mem_cons, List.not_mem_nil, or_false] at hq
    rcases hq with rfl | rfl
    · exact Assembled.plusTag.map _
    · exact (Assembled.literal _).many
  have hmany : many p args = .found (values, ["-b", "x"]) := by decide +kernel
  obtain ⟨-, hfound, -, -, hagain⟩ := many_is_greedy hassembled args
  obtain ⟨-, hrest, htwice⟩ := hagain _ _ hmany
  exact ⟨hassembled, hmany, ((hfound _ _).mp hmany).1, by decide +kernel, hrest, htwice⟩

end Parser

end TaskLine
