import TaskLine.Parser

namespace TaskLine

namespace Reading

variable {α β : Type}

def firstOf : List (String → Reading α) → String → Reading α
  | [], _ => .declined
  | read :: reads, text => (read text).orElse fun _ => firstOf reads text

theorem map_map {γ : Type} (f : α → β) (g : β → γ) (reading : Reading α) :
    (reading.map f).map g = reading.map (g ∘ f) := by
  cases reading <;> rfl

theorem map_orElse (f : α → β) (reading : Reading α) (other : Unit → Reading α) :
    (reading.orElse other).map f = (reading.map f).orElse fun _ => (other ()).map f := by
  cases reading <;> rfl

theorem ofOption_eq_found_iff {option : Option α} {value : α} :
    ofOption option = .found value ↔ option = some value := by
  cases option <;> simp [ofOption]

theorem ofOption_ne_overlong (option : Option α) (digits : Nat) :
    ofOption option ≠ .overlong digits := by
  cases option <;> simp [ofOption]

theorem map_eq_overlong_iff {f : α → β} {reading : Reading α} {digits : Nat} :
    reading.map f = .overlong digits ↔ reading = .overlong digits := by
  cases reading <;> simp

theorem bind_map {γ : Type} (f : α → β) (next : β → Reading γ) (reading : Reading α) :
    (reading.map f).bind next = reading.bind fun value => next (f value) := by
  cases reading <;> rfl

section Items

variable {ι : Type} {read : ι → Reading α}

def MeetsOverlong (read : ι → Reading α) (items : List ι) (digits : Nat) : Prop :=
  ∃ before item after, items = before ++ item :: after ∧
    (∀ earlier ∈ before, ∃ value, read earlier = .found value) ∧ read item = .overlong digits

theorem not_meetsOverlong_nil (digits : Nat) : ¬ MeetsOverlong read [] digits := by
  rintro ⟨before, item, after, hitems, -⟩
  simp at hitems

theorem meetsOverlong_cons {first : ι} {items : List ι} {digits : Nat} :
    MeetsOverlong read (first :: items) digits ↔
      read first = .overlong digits ∨
        (∃ value, read first = .found value) ∧ MeetsOverlong read items digits := by
  constructor
  · rintro ⟨before, item, after, hitems, hbefore, hitem⟩
    cases before with
    | nil =>
      rw [List.nil_append, List.cons.injEq] at hitems
      rw [hitems.1]
      exact .inl hitem
    | cons earlier before =>
      rw [List.cons_append, List.cons.injEq] at hitems
      obtain ⟨rfl, rfl⟩ := hitems
      obtain ⟨hfirst, hbefore⟩ := List.forall_mem_cons.mp hbefore
      exact .inr ⟨hfirst, before, item, after, rfl, hbefore, hitem⟩
  · rintro (hfirst | ⟨hfirst, before, item, after, rfl, hbefore, hitem⟩)
    · exact ⟨[], first, items, rfl, by simp, hfirst⟩
    · exact ⟨first :: before, item, after, rfl, List.forall_mem_cons.mpr ⟨hfirst, hbefore⟩, hitem⟩

theorem exists_values_iff {items : List ι} :
    (∃ values : List α, items.map read = values.map .found) ↔
      ∀ item ∈ items, ∃ value, read item = .found value := by
  induction items with
  | nil => exact ⟨fun _ => by simp, fun _ => ⟨[], rfl⟩⟩
  | cons item items ih =>
    rw [List.forall_mem_cons, ← ih]
    constructor
    · rintro ⟨values, hvalues⟩
      cases values with
      | nil => simp at hvalues
      | cons value values =>
        rw [List.map_cons, List.map_cons, List.cons.injEq] at hvalues
        exact ⟨⟨value, hvalues.1⟩, values, hvalues.2⟩
    · rintro ⟨⟨value, hvalue⟩, values, hvalues⟩
      exact ⟨value :: values, by rw [List.map_cons, List.map_cons, hvalue, hvalues]⟩

end Items

end Reading

namespace Parser

variable {α β : Type}

theorem alt_eq_declined_iff {ps : List (Parser α)} {args : Arguments} :
    alt ps args = .declined ↔ ∀ p ∈ ps, p args = .declined := by
  induction ps with
  | nil => simp
  | cons p ps ih =>
    rw [alt_cons, List.forall_mem_cons, ← ih]
    cases p args <;> simp

theorem alt_append_of_declined {before : List (Parser α)} {args : Arguments}
    (h : ∀ p ∈ before, p args = .declined) (after : List (Parser α)) :
    alt (before ++ after) args = alt after args := by
  induction before with
  | nil => rfl
  | cons p before ih =>
    rw [List.cons_append, alt_cons, h p List.mem_cons_self, Reading.orElse_declined]
    exact ih fun q hq => h q (List.mem_cons_of_mem p hq)

theorem alt_cons_of_ne_declined {p : Parser α} {args : Arguments} (h : p args ≠ .declined)
    (ps : List (Parser α)) : alt (p :: ps) args = p args := by
  rw [alt_cons]
  cases hp : p args with
  | found answer => rfl
  | declined => exact absurd hp h
  | overlong digits => rfl

theorem alt_cons_of_found {p : Parser α} {args : Arguments} {answer : α × Arguments}
    (h : p args = .found answer) (ps : List (Parser α)) : alt (p :: ps) args = .found answer := by
  rw [alt_cons, h, Reading.orElse_found]

theorem exists_deciding {ps : List (Parser α)} {args : Arguments} (h : alt ps args ≠ .declined) :
    ∃ before p after, ps = before ++ p :: after ∧ (∀ q ∈ before, q args = .declined) ∧
      p args = alt ps args := by
  induction ps with
  | nil => exact absurd rfl h
  | cons p ps ih =>
    by_cases hp : p args = .declined
    · have hrest : alt (p :: ps) args = alt ps args := by rw [alt_cons, hp, Reading.orElse_declined]
      rw [hrest] at h ⊢
      obtain ⟨before, q, after, rfl, hbefore, hq⟩ := ih h
      exact ⟨p :: before, q, after, rfl, List.forall_mem_cons.mpr ⟨hp, hbefore⟩, hq⟩
    · exact ⟨[], p, ps, rfl, by simp, (alt_cons_of_ne_declined hp ps).symm⟩

theorem alt_eq_of_agree {ps : List (Parser α)} {p : Parser α} {args : Arguments} (hp : p ∈ ps)
    (hne : p args ≠ .declined) (hagree : ∀ q ∈ ps, q args ≠ .declined → q args = p args) :
    alt ps args = p args := by
  have halt : alt ps args ≠ .declined := fun h => hne (alt_eq_declined_iff.mp h p hp)
  obtain ⟨before, q, after, rfl, -, hq⟩ := exists_deciding halt
  rw [← hq] at halt ⊢
  exact hagree q (by simp) halt

theorem map_pair {γ : Type} (p : Parser α) (q : Parser β) (f : α × β → γ) (args : Arguments) :
    (p.pair q).map f args = (p args).bind fun (first, rest) =>
      q.map (fun second => f (first, second)) rest := by
  rw [map, pair]
  cases p args with
  | found answer =>
    obtain ⟨first, rest⟩ := answer
    simp only [Reading.bind_found, map, Reading.map_map]
    rfl
  | declined => rfl
  | overlong digits => rfl

theorem map_eq_found {f : α → β} {p : Parser α} {args rest : Arguments} {value : β}
    (h : p.map f args = .found (value, rest)) :
    ∃ first, p args = .found (first, rest) ∧ f first = value := by
  rw [map] at h
  cases hp : p args with
  | found answer =>
    rw [hp, Reading.map_found, Reading.found.injEq, Prod.mk.injEq] at h
    obtain ⟨hvalue, rfl⟩ := h
    exact ⟨answer.1, rfl, hvalue⟩
  | declined => simp [hp] at h
  | overlong digits => simp [hp] at h

theorem pair_eq_found {p : Parser α} {q : Parser β} {args rest : Arguments} {values : α × β}
    (h : p.pair q args = .found (values, rest)) :
    ∃ middle, p args = .found (values.1, middle) ∧ q middle = .found (values.2, rest) := by
  rw [pair] at h
  cases hp : p args with
  | found answer =>
    obtain ⟨first, middle⟩ := answer
    rw [hp, Reading.bind_found] at h
    obtain ⟨second, hq, rfl⟩ := map_eq_found h
    exact ⟨middle, rfl, hq⟩
  | declined => simp [hp] at h
  | overlong digits => simp [hp] at h

theorem sequence_cons_eq_found {p : Parser α} {ps : List (Parser α)} {args rest : Arguments}
    {values : List α} (h : sequence (p :: ps) args = .found (values, rest)) :
    ∃ value others middle, values = value :: others ∧ p args = .found (value, middle) ∧
      sequence ps middle = .found (others, rest) := by
  rw [sequence] at h
  cases hp : p args with
  | found answer =>
    obtain ⟨value, middle⟩ := answer
    rw [hp, Reading.bind_found] at h
    obtain ⟨others, hothers, rfl⟩ := map_eq_found h
    exact ⟨value, others, middle, rfl, rfl, hothers⟩
  | declined => simp [hp] at h
  | overlong digits => simp [hp] at h

theorem many_eq_found {p : Parser α} {args rest : Arguments} {values : List α}
    (h : many p args = .found (values, rest)) :
    (values = [] ∧ rest = args) ∨ ∃ value others middle, values = value :: others ∧
      p args = .found (value, middle) ∧ middle.length < args.length ∧
      many p middle = .found (others, rest) := by
  rw [many_eq] at h
  cases hp : p args with
  | found answer =>
    obtain ⟨value, middle⟩ := answer
    by_cases hshorter : middle.length < args.length
    · simp only [hp, if_pos hshorter] at h
      obtain ⟨others, hothers, rfl⟩ := map_eq_found h
      exact .inr ⟨value, others, middle, rfl, rfl, hshorter, hothers⟩
    · simp only [hp, if_neg hshorter, Reading.found.injEq, Prod.mk.injEq] at h
      exact .inl ⟨h.1.symm, h.2.symm⟩
  | declined =>
    simp only [hp, Reading.found.injEq, Prod.mk.injEq] at h
    exact .inl ⟨h.1.symm, h.2.symm⟩
  | overlong digits => simp [hp] at h

theorem length_le_of_many {p : Parser α} {args rest : Arguments} {values : List α}
    (h : many p args = .found (values, rest)) : values.length + rest.length ≤ args.length := by
  induction values generalizing args with
  | nil =>
    rcases many_eq_found h with ⟨-, rfl⟩ | ⟨value, others, middle, hvalues, -⟩
    · simp
    · cases hvalues
  | cons value values ih =>
    rcases many_eq_found h with ⟨hvalues, -⟩ | ⟨first, others, middle, hvalues, -, hshorter, hothers⟩
    · cases hvalues
    · rw [List.cons.injEq] at hvalues
      obtain ⟨rfl, rfl⟩ := hvalues
      have hrest := ih hothers
      rw [List.length_cons]
      omega

theorem map_argument (f : α → β) (read : String → Reading α) :
    map f (argument read) = argument fun text => (read text).map f := by
  funext args
  cases args with
  | nil => rfl
  | cons first rest =>
    simp only [map, argument_cons]
    cases read first <;> rfl

theorem alt_argument (reads : List (String → Reading α)) :
    alt (reads.map argument) = argument (Reading.firstOf reads) := by
  funext args
  induction reads with
  | nil => cases args <;> rfl
  | cons read reads ih =>
    rw [List.map_cons, alt_cons, ih]
    cases args with
    | nil => rfl
    | cons first rest =>
      simp only [argument_cons, Reading.firstOf]
      rw [Reading.map_orElse]

theorem many_argument_nil (read : String → Reading α) :
    many (argument read) [] = .found ([], []) := by
  rw [many_eq, argument_nil]

theorem many_argument_cons (read : String → Reading α) (first : String) (rest : Arguments) :
    many (argument read) (first :: rest) = match read first with
      | .found value => (many (argument read) rest).map fun (values, left) =>
          (value :: values, left)
      | .declined => .found ([], first :: rest)
      | .overlong digits => .overlong digits := by
  rw [many_eq, argument_cons]
  cases read first with
  | found value =>
    have hshorter : rest.length < (first :: rest).length := Nat.lt_succ_self _
    simp only [Reading.map_found, if_pos hshorter]
  | declined => rfl
  | overlong digits => rfl

theorem exists_taken_of_many_argument {read : String → Reading α} {args rest : Arguments}
    {values : List α} (h : many (argument read) args = .found (values, rest)) :
    ∃ taken, args = taken ++ rest ∧ taken.map read = values.map .found ∧
      ∀ first ∈ rest.head?, read first = .declined := by
  induction args generalizing values with
  | nil =>
    simp only [many_argument_nil, Reading.found.injEq, Prod.mk.injEq] at h
    obtain ⟨rfl, rfl⟩ := h
    exact ⟨[], rfl, rfl, by simp⟩
  | cons first args ih =>
    rw [many_argument_cons] at h
    cases hfirst : read first with
    | found value =>
      simp only [hfirst] at h
      cases hmany : many (argument read) args with
      | found answer =>
        obtain ⟨others, left⟩ := answer
        simp only [hmany, Reading.map_found, Reading.found.injEq, Prod.mk.injEq] at h
        obtain ⟨rfl, rfl⟩ := h
        obtain ⟨taken, rfl, hread, hrest⟩ := ih hmany
        exact ⟨first :: taken, rfl, by simp [hfirst, hread], hrest⟩
      | declined => simp [hmany] at h
      | overlong digits => simp [hmany] at h
    | declined =>
      simp only [hfirst, Reading.found.injEq, Prod.mk.injEq] at h
      obtain ⟨rfl, rfl⟩ := h
      exact ⟨[], rfl, rfl, by simpa using hfirst⟩
    | overlong digits => simp [hfirst] at h

theorem many_argument_append {read : String → Reading α} {taken rest : Arguments}
    {values : List α} (hread : taken.map read = values.map .found)
    (hrest : ∀ first ∈ rest.head?, read first = .declined) :
    many (argument read) (taken ++ rest) = .found (values, rest) := by
  induction taken generalizing values with
  | nil =>
    rw [List.map_nil, eq_comm, List.map_eq_nil_iff] at hread
    subst hread
    cases rest with
    | nil => exact many_argument_nil read
    | cons first rest => rw [List.nil_append, many_argument_cons, hrest first rfl]
  | cons word taken ih =>
    cases values with
    | nil => simp at hread
    | cons value values =>
      rw [List.map_cons, List.map_cons, List.cons.injEq] at hread
      rw [List.cons_append, many_argument_cons, hread.1, ih hread.2]
      rfl

theorem many_argument_found_iff {read : String → Reading α} {args rest : Arguments}
    {values : List α} :
    many (argument read) args = .found (values, rest) ↔
      ∃ taken, args = taken ++ rest ∧ taken.map read = values.map .found ∧
        ∀ first ∈ rest.head?, read first = .declined := by
  constructor
  · exact exists_taken_of_many_argument
  · rintro ⟨taken, rfl, hread, hrest⟩
    exact many_argument_append hread hrest

theorem many_argument_overlong_iff {read : String → Reading α} {args : Arguments}
    {digits : Nat} :
    many (argument read) args = .overlong digits ↔ Reading.MeetsOverlong read args digits := by
  induction args with
  | nil => simp [many_argument_nil, Reading.not_meetsOverlong_nil]
  | cons first args ih =>
    rw [many_argument_cons, Reading.meetsOverlong_cons, ← ih]
    cases read first <;> simp [Reading.map_eq_overlong_iff]

theorem many_argument_ne_declined (read : String → Reading α) (args : Arguments) :
    many (argument read) args ≠ .declined := by
  induction args with
  | nil => simp [many_argument_nil]
  | cons first args ih =>
    rw [many_argument_cons]
    cases read first with
    | found value => cases hmany : many (argument read) args <;> simp_all
    | declined => simp
    | overlong digits => simp

theorem many_argument_total (f : String → α) (args : Arguments) :
    many (argument fun text => .found (f text)) args = .found (args.map f, []) := by
  rw [many_argument_found_iff]
  refine ⟨args, (List.append_nil args).symm, ?_, by simp⟩
  rw [List.map_map]
  rfl

end Parser

end TaskLine
