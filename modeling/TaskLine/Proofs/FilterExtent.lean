import TaskLine.Filter.Read
import TaskLine.Proofs.SignedTags
import TaskLine.Proofs.TaskIdForms

namespace TaskLine

namespace Arguments

theorem prefix_or_of_append {front back before after : Arguments} {word : String}
    (h : front ++ back = before ++ word :: after) :
    front <+: before ∨ ∃ middle, front = before ++ word :: middle ∧ after = middle ++ back := by
  rcases List.append_eq_append_iff.mp h with ⟨rest, rfl, -⟩ | ⟨rest, rfl, hrest⟩
  · exact .inl (List.prefix_append front rest)
  · cases rest with
    | nil =>
      rw [List.append_nil]
      exact .inl (List.prefix_refl before)
    | cons first middle =>
      rw [List.cons_append, List.cons.injEq] at hrest
      obtain ⟨rfl, rfl⟩ := hrest
      exact .inr ⟨middle, rfl, rfl⟩

end Arguments

namespace Filter

def ListsIds (text : String) : Prop :=
  ∀ item ∈ text.toList.splitOn ',', ∃ id, TaskId.read item = .found id

def NamesStatus (text : String) : Prop := ∃ status : Status, text = status.argument

def IsArgument (text : String) : Prop := ListsIds text ∨ Tag.IsSigned text ∨ NamesStatus text

instance : DecidablePred ListsIds := fun text =>
  inferInstanceAs (Decidable (∀ item ∈ text.toList.splitOn ',', ∃ id, TaskId.read item = .found id))

def StallsAt (args : Arguments) (digits : Nat) : Prop :=
  ∃ taken text rest, args = taken ++ text :: rest ∧ (∀ word ∈ taken, IsArgument word) ∧
    TaskId.HoldsOverlong text digits

def Stalls (args : Arguments) : Prop := ∃ digits, StallsAt args digits

theorem listsIds_iff {text : String} : ListsIds text ↔ ∃ list, TaskId.readList text = .found list :=
  TaskId.exists_readList_eq_found_iff.symm

namespace Argument

def read : String → Reading Argument := Reading.firstOf [
  fun text => (TaskId.readList text).map ids,
  fun text => (Reading.ofOption (Tag.signed? '+' text)).map fun tag => condition (.hasTag tag),
  fun text => (Reading.ofOption (Tag.signed? '-' text)).map fun tag => condition (.noTag tag),
  fun text => (Reading.ofOption (Status.ofArgument? text)).map fun status =>
    condition (.statusIs status)]

def Spelled (text : String) : Argument → Prop
  | ids list => TaskId.readList text = .found list
  | condition (.hasTag tag) => Tag.signed? '+' text = some tag
  | condition (.noTag tag) => Tag.signed? '-' text = some tag
  | condition (.statusIs status) => text = status.argument

theorem parser_eq_argument : parser = Parser.argument read := by
  rw [read, ← Parser.alt_argument]
  simp only [parser, TaskId.listParser, Tag.plus, Tag.minus, Status.parser, Parser.map_argument,
    List.map_cons, List.map_nil]

theorem read_of_declined {text : String} (h : TaskId.readList text = .declined) :
    read text = .ofOption (((Tag.signed? '+' text).map fun tag => condition (.hasTag tag)) <|>
      ((Tag.signed? '-' text).map fun tag => condition (.noTag tag)) <|>
      (Status.ofArgument? text).map fun status => condition (.statusIs status)) := by
  simp only [read, Reading.firstOf, h, Reading.map_declined, Reading.orElse_declined]
  cases Tag.signed? '+' text <;> cases Tag.signed? '-' text <;> cases Status.ofArgument? text <;>
    rfl

theorem readList_of_signed {sign : Char} {text tag : String} (hsign : Text.isHexDigit sign = false)
    (h : Tag.signed? sign text = some tag) : TaskId.readList text = .declined := by
  obtain ⟨htext, -⟩ := Tag.signed?_eq_some_iff.mp h
  exact TaskId.readList_of_not_hex htext hsign

theorem spelled_of_read {text : String} {argument : Argument} (h : read text = .found argument) :
    argument.Spelled text := by
  cases hlist : TaskId.readList text with
  | found list =>
    simp only [read, Reading.firstOf, hlist, Reading.map_found, Reading.orElse_found,
      Reading.found.injEq] at h
    subst h
    exact hlist
  | declined =>
    rw [read_of_declined hlist, Reading.ofOption_eq_found_iff] at h
    cases hplus : Tag.signed? '+' text with
    | some tag =>
      rw [hplus] at h
      obtain rfl : condition (.hasTag tag) = argument := by simpa using h
      exact hplus
    | none =>
      cases hminus : Tag.signed? '-' text with
      | some tag =>
        rw [hplus, hminus] at h
        obtain rfl : condition (.noTag tag) = argument := by simpa using h
        exact hminus
      | none =>
        rw [hplus, hminus] at h
        obtain ⟨status, hstatus, rfl⟩ :
            ∃ status, Status.ofArgument? text = some status ∧
              condition (.statusIs status) = argument := by simpa using h
        exact Status.ofArgument?_eq_some_iff.mp hstatus
  | overlong digits => simp [read, Reading.firstOf, hlist] at h

theorem read_of_spelled {text : String} {argument : Argument} (h : argument.Spelled text) :
    read text = .found argument := by
  match argument with
  | ids list =>
    simp only [Spelled] at h
    simp [read, Reading.firstOf, h]
  | condition (.hasTag tag) =>
    have hlist := readList_of_signed (by decide) h
    rw [read_of_declined hlist, show Tag.signed? '+' text = some tag from h]
    rfl
  | condition (.noTag tag) =>
    have hlist := readList_of_signed (by decide) h
    obtain ⟨htext, -⟩ := Tag.signed?_eq_some_iff.mp h
    rw [read_of_declined hlist, Tag.signed?_of_ne htext (by decide),
      show Tag.signed? '-' text = some tag from h]
    rfl
  | condition (.statusIs status) =>
    have htext := Status.toList_argument status
    rw [← show text = status.argument from h] at htext
    rw [read_of_declined (TaskId.readList_of_not_hex htext (by decide)),
      Tag.signed?_of_ne htext (by decide), Tag.signed?_of_ne htext (by decide),
      Status.ofArgument?_eq_some_iff.mpr h]
    rfl

theorem read_eq_found_iff {text : String} {argument : Argument} :
    read text = .found argument ↔ argument.Spelled text :=
  ⟨spelled_of_read, read_of_spelled⟩

theorem read_eq_overlong_iff {text : String} {digits : Nat} :
    read text = .overlong digits ↔ TaskId.HoldsOverlong text digits := by
  rw [← TaskId.readList_eq_overlong_iff]
  cases hlist : TaskId.readList text with
  | found list => simp [read, Reading.firstOf, hlist]
  | declined =>
    rw [read_of_declined hlist]
    simp [Reading.ofOption_ne_overlong]
  | overlong seen => simp [read, Reading.firstOf, hlist]

theorem isArgument_iff {text : String} :
    IsArgument text ↔ ∃ argument, read text = .found argument := by
  simp only [read_eq_found_iff]
  constructor
  · rintro (hids | hsigned | ⟨status, rfl⟩)
    · obtain ⟨list, hlist⟩ := listsIds_iff.mp hids
      exact ⟨ids list, hlist⟩
    · rcases Tag.isSigned_iff.mp hsigned with ⟨tag, hplus | hminus⟩
      · exact ⟨condition (.hasTag tag), hplus⟩
      · exact ⟨condition (.noTag tag), hminus⟩
    · exact ⟨condition (.statusIs status), rfl⟩
  · rintro ⟨argument, h⟩
    match argument with
    | ids list => exact .inl (listsIds_iff.mpr ⟨list, h⟩)
    | condition (.hasTag tag) => exact .inr (.inl (Tag.isSigned_of_signed? (.inl rfl) h))
    | condition (.noTag tag) => exact .inr (.inl (Tag.isSigned_of_signed? (.inr rfl) h))
    | condition (.statusIs status) => exact .inr (.inr ⟨status, h⟩)

end Argument

instance : DecidablePred IsArgument := fun _ => decidable_of_iff' _ Argument.isArgument_iff

theorem parser_eq_found_iff {args rest : Arguments} {filter : Filter} :
    parser args = .found (filter, rest) ↔
      ∃ taken arguments, args = taken ++ rest ∧ taken.map Argument.read = arguments.map .found ∧
        (∀ first ∈ rest.head?, Argument.read first = .declined) ∧
        filter = ofArguments arguments := by
  rw [parser, Parser.map, Argument.parser_eq_argument]
  constructor
  · intro h
    cases hmany : Parser.many (Parser.argument Argument.read) args with
    | found answer =>
      obtain ⟨arguments, left⟩ := answer
      simp only [hmany, Reading.map_found, Reading.found.injEq, Prod.mk.injEq] at h
      obtain ⟨rfl, rfl⟩ := h
      obtain ⟨taken, hargs, hread, hrest⟩ := Parser.many_argument_found_iff.mp hmany
      exact ⟨taken, arguments, hargs, hread, hrest, rfl⟩
    | declined => simp [hmany] at h
    | overlong digits => simp [hmany] at h
  · rintro ⟨taken, arguments, hargs, hread, hrest, rfl⟩
    rw [Parser.many_argument_found_iff.mpr ⟨taken, hargs, hread, hrest⟩]
    rfl

theorem parser_eq_overlong_iff {args : Arguments} {digits : Nat} :
    parser args = .overlong digits ↔ StallsAt args digits := by
  rw [parser, Parser.map, Argument.parser_eq_argument, Reading.map_eq_overlong_iff,
    Parser.many_argument_overlong_iff]
  simp only [Reading.MeetsOverlong, StallsAt, Argument.isArgument_iff, Argument.read_eq_overlong_iff]

theorem parser_ne_declined (args : Arguments) : parser args ≠ .declined := by
  rw [parser, Parser.map, Argument.parser_eq_argument]
  cases hmany : Parser.many (Parser.argument Argument.read) args with
  | found answer => simp
  | declined => exact absurd hmany (Parser.many_argument_ne_declined _ args)
  | overlong digits => simp

theorem parser_of_declined {first : String} (h : Argument.read first = .declined)
    (rest : Arguments) : parser (first :: rest) = .found ({}, first :: rest) :=
  parser_eq_found_iff.mpr ⟨[], [], rfl, rfl, by simpa using h, rfl⟩

theorem parser_nil : parser [] = .found ({}, []) :=
  parser_eq_found_iff.mpr ⟨[], [], rfl, rfl, by simp, rfl⟩

theorem exists_parser_eq_found_iff {args : Arguments} :
    (∃ answer, parser args = .found answer) ↔ ¬ Stalls args := by
  constructor
  · rintro ⟨answer, hanswer⟩ ⟨digits, hstalls⟩
    rw [parser_eq_overlong_iff.mpr hstalls] at hanswer
    simp at hanswer
  · intro h
    cases hparser : parser args with
    | found answer => exact ⟨answer, rfl⟩
    | declined => exact absurd hparser (parser_ne_declined args)
    | overlong digits => exact absurd ⟨digits, parser_eq_overlong_iff.mp hparser⟩ h

theorem not_isArgument_of_declined {text : String} (h : Argument.read text = .declined) :
    ¬ IsArgument text := by
  rw [Argument.isArgument_iff]
  rintro ⟨argument, hargument⟩
  rw [h] at hargument
  cases hargument

theorem not_isArgument_of_overlong {text : String} {digits : Nat}
    (h : TaskId.HoldsOverlong text digits) : ¬ IsArgument text := by
  rw [Argument.isArgument_iff]
  rintro ⟨argument, hargument⟩
  rw [Argument.read_eq_overlong_iff.mpr h] at hargument
  cases hargument

theorem stop_unique {taken others left rest : Arguments} {word text : String}
    (h : taken ++ word :: left = others ++ text :: rest)
    (htaken : ∀ argument ∈ taken, IsArgument argument) (hword : ¬ IsArgument word)
    (hothers : ∀ argument ∈ others, IsArgument argument) (htext : ¬ IsArgument text) :
    taken = others ∧ word = text ∧ left = rest := by
  have hfront : taken <+: others := by
    rcases Arguments.prefix_or_of_append h with hfront | ⟨middle, rfl, -⟩
    · exact hfront
    · exact absurd (htaken text (by simp)) htext
  have hback : others <+: taken := by
    rcases Arguments.prefix_or_of_append h.symm with hback | ⟨middle, rfl, -⟩
    · exact hback
    · exact absurd (hothers word (by simp)) hword
  have hsame : taken = others := hfront.eq_of_length_le hback.length_le
  subst hsame
  rw [List.append_cancel_left_eq, List.cons.injEq] at h
  exact ⟨rfl, h⟩

theorem parser_eq_found_nil_iff {args : Arguments} {filter : Filter} :
    parser args = .found (filter, []) ↔
      ∃ arguments, args.map Argument.read = arguments.map .found ∧
        filter = ofArguments arguments := by
  rw [parser_eq_found_iff]
  constructor
  · rintro ⟨taken, arguments, htaken, hread, -, hfilter⟩
    rw [htaken, List.append_nil]
    exact ⟨arguments, hread, hfilter⟩
  · rintro ⟨arguments, hread, hfilter⟩
    exact ⟨args, arguments, (List.append_nil args).symm, hread, by simp, hfilter⟩

theorem parser_all_iff {args : Arguments} :
    (∃ filter, parser args = .found (filter, [])) ↔ ∀ text ∈ args, IsArgument text := by
  simp only [Argument.isArgument_iff, parser_eq_found_nil_iff, ← Reading.exists_values_iff]
  constructor
  · rintro ⟨filter, arguments, hread, -⟩
    exact ⟨arguments, hread⟩
  · rintro ⟨arguments, hread⟩
    exact ⟨ofArguments arguments, arguments, hread, rfl⟩

theorem parser_eq_found_iff_taken {args rest : Arguments} {filter : Filter} :
    parser args = .found (filter, rest) ↔
      ∃ taken, args = taken ++ rest ∧ parser taken = .found (filter, []) ∧
        ∀ first ∈ rest.head?, Argument.read first = .declined := by
  simp only [parser_eq_found_nil_iff]
  rw [parser_eq_found_iff]
  constructor
  · rintro ⟨taken, arguments, hargs, hread, hrest, hfilter⟩
    exact ⟨taken, hargs, ⟨arguments, hread, hfilter⟩, hrest⟩
  · rintro ⟨taken, hargs, ⟨arguments, hread, hfilter⟩, hrest⟩
    exact ⟨taken, arguments, hargs, hread, hrest, hfilter⟩

theorem exists_parser_singleton_iff {text : String} :
    (∃ filter, parser [text] = .found (filter, [])) ↔ IsArgument text := by
  rw [parser_all_iff, List.forall_mem_singleton]

end Filter

end TaskLine
