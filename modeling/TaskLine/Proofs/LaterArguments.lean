import TaskLine.Proofs.Openings
import TaskLine.Proofs.WrittenModifications

namespace TaskLine

namespace Modification

def plainWords (args : Arguments) : List String :=
  args.filter fun text => (Tag.signed? '+' text).isNone && (Tag.signed? '-' text).isNone

def textOf (words : List String) : Option String :=
  if words = [] then none else some (" ".intercalate words)

/-- What a modification turns into when these arguments come after its own. -/
structure ExtendedBy (change : Modification) (more : Arguments) (longer : Modification) : Prop where
  status : longer.status = change.status
  active : longer.active = change.active
  addTags : ∀ name, name ∈ longer.addTags ↔
    name ∈ change.addTags ∨ name ∈ more.filterMap (Tag.signed? '+')
  removeTags : ∀ name, name ∈ longer.removeTags ↔
    name ∈ change.removeTags ∨ name ∈ more.filterMap (Tag.signed? '-')
  text : ∀ words, change.description.text? = textOf words →
    longer.description.text? = textOf (words ++ plainWords more)
  kind : change.description.kind ≠ .unset → longer.description.kind = change.description.kind

theorem textOf_append (words others : List String) :
    textOf ((textOf words).toList ++ others) = textOf (words ++ others) := by
  by_cases hwords : words = []
  · simp [textOf, hwords]
  · by_cases hothers : others = []
    · simp [textOf, hwords, hothers]
    · have hjoin := String.intercalate_append_of_ne_nil (s := " ") hwords hothers
      simp [textOf, hwords, hothers, String.intercalate_cons_of_ne_nil, hjoin]

theorem filterMap_word? (args : Arguments) :
    (args.filterMap fun text => (Argument.ofText text).word?) = plainWords args := by
  rw [plainWords, ← List.filterMap_eq_filter]
  apply List.filterMap_congr
  intro text _
  rw [Argument.ofText]
  cases hplus : Tag.signed? '+' text with
  | some tag => simp [Argument.word?, Option.guard, hplus]
  | none =>
    cases hminus : Tag.signed? '-' text <;> simp [Argument.word?, Option.guard, hplus, hminus]

theorem descriptionOf_plainWords (args : Arguments) :
    (ofWords args).description = descriptionOf (plainWords args) := by
  rw [description_ofWords, filterMap_word?]

theorem text?_ofWords (args : Arguments) :
    (ofWords args).description.text? = textOf (plainWords args) := by
  rw [descriptionOf_plainWords]
  cases plainWords args <;> rfl

theorem kind_ofWords (args : Arguments) : (ofWords args).description.kind =
    if plainWords args = [] then .unset else .set := by
  rw [descriptionOf_plainWords]
  cases plainWords args <;> rfl

theorem ofWords_extendedBy (args more : Arguments) :
    (ofWords args).ExtendedBy more (ofWords (args ++ more)) := by
  have hplain : plainWords (args ++ more) = plainWords args ++ plainWords more :=
    List.filter_append args more
  constructor
  · rfl
  · rfl
  · intro name
    rw [addTags_ofWords, addTags_ofWords, TagSet.mem_ofList, TagSet.mem_ofList,
      List.filterMap_append, List.mem_append]
  · intro name
    rw [removeTags_ofWords, removeTags_ofWords, TagSet.mem_ofList, TagSet.mem_ofList,
      List.filterMap_append, List.mem_append]
  · intro words hwords
    rw [text?_ofWords] at hwords ⊢
    rw [hplain, ← textOf_append words, ← hwords, textOf_append]
  · intro hkind
    rw [kind_ofWords] at hkind ⊢
    rw [kind_ofWords, hplain]
    by_cases hargs : plainWords args = []
    · simp [hargs] at hkind
    · simp [hargs]

end Modification

theorem Modification.ExtendedBy.adjust {change longer : Modification} {more : Arguments}
    (h : change.ExtendedBy more longer) (keyword : Keyword) :
    (keyword.adjust change).ExtendedBy more (keyword.adjust longer) := by
  constructor
  · rw [Keyword.adjust_status, Keyword.adjust_status, h.status]
  · rw [Keyword.adjust_active, Keyword.adjust_active, h.active]
  · rw [Keyword.adjust_addTags, Keyword.adjust_addTags]
    exact h.addTags
  · rw [Keyword.adjust_removeTags, Keyword.adjust_removeTags]
    exact h.removeTags
  · rw [Keyword.adjust_text?, Keyword.adjust_text?]
    exact h.text
  · intro hkind
    have hset : change.description.kind ≠ .unset := by
      intro hunset
      rw [Keyword.adjust_kind, hunset] at hkind
      simp at hkind
    rw [Keyword.adjust_kind, Keyword.adjust_kind, h.kind hset]

namespace Subcommand

open Grammar (dispatch)

theorem parser_eq_found_iff {args rest : Arguments} {subcommand : Subcommand} :
    parser args = .found (subcommand, rest) ↔
      ∃ grammar, dispatch args = .found ((grammar, subcommand), rest) := by
  rw [parser, Parser.map]
  cases dispatch args with
  | found answer =>
    obtain ⟨⟨grammar, other⟩, left⟩ := answer
    simp
  | declined => simp
  | overlong digits => simp

theorem exists_complete_append {args rest : Arguments} {subcommand : Subcommand}
    (h : parser args = .found (subcommand, rest)) :
    ∃ (grammar : Grammar) (filter : Filter) (word : String) (left : Arguments),
      word ∈ grammar.words ∧ grammar.complete filter word left = (subcommand, rest) ∧
      ∀ more, parser (args ++ more) = .found (grammar.complete filter word (left ++ more)) := by
  obtain ⟨grammar, hdispatch⟩ := parser_eq_found_iff.mp h
  obtain ⟨taken, filter, word, left, rfl, hopens, hcomplete⟩ :=
    Grammar.dispatch_eq_found_iff.mp hdispatch
  refine ⟨grammar, filter, word, left, hopens.tells, hcomplete, fun more => ?_⟩
  rw [List.append_assoc, List.cons_append]
  exact parser_eq_found_iff.mpr ⟨grammar, hopens.dispatch_eq (left ++ more)⟩

theorem parser_append_of_not_takesAll {args rest : Arguments} {subcommand : Subcommand}
    (h : parser args = .found (subcommand, rest)) (htakes : subcommand.takesAll = false)
    (more : Arguments) : parser (args ++ more) = .found (subcommand, rest ++ more) := by
  obtain ⟨grammar, filter, word, left, -, hcomplete, happend⟩ := exists_complete_append h
  obtain ⟨rfl, hothers⟩ := Grammar.complete_of_not_takesAll hcomplete htakes
  rw [happend, hothers]

theorem parser_append_of_add {args rest : Arguments} {change : Modification}
    (h : parser args = .found (.add change, rest)) (more : Arguments) :
    rest = [] ∧ ∃ longer, parser (args ++ more) = .found (.add longer, []) ∧
      change.ExtendedBy more longer := by
  obtain ⟨grammar, filter, word, left, -, hcomplete, happend⟩ := exists_complete_append h
  cases grammar with
  | add =>
    simp only [Grammar.complete, Prod.mk.injEq, Subcommand.add.injEq] at hcomplete
    obtain ⟨rfl, rfl⟩ := hcomplete
    exact ⟨rfl, Modification.ofWords (left ++ more), happend more,
      Modification.ofWords_extendedBy left more⟩
  | version | help | modify | list | info | gc | sync => simp [Grammar.complete] at hcomplete

theorem parser_append_of_modify {args rest : Arguments} {filter : Filter} {change : Modification}
    (h : parser args = .found (.modify filter change, rest)) (more : Arguments) :
    rest = [] ∧ ∃ longer, parser (args ++ more) = .found (.modify filter longer, []) ∧
      change.ExtendedBy more longer := by
  obtain ⟨grammar, filter', word, left, hword, hcomplete, happend⟩ := exists_complete_append h
  cases grammar with
  | modify =>
    obtain ⟨keyword, -, rfl⟩ := List.mem_map.mp hword
    simp only [Grammar.complete, Modification.adjust_name, Prod.mk.injEq,
      Subcommand.modify.injEq] at hcomplete happend
    obtain ⟨⟨rfl, rfl⟩, rfl⟩ := hcomplete
    exact ⟨rfl, keyword.adjust (Modification.ofWords (left ++ more)), happend more,
      (Modification.ofWords_extendedBy left more).adjust keyword⟩
  | version | help | add | list | info | gc | sync => simp [Grammar.complete] at hcomplete

theorem parser_append_of_overlong {args : Arguments} {digits : Nat}
    (h : parser args = .overlong digits) (more : Arguments) :
    parser (args ++ more) = .overlong digits := by
  rw [parser_eq_overlong_iff] at h ⊢
  obtain ⟨hhead, taken, text, rest, rfl, htaken, htext⟩ := h
  refine ⟨?_, taken, text, rest ++ more, by simp, htaken, htext⟩
  rw [List.head?_append_of_ne_nil _ (by simp)]
  exact hhead

theorem parser_append_of_declined {args : Arguments} (h : parser args = .declined)
    (hstop : ∃ text ∈ args, ¬ Filter.IsArgument text) (more : Arguments) :
    parser (args ++ more) = .declined := by
  obtain ⟨text, htext, hnot⟩ := hstop
  cases hmore : parser (args ++ more) with
  | found answer =>
    obtain ⟨subcommand, rest⟩ := answer
    obtain ⟨grammar, hdispatch⟩ := parser_eq_found_iff.mp hmore
    obtain ⟨taken, filter, word, left, hargs, hopens, -⟩ :=
      Grammar.dispatch_eq_found_iff.mp hdispatch
    rcases Arguments.prefix_or_of_append hargs with hfront | ⟨middle, rfl, -⟩
    · exact absurd (hopens.isArgument text (hfront.mem htext)) hnot
    · have hfound := parser_eq_found_iff.mpr ⟨grammar, hopens.dispatch_eq middle⟩
      rw [h] at hfound
      cases hfound
  | declined => rfl
  | overlong digits =>
    obtain ⟨hhead, taken, numeral, rest, hargs, htaken, hnumeral⟩ :=
      parser_eq_overlong_iff.mp hmore
    rcases Arguments.prefix_or_of_append hargs with hfront | ⟨middle, rfl, -⟩
    · exact absurd (htaken text (hfront.mem htext)) hnot
    · rw [List.head?_append_of_ne_nil _ (by simp)] at hhead
      have hoverlong := parser_eq_overlong_iff.mpr
        ⟨hhead, taken, numeral, middle, rfl, htaken, hnumeral⟩
      rw [h] at hoverlong
      cases hoverlong

theorem parser_append (args more : Arguments) :
    (∀ subcommand rest, parser args = .found (subcommand, rest) → subcommand.takesAll = false →
      parser (args ++ more) = .found (subcommand, rest ++ more)) ∧
    (∀ change rest, parser args = .found (.add change, rest) → rest = [] ∧
      ∃ longer, parser (args ++ more) = .found (.add longer, []) ∧
        change.ExtendedBy more longer) ∧
    (∀ filter change rest, parser args = .found (.modify filter change, rest) → rest = [] ∧
      ∃ longer, parser (args ++ more) = .found (.modify filter longer, []) ∧
        change.ExtendedBy more longer) ∧
    (parser args = .declined →
      ((∃ text ∈ args, ¬ Filter.IsArgument text) → parser (args ++ more) = .declined) ∧
      ((∃ answer, parser (args ++ more) = .found answer) →
        ∀ text ∈ args, Filter.IsArgument text)) ∧
    (∀ digits, parser args = .overlong digits → parser (args ++ more) = .overlong digits) := by
  refine ⟨?_, ?_, ?_, ?_, ?_⟩
  · intro subcommand rest h htakes
    exact parser_append_of_not_takesAll h htakes more
  · intro change rest h
    exact parser_append_of_add h more
  · intro filter change rest h
    exact parser_append_of_modify h more
  · intro h
    refine ⟨fun hstop => parser_append_of_declined h hstop more, ?_⟩
    rintro ⟨answer, hanswer⟩ text htext
    by_contra hnot
    rw [parser_append_of_declined h ⟨text, htext, hnot⟩ more] at hanswer
    cases hanswer
  · intro digits h
    exact parser_append_of_overlong h more

theorem parser_append_instances :
    let numeral := List.replicate 4301 '1'
    (∃ filter, parser ["12", "-h", "list", "x"] = .found (.list filter, ["x"]) ∧
      parser (["12", "-h", "list", "x"] ++ ["add", "+b"]) =
        .found (.list filter, ["x"] ++ ["add", "+b"])) ∧
    (∃ change longer, parser ["add", "+a", ""] = .found (.add change, []) ∧
      parser (["add", "+a", ""] ++ ["-b", "x"]) = .found (.add longer, []) ∧
      change.ExtendedBy ["-b", "x"] longer) ∧
    (∃ filter change longer, parser ["12", "prepend"] = .found (.modify filter change, []) ∧
      parser (["12", "prepend"] ++ ["x", "+a"]) = .found (.modify filter longer, []) ∧
      change.ExtendedBy ["x", "+a"] longer) ∧
    (parser ["12", "frob"] = .declined ∧ (∃ text ∈ ["12", "frob"], ¬ Filter.IsArgument text) ∧
      parser (["12", "frob"] ++ ["list"]) = .declined) ∧
    (parser ["12"] = .declined ∧ (∃ answer, parser (["12"] ++ ["list"]) = .found answer) ∧
      ∀ text ∈ ["12"], Filter.IsArgument text) ∧
    parser [String.ofList numeral] = .overlong 4301 ∧
      parser ([String.ofList numeral] ++ ["list"]) = .overlong 4301 := by
  intro numeral
  refine ⟨?_, ?_, ?_, ?_, ?_, ?_⟩
  · have hlist : parser ["12", "-h", "list", "x"] = .found (.list ⟨{
        base := .idList [.workingSet 12 (by decide)]
        conditions := [.noTag "h"] }⟩, ["x"]) := by decide +kernel
    exact ⟨_, hlist, (parser_append _ ["add", "+b"]).1 _ _ hlist rfl⟩
  · have hadd : parser ["add", "+a", ""] = .found (.add {
        description := .set ""
        addTags := ⟨["a"], by decide⟩ }, []) := by decide +kernel
    obtain ⟨-, longer, hlonger, hextended⟩ := (parser_append _ ["-b", "x"]).2.1 _ _ hadd
    exact ⟨_, longer, hadd, hlonger, hextended⟩
  · have hprepend : parser ["12", "prepend"] = .found (.modify {
        base := .idList [.workingSet 12 (by decide)] } {}, []) := by decide +kernel
    obtain ⟨-, longer, hlonger, hextended⟩ := (parser_append _ ["x", "+a"]).2.2.1 _ _ _ hprepend
    exact ⟨_, _, longer, hprepend, hlonger, hextended⟩
  · have hdeclined : parser ["12", "frob"] = .declined := by decide +kernel
    have hstop : ∃ text ∈ ["12", "frob"], ¬ Filter.IsArgument text :=
      ⟨"frob", by decide, Filter.not_isArgument_of_declined (by decide +kernel)⟩
    exact ⟨hdeclined, hstop, ((parser_append _ ["list"]).2.2.2.1 hdeclined).1 hstop⟩
  · have hdeclined : parser ["12"] = .declined := by decide +kernel
    have hmended : ∃ answer, parser (["12"] ++ ["list"]) = .found answer :=
      ⟨(.list ⟨{ base := .idList [.workingSet 12 (by decide)] }⟩, []), by decide +kernel⟩
    exact ⟨hdeclined, hmended, ((parser_append _ ["list"]).2.2.2.1 hdeclined).2 hmended⟩
  · have hall : numeral.all Char.isDigit := by
      rw [List.all_replicate]
      decide
    have hholds : TaskId.HoldsOverlong (String.ofList numeral) 4301 :=
      TaskId.holdsOverlong_of_digits hall List.length_replicate (by decide)
    have hhead : [String.ofList numeral].head? ≠ some "-h" := by
      intro hhead
      rw [Option.some.inj hhead] at hholds
      exact absurd (TaskId.readList_eq_overlong_iff.mpr hholds) (by decide +kernel)
    have hoverlong := parser_eq_overlong_iff.mpr ⟨hhead, [], _, [], rfl, by simp, hholds⟩
    exact ⟨hoverlong, (parser_append _ ["list"]).2.2.2.2 _ hoverlong⟩

end Subcommand

end TaskLine
