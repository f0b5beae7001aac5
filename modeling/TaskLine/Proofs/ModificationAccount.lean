import TaskLine.Proofs.LaterArguments

namespace TaskLine

namespace Modification

structure Accounts (change : Modification) (args : Arguments) : Prop where
  addTags : ∀ name, name ∈ change.addTags ↔ Tag.isName name.toList ∧ "+" ++ name ∈ args
  removeTags : ∀ name, name ∈ change.removeTags ↔ Tag.isName name.toList ∧ "-" ++ name ∈ args
  unset : change.description = .unset ↔ ∀ text ∈ args, Tag.IsSigned text
  set : (∃ text ∈ args, ¬ Tag.IsSigned text) →
    change.description = .set (" ".intercalate (args.filter (¬ Tag.IsSigned ·)))
  status : change.status = none
  active : change.active = none

theorem plainWords_eq_filter (args : Arguments) :
    plainWords args = args.filter (¬ Tag.IsSigned ·) := by
  apply List.filter_congr
  intro text _
  rw [Bool.eq_iff_iff, decide_eq_true_iff, Tag.not_isSigned_iff]
  simp

theorem plainWords_eq_nil_iff {args : Arguments} :
    plainWords args = [] ↔ ∀ text ∈ args, Tag.IsSigned text := by
  simp [plainWords_eq_filter, List.filter_eq_nil_iff]

theorem ofWords_accounts (args : Arguments) : (ofWords args).Accounts args := by
  refine ⟨?_, ?_, ?_, ?_, rfl, rfl⟩
  · intro name
    rw [addTags_ofWords, TagSet.mem_ofList]
    exact Tag.mem_filterMap_signed? rfl
  · intro name
    rw [removeTags_ofWords, TagSet.mem_ofList]
    exact Tag.mem_filterMap_signed? rfl
  · rw [descriptionOf_plainWords, ← plainWords_eq_nil_iff]
    cases plainWords args <;> simp [descriptionOf]
  · intro hplain
    rw [descriptionOf_plainWords, ← plainWords_eq_filter]
    have hne : plainWords args ≠ [] := by
      rw [Ne, plainWords_eq_nil_iff]
      simpa using hplain
    obtain ⟨word, words, hwords⟩ := List.exists_cons_of_ne_nil hne
    rw [hwords, descriptionOf]
    simp

theorem Accounts.unique {change other : Modification} {args : Arguments} (h : change.Accounts args)
    (hother : other.Accounts args) : change = other := by
  have hadd : change.addTags = other.addTags :=
    TagSet.ext fun name => (h.addTags name).trans (hother.addTags name).symm
  have hremove : change.removeTags = other.removeTags :=
    TagSet.ext fun name => (h.removeTags name).trans (hother.removeTags name).symm
  have hdescription : change.description = other.description := by
    by_cases hall : ∀ text ∈ args, Tag.IsSigned text
    · rw [h.unset.mpr hall, hother.unset.mpr hall]
    · have hplain : ∃ text ∈ args, ¬ Tag.IsSigned text := by simpa using hall
      rw [h.set hplain, hother.set hplain]
  have hstatus := h.status.trans hother.status.symm
  have hactive := h.active.trans hother.active.symm
  cases change
  cases other
  rw [mk.injEq]
  exact ⟨hdescription, hstatus, hactive, hadd, hremove⟩

theorem accounts_iff {change : Modification} {args : Arguments} :
    change.Accounts args ↔ change = ofWords args := by
  constructor
  · intro h
    exact h.unique (ofWords_accounts args)
  · rintro rfl
    exact ofWords_accounts args

theorem Accounts.of_same {change : Modification} {args others : Arguments}
    (h : change.Accounts args)
    (hwords : args.filter (¬ Tag.IsSigned ·) = others.filter (¬ Tag.IsSigned ·))
    (htags : ∀ text, Tag.IsSigned text → (text ∈ args ↔ text ∈ others)) :
    change.Accounts others := by
  have hplain : plainWords args = plainWords others := by
    rw [plainWords_eq_filter, plainWords_eq_filter, hwords]
  have hall : (∀ text ∈ args, Tag.IsSigned text) ↔ ∀ text ∈ others, Tag.IsSigned text := by
    rw [← plainWords_eq_nil_iff, ← plainWords_eq_nil_iff, hplain]
  -- An account reads of its arguments the plain words and which signed tags there are, no more.
  refine ⟨?_, ?_, h.unset.trans hall, ?_, h.status, h.active⟩
  · intro name
    rw [h.addTags]
    exact and_congr_right fun hname => htags _ (Tag.isSigned_append rfl (.inl rfl) hname)
  · intro name
    rw [h.removeTags]
    exact and_congr_right fun hname => htags _ (Tag.isSigned_append rfl (.inr rfl) hname)
  · intro hothers
    rw [← hwords]
    apply h.set
    simpa using hall.not.mpr (by simpa using hothers)

theorem splitOn_description {change : Modification} {args : Arguments} {text : String}
    (h : change.Accounts args) (htext : change.description = .set text)
    (hspace : ∀ word ∈ args, ¬ Tag.IsSigned word → ' ' ∉ word.toList) :
    (text.toList.splitOn ' ').map String.ofList = args.filter (¬ Tag.IsSigned ·) := by
  have hplain : ∃ word ∈ args, ¬ Tag.IsSigned word := by
    by_contra hnone
    have hunset := h.unset.mpr (by simpa using hnone)
    rw [hunset] at htext
    cases htext
  have hset := h.set hplain
  rw [htext, DescriptionChange.set.injEq] at hset
  rw [hset, String.toList_intercalate]
  -- The empty list would be split into one empty word.
  have hne : (args.filter (¬ Tag.IsSigned ·)).map String.toList ≠ [] := by
    simpa using hplain
  have hwords : ∀ word ∈ (args.filter (¬ Tag.IsSigned ·)).map String.toList, ' ' ∉ word := by
    intro word hword
    obtain ⟨text, hmem, rfl⟩ := List.mem_map.mp hword
    obtain ⟨hmem, hnot⟩ := List.mem_filter.mp hmem
    exact hspace text hmem (by simpa using hnot)
  rw [show " ".toList = [' '] from rfl, List.splitOn_intercalate ' ' hwords hne, List.map_map]
  simp

theorem parser_eq_found_iff {args rest : Arguments} {change : Modification} :
    parser args = .found (change, rest) ↔ rest = [] ∧ change.Accounts args := by
  rw [parser_eq_found, Reading.found.injEq, Prod.mk.injEq, accounts_iff]
  constructor
  · rintro ⟨rfl, rfl⟩
    exact ⟨rfl, rfl⟩
  · rintro ⟨rfl, rfl⟩
    exact ⟨rfl, rfl⟩

theorem parser_accounts :
    (∀ args, ∃ change, parser args = .found (change, [])) ∧
    (∀ args rest change, parser args = .found (change, rest) ↔ rest = [] ∧ change.Accounts args) ∧
    (∀ args others,
      args.filter (¬ Tag.IsSigned ·) = others.filter (¬ Tag.IsSigned ·) →
      (∀ text, Tag.IsSigned text → (text ∈ args ↔ text ∈ others)) →
      parser args = parser others) ∧
    ∀ args rest change text, parser args = .found (change, rest) →
      change.description = .set text →
      (∀ word ∈ args, ¬ Tag.IsSigned word → ' ' ∉ word.toList) →
      (text.toList.splitOn ' ').map String.ofList = args.filter (¬ Tag.IsSigned ·) := by
  refine ⟨fun args => ⟨ofWords args, parser_eq_found args⟩, fun _ _ _ => parser_eq_found_iff, ?_, ?_⟩
  · intro args others hwords htags
    have hsame := accounts_iff.mp ((ofWords_accounts args).of_same hwords htags)
    rw [parser_eq_found, parser_eq_found, hsame]
  · intro args rest change text hparser htext hspace
    exact splitOn_description (parser_eq_found_iff.mp hparser).2 htext hspace

theorem parser_accounts_mixed :
    let args := ["+a", "", "-b", "--help", "+a", "+1a"]
    let others := ["", "--help", "+1a", "-b", "+a"]
    let change : Modification := {
      description := .set " --help +1a"
      addTags := ⟨["a"], by decide⟩
      removeTags := ⟨["b"], by decide⟩ }
    args.filter (¬ Tag.IsSigned ·) = others.filter (¬ Tag.IsSigned ·) ∧
      (∀ text, Tag.IsSigned text → (text ∈ args ↔ text ∈ others)) ∧
      parser args = parser others ∧ parser args = .found (change, []) ∧
      (" --help +1a".toList.splitOn ' ').map String.ofList = args.filter (¬ Tag.IsSigned ·) := by
  intro args others change
  have hwords : args.filter (¬ Tag.IsSigned ·) = others.filter (¬ Tag.IsSigned ·) := by
    decide +kernel
  have htags : ∀ text, Tag.IsSigned text → (text ∈ args ↔ text ∈ others) := by
    intro text _
    simp only [args, others, List.mem_cons, List.not_mem_nil, or_false]
    tauto
  have hparser : parser args = .found (change, []) := by decide +kernel
  obtain ⟨-, -, hsame, hsplit⟩ := parser_accounts
  refine ⟨hwords, htags, hsame args others hwords htags, hparser, ?_⟩
  exact hsplit args [] change _ hparser rfl (by decide +kernel)

end Modification

end TaskLine
