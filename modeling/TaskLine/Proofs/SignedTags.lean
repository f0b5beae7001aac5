import TaskLine.Tag
import TaskLine.TagSet

namespace TaskLine

namespace Tag

def IsSigned (text : String) : Prop :=
  ∃ sign name, (sign = '+' ∨ sign = '-') ∧ isName name ∧ text.toList = sign :: name

theorem signed?_of_ne {sign c : Char} {text : String} {rest : List Char}
    (htext : text.toList = c :: rest) (hne : c ≠ sign) : signed? sign text = none := by
  rw [Option.eq_none_iff_forall_ne_some]
  intro name hname
  obtain ⟨hsigned, -⟩ := signed?_eq_some_iff.mp hname
  rw [htext, List.cons.injEq] at hsigned
  exact hne hsigned.1

theorem signed?_plus {name : String} (h : isName name.toList) :
    signed? '+' ("+" ++ name) = some name := by
  rw [signed?_eq_some_iff, String.toList_append]
  exact ⟨rfl, h⟩

theorem signed?_minus {name : String} (h : isName name.toList) :
    signed? '-' ("-" ++ name) = some name := by
  rw [signed?_eq_some_iff, String.toList_append]
  exact ⟨rfl, h⟩

theorem signed?_minus_of_plus {text name : String} (h : signed? '+' text = some name) :
    signed? '-' text = none := by
  obtain ⟨htext, -⟩ := signed?_eq_some_iff.mp h
  exact signed?_of_ne htext (by decide)

theorem isSigned_of_signed? {sign : Char} {text name : String} (hsign : sign = '+' ∨ sign = '-')
    (h : signed? sign text = some name) : IsSigned text := by
  obtain ⟨htext, hname⟩ := signed?_eq_some_iff.mp h
  exact ⟨sign, name.toList, hsign, hname, htext⟩

theorem isSigned_iff {text : String} :
    IsSigned text ↔ ∃ name, signed? '+' text = some name ∨ signed? '-' text = some name := by
  constructor
  · rintro ⟨sign, name, hsign, hname, htext⟩
    have hsigned : signed? sign text = some (String.ofList name) := by
      rw [signed?_eq_some_iff, String.toList_ofList]
      exact ⟨htext, hname⟩
    rcases hsign with rfl | rfl
    · exact ⟨_, .inl hsigned⟩
    · exact ⟨_, .inr hsigned⟩
  · rintro ⟨name, h | h⟩
    · exact isSigned_of_signed? (.inl rfl) h
    · exact isSigned_of_signed? (.inr rfl) h

theorem not_isSigned_iff {text : String} :
    ¬ IsSigned text ↔ signed? '+' text = none ∧ signed? '-' text = none := by
  simp only [isSigned_iff, Option.eq_none_iff_forall_ne_some, not_exists, not_or, forall_and]

theorem space_not_mem_of_isName {name : List Char} (h : isName name) : ' ' ∉ name := by
  intro hspace
  cases name with
  | nil => exact List.not_mem_nil hspace
  | cons first rest =>
    simp only [isName, Bool.and_eq_true, List.all_eq_true] at h
    rcases List.mem_cons.mp hspace with rfl | hrest
    · exact absurd h.1 (by decide)
    · exact absurd (h.2 ' ' hrest) (by decide)

theorem space_not_mem_of_isSigned {text : String} (h : IsSigned text) : ' ' ∉ text.toList := by
  obtain ⟨sign, name, hsign, hname, htext⟩ := h
  rw [htext, List.mem_cons, not_or]
  refine ⟨?_, space_not_mem_of_isName hname⟩
  rcases hsign with rfl | rfl <;> decide

instance : DecidablePred IsSigned := fun text =>
  decidable_of_iff (¬ (signed? '+' text = none ∧ signed? '-' text = none)) <| by
    rw [← not_isSigned_iff, Classical.not_not]

theorem mem_filterMap_signed? {sign : Char} {mark name : String} (hmark : mark.toList = [sign])
    {args : Arguments} :
    name ∈ args.filterMap (signed? sign) ↔ isName name.toList ∧ mark ++ name ∈ args := by
  have hspelled (text : String) : text.toList = sign :: name.toList ↔ text = mark ++ name := by
    rw [← String.toList_inj, String.toList_append, hmark]
    rfl
  simp only [List.mem_filterMap, signed?_eq_some_iff, hspelled]
  constructor
  · rintro ⟨text, htext, rfl, hname⟩
    exact ⟨hname, htext⟩
  · rintro ⟨hname, hmem⟩
    exact ⟨mark ++ name, hmem, rfl, hname⟩

theorem isSigned_append {sign : Char} {mark name : String} (hmark : mark.toList = [sign])
    (hsign : sign = '+' ∨ sign = '-') (hname : isName name.toList) : IsSigned (mark ++ name) := by
  refine ⟨sign, name.toList, hsign, hname, ?_⟩
  rw [String.toList_append, hmark]
  rfl

end Tag

end TaskLine
