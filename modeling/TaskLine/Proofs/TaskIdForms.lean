import TaskLine.Proofs.ParserLaws
import TaskLine.TaskId.Read

namespace TaskLine

namespace TaskId

/-- The items from the left are ids until one is a numeral of this many digits, which are too many. -/
def HoldsOverlong (text : String) (digits : Nat) : Prop :=
  ∃ before item after, text.toList.splitOn ',' = before ++ item :: after ∧
    (∀ earlier ∈ before, ∃ id, read earlier = .found id) ∧
    item.all Char.isDigit ∧ item.length = digits ∧ Numeral.maxDigits < digits

theorem read_eq_found_iff {text : List Char} {id : TaskId} :
    read text = .found id ↔
      (isNumeral text ∧ text.length ≤ Numeral.maxDigits ∧
        ∃ h : 0 < Nat.ofDigitChars 10 text 0, id = workingSet _ h) ∨
      (¬ isNumeral text ∧ isPartialUuid text ∧
        id = partialUuid (String.ofList (text.map Char.toLower))) := by
  unfold read
  by_cases hnumeral : isNumeral text
  · rw [if_pos hnumeral]
    by_cases hlength : text.length > Numeral.maxDigits
    · rw [if_pos hlength]
      have hlong : ¬ text.length ≤ Numeral.maxDigits := by omega
      simp [hnumeral, hlong]
    · rw [if_neg hlength]
      have hshort : text.length ≤ Numeral.maxDigits := by omega
      by_cases hpositive : 0 < Nat.ofDigitChars 10 text 0
      · rw [dif_pos hpositive, Reading.found.injEq]
        constructor
        · rintro rfl
          exact .inl ⟨hnumeral, hshort, hpositive, rfl⟩
        · rintro (⟨-, -, -, rfl⟩ | ⟨hnot, -⟩)
          · rfl
          · exact absurd hnumeral hnot
      · simp [hnumeral, hpositive]
  · rw [if_neg hnumeral]
    by_cases huuid : isPartialUuid text
    · rw [if_pos huuid, Reading.found.injEq]
      simp [hnumeral, huuid, eq_comm]
    · simp [hnumeral, huuid]

theorem read_eq_overlong_iff {item : List Char} {digits : Nat} :
    read item = .overlong digits ↔
      item.all Char.isDigit ∧ item.length = digits ∧ Numeral.maxDigits < digits := by
  unfold read
  by_cases hnumeral : isNumeral item
  · have hdigits := (isNumeral_iff.mp hnumeral).2
    rw [if_pos hnumeral]
    by_cases hlength : item.length > Numeral.maxDigits
    · rw [if_pos hlength, Reading.overlong.injEq]
      constructor
      · rintro rfl
        exact ⟨hdigits, rfl, hlength⟩
      · rintro ⟨-, rfl, -⟩
        rfl
    · rw [if_neg hlength]
      have hshort : ¬ (item.length = digits ∧ Numeral.maxDigits < digits) := by omega
      by_cases hpositive : 0 < Nat.ofDigitChars 10 item 0 <;> simp [hpositive, hshort]
  · rw [if_neg hnumeral]
    have hnone : ¬ (item.all Char.isDigit ∧ item.length = digits ∧ Numeral.maxDigits < digits) := by
      rintro ⟨hdigits, rfl, hlength⟩
      rw [isNumeral_iff, not_and] at hnumeral
      refine hnumeral ?_ hdigits
      rintro rfl
      exact absurd hlength (by decide)
    rw [iff_false_right hnone]
    by_cases huuid : isPartialUuid item <;> simp [huuid]

theorem readEach_eq_found_iff {items : List (List Char)} {ids : List TaskId} :
    readEach items = .found ids ↔ items.map read = ids.map .found := by
  induction items generalizing ids with
  | nil =>
    rw [readEach, List.map_nil, Reading.found.injEq]
    cases ids <;> simp
  | cons item items ih =>
    rw [readEach, List.map_cons]
    cases hitem : read item with
    | found id =>
      rw [Reading.bind_found]
      cases ids with
      | nil => cases readEach items <;> simp
      | cons first ids =>
        rw [List.map_cons, List.cons.injEq, ← ih, Reading.found.injEq]
        cases readEach items <;> simp
    | declined => cases ids <;> simp
    | overlong digits => cases ids <;> simp

theorem readEach_eq_overlong_iff {items : List (List Char)} {digits : Nat} :
    readEach items = .overlong digits ↔ Reading.MeetsOverlong read items digits := by
  induction items with
  | nil => simp [readEach, Reading.not_meetsOverlong_nil]
  | cons first items ih =>
    rw [readEach, Reading.meetsOverlong_cons, ← ih]
    cases read first <;> simp [Reading.map_eq_overlong_iff]

theorem readList_eq_overlong_iff {text : String} {digits : Nat} :
    readList text = .overlong digits ↔ HoldsOverlong text digits := by
  rw [readList, readEach_eq_overlong_iff]
  simp only [Reading.MeetsOverlong, read_eq_overlong_iff, HoldsOverlong]

theorem holdsOverlong_of_digits {item : List Char} {digits : Nat} (h : item.all Char.isDigit)
    (hlength : item.length = digits) (hlong : Numeral.maxDigits < digits) :
    HoldsOverlong (String.ofList item) digits := by
  refine ⟨[], item, [], ?_, by simp, h, hlength, hlong⟩
  rw [String.toList_ofList]
  apply List.splitOn_eq_singleton
  intro hcomma
  exact absurd (List.all_eq_true.mp h ',' hcomma) (by decide)

theorem readList_eq_found_iff {text : String} {ids : List TaskId} :
    readList text = .found ids ↔ (text.toList.splitOn ',').map read = ids.map .found := by
  rw [readList, readEach_eq_found_iff]

theorem exists_readList_eq_found_iff {text : String} :
    (∃ ids, readList text = .found ids) ↔
      ∀ item ∈ text.toList.splitOn ',', ∃ id, read item = .found id := by
  simp only [readList_eq_found_iff]
  exact Reading.exists_values_iff

theorem ne_nil_of_readList {text : String} {ids : List TaskId} (h : readList text = .found ids) :
    ids ≠ [] := by
  rw [readList_eq_found_iff] at h
  rintro rfl
  rw [List.map_nil, List.map_eq_nil_iff] at h
  exact List.splitOn_ne_nil ',' text.toList h

theorem read_cons_of_not_hex {c : Char} (h : Text.isHexDigit c = false) (text : List Char) :
    read (c :: text) = .declined := by
  have hnumeral : isNumeral (c :: text) = false := by
    have hdigit : c.isDigit = false := by
      apply Bool.eq_false_iff.mpr
      intro hdigit
      rw [Text.isHexDigit_of_isDigit hdigit] at h
      exact Bool.noConfusion h
    simp [isNumeral, hdigit]
  have huuid : isPartialUuid (c :: text) = false := by
    simp [isPartialUuid, isUuidOf, h]
  rw [read, hnumeral, huuid]
  rfl

theorem readList_of_not_hex {text : String} {c : Char} {rest : List Char}
    (htext : text.toList = c :: rest) (hc : Text.isHexDigit c = false) :
    readList text = .declined := by
  have hfirst : ∃ item items, text.toList.splitOn ',' = item :: items ∧ read item = .declined := by
    rw [htext, List.splitOn_cons_eq_if_modifyHead]
    by_cases hcomma : (c == ',') = true
    · rw [if_pos hcomma]
      exact ⟨[], _, rfl, rfl⟩
    · rw [if_neg hcomma]
      obtain ⟨item, items, hsplit⟩ := List.exists_cons_of_ne_nil (List.splitOn_ne_nil ',' rest)
      rw [hsplit]
      exact ⟨c :: item, items, rfl, read_cons_of_not_hex hc item⟩
  obtain ⟨item, items, hsplit, hitem⟩ := hfirst
  rw [readList, hsplit, readEach, hitem, Reading.bind_declined]

end TaskId

end TaskLine
