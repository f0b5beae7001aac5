import TaskLine.Proofs.IdSpellings

/-!
Which texts are task ids: the positive numbers and the partial UUIDs, except that a run of zeros is
no id, not even where there are as many of them as a partial UUID has characters.
-/

namespace TaskLine

namespace Text

def IsHex (c : Char) : Prop :=
  ('0' ≤ c ∧ c ≤ '9') ∨ ('a' ≤ c ∧ c ≤ 'f') ∨ ('A' ≤ c ∧ c ≤ 'F')

theorem isDigit_iff {c : Char} : c.isDigit ↔ '0' ≤ c ∧ c ≤ '9' := by
  simp [Char.isDigit, Char.le_def]

theorem ofDigitChars_pos_iff {text : List Char} (h : text.all Char.isDigit) :
    0 < Nat.ofDigitChars 10 text 0 ↔ ∃ c ∈ text, c ≠ '0' := by
  induction text with
  | nil => simp
  | cons c text ih =>
    rw [List.all_cons, Bool.and_eq_true] at h
    simp only [List.mem_cons, exists_eq_or_imp]
    rw [← ih h.2]
    by_cases hzero : c = '0'
    · subst hzero
      simp [Nat.ofDigitChars_cons]
    · have hvalue := digit_pos h.1 hzero
      have hpower : 0 < 10 ^ text.length := Nat.pow_pos (by decide)
      have hhead := Nat.mul_pos hpower hvalue
      rw [Nat.ofDigitChars_cons, Nat.mul_zero, Nat.zero_add, Nat.ofDigitChars_eq_ofDigitChars_zero]
      exact iff_of_true (by omega) (.inl hzero)

end Text

namespace TaskId

open Text

structure IsPositiveNumeral (text : String) : Prop where
  nonempty : text ≠ ""
  digits : ∀ c ∈ text.toList, '0' ≤ c ∧ c ≤ '9'
  positive : 0 < number text

structure IsAbbreviatedUuid (text : String) : Prop where
  atLeast : 8 ≤ text.length
  atMost : text.length ≤ 36
  chars : ∀ c ∈ text.toList, IsHex c ∨ c = '-'
  start : ∀ c ∈ text.toList.take 8, IsHex c

structure IsZeroUuid (text : String) : Prop where
  atLeast : 8 ≤ text.length
  atMost : text.length ≤ 36
  zeros : ∀ c ∈ text.toList, c = '0'

variable {text : String}

theorem isNumeral_of_isPositiveNumeral (h : IsPositiveNumeral text) : isNumeral text.toList := by
  rw [isNumeral_iff, List.all_eq_true]
  refine ⟨fun hnil => h.nonempty (String.toList_inj.mp hnil), fun c hc => ?_⟩
  exact isDigit_iff.mpr (h.digits c hc)

theorem isPositiveNumeral_of_isNumeral (h : isNumeral text.toList) (hpositive : 0 < number text) :
    IsPositiveNumeral text where
  nonempty := by
    rintro rfl
    exact Bool.noConfusion h
  digits := fun c hc => isDigit_iff.mp (List.all_eq_true.mp (isNumeral_iff.mp h).2 c hc)
  positive := hpositive

theorem isPartialUuid_iff_isAbbreviatedUuid :
    isPartialUuid text.toList ↔ IsAbbreviatedUuid text := by
  rw [isPartialUuid, isUuidOf_iff, String.length_toList]
  simp only [isHexDigit_iff]
  constructor
  · rintro ⟨hshort, hlong, hstart, hrest⟩
    refine ⟨hshort, hlong, fun c hc => ?_, hstart⟩
    rw [← List.take_append_drop 8 text.toList, List.mem_append] at hc
    exact hc.elim (fun hc => .inl (hstart c hc)) (hrest c)
  · intro h
    exact ⟨h.atLeast, h.atMost, h.start, fun c hc => h.chars c (List.mem_of_mem_drop hc)⟩

theorem not_isZeroUuid_of_pos (h : isNumeral text.toList) (hpositive : 0 < number text) :
    ¬ IsZeroUuid text := by
  intro hzero
  obtain ⟨c, hc, hne⟩ := (ofDigitChars_pos_iff (isNumeral_iff.mp h).2).mp hpositive
  exact hne (hzero.zeros c hc)

theorem isNumeral_of_isZeroUuid (h : IsZeroUuid text) : isNumeral text.toList := by
  rw [isNumeral_iff, List.all_eq_true]
  constructor
  · intro hnil
    have hlength := h.atLeast
    rw [← String.length_toList, hnil] at hlength
    exact absurd hlength (by decide)
  · intro c hc
    rw [h.zeros c hc]
    rfl

theorem pos_of_isAbbreviatedUuid (h : IsAbbreviatedUuid text) (hzero : ¬ IsZeroUuid text)
    (hnumeral : isNumeral text.toList) : 0 < number text := by
  apply Nat.pos_of_ne_zero
  intro hnumber
  refine hzero ⟨h.atLeast, h.atMost, fun c hc => ?_⟩
  apply Decidable.byContradiction
  intro hne
  have hpositive := (ofDigitChars_pos_iff (isNumeral_iff.mp hnumeral).2).mpr ⟨c, hc, hne⟩
  exact Nat.ne_of_gt hpositive hnumber

theorem exists_parse_iff (h : text.length ≤ Numeral.maxDigits) :
    (∃ id, parse text = .found id) ↔
      (IsPositiveNumeral text ∨ IsAbbreviatedUuid text) ∧ ¬ IsZeroUuid text := by
  simp only [parse, read_eq_found_iff, String.length_toList]
  constructor
  · rintro ⟨id, ⟨hnumeral, -, hpositive, -⟩ | ⟨hnumeral, huuid, -⟩⟩
    · exact ⟨.inl (isPositiveNumeral_of_isNumeral hnumeral hpositive),
        not_isZeroUuid_of_pos hnumeral hpositive⟩
    · exact ⟨.inr (isPartialUuid_iff_isAbbreviatedUuid.mp huuid),
        fun hzero => hnumeral (isNumeral_of_isZeroUuid hzero)⟩
  · rintro ⟨hform, hzero⟩
    by_cases hnumeral : isNumeral text.toList
    · have hpositive : 0 < number text :=
        hform.elim (·.positive) (pos_of_isAbbreviatedUuid · hzero hnumeral)
      exact ⟨_, .inl ⟨hnumeral, h, hpositive, rfl⟩⟩
    · have huuid := hform.resolve_left fun hpositive =>
        hnumeral (isNumeral_of_isPositiveNumeral hpositive)
      exact ⟨_, .inr ⟨hnumeral, isPartialUuid_iff_isAbbreviatedUuid.mpr huuid, rfl⟩⟩

theorem parse_accepts_forms_but_zeros (text : String) (h : text.length ≤ Numeral.maxDigits) :
    (parse text ≠ .declined ↔ ∃ id, parse text = .found id) ∧
    (parse text ≠ .declined ↔
      (IsPositiveNumeral text ∨ IsAbbreviatedUuid text) ∧ ¬ IsZeroUuid text) := by
  have hfound : parse text ≠ .declined ↔ ∃ id, parse text = .found id := by
    cases hparse : parse text with
    | found id => simp
    | declined => simp
    | overlong digits =>
      obtain ⟨-, hlength, hlong⟩ := read_eq_overlong_iff.mp hparse
      rw [String.length_toList] at hlength
      omega
  exact ⟨hfound, hfound.trans (exists_parse_iff h)⟩

theorem parse_accepts_forms_but_zeros_of_digits :
    "00000012".length ≤ Numeral.maxDigits ∧ parse "00000012" ≠ .declined ∧
      (∃ id, parse "00000012" = .found id) ∧
      (IsPositiveNumeral "00000012" ∨ IsAbbreviatedUuid "00000012") ∧ ¬ IsZeroUuid "00000012" := by
  have hlength : "00000012".length ≤ Numeral.maxDigits := by decide +kernel
  obtain ⟨hfound, hform⟩ := parse_accepts_forms_but_zeros "00000012" hlength
  have hparse : parse "00000012" ≠ .declined := by decide +kernel
  exact ⟨hlength, hparse, hfound.mp hparse, hform.mp hparse⟩

theorem zero_uuid_declined :
    "00000000".length ≤ Numeral.maxDigits ∧ IsAbbreviatedUuid "00000000" ∧
      parse "00000000" = .declined := by
  refine ⟨by decide +kernel, ?_, by decide +kernel⟩
  exact isPartialUuid_iff_isAbbreviatedUuid.mp (by decide +kernel)

end TaskId

end TaskLine
