import Mathlib.Algebra.Group.Nat.Defs
import TaskLine.Proofs.TaskIdForms

namespace TaskLine

namespace Text

theorem digit_lt_ten {c : Char} (h : c.isDigit) : c.toNat - '0'.toNat < 10 := by
  have hrange := Char.isDigit_iff_toNat.mp h
  have hbase : '0'.toNat = 48 := rfl
  have htop : '9'.toNat = 57 := rfl
  omega

end Text

namespace TaskId

open Text

def WellFormed : TaskId → Prop
  | workingSet number _ => number < 10 ^ Numeral.maxDigits
  | partialUuid text => isUuidOf isLowerHex text.toList

theorem wellFormed_partialUuid {text : String} :
    (partialUuid text).WellFormed ↔ isUuidOf isLowerHex text.toList := Iff.rfl

def IsDigits (text : String) : Prop := text.toList.all Char.isDigit

instance : DecidablePred IsDigits := fun text =>
  inferInstanceAs (Decidable (text.toList.all Char.isDigit))

/-- A partial UUID which is all digits would be read as a number. -/
def Writable (id : TaskId) : Prop :=
  id.WellFormed ∧ ∀ text, id = partialUuid text → ¬ IsDigits text

theorem ofDigitChars_lt {text : List Char} (h : text.all Char.isDigit) :
    Nat.ofDigitChars 10 text 0 < 10 ^ text.length := by
  induction text with
  | nil => simp
  | cons c text ih =>
    rw [List.all_cons, Bool.and_eq_true] at h
    have hdigit : c.toNat - '0'.toNat ≤ 9 := Nat.le_of_lt_succ (digit_lt_ten h.1)
    have htail := ih h.2
    rw [Nat.ofDigitChars_cons, Nat.ofDigitChars_eq_ofDigitChars_zero, List.length_cons, Nat.pow_succ,
      Nat.mul_zero, Nat.zero_add]
    have hhead := Nat.mul_le_mul_left (10 ^ text.length) hdigit
    omega

theorem isDigit_of_all_toLower {text : List Char} (h : isPartialUuid text)
    (hdigits : (text.map Char.toLower).all Char.isDigit) : text.all Char.isDigit := by
  simp only [List.all_eq_true, List.forall_mem_map] at hdigits ⊢
  intro c hc
  rcases mem_of_isUuidOf h hc with hhex | rfl
  · rw [← isDigit_toLower hhex]
    exact hdigits c hc
  · exact absurd (hdigits '-' hc) (by decide)

theorem writable_of_read {text : List Char} {id : TaskId} (h : read text = .found id) :
    id.Writable := by
  rcases read_eq_found_iff.mp h with ⟨hnumeral, hlength, hpositive, rfl⟩ | ⟨hnumeral, huuid, rfl⟩
  · have hpow : 10 ^ text.length ≤ 10 ^ Numeral.maxDigits := Nat.pow_le_pow_right (by decide) hlength
    exact ⟨Nat.lt_of_lt_of_le (ofDigitChars_lt (isNumeral_iff.mp hnumeral).2) hpow, nofun⟩
  · constructor
    · rw [wellFormed_partialUuid, String.toList_ofList]
      exact isUuidOf_map (fun c => isLowerHex_toLower) (by decide) huuid
    · rintro _ ⟨⟩ hdigits
      rw [IsDigits, String.toList_ofList] at hdigits
      refine hnumeral (isNumeral_iff.mpr ⟨?_, isDigit_of_all_toLower huuid hdigits⟩)
      rintro rfl
      exact Bool.noConfusion huuid

theorem isPartialUuid_of_isLowerHex {text : List Char} (h : isUuidOf isLowerHex text) :
    isPartialUuid text := by
  rw [isPartialUuid, ← List.map_id text]
  exact isUuidOf_map (fun c => isHexDigit_of_isLowerHex) rfl h

theorem map_toLower_of_isLowerHex {text : List Char} (h : isUuidOf isLowerHex text) :
    text.map Char.toLower = text := by
  have hall : ∀ c ∈ text, c.toLower = c := by
    intro c hc
    rcases mem_of_isUuidOf h hc with hhex | rfl
    · exact toLower_of_isLowerHex hhex
    · decide
  rw [List.map_congr_left hall, List.map_id']

theorem read_toString {id : TaskId} (h : id.Writable) : read id.toString.toList = .found id := by
  rw [read_eq_found_iff]
  cases id with
  | workingSet number hpositive =>
    have hvalue : Nat.ofDigitChars 10 (Nat.toDigits 10 number) 0 = number :=
      Nat.ofDigitChars_ten_toDigits
    rw [toString, Nat.toList_repr]
    refine .inl ⟨?_, ?_, ?_⟩
    · rw [isNumeral_iff]
      refine ⟨by simp, List.all_eq_true.mpr fun c hc => ?_⟩
      exact Nat.isDigit_of_mem_toDigits (by decide) (by decide) hc
    · rw [Nat.length_toDigits_le_iff (by decide) (by decide)]
      exact h.1
    · simp [hvalue, hpositive]
  | partialUuid text =>
    obtain ⟨huuid, hdigits⟩ := h
    refine .inr ⟨fun hnumeral => hdigits text rfl (isNumeral_iff.mp hnumeral).2,
      isPartialUuid_of_isLowerHex huuid, ?_⟩
    rw [toString, map_toLower_of_isLowerHex huuid, String.ofList_toList]

theorem comma_not_mem_of_read {text : List Char} {id : TaskId} (h : read text = .found id) :
    ',' ∉ text := by
  intro hcomma
  rcases read_eq_found_iff.mp h with ⟨hnumeral, -⟩ | ⟨-, huuid, -⟩
  · have hdigits := List.all_eq_true.mp (isNumeral_iff.mp hnumeral).2
    exact absurd (hdigits ',' hcomma) (by decide)
  · exact absurd (mem_of_isUuidOf huuid hcomma) (by decide)

theorem readList_toString {id : TaskId} (h : id.Writable) :
    readList id.toString = .found [id] := by
  have hread := read_toString h
  rw [readList_eq_found_iff, List.splitOn_eq_singleton (comma_not_mem_of_read hread), List.map_cons,
    hread]
  rfl

end TaskId

end TaskLine
