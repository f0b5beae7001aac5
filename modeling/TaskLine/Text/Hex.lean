namespace TaskLine.Text

def hexValue? (c : Char) : Option Nat :=
  if '0' ≤ c && c ≤ '9' then some (c.toNat - '0'.toNat)
  else if 'a' ≤ c && c ≤ 'f' then some (c.toNat - 'a'.toNat + 10)
  else if 'A' ≤ c && c ≤ 'F' then some (c.toNat - 'A'.toNat + 10)
  else none

def isHexDigit (c : Char) : Bool := (hexValue? c).isSome

def isLowerHex (c : Char) : Bool := c.isDigit || ('a' ≤ c && c ≤ 'f')

def hexDigits : Nat → Nat → List Char
  | 0, _ => []
  | width + 1, code => hexDigits width (code / 16) ++ [Nat.digitChar (code % 16)]

theorem isHexDigit_iff {c : Char} : isHexDigit c ↔
    ('0' ≤ c ∧ c ≤ '9') ∨ ('a' ≤ c ∧ c ≤ 'f') ∨ ('A' ≤ c ∧ c ≤ 'F') := by
  simp only [isHexDigit, hexValue?, Bool.and_eq_true, decide_eq_true_eq]
  by_cases hdigit : '0' ≤ c ∧ c ≤ '9'
  · simp [hdigit]
  · by_cases hlower : 'a' ≤ c ∧ c ≤ 'f'
    · simp [hdigit, hlower]
    · by_cases hupper : 'A' ≤ c ∧ c ≤ 'F' <;> simp [hdigit, hlower, hupper]

theorem isHexDigit_of_isDigit {c : Char} (h : c.isDigit) : isHexDigit c := by
  rw [isHexDigit_iff]
  exact .inl (by simpa [Char.isDigit, Char.le_def] using h)

theorem toNat_lt_of_le {c top : Char} (h : c ≤ top) (htop : top.toNat < 128) : c.toNat < 128 := by
  have hle : c.toNat ≤ top.toNat := by
    simpa [Char.le_def, UInt32.le_iff_toNat_le] using h
  omega

theorem toNat_lt_of_isHexDigit {c : Char} (h : isHexDigit c) : c.toNat < 128 := by
  rcases isHexDigit_iff.mp h with hrange | hrange | hrange
  · exact toNat_lt_of_le hrange.2 (by decide)
  · exact toNat_lt_of_le hrange.2 (by decide)
  · exact toNat_lt_of_le hrange.2 (by decide)

theorem forall_hexDigit {p : Char → Prop}
    (h : ∀ n < 128, isHexDigit (Char.ofNat n) → p (Char.ofNat n)) {c : Char} (hc : isHexDigit c) :
    p c := by
  have hp := h c.toNat (toNat_lt_of_isHexDigit hc)
  rw [Char.ofNat_toNat] at hp
  exact hp hc

theorem isLowerHex_toLower {c : Char} (h : isHexDigit c) : isLowerHex c.toLower := by
  apply forall_hexDigit _ h
  decide +kernel

theorem isDigit_toLower {c : Char} (h : isHexDigit c) : c.toLower.isDigit = c.isDigit := by
  apply forall_hexDigit _ h
  decide +kernel

theorem isHexDigit_of_isLowerHex {c : Char} (h : isLowerHex c) : isHexDigit c := by
  rw [isLowerHex, Bool.or_eq_true] at h
  rcases h with hdigit | hletter
  · exact isHexDigit_of_isDigit hdigit
  · rw [isHexDigit_iff]
    exact .inr (.inl (by simpa using hletter))

theorem toLower_of_isLowerHex {c : Char} (h : isLowerHex c) : c.toLower = c := by
  have hall : isLowerHex c → c.toLower = c := by
    apply forall_hexDigit _ (isHexDigit_of_isLowerHex h)
    decide +kernel
  exact hall h

theorem hexDigits_length (width code : Nat) : (hexDigits width code).length = width := by
  induction width generalizing code with
  | zero => rfl
  | succ width ih => simp [hexDigits, ih]

theorem hexValue?_digitChar {digit : Nat} (h : digit < 16) :
    hexValue? (Nat.digitChar digit) = some digit := by
  have hall : ∀ d : Fin 16, hexValue? (Nat.digitChar d) = some d.val := by decide
  exact hall ⟨digit, h⟩

end TaskLine.Text
