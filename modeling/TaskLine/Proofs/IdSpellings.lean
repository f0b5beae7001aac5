import TaskLine.Proofs.WrittenIds

namespace TaskLine

namespace Text

def withoutZeros (text : List Char) : List Char := text.dropWhile (· == '0')

theorem length_splitOn (c : Char) (text : List Char) :
    (text.splitOn c).length = text.count c + 1 := by
  induction text with
  | nil => simp
  | cons first text ih =>
    rw [List.splitOn_cons_eq_if_modifyHead, List.count_cons]
    split <;> simp [ih]

section Digits

variable {c : Char} {text other : List Char}

theorem digitChar_of_isDigit (h : c.isDigit) : Nat.digitChar (c.toNat - '0'.toNat) = c := by
  apply Char.toNat_inj.mp
  rw [Nat.toNat_digitChar_of_lt_ten (digit_lt_ten h)]
  have hrange := Char.isDigit_iff_toNat.mp h
  have hbase : '0'.toNat = 48 := rfl
  omega

theorem digit_pos (h : c.isDigit) (hzero : c ≠ '0') : 0 < c.toNat - '0'.toNat := by
  have hrange := Char.isDigit_iff_toNat.mp h
  have hne : c.toNat ≠ '0'.toNat := fun heq => hzero (Char.toNat_inj.mp heq)
  omega

theorem toDigits_append_digits (h : text.all Char.isDigit) {number : Nat} (hnumber : 0 < number) :
    Nat.toDigits 10 number ++ text = Nat.toDigits 10 (Nat.ofDigitChars 10 text number) := by
  induction text generalizing number with
  | nil => rw [List.append_nil, Nat.ofDigitChars_nil]
  | cons c text ih =>
    rw [List.all_cons, Bool.and_eq_true] at h
    have hlonger : Nat.toDigits 10 number ++ [c] =
        Nat.toDigits 10 (10 * number + (c.toNat - '0'.toNat)) := by
      rw [← Nat.toDigits_append_toDigits (by decide) hnumber (digit_lt_ten h.1),
        Nat.toDigits_of_lt_base (digit_lt_ten h.1), digitChar_of_isDigit h.1]
    rw [Nat.ofDigitChars_cons, ← ih h.2 (by omega), ← hlonger, List.append_assoc]
    rfl

theorem withoutZeros_eq_toDigits (h : text.all Char.isDigit)
    (hpositive : 0 < Nat.ofDigitChars 10 text 0) :
    withoutZeros text = Nat.toDigits 10 (Nat.ofDigitChars 10 text 0) := by
  induction text with
  | nil => exact absurd hpositive (by decide)
  | cons c text ih =>
    rw [List.all_cons, Bool.and_eq_true] at h
    by_cases hzero : c = '0'
    · subst hzero
      exact ih h.2 hpositive
    · have hvalue := digit_pos h.1 hzero
      have hkept : withoutZeros (c :: text) = c :: text :=
        List.dropWhile_cons_of_neg (by simpa using hzero)
      rw [hkept, Nat.ofDigitChars_cons, Nat.mul_zero, Nat.zero_add,
        ← toDigits_append_digits h.2 hvalue, Nat.toDigits_of_lt_base (digit_lt_ten h.1),
        digitChar_of_isDigit h.1]
      rfl

theorem ofDigitChars_eq_iff (h : text.all Char.isDigit) (hother : other.all Char.isDigit)
    (hpositive : 0 < Nat.ofDigitChars 10 text 0)
    (hpositive' : 0 < Nat.ofDigitChars 10 other 0) :
    Nat.ofDigitChars 10 text 0 = Nat.ofDigitChars 10 other 0 ↔
      withoutZeros text = withoutZeros other := by
  rw [withoutZeros_eq_toDigits h hpositive, withoutZeros_eq_toDigits hother hpositive']
  constructor
  · intro hnumber
    rw [hnumber]
  · intro hdigits
    have hnumber := congrArg (fun digits => Nat.ofDigitChars 10 digits 0) hdigits
    simpa only [Nat.ofDigitChars_ten_toDigits] using hnumber

end Digits

end Text

namespace TaskId

open Text

def number (text : String) : Nat := Nat.ofDigitChars 10 text.toList 0

/-- Two numerals of one number, or two texts that are no numerals and differ in case only. -/
def SpelledAlike (text other : String) : Prop :=
  (IsDigits text ∧ IsDigits other ∧ number text = number other) ∨
  (¬ IsDigits text ∧ ¬ IsDigits other ∧
    text.toList.map Char.toLower = other.toList.map Char.toLower)

theorem readEach_append (front back : List (List Char)) :
    readEach (front ++ back) =
      (readEach front).bind fun ids => (readEach back).map (ids ++ ·) := by
  induction front with
  | nil =>
    rw [List.nil_append, readEach, Reading.bind_found]
    cases readEach back <;> rfl
  | cons item front ih =>
    rw [List.cons_append, readEach, readEach, ih]
    cases read item with
    | found id => cases readEach front <;> cases readEach back <;> rfl
    | declined => rfl
    | overlong digits => rfl

theorem readList_append_comma (front back : String) :
    readList (front ++ "," ++ back) =
      (readList front).bind fun ids => (readList back).map (ids ++ ·) := by
  have hsplit : (front ++ "," ++ back).toList.splitOn ',' =
      front.toList.splitOn ',' ++ back.toList.splitOn ',' := by
    rw [String.toList_append, String.toList_append, List.append_assoc]
    exact List.splitOn_append_cons_self _ _
  rw [readList, hsplit, readEach_append]
  rfl

theorem length_of_readList {text : String} {ids : List TaskId} (h : readList text = .found ids) :
    ids.length = text.toList.count ',' + 1 := by
  have hlength := congrArg List.length (readList_eq_found_iff.mp h)
  rw [List.length_map, List.length_map, length_splitOn] at hlength
  exact hlength.symm

theorem listParser_cons (text : String) (rest : Arguments) :
    listParser (text :: rest) = (readList text).map fun ids => (ids, rest) := rfl

theorem listParser_append_comma (front back : String) (rest : Arguments) :
    listParser ((front ++ "," ++ back) :: rest) =
      (listParser (front :: rest)).bind fun (ids, _) =>
        (listParser (back :: rest)).map fun (others, left) => (ids ++ others, left) := by
  simp only [listParser_cons, readList_append_comma]
  cases readList front with
  | found ids => cases readList back <;> rfl
  | declined => rfl
  | overlong digits => rfl

theorem exists_text_of_listParser {args left : Arguments} {ids : List TaskId}
    (h : listParser args = .found (ids, left)) :
    ∃ text, args = text :: left ∧ readList text = .found ids := by
  cases args with
  | nil => simp [listParser] at h
  | cons text args =>
    rw [listParser_cons] at h
    cases hread : readList text with
    | found found =>
      rw [hread, Reading.map_found, Reading.found.injEq, Prod.mk.injEq] at h
      obtain ⟨rfl, rfl⟩ := h
      exact ⟨text, rfl, hread⟩
    | declined => simp [hread] at h
    | overlong digits => simp [hread] at h

section Spellings

variable {text other : String} {id id' : TaskId}

theorem isNumeral_iff_isDigits (h : parse text = .found id) :
    isNumeral text.toList ↔ IsDigits text := by
  rw [isNumeral_iff, and_iff_right]
  · rfl
  · intro hnil
    have hnothing : read [] = .declined := by decide
    rw [parse, hnil, hnothing] at h
    cases h

theorem found_cases (h : parse text = .found id) :
    (IsDigits text ∧ ∃ hpositive : 0 < number text, id = workingSet (number text) hpositive) ∨
      (¬ IsDigits text ∧ id = partialUuid (String.ofList (text.toList.map Char.toLower))) := by
  rw [← isNumeral_iff_isDigits h]
  rcases read_eq_found_iff.mp h with ⟨hnumeral, -, hpositive, hid⟩ | ⟨hnumeral, -, hid⟩
  · exact .inl ⟨hnumeral, hpositive, hid⟩
  · exact .inr ⟨hnumeral, hid⟩

theorem eq_iff_spelledAlike (h : parse text = .found id) (h' : parse other = .found id') :
    id = id' ↔ SpelledAlike text other := by
  rcases found_cases h with ⟨hdigits, hpositive, rfl⟩ | ⟨hdigits, rfl⟩
  · rcases found_cases h' with ⟨hdigits', hpositive', rfl⟩ | ⟨hdigits', rfl⟩
    · simp [SpelledAlike, hdigits, hdigits']
    · simp [SpelledAlike, hdigits, hdigits']
  · rcases found_cases h' with ⟨hdigits', hpositive', rfl⟩ | ⟨hdigits', rfl⟩
    · simp [SpelledAlike, hdigits, hdigits']
    · simp [SpelledAlike, hdigits, hdigits', String.ofList_inj]

theorem number_eq_iff (h : parse text = .found id) (h' : parse other = .found id')
    (hdigits : IsDigits text) (hdigits' : IsDigits other) :
    number text = number other ↔ withoutZeros text.toList = withoutZeros other.toList := by
  rcases found_cases h with ⟨-, hpositive, -⟩ | ⟨hnot, -⟩
  · rcases found_cases h' with ⟨-, hpositive', -⟩ | ⟨hnot, -⟩
    · exact ofDigitChars_eq_iff hdigits hdigits' hpositive hpositive'
    · exact absurd hdigits' hnot
  · exact absurd hdigits hnot

end Spellings

theorem listParser_splits_at_commas :
    (∀ front back rest,
      listParser ((front ++ "," ++ back) :: rest) =
        (listParser (front :: rest)).bind fun (ids, _) =>
          (listParser (back :: rest)).map fun (others, left) => (ids ++ others, left)) ∧
    (∀ args ids left, listParser args = .found (ids, left) →
      ∃ text, args = text :: left ∧ ids.length = text.toList.count ',' + 1) ∧
    ∀ text other id id', parse text = .found id → parse other = .found id' →
      (id = id' ↔ SpelledAlike text other) ∧
      (IsDigits text → IsDigits other → (number text = number other ↔
        withoutZeros text.toList = withoutZeros other.toList)) := by
  refine ⟨listParser_append_comma, ?_, ?_⟩
  · intro args ids left h
    obtain ⟨text, rfl, hread⟩ := exists_text_of_listParser h
    exact ⟨text, rfl, length_of_readList hread⟩
  · intro text other id id' h h'
    exact ⟨eq_iff_spelledAlike h h', number_eq_iff h h'⟩

theorem listParser_splits_at_commas_mixed :
    let seven := workingSet 7 (by decide)
    let uuid := partialUuid "abcd1234-ef"
    let long := String.ofList (List.replicate 4301 '1')
    parse "007" = .found seven ∧ parse "7" = .found seven ∧ SpelledAlike "007" "7" ∧
      withoutZeros "007".toList = withoutZeros "7".toList ∧
      listParser ["ABCD1234-ef,7" ++ "," ++ "007", "list"] =
        .found ([uuid, seven, seven], ["list"]) ∧
      (∃ text, ["ABCD1234-ef,7" ++ "," ++ "007", "list"] = [text, "list"] ∧
        [uuid, seven, seven].length = text.toList.count ',' + 1) ∧
      listParser ["7,x" ++ "," ++ long] = .declined := by
  intro seven uuid long
  obtain ⟨hcomma, hfound, halike⟩ := listParser_splits_at_commas
  have hzeros : parse "007" = .found seven := by decide +kernel
  have hseven : parse "7" = .found seven := by decide +kernel
  have hfront : listParser ["ABCD1234-ef,7", "list"] = .found ([uuid, seven], ["list"]) := by
    decide +kernel
  have hback : listParser ["007", "list"] = .found ([seven], ["list"]) := by decide +kernel
  have hjoined : listParser ["ABCD1234-ef,7" ++ "," ++ "007", "list"] =
      .found ([uuid, seven, seven], ["list"]) := by
    rw [hcomma, hfront, Reading.bind_found, hback]
    rfl
  have hbad : listParser ["7,x"] = .declined := by decide +kernel
  obtain ⟨hsame, hdigits⟩ := halike _ _ _ _ hzeros hseven
  have hspelled : SpelledAlike "007" "7" := hsame.mp rfl
  refine ⟨hzeros, hseven, hspelled, ?_, hjoined, hfound _ _ _ hjoined, ?_⟩
  · exact (hdigits (by decide +kernel) (by decide +kernel)).mp (by decide +kernel)
  · rw [hcomma, hbad, Reading.bind_declined]

end TaskId

end TaskLine
