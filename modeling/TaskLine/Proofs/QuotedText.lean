import Mathlib.Algebra.Group.Nat.Defs
import TaskLine.Text.Quoted

namespace TaskLine.Text

def hexNumber (digits : List Char) : Nat :=
  digits.foldl (fun value digit => value * 16 + (hexValue? digit).getD 0) 0

def readCode (width : Nat) (text : List Char) : Char × List Char :=
  (Char.ofNat (hexNumber (text.take width)), text.drop width)

def readChar : List Char → Option (Char × List Char)
  | [] => none
  | '\\' :: 't' :: rest => some ('\t', rest)
  | '\\' :: 'n' :: rest => some ('\n', rest)
  | '\\' :: 'r' :: rest => some ('\r', rest)
  | '\\' :: 'x' :: rest => some (readCode 2 rest)
  | '\\' :: 'u' :: rest => some (readCode 4 rest)
  | '\\' :: 'U' :: rest => some (readCode 8 rest)
  | '\\' :: c :: rest => some (c, rest)
  | c :: rest => some (c, rest)

theorem hexNumber_hexDigits (width code : Nat) :
    hexNumber (hexDigits width code) = code % 16 ^ width := by
  induction width generalizing code with
  | zero => simp [hexDigits, hexNumber, Nat.mod_one]
  | succ width ih =>
    have hdigit := hexValue?_digitChar (Nat.mod_lt code (by decide : 0 < 16))
    rw [hexDigits, hexNumber, List.foldl_append, ← hexNumber, ih, List.foldl_cons, List.foldl_nil,
      hdigit, Option.getD_some, Nat.pow_succ, Nat.mul_comm (16 ^ width), Nat.mod_mul]
    omega

theorem readCode_hexDigits {width : Nat} {c : Char} (h : c.toNat < 16 ^ width) (rest : List Char) :
    readCode width (hexDigits width c.toNat ++ rest) = (c, rest) := by
  have hlength := hexDigits_length width c.toNat
  rw [readCode, List.take_left' hlength, List.drop_left' hlength, hexNumber_hexDigits,
    Nat.mod_eq_of_lt h, Char.ofNat_toNat]

theorem readChar_of_ne {c : Char} (h : c ≠ '\\') (rest : List Char) :
    readChar (c :: rest) = some (c, rest) := by
  unfold readChar
  split <;> simp_all

section Mark

variable {mark : Char} (hmark : mark = singleQuote ∨ mark = doubleQuote)
include hmark

theorem mark_ne_backslash : mark ≠ '\\' := by
  rcases hmark with rfl | rfl <;> decide

theorem readChar_escapeChar (c : Char) (rest : List Char) :
    readChar (escapeChar mark c ++ rest) = some (c, rest) := by
  unfold escapeChar
  split
  · next hself =>
    rcases hself with rfl | rfl
    · rcases hmark with rfl | rfl <;> rfl
    · rfl
  · next hself =>
    split
    · next htab => rw [htab]; rfl
    split
    · next hnewline => rw [hnewline]; rfl
    split
    · next hreturn => rw [hreturn]; rfl
    split
    · exact readChar_of_ne (fun hbackslash => hself (.inr hbackslash)) rest
    -- The code point has as many digits as it needs, so they give it back.
    split
    · next hcode => exact congrArg some (readCode_hexDigits hcode rest)
    split
    · next hcode => exact congrArg some (readCode_hexDigits hcode rest)
    · have hcode : c.toNat < 16 ^ 8 := UInt32.toNat_lt c.val
      exact congrArg some (readCode_hexDigits hcode rest)

theorem escapeChar_append_inj {a b : Char} {x y : List Char}
    (h : escapeChar mark a ++ x = escapeChar mark b ++ y) : a = b ∧ x = y := by
  have hread := congrArg readChar h
  rw [readChar_escapeChar hmark, readChar_escapeChar hmark, Option.some.injEq,
    Prod.mk.injEq] at hread
  exact hread

theorem escaped_ne_mark (c : Char) (x y : List Char) : escapeChar mark c ++ x ≠ mark :: y := by
  intro h
  have hne := mark_ne_backslash hmark
  have hread := congrArg readChar h
  rw [readChar_escapeChar hmark, readChar_of_ne hne, Option.some.injEq, Prod.mk.injEq] at hread
  rw [hread.1, escapeChar, if_pos (.inl rfl), List.cons_append, List.cons.injEq] at h
  exact hne h.1.symm

theorem escaped_append_inj {a b x y : List Char}
    (h : a.flatMap (escapeChar mark) ++ mark :: x = b.flatMap (escapeChar mark) ++ mark :: y) :
    a = b ∧ x = y := by
  induction a generalizing b with
  | nil =>
    cases b with
    | nil => simpa using h
    | cons d b =>
      rw [List.flatMap_cons, List.append_assoc] at h
      exact absurd h.symm (escaped_ne_mark hmark d _ x)
  | cons c a ih =>
    rw [List.flatMap_cons, List.append_assoc] at h
    cases b with
    | nil => exact absurd h (escaped_ne_mark hmark c _ y)
    | cons d b =>
      rw [List.flatMap_cons, List.append_assoc] at h
      obtain ⟨rfl, hrest⟩ := escapeChar_append_inj hmark h
      obtain ⟨rfl, hend⟩ := ih hrest
      exact ⟨rfl, hend⟩

end Mark

theorem quoteMark_cases (text : List Char) :
    quoteMark text = singleQuote ∨ quoteMark text = doubleQuote := by
  unfold quoteMark
  split
  · exact .inr rfl
  · exact .inl rfl

theorem quoteChars_append_inj {a b x y : List Char} (h : quoteChars a ++ x = quoteChars b ++ y) :
    a = b ∧ x = y := by
  simp only [quoteChars, List.cons_append, List.append_assoc, List.nil_append,
    List.cons.injEq] at h
  obtain ⟨hmark, hescaped⟩ := h
  rw [← hmark] at hescaped
  exact escaped_append_inj (quoteMark_cases a) hescaped

theorem quote_append_inj {a b : String} {x y : List Char}
    (h : (quote a).toList ++ x = (quote b).toList ++ y) : a = b ∧ x = y := by
  rw [quote, quote, String.toList_ofList, String.toList_ofList] at h
  obtain ⟨htext, hrest⟩ := quoteChars_append_inj h
  exact ⟨String.toList_inj.mp htext, hrest⟩

def quotedRest (texts : List String) : List Char :=
  texts.flatMap (fun text => ',' :: ' ' :: (quote text).toList) ++ [')']

def quotedTail : List String → List Char
  | [] => [',', ')']
  | text :: texts => quotedRest (text :: texts)

def quotedItems : List String → List Char
  | [] => [')']
  | text :: texts => (quote text).toList ++ quotedTail texts

theorem quotedRest_cons (text : String) (texts : List String) :
    quotedRest (text :: texts) = ',' :: ' ' :: ((quote text).toList ++ quotedRest texts) := by
  simp [quotedRest]

theorem toList_intercalate_quote (text : String) (texts : List String) :
    (", ".intercalate ((text :: texts).map quote)).toList ++ [')'] =
      (quote text).toList ++ quotedRest texts := by
  induction texts generalizing text with
  | nil => simp [quotedRest]
  | cons next texts ih =>
    rw [quotedRest_cons, ← ih next, List.map_cons, List.map_cons, String.intercalate_cons_cons,
      ← List.map_cons, String.toList_append, String.toList_append]
    simp

theorem toList_quoteList (texts : List String) :
    (quoteList texts).toList = '(' :: quotedItems texts := by
  match texts with
  | [] => rfl
  | [text] => simp [quoteList, quotedItems, quotedTail]
  | text :: next :: texts =>
    rw [quotedItems, quotedTail, ← toList_intercalate_quote]
    simp [quoteList]

theorem quotedRest_injective {texts others : List String} (h : quotedRest texts = quotedRest others) :
    texts = others := by
  induction texts generalizing others with
  | nil =>
    cases others with
    | nil => rfl
    | cons other others => simp [quotedRest] at h
  | cons text texts ih =>
    cases others with
    | nil => simp [quotedRest] at h
    | cons other others =>
      rw [quotedRest_cons, quotedRest_cons, List.cons.injEq, List.cons.injEq] at h
      obtain ⟨rfl, hrest⟩ := quote_append_inj h.2.2
      rw [ih hrest]

theorem quotedTail_injective {texts others : List String} (h : quotedTail texts = quotedTail others) :
    texts = others := by
  cases texts with
  | nil =>
    cases others with
    | nil => rfl
    | cons other others => simp [quotedTail, quotedRest_cons] at h
  | cons text texts =>
    cases others with
    | nil => simp [quotedTail, quotedRest_cons] at h
    | cons other others => exact quotedRest_injective h

theorem parenthesis_ne_quote (text : String) (rest : List Char) :
    [')'] ≠ (quote text).toList ++ rest := by
  rw [quote, String.toList_ofList, quoteChars, List.cons_append, List.cons_append, Ne,
    List.cons.injEq, not_and]
  intro hmark
  rcases quoteMark_cases text.toList with hcase | hcase
  · exact absurd (hmark.trans hcase) (by decide)
  · exact absurd (hmark.trans hcase) (by decide)

theorem quotedItems_injective {texts others : List String}
    (h : quotedItems texts = quotedItems others) : texts = others := by
  cases texts with
  | nil =>
    cases others with
    | nil => rfl
    | cons other others =>
      rw [quotedItems, quotedItems] at h
      exact absurd h (parenthesis_ne_quote other _)
  | cons text texts =>
    cases others with
    | nil =>
      rw [quotedItems, quotedItems] at h
      exact absurd h.symm (parenthesis_ne_quote text _)
    | cons other others =>
      obtain ⟨rfl, htail⟩ := quote_append_inj h
      rw [quotedTail_injective htail]

theorem quoteList_injective {texts others : List String} (h : quoteList texts = quoteList others) :
    texts = others := by
  have hlist := congrArg String.toList h
  rw [toList_quoteList, toList_quoteList, List.cons.injEq] at hlist
  exact quotedItems_injective hlist.2

def lineBreaks : List Char := ['\n', '\r', '\x85', '\u2028', '\u2029']

def OnOneLine (text : List Char) : Prop := ∀ c ∈ lineBreaks, c ∉ text

instance : DecidablePred OnOneLine := fun text => List.decidableBAll (· ∉ text) lineBreaks

theorem onOneLine_append {front back : List Char} :
    OnOneLine (front ++ back) ↔ OnOneLine front ∧ OnOneLine back := by
  simp only [OnOneLine, List.mem_append, not_or, forall_and]

theorem onOneLine_singleton {c : Char} : OnOneLine [c] ↔ c ∉ lineBreaks := by
  constructor
  · intro h hbreak
    exact h c hbreak (List.mem_singleton.mpr rfl)
  · intro hbreak d hd hmem
    rw [List.mem_singleton] at hmem
    exact hbreak (hmem ▸ hd)

theorem onOneLine_flatMap {α : Type} {items : List α} {write : α → List Char}
    (h : ∀ item ∈ items, OnOneLine (write item)) : OnOneLine (items.flatMap write) := by
  intro c hbreak hmem
  obtain ⟨item, hitem, hc⟩ := List.mem_flatMap.mp hmem
  exact h item hitem c hbreak hc

theorem onOneLine_hexDigits (width code : Nat) : OnOneLine (hexDigits width code) := by
  induction width generalizing code with
  | zero => exact fun c _ => List.not_mem_nil
  | succ width ih =>
    have hall : ∀ digit : Fin 16, OnOneLine [Nat.digitChar digit] := by decide
    exact onOneLine_append.mpr ⟨ih _, hall ⟨code % 16, Nat.mod_lt code (by decide)⟩⟩

theorem not_lineBreak_of_isPrintable {c : Char} (h : isPrintable c) : c ∉ lineBreaks := by
  intro hbreak
  have hall : lineBreaks.all fun c => !isPrintable c := by decide +kernel
  simpa [h] using List.all_eq_true.mp hall c hbreak

theorem onOneLine_escapeChar {mark : Char} (hmark : mark = singleQuote ∨ mark = doubleQuote)
    (c : Char) : OnOneLine (escapeChar mark c) := by
  have hescape (letter : Char) (width : Nat) (hletter : OnOneLine ['\\', letter]) :
      OnOneLine ('\\' :: letter :: hexDigits width c.toNat) :=
    onOneLine_append.mpr ⟨hletter, onOneLine_hexDigits width c.toNat⟩
  unfold escapeChar
  split
  · next hself =>
    rcases hself with rfl | rfl
    · rcases hmark with rfl | rfl <;> decide
    · decide
  split
  · decide
  split
  · decide
  split
  · decide
  split
  · next hprintable => exact onOneLine_singleton.mpr (not_lineBreak_of_isPrintable hprintable)
  split
  · exact hescape 'x' 2 (by decide)
  split
  · exact hescape 'u' 4 (by decide)
  · exact hescape 'U' 8 (by decide)

theorem onOneLine_quote (text : String) : OnOneLine (quote text).toList := by
  have hmark := quoteMark_cases text.toList
  have hends : OnOneLine [quoteMark text.toList] := by
    rcases hmark with hcase | hcase <;> rw [hcase] <;> decide
  rw [quote, String.toList_ofList, quoteChars, ← List.singleton_append, onOneLine_append,
    onOneLine_append]
  exact ⟨⟨hends, onOneLine_flatMap fun c _ => onOneLine_escapeChar hmark c⟩, hends⟩

theorem onOneLine_quotedRest (texts : List String) : OnOneLine (quotedRest texts) := by
  have hcomma : OnOneLine [',', ' '] := by decide
  have hclose : OnOneLine [')'] := by decide
  rw [quotedRest, onOneLine_append]
  refine ⟨onOneLine_flatMap fun text _ => ?_, hclose⟩
  exact onOneLine_append.mpr ⟨hcomma, onOneLine_quote text⟩

theorem onOneLine_quotedTail (texts : List String) : OnOneLine (quotedTail texts) := by
  cases texts with
  | nil => decide
  | cons text texts => exact onOneLine_quotedRest (text :: texts)

theorem onOneLine_quoteList (texts : List String) : OnOneLine (quoteList texts).toList := by
  have hopen : OnOneLine ['('] := by decide
  rw [toList_quoteList, ← List.singleton_append, onOneLine_append]
  refine ⟨hopen, ?_⟩
  cases texts with
  | nil => decide
  | cons text texts =>
    exact onOneLine_append.mpr ⟨onOneLine_quote text, onOneLine_quotedTail texts⟩

theorem onOneLine_toString_append {front back : String} :
    OnOneLine (front ++ back).toList ↔ OnOneLine front.toList ∧ OnOneLine back.toList := by
  rw [String.toList_append, onOneLine_append]

theorem onOneLine_repr (number : Nat) : OnOneLine number.repr.toList := by
  intro c hbreak hc
  rw [Nat.repr, String.toList_ofList] at hc
  have hall : ∀ c ∈ lineBreaks, c.isDigit = false := by simp [lineBreaks]
  have hdigit := Nat.isDigit_of_mem_toDigits (by decide) (by decide) hc
  rw [hall c hbreak] at hdigit
  exact Bool.noConfusion hdigit

end TaskLine.Text
