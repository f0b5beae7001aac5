import TaskLine.Text.Margin
import Mathlib.Data.List.DropRight

/-!
The normal form of a text. It is its own normal form, and it does not depend on how far the lines of
the text were indented together.

Stripping looks at more characters than the margin does, so it can take away the lines that the
margin was computed from. What carries over to the stripped text is that no line only indents, and
there its first line has no indentation, so that its margin is empty.
-/

namespace TaskLine.Text

variable {text line : List Char}

theorem isIndent_iff {c : Char} : isIndent c ↔ c = ' ' ∨ c = '\t' := by simp [isIndent]

theorem all_isIndent_iff : text.all isIndent ↔ ∀ c ∈ text, c = ' ' ∨ c = '\t' := by
  simp only [List.all_eq_true, isIndent_iff]

theorem isBlank_of_isIndent {c : Char} (h : isIndent c) : isBlank c := by
  rcases isIndent_iff.mp h with rfl | rfl <;> decide

/-- How a line stands in a text: without a newline, and up to one on both sides or to the text's end. -/
structure Framed (before line after : List Char) : Prop where
  unbroken : '\n' ∉ line
  opens : before = [] ∨ ∃ front, before = front ++ ['\n']
  closes : after = [] ∨ ∃ back, after = '\n' :: back

theorem Framed.extend {before after : List Char} (h : Framed before line after)
    (hbefore : before ≠ []) (hafter : after ≠ []) (front back : List Char) :
    Framed (front ++ before) line (after ++ back) := by
  refine ⟨h.unbroken, .inr ?_, .inr ?_⟩
  · obtain ⟨rest, rfl⟩ := h.opens.resolve_left hbefore
    exact ⟨front ++ rest, by simp⟩
  · obtain ⟨rest, rfl⟩ := h.closes.resolve_left hafter
    exact ⟨rest ++ back, by simp⟩

theorem framed_of_mem_lines {text line : List Char} (h : line ∈ text.splitOn '\n') :
    ∃ before after, text = before ++ line ++ after ∧ Framed before line after := by
  by_cases hbreak : '\n' ∈ text
  · obtain ⟨first, rest, rfl, hfirst⟩ := List.eq_append_cons_of_mem hbreak
    rw [List.splitOn_append_cons_self, List.splitOn_eq_singleton hfirst, List.singleton_append,
      List.mem_cons] at h
    rcases h with rfl | h
    · exact ⟨[], '\n' :: rest, rfl, hfirst, .inl rfl, .inr ⟨rest, rfl⟩⟩
    · obtain ⟨before, after, hrest, hframed⟩ := framed_of_mem_lines h
      refine ⟨first ++ '\n' :: before, after, by simp [hrest], hframed.unbroken, .inr ?_,
        hframed.closes⟩
      rcases hframed.opens with rfl | ⟨front, rfl⟩
      · exact ⟨first, rfl⟩
      · exact ⟨first ++ '\n' :: front, by simp⟩
  · rw [List.splitOn_eq_singleton hbreak, List.mem_singleton] at h
    exact ⟨[], [], by simp [h], h ▸ hbreak, .inl rfl, .inl rfl⟩
termination_by text.length

theorem mem_lines_of_framed {before after : List Char} (h : Framed before line after) :
    line ∈ (before ++ line ++ after).splitOn '\n' := by
  have hline : line ∈ (line ++ after).splitOn '\n' := by
    rcases h.closes with rfl | ⟨back, rfl⟩
    · simp [List.splitOn_eq_singleton h.unbroken]
    · simp [List.splitOn_append_cons_self, List.splitOn_eq_singleton h.unbroken]
  rw [List.append_assoc]
  rcases h.opens with rfl | ⟨front, rfl⟩
  · exact hline
  · rw [List.append_assoc, List.singleton_append, List.splitOn_append_cons_self]
    exact List.mem_append_right _ hline

structure Trimmed (text : List Char) : Prop where
  first : ∀ c ∈ text.head?, ¬ isBlank c
  last : ∀ c ∈ text.getLast?, ¬ isBlank c

theorem strip_eq (text : List Char) :
    strip text = (text.dropWhile isBlank).rdropWhile isBlank := rfl

theorem strip_isInfix (text : List Char) : strip text <:+: text :=
  (List.rdropWhile_prefix isBlank _).isInfix.trans (List.dropWhile_suffix isBlank).isInfix

theorem trimmed_strip (text : List Char) : Trimmed (strip text) := by
  rw [strip_eq]
  constructor
  · intro c hc
    have hhead : c ∈ (text.dropWhile isBlank).head? := by
      obtain ⟨rest, hrest⟩ := List.rdropWhile_prefix isBlank (text.dropWhile isBlank)
      rw [← hrest]
      exact List.mem_head?_append_of_mem_head? hc
    have hnot := List.head?_dropWhile_not isBlank text
    rw [Option.mem_def.mp hhead] at hnot
    simp [hnot]
  · intro c hc
    obtain ⟨hne, rfl⟩ := List.mem_getLast?_eq_getLast hc
    exact List.rdropWhile_last_not isBlank _ hne

theorem Trimmed.strip_eq_self (h : Trimmed text) : strip text = text := by
  have hfirst : text.dropWhile isBlank = text := by
    cases text with
    | nil => rfl
    | cons c rest => exact List.dropWhile_cons_of_neg (h.first c (by simp))
  rw [strip_eq, hfirst, List.rdropWhile_eq_self_iff]
  intro hne
  exact h.last _ (List.getLast_mem_getLast? hne)

def Flush (text : List Char) : Prop :=
  ∀ line ∈ text.splitOn '\n', line.all isIndent → line = []

theorem Trimmed.flush_of_part {whole : List Char} (h : Trimmed text) (hwhole : Flush whole)
    (hpart : text <:+: whole) : Flush text := by
  intro line hline hindent
  by_contra hne
  have hblank : ∀ c ∈ line, isBlank c := fun c hc =>
    isBlank_of_isIndent (List.all_eq_true.mp hindent c hc)
  obtain ⟨before, after, rfl, hframed⟩ := framed_of_mem_lines hline
  -- At either end of the text the line would begin or end it with a blank.
  have hbefore : before ≠ [] := by
    rintro rfl
    exact h.first (line.head hne) (by simp [List.head?_append, List.head?_eq_some_head hne])
      (hblank _ (List.head_mem hne))
  have hafter : after ≠ [] := by
    rintro rfl
    exact h.last (line.getLast hne)
      (by simp [List.getLast?_append, List.getLast?_eq_some_getLast hne])
      (hblank _ (List.getLast_mem hne))
  obtain ⟨front, back, rfl⟩ := hpart
  refine hne (hwhole line ?_ hindent)
  simpa using mem_lines_of_framed (hframed.extend hbefore hafter front back)

theorem commonStart_isPrefix (a b : List Char) :
    commonStart a b <+: a ∧ commonStart a b <+: b := by
  induction a, b using commonStart.induct with
  | case1 c as bs ih => simpa [commonStart] using ih
  | case2 c as d bs hne => simp [commonStart, hne]
  | case3 a b hnot => simp [commonStart]

theorem commonStarts_cons {texts : List (List Char)} (hne : texts ≠ []) :
    commonStarts (text :: texts) = commonStart text (commonStarts texts) := by
  cases texts with
  | nil => exact absurd rfl hne
  | cons next texts => rfl

theorem commonStarts_isPrefix {texts : List (List Char)} (h : text ∈ texts) :
    commonStarts texts <+: text := by
  induction texts with
  | nil => exact absurd h List.not_mem_nil
  | cons first rest ih =>
    by_cases hrest : rest = []
    · rw [hrest, List.mem_singleton] at h
      rw [hrest, h]
      exact List.prefix_refl first
    · rw [commonStarts_cons hrest]
      rcases List.mem_cons.mp h with rfl | h
      · exact (commonStart_isPrefix _ _).1
      · exact (commonStart_isPrefix _ _).2.trans (ih h)

def indentations (lines : List (List Char)) : List (List Char) :=
  (lines.filter fun line => !line.all isIndent).map (·.takeWhile isIndent)

theorem margin_eq (lines : List (List Char)) : margin lines = commonStarts (indentations lines) :=
  rfl

theorem margin_isPrefix {lines : List (List Char)} (hline : line ∈ lines)
    (hindent : ¬ line.all isIndent) : margin lines <+: line.takeWhile isIndent := by
  apply commonStarts_isPrefix
  exact List.mem_map_of_mem (List.mem_filter.mpr ⟨hline, by simpa using hindent⟩)

theorem Trimmed.margin_eq_nil (h : Trimmed text) : margin (text.splitOn '\n') = [] := by
  cases text with
  | nil => rfl
  | cons c rest =>
    have hblank : ¬ isBlank c := h.first c (by simp)
    have hnewline : c ≠ '\n' := by
      rintro rfl
      exact hblank (by decide)
    have hindent : ¬ isIndent c := fun hc => hblank (isBlank_of_isIndent hc)
    obtain ⟨first, others, hrest⟩ := List.exists_cons_of_ne_nil (List.splitOn_ne_nil '\n' rest)
    have hlines : (c :: rest).splitOn '\n' = (c :: first) :: others := by
      rw [List.splitOn_cons_eq_if_modifyHead, if_neg (by simpa using hnewline), hrest,
        List.modifyHead_cons]
    have hline : c :: first ∈ (c :: rest).splitOn '\n' := by simp [hlines]
    simpa [hindent] using margin_isPrefix hline (by simp [hindent])

theorem newline_not_mem (h : line ∈ text.splitOn '\n') : '\n' ∉ line := by
  obtain ⟨before, after, -, hframed⟩ := framed_of_mem_lines h
  exact hframed.unbroken

theorem lines_map {change : List Char → List Char}
    (hchange : ∀ line, '\n' ∉ line → '\n' ∉ change line) (text : List Char) :
    (['\n'].intercalate ((text.splitOn '\n').map change)).splitOn '\n' =
      (text.splitOn '\n').map change := by
  apply List.splitOn_intercalate
  · intro changed hmem
    obtain ⟨line, hline, rfl⟩ := List.mem_map.mp hmem
    exact hchange line (newline_not_mem hline)
  · simp [List.splitOn_ne_nil]

theorem lines_dedent (text : List Char) :
    (dedent text).splitOn '\n' = dedentLines (text.splitOn '\n') := by
  apply lines_map
  intro line hline
  rw [dedentLine]
  split
  · exact List.not_mem_nil
  · exact fun hbreak => hline (List.mem_of_mem_drop hbreak)

theorem all_isIndent_of_drop {width : Nat} (hwidth : width ≤ (line.takeWhile isIndent).length)
    (h : (line.drop width).all isIndent) : line.all isIndent := by
  have hsplit := List.takeWhile_append_dropWhile (p := isIndent) (l := line)
  rw [← hsplit, List.drop_append_of_le_length hwidth, List.all_append, Bool.and_eq_true] at h
  rw [← hsplit, List.all_append, h.2, Bool.and_true, List.all_takeWhile]

theorem flush_dedent (text : List Char) : Flush (dedent text) := by
  intro dedented hmem hdedented
  rw [lines_dedent] at hmem
  obtain ⟨line, hline, rfl⟩ := List.mem_map.mp hmem
  by_cases hindent : line.all isIndent
  · rw [dedentLine, if_pos hindent]
  · rw [dedentLine, if_neg hindent] at hdedented
    have hwidth := (margin_isPrefix hline hindent).length_le
    exact absurd (all_isIndent_of_drop hwidth hdedented) hindent

theorem dedent_eq_self (hflush : Flush text) (hmargin : margin (text.splitOn '\n') = []) :
    dedent text = text := by
  have hline : ∀ line ∈ text.splitOn '\n', dedentLine 0 line = id line := by
    intro line hline
    rw [dedentLine]
    split
    · exact (hflush line hline ‹_›).symm
    · exact List.drop_zero
  rw [dedent, dedentLines, hmargin, List.length_nil, List.map_congr_left hline, List.map_id,
    List.intercalate_splitOn]

theorem normal_idem (text : List Char) : normal (normal text) = normal text := by
  have htrimmed : Trimmed (normal text) := trimmed_strip (dedent text)
  have hflush : Flush (normal text) :=
    htrimmed.flush_of_part (flush_dedent text) (strip_isInfix (dedent text))
  conv_lhs => rw [normal, dedent_eq_self hflush htrimmed.margin_eq_nil, htrimmed.strip_eq_self]

def indentLine (start line : List Char) : List Char :=
  if line.all isIndent then line else start ++ line

def indent (start text : List Char) : List Char :=
  ['\n'].intercalate ((text.splitOn '\n').map (indentLine start))

variable {start : List Char}

theorem commonStart_append (start a b : List Char) :
    commonStart (start ++ a) (start ++ b) = start ++ commonStart a b := by
  induction start with
  | nil => rfl
  | cons c start ih => simp [commonStart, ih]

theorem commonStarts_map_append {texts : List (List Char)} (hne : texts ≠ []) :
    commonStarts (texts.map (start ++ ·)) = start ++ commonStarts texts := by
  induction texts with
  | nil => exact absurd rfl hne
  | cons first rest ih =>
    by_cases hrest : rest = []
    · rw [hrest]
      rfl
    · rw [List.map_cons, commonStarts_cons (by simpa using hrest), ih hrest, commonStart_append,
        commonStarts_cons hrest]

theorem all_isIndent_indentLine (hstart : start.all isIndent) (line : List Char) :
    (indentLine start line).all isIndent = line.all isIndent := by
  rw [indentLine]
  split
  · rfl
  · rw [List.all_append, hstart, Bool.true_and]

theorem indentations_map_indentLine (hstart : start.all isIndent) (lines : List (List Char)) :
    indentations (lines.map (indentLine start)) = (indentations lines).map (start ++ ·) := by
  rw [indentations, indentations, List.filter_map, List.map_map, List.map_map]
  simp only [Function.comp_def, all_isIndent_indentLine hstart]
  apply List.map_congr_left
  intro line hline
  have hindent : ¬ line.all isIndent := by simpa using List.of_mem_filter hline
  rw [indentLine, if_neg hindent, List.takeWhile_append_of_pos (List.all_eq_true.mp hstart)]

theorem margin_map_indentLine (hstart : start.all isIndent) {lines : List (List Char)}
    (hline : line ∈ lines) (hindent : ¬ line.all isIndent) :
    margin (lines.map (indentLine start)) = start ++ margin lines := by
  have hne : indentations lines ≠ [] :=
    List.ne_nil_of_mem (List.mem_map_of_mem (List.mem_filter.mpr ⟨hline, by simpa using hindent⟩))
  rw [margin_eq, indentations_map_indentLine hstart, commonStarts_map_append hne, margin_eq]

theorem dedentLines_map_indentLine (hstart : start.all isIndent) (lines : List (List Char)) :
    dedentLines (lines.map (indentLine start)) = dedentLines lines := by
  rw [dedentLines, dedentLines, List.map_map]
  apply List.map_congr_left
  intro line hline
  rw [Function.comp_apply, dedentLine, dedentLine, all_isIndent_indentLine hstart]
  by_cases hindent : line.all isIndent
  · rw [if_pos hindent, if_pos hindent]
  · rw [if_neg hindent, if_neg hindent, margin_map_indentLine hstart hline hindent, indentLine,
      if_neg hindent, List.length_append, List.drop_length_add_append]

theorem lines_indent (hstart : start.all isIndent) (text : List Char) :
    (indent start text).splitOn '\n' = (text.splitOn '\n').map (indentLine start) := by
  have hbreak : '\n' ∉ start := fun h => absurd (List.all_eq_true.mp hstart _ h) (by decide)
  apply lines_map
  intro line hline
  rw [indentLine]
  split
  · exact hline
  · simp [hbreak, hline]

theorem normal_indent (hstart : start.all isIndent) (text : List Char) :
    normal (indent start text) = normal text := by
  rw [normal, dedent, lines_indent hstart, dedentLines_map_indentLine hstart, ← dedent, ← normal]

end TaskLine.Text
