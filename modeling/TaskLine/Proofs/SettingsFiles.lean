import TaskLine.Proofs.SettingsLayers

namespace TaskLine

namespace Yaml

/-- Spaces, or spaces and a comment. -/
def IsIdle (line : List Char) : Prop := ∀ c ∈ (line.dropWhile (· == ' ')).head?, c = '#'

theorem isIdle_nil : IsIdle [] := by simp [IsIdle]

theorem isIdle_cons {c : Char} {line : List Char} :
    IsIdle (c :: line) ↔ c = '#' ∨ c = ' ' ∧ IsIdle line := by
  by_cases hspace : c = ' ' <;> simp [IsIdle, hspace]

def AllIdle (inComment : Bool) : List (List Char) → Prop
  | [] => True
  | first :: others => (inComment ∨ IsIdle first) ∧ ∀ line ∈ others, IsIdle line

theorem allIdle_iff {lines : List (List Char)} :
    AllIdle false lines ↔ ∀ line ∈ lines, IsIdle line := by
  cases lines <;> simp [AllIdle]

theorem skipGap_eq_nil_iff {inComment : Bool} {text : List Placed} :
    (skipGap inComment text).2 = [] ↔
      AllIdle inComment ((text.map Placed.char).splitOnP isBreak) := by
  induction text generalizing inComment with
  | nil => simp [skipGap, AllIdle, isIdle_nil]
  | cons here rest ih =>
    obtain ⟨first, others, hlines⟩ :=
      List.exists_cons_of_ne_nil (List.splitOnP_ne_nil isBreak (rest.map Placed.char))
    rw [List.map_cons, List.splitOnP_cons_eq_if_modifyHead, skipGap]
    by_cases hbreak : isBreak here.char
    · rw [if_pos hbreak, if_pos hbreak, ih, allIdle_iff]
      simp [AllIdle, isIdle_nil]
    · rw [if_neg hbreak, if_neg hbreak, hlines, List.modifyHead_cons, AllIdle, isIdle_cons]
      -- What is skipped here leaves the line idle exactly if its rest is.
      cases inComment with
      | true => simp [ih, hlines, AllIdle]
      | false =>
        by_cases hspace : here.char = ' '
        · simp [ih, hlines, AllIdle, hspace]
        · by_cases hmark : here.char = '#'
          · simp [ih, hlines, AllIdle, hmark]
          · simp [hspace, hmark]

theorem chars_placeFrom (offset line column : Nat) (text : List Char) :
    (placeFrom offset line column text).map Placed.char = text := by
  induction text generalizing offset line column with
  | nil => rfl
  | cons c rest ih =>
    rw [placeFrom, List.map_cons]
    split <;> rw [ih]

theorem chars_place {text : List Char} (h : text.head? ≠ some byteOrderMark) :
    (place text).map Placed.char = text := by
  have hplace : place text = placeFrom 0 0 0 text := by
    cases text with
    | nil => rfl
    | cons c rest =>
      have hmark : c ≠ byteOrderMark := fun hc => h (congrArg some hc)
      simp [place, placeFrom, hmark]
  rw [hplace, chars_placeFrom]

theorem head?_ne_of_idle {text : List Char} (h : ∀ line ∈ text.splitOnP isBreak, IsIdle line) :
    text.head? ≠ some byteOrderMark := by
  intro hmark
  obtain ⟨rest, rfl⟩ := List.head?_eq_some_iff.mp hmark
  obtain ⟨first, others, hlines⟩ := List.exists_cons_of_ne_nil (List.splitOnP_ne_nil isBreak rest)
  have hbreak : ¬ isBreak byteOrderMark := by decide
  rw [List.splitOnP_cons_eq_if_modifyHead, if_neg hbreak, hlines, List.modifyHead_cons] at h
  rcases isIdle_cons.mp (h _ (.head _)) with hc | ⟨hc, -⟩
  · exact absurd hc (by decide)
  · exact absurd hc (by decide)

theorem load_of_idle {text : String} (hallowed : (unifyBreaks text.toList).all isAllowed)
    (hidle : ∀ line ∈ (unifyBreaks text.toList).splitOnP isBreak, IsIdle line) :
    load text = .ok .null := by
  have hskip : (skipGap false (place (unifyBreaks text.toList))).2 = [] := by
    rw [skipGap_eq_nil_iff, chars_place (head?_ne_of_idle hidle), allIdle_iff]
    exact hidle
  have htokens : Token.ofText (unifyBreaks text.toList) = [] := by
    rw [Token.ofText, if_pos hallowed, readTokens]
    generalize skipGap false (place (unifyBreaks text.toList)) = skipped at hskip
    obtain ⟨broken, left⟩ := skipped
    obtain rfl : left = [] := hskip
    rfl
  have hnode : Node.ofTokens [] = .ok Node.absent := rfl
  have hvalue : Node.absent.value = .ok .null := by
    rw [Node.absent, Node.value]
    rfl
  rw [load, htokens, hnode]
  simp only [bind, Except.bind, hvalue]
  rfl

end Yaml

namespace Folder

structure IsFileName (name : String) : Prop where
  nonempty : name ≠ ""
  noDots : name ≠ "." ∧ name ≠ ".."
  chars : '/' ∉ name.toList ∧ '\x00' ∉ name.toList
  short : name.utf8ByteSize ≤ maxName

variable {name : String}

theorem pathNames_of_isFileName (h : IsFileName name) : pathNames name = [name.toList] := by
  have hempty : name.toList ≠ [] := fun hnil => h.nonempty (String.toList_inj.mp hnil)
  have hdot : name.toList ≠ ['.'] := fun hdot => h.noDots.1 (String.toList_inj.mp hdot)
  rw [pathNames, List.splitOn_eq_singleton h.chars.1]
  simp [hempty, hdot]

theorem normalPath_of_isFileName (h : IsFileName name) : normalPath name = name := by
  have hroot : name.toList.takeWhile (· = '/') = [] := by
    cases hlist : name.toList with
    | nil => rfl
    | cons c rest =>
      have hslash : c ≠ '/' := fun hc => h.chars.1 (by simp [hlist, hc])
      simp [hslash]
  have hname : name.isEmpty = false := by simpa using h.nonempty
  rw [normalPath, hroot, pathNames_of_isFileName h]
  simp [hname]

theorem read_of_isFileName (h : IsFileName name) {text : String} {folder : Folder}
    (hfile : folder.files.lookup name = some text) : folder.read name = .ok text := by
  have hroot : name.toList.head? ≠ some '/' := by
    intro hslash
    exact h.chars.1 (List.mem_of_mem_head? hslash)
  have hlong : ¬ name.utf8ByteSize > maxName := Nat.not_lt.mpr h.short
  have hpath : ¬ name.utf8ByteSize > maxPath := by
    have hshort := h.short
    rw [maxName] at hshort
    rw [maxPath]
    omega
  rw [read, if_neg (by simpa using h.chars.2), if_neg hpath, if_neg hroot, pathNames_of_isFileName h,
    List.map_cons, String.ofList_toList]
  simp [walk, h.noDots.2, hlong, hfile]

end Folder

namespace Settings

section Values

variable (source : String) {value : ConfigValue} {settings : Settings} {error : InvalidSetting}

theorem ofValue_of_void (h : value.isVoid) : ofValue source value = .ok {} := if_pos h

theorem ofValue_of_no_mapping (hvoid : ¬ value.isVoid) (h : ∀ given, value ≠ .mapping given) :
    ofValue source value = .error ⟨source, "top level must be a mapping"⟩ := by
  rw [ofValue, if_neg hvoid]
  exact h

theorem void_or_mapping_or_neither (value : ConfigValue) : value.isVoid ∨
    (∃ given, value = .mapping given) ∨ ¬ value.isVoid ∧ ∀ given, value ≠ .mapping given := by
  by_cases hvoid : value.isVoid
  · exact .inl hvoid
  · by_cases hmapping : ∃ given, value = .mapping given
    · exact .inr (.inl hmapping)
    · exact .inr (.inr ⟨hvoid, not_exists.mp hmapping⟩)

theorem ofValue_eq_ok_iff : ofValue source value = .ok settings ↔
    value.isVoid ∧ settings = {} ∨
      ∃ given, value = .mapping given ∧ ofEntries (given.filterMap textEntry?) = .ok settings := by
  constructor
  · intro h
    rcases void_or_mapping_or_neither value with hvoid | ⟨given, rfl⟩ | ⟨hvoid, hmapping⟩
    · rw [ofValue_of_void source hvoid, Except.ok.injEq] at h
      exact .inl ⟨hvoid, h.symm⟩
    · exact .inr ⟨given, rfl, (ofValue_mapping source given).symm.trans h⟩
    · rw [ofValue_of_no_mapping source hvoid hmapping] at h
      cases h
  · rintro (⟨hvoid, rfl⟩ | ⟨given, rfl, h⟩)
    · exact ofValue_of_void source hvoid
    · rw [ofValue_mapping, h]

theorem ofValue_eq_error_iff : ofValue source value = .error error ↔
    (¬ value.isVoid ∧ (∀ given, value ≠ .mapping given) ∧
      error = ⟨source, "top level must be a mapping"⟩) ∨
    ∃ given, value = .mapping given ∧ ofEntries (given.filterMap textEntry?) = .error error := by
  constructor
  · intro h
    rcases void_or_mapping_or_neither value with hvoid | ⟨given, rfl⟩ | ⟨hvoid, hmapping⟩
    · rw [ofValue_of_void source hvoid] at h
      cases h
    · exact .inr ⟨given, rfl, (ofValue_mapping source given).symm.trans h⟩
    · rw [ofValue_of_no_mapping source hvoid hmapping, Except.error.injEq] at h
      exact .inl ⟨hvoid, hmapping, h.symm⟩
  · rintro (⟨hvoid, hmapping, rfl⟩ | ⟨given, rfl, h⟩)
    · exact ofValue_of_no_mapping source hvoid hmapping
    · rw [ofValue_mapping, h]

end Values

section Files

variable {folder : Folder} {path text : String} {value : ConfigValue} {settings : Settings}
  {error : InvalidSetting}

theorem load_of_unreadable {reason : Unreadable}
    (hread : folder.read (normalPath path) = .error reason) :
    load folder path = .error (.unreadable (normalPath path) reason) := by
  rw [load]
  simp only [hread]

theorem load_of_rejected {reason : Yaml.Rejection}
    (hread : folder.read (normalPath path) = .ok text) (htext : Yaml.load text = .error reason) :
    load folder path = .error (.rejected reason) := by
  rw [load]
  simp only [hread, htext]

theorem load_of_ok (hread : folder.read (normalPath path) = .ok text)
    (htext : Yaml.load text = .ok value)
    (hvalue : ofValue (normalPath path) value = .ok settings) : load folder path = .ok settings := by
  rw [load]
  simp only [hread, htext, hvalue]
  rfl

theorem load_of_invalid (hread : folder.read (normalPath path) = .ok text)
    (htext : Yaml.load text = .ok value)
    (hvalue : ofValue (normalPath path) value = .error error) :
    load folder path = .error (.invalid error) := by
  rw [load]
  simp only [hread, htext, hvalue]
  rfl

theorem load_cases (folder : Folder) (path : String) :
    (∃ reason, load folder path = .error (.unreadable (normalPath path) reason)) ∨
      (∃ reason, load folder path = .error (.rejected reason)) ∨
      ∃ text value, folder.read (normalPath path) = .ok text ∧ Yaml.load text = .ok value := by
  cases hread : folder.read (normalPath path) with
  | error reason => exact .inl ⟨reason, load_of_unreadable hread⟩
  | ok text =>
    cases htext : Yaml.load text with
    | error reason => exact .inr (.inl ⟨reason, load_of_rejected hread htext⟩)
    | ok value => exact .inr (.inr ⟨text, value, rfl, htext⟩)

theorem load_eq_ok_iff : load folder path = .ok settings ↔
    ∃ text value, folder.read (normalPath path) = .ok text ∧ Yaml.load text = .ok value ∧
      (value.isVoid ∧ settings = {} ∨
        ∃ given, value = .mapping given ∧
          ofEntries (given.filterMap textEntry?) = .ok settings) := by
  simp only [← ofValue_eq_ok_iff (normalPath path)]
  constructor
  · intro h
    rcases load_cases folder path with ⟨reason, hload⟩ | ⟨reason, hload⟩ | ⟨text, value, hread, htext⟩
    · simp [hload] at h
    · simp [hload] at h
    · refine ⟨text, value, hread, htext, ?_⟩
      cases hvalue : ofValue (normalPath path) value with
      | ok given => simpa [load_of_ok hread htext hvalue] using h
      | error error => simp [load_of_invalid hread htext hvalue] at h
  · rintro ⟨text, value, hread, htext, hvalue⟩
    exact load_of_ok hread htext hvalue

theorem load_eq_invalid_iff : load folder path = .error (.invalid error) ↔
    ∃ text value, folder.read (normalPath path) = .ok text ∧ Yaml.load text = .ok value ∧
      ((¬ value.isVoid ∧ (∀ given, value ≠ .mapping given) ∧
        error = ⟨normalPath path, "top level must be a mapping"⟩) ∨
      ∃ given, value = .mapping given ∧
        ofEntries (given.filterMap textEntry?) = .error error) := by
  simp only [← ofValue_eq_error_iff (normalPath path)]
  constructor
  · intro h
    rcases load_cases folder path with ⟨reason, hload⟩ | ⟨reason, hload⟩ | ⟨text, value, hread, htext⟩
    · simp [hload] at h
    · simp [hload] at h
    · refine ⟨text, value, hread, htext, ?_⟩
      cases hvalue : ofValue (normalPath path) value with
      | ok given => simp [load_of_ok hread htext hvalue] at h
      | error reason => simpa [load_of_invalid hread htext hvalue] using h
  · rintro ⟨text, value, hread, htext, hvalue⟩
    exact load_of_invalid hread htext hvalue

theorem load_of_idle (hread : folder.read (normalPath path) = .ok text)
    (hallowed : (Yaml.unifyBreaks text.toList).all Yaml.isAllowed)
    (hidle : ∀ line ∈ (Yaml.unifyBreaks text.toList).splitOnP Yaml.isBreak, Yaml.IsIdle line) :
    load folder path = .ok {} :=
  load_eq_ok_iff.mpr ⟨text, .null, hread, Yaml.load_of_idle hallowed hidle, .inl ⟨rfl, rfl⟩⟩

theorem load_of_empty {name : String} (hname : Folder.IsFileName name)
    (hfile : folder.files.lookup name = some "") : load folder name = .ok {} := by
  have hread : folder.read (normalPath name) = .ok "" := by
    rw [Folder.normalPath_of_isFileName hname]
    exact Folder.read_of_isFileName hname hfile
  apply load_of_idle hread
  · rfl
  · simp [Yaml.unifyBreaks, Yaml.isIdle_nil]

theorem ofEntries_of_load (h : load folder path = .ok settings) :
    ofEntries settings.toEntries = .ok settings := by
  obtain ⟨text, value, -, -, ⟨-, rfl⟩ | ⟨given, -, hgiven⟩⟩ := load_eq_ok_iff.mp h
  · rfl
  · exact ofEntries_toEntries hgiven

end Files

end Settings

end TaskLine
