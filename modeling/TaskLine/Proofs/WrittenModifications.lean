import Mathlib.Data.List.Basic
import TaskLine.Modification.Keyword
import TaskLine.Proofs.ModificationWords

/-!
The modifications that a command line can spell, after `add` and after a keyword. Words joined by
spaces never form a signed tag, so a description is one only if a single word is.
-/

namespace TaskLine

namespace Modification

def WellFormed (change : Modification) : Prop :=
  (∀ name ∈ change.addTags, Tag.isName name.toList) ∧
  (∀ name ∈ change.removeTags, Tag.isName name.toList) ∧
  ∀ text, change.description.text? = some text → ¬ Tag.IsSigned text

def IsBase (change : Modification) : Prop :=
  change.status = none ∧ change.active = none ∧
    (change.description.kind = .unset ∨ change.description.kind = .set)

def IsAdjusted (change : Modification) : Prop :=
  (change.status = none ∧ change.active = none) ∨
  ((change.description.kind = .unset ∨ change.description.kind = .set) ∧
    ((change.status = none ∧ change.active ≠ none) ∨
      (change.status = some .completed ∧ change.active = none)))

theorem not_isSigned_of_descriptionOf {words : List String} {text : String}
    (h : ∀ word ∈ words, ¬ Tag.IsSigned word) (htext : (descriptionOf words).text? = some text) :
    ¬ Tag.IsSigned text := by
  match words with
  | [] => exact absurd htext (by simp [descriptionOf, DescriptionChange.text?])
  | [word] =>
    simp only [descriptionOf, String.intercalate_singleton, DescriptionChange.text?,
      Option.some.injEq] at htext
    rw [← htext]
    exact h word List.mem_cons_self
  | first :: second :: rest =>
    simp only [descriptionOf, String.intercalate_cons_cons, DescriptionChange.text?,
      Option.some.injEq] at htext
    intro hsigned
    apply Tag.space_not_mem_of_isSigned hsigned
    rw [← htext]
    simp

theorem ofWords_wellFormed (words : Arguments) : (ofWords words).WellFormed := by
  refine ⟨?_, ?_, ?_⟩
  · intro name hname
    rw [addTags_ofWords, TagSet.mem_ofList] at hname
    obtain ⟨text, -, hsigned⟩ := List.mem_filterMap.mp hname
    exact (Tag.signed?_eq_some_iff.mp hsigned).2
  · intro name hname
    rw [removeTags_ofWords, TagSet.mem_ofList] at hname
    obtain ⟨text, -, hsigned⟩ := List.mem_filterMap.mp hname
    exact (Tag.signed?_eq_some_iff.mp hsigned).2
  · intro text htext
    rw [description_ofWords] at htext
    refine not_isSigned_of_descriptionOf ?_ htext
    intro word hword
    obtain ⟨argument, -, hargument⟩ := List.mem_filterMap.mp hword
    obtain ⟨hsigned, rfl⟩ := Argument.word?_ofText_eq_some_iff.mp hargument
    exact hsigned

theorem ofWords_isBase (words : Arguments) : (ofWords words).IsBase := by
  refine ⟨rfl, rfl, ?_⟩
  rw [description_ofWords]
  cases words.filterMap fun text => (Argument.ofText text).word? with
  | nil => exact .inl rfl
  | cons word words => exact .inr rfl

def arguments (change : Modification) : List Argument :=
  change.addTags.names.map .addTag ++ change.removeTags.names.map .removeTag ++
    change.description.text?.toList.map .word

def written (change : Modification) : Arguments :=
  change.addTags.names.map ("+" ++ ·) ++ change.removeTags.names.map ("-" ++ ·) ++
    change.description.text?.toList

def plain (change : Modification) : Modification where
  description := descriptionOf change.description.text?.toList
  addTags := change.addTags
  removeTags := change.removeTags

theorem map_ofText_written {change : Modification} (h : change.WellFormed) :
    change.written.map Argument.ofText = change.arguments := by
  obtain ⟨hadd, hremove, htext⟩ := h
  have hplus : ∀ name ∈ change.addTags.names, Argument.ofText ("+" ++ name) = .addTag name := by
    intro name hname
    rw [Argument.ofText, Tag.signed?_plus (hadd name hname)]
  have hminus : ∀ name ∈ change.removeTags.names,
      Argument.ofText ("-" ++ name) = .removeTag name := by
    intro name hname
    have hsigned := Tag.signed?_minus (hremove name hname)
    obtain ⟨htoList, -⟩ := Tag.signed?_eq_some_iff.mp hsigned
    rw [Argument.ofText, Tag.signed?_of_ne htoList (by decide), hsigned]
  have hword : ∀ text ∈ change.description.text?.toList, Argument.ofText text = .word text := by
    intro text hmem
    obtain ⟨hnotPlus, hnotMinus⟩ :=
      Tag.not_isSigned_iff.mp (htext text (Option.mem_toList.mp hmem))
    rw [Argument.ofText, hnotPlus, hnotMinus]
  simp only [written, arguments, List.map_append, List.map_map]
  rw [List.map_congr_left (f := Argument.ofText) hword,
    List.map_congr_left (f := Argument.ofText ∘ ("+" ++ ·)) hplus,
    List.map_congr_left (f := Argument.ofText ∘ ("-" ++ ·)) hminus]

theorem ofArguments_arguments (change : Modification) :
    ofArguments change.arguments = change.plain := by
  have hadd : change.arguments.filterMap Argument.addTag? = change.addTags.names := by
    simp [arguments, Function.comp_def, Argument.addTag?]
  have hremove : change.arguments.filterMap Argument.removeTag? = change.removeTags.names := by
    simp [arguments, Function.comp_def, Argument.removeTag?]
  have hword : change.arguments.filterMap Argument.word? = change.description.text?.toList := by
    simp [arguments, Function.comp_def, Argument.word?]
  rw [ofArguments, hadd, hremove, hword, TagSet.ofList_names, TagSet.ofList_names, plain]

theorem ofWords_written {change : Modification} (h : change.WellFormed) :
    ofWords change.written = change.plain := by
  rw [ofWords, map_ofText_written h, ofArguments_arguments]

theorem plain_of_isBase {change : Modification} (h : change.IsBase) : change.plain = change := by
  obtain ⟨description, status, active, addTags, removeTags⟩ := change
  obtain ⟨rfl, rfl, hkind⟩ := h
  cases description with
  | unset => rfl
  | set text => simp [plain, DescriptionChange.text?, descriptionOf]
  | append text => simp [DescriptionChange.kind] at hkind
  | prepend text => simp [DescriptionChange.kind] at hkind

theorem exists_ofWords_iff {change : Modification} :
    (∃ words, ofWords words = change) ↔ change.WellFormed ∧ change.IsBase := by
  constructor
  · rintro ⟨words, rfl⟩
    exact ⟨ofWords_wellFormed words, ofWords_isBase words⟩
  · rintro ⟨hwell, hbase⟩
    exact ⟨change.written, (ofWords_written hwell).trans (plain_of_isBase hbase)⟩

end Modification

namespace Keyword

theorem adjust_wellFormed {change : Modification} (h : change.WellFormed) (keyword : Keyword) :
    (keyword.adjust change).WellFormed := by
  rw [Modification.WellFormed, adjust_addTags, adjust_removeTags, adjust_text?]
  exact h

theorem adjust_isAdjusted {change : Modification} (h : change.IsBase) (keyword : Keyword) :
    (keyword.adjust change).IsAdjusted := by
  obtain ⟨hstatus, hactive, hkind⟩ := h
  unfold adjust
  split
  · exact .inl ⟨hstatus, hactive⟩
  · exact .inl ⟨hstatus, hactive⟩
  · exact .inr ⟨hkind, .inl ⟨hstatus, by simp⟩⟩
  · exact .inr ⟨hkind, .inl ⟨hstatus, by simp⟩⟩
  · exact .inr ⟨hkind, .inr ⟨rfl, hactive⟩⟩
  · exact .inl ⟨hstatus, hactive⟩

end Keyword

namespace Modification

def keyword (change : Modification) : Keyword :=
  match change.description, change.active, change.status with
  | .prepend _, _, _ => .prepend
  | .append _, _, _ => .append
  | _, some true, _ => .start
  | _, some false, _ => .stop
  | _, none, some _ => .done
  | _, none, none => .modify

theorem keyword_adjust_plain {change : Modification} (h : change.IsAdjusted) :
    change.keyword.adjust change.plain = change := by
  obtain ⟨description, status, active, addTags, removeTags⟩ := change
  rcases h with ⟨rfl, rfl⟩ | ⟨hkind, ⟨rfl, hactive⟩ | ⟨rfl, rfl⟩⟩
  · cases description <;>
      simp [keyword, plain, DescriptionChange.text?, descriptionOf, Keyword.adjust]
  · obtain ⟨value, rfl⟩ := Option.ne_none_iff_exists'.mp hactive
    cases description <;> cases value <;>
      simp_all [keyword, plain, DescriptionChange.text?, descriptionOf, Keyword.adjust,
        DescriptionChange.kind]
  · cases description <;>
      simp_all [keyword, plain, DescriptionChange.text?, descriptionOf, Keyword.adjust,
        DescriptionChange.kind]

theorem exists_adjust_iff {change : Modification} :
    (∃ keyword : Keyword, ∃ words, keyword.adjust (ofWords words) = change) ↔
      change.WellFormed ∧ change.IsAdjusted := by
  constructor
  · rintro ⟨keyword, words, rfl⟩
    exact ⟨Keyword.adjust_wellFormed (ofWords_wellFormed words) keyword,
      Keyword.adjust_isAdjusted (ofWords_isBase words) keyword⟩
  · rintro ⟨hwell, hadjusted⟩
    refine ⟨change.keyword, change.written, ?_⟩
    rw [ofWords_written hwell]
    exact keyword_adjust_plain hadjusted

end Modification

end TaskLine
