import TaskLine.Modification.Read
import TaskLine.Proofs.ParserLaws
import TaskLine.Proofs.SignedTags

namespace TaskLine.Modification

namespace Argument

def ofText (text : String) : Argument :=
  match Tag.signed? '+' text with
  | some tag => addTag tag
  | none => match Tag.signed? '-' text with
    | some tag => removeTag tag
    | none => word text

theorem parser_eq_argument : parser = Parser.argument fun text => .found (ofText text) := by
  have hread : (fun text => .found (ofText text)) = Reading.firstOf [
      fun text => (Reading.ofOption (Tag.signed? '+' text)).map addTag,
      fun text => (Reading.ofOption (Tag.signed? '-' text)).map removeTag,
      fun text => (Reading.found text).map word] := by
    funext text
    simp only [ofText, Reading.firstOf]
    cases Tag.signed? '+' text with
    | some tag => rfl
    | none => cases Tag.signed? '-' text <;> rfl
  rw [hread, ← Parser.alt_argument]
  simp only [parser, Tag.plus, Tag.minus, Parser.anyArgument, Parser.map_argument, List.map_cons,
    List.map_nil]

theorem addTag?_ofText (text : String) : (ofText text).addTag? = Tag.signed? '+' text := by
  rw [ofText]
  cases Tag.signed? '+' text with
  | some tag => rfl
  | none => cases Tag.signed? '-' text <;> rfl

theorem removeTag?_ofText (text : String) : (ofText text).removeTag? = Tag.signed? '-' text := by
  rw [ofText]
  cases hplus : Tag.signed? '+' text with
  | some tag =>
    rw [Tag.signed?_minus_of_plus hplus]
    rfl
  | none => cases Tag.signed? '-' text <;> rfl

theorem word?_ofText_eq_some_iff {text word : String} :
    (ofText text).word? = some word ↔ ¬ Tag.IsSigned text ∧ text = word := by
  rw [Tag.not_isSigned_iff, ofText]
  cases Tag.signed? '+' text with
  | some tag => simp [word?]
  | none => cases Tag.signed? '-' text <;> simp [word?]

end Argument

def ofWords (args : Arguments) : Modification := ofArguments (args.map Argument.ofText)

theorem parser_eq_found (args : Arguments) : parser args = .found (ofWords args, []) := by
  rw [parser, Parser.map, Argument.parser_eq_argument, Parser.many_argument_total]
  rfl

theorem addTags_ofWords (args : Arguments) :
    (ofWords args).addTags = TagSet.ofList (args.filterMap (Tag.signed? '+')) := by
  simp only [ofWords, ofArguments, List.filterMap_map]
  rw [← funext Argument.addTag?_ofText]
  rfl

theorem removeTags_ofWords (args : Arguments) :
    (ofWords args).removeTags = TagSet.ofList (args.filterMap (Tag.signed? '-')) := by
  simp only [ofWords, ofArguments, List.filterMap_map]
  rw [← funext Argument.removeTag?_ofText]
  rfl

theorem description_ofWords (args : Arguments) :
    (ofWords args).description =
      descriptionOf (args.filterMap fun text => (Argument.ofText text).word?) := by
  simp only [ofWords, ofArguments, List.filterMap_map]
  rfl

end TaskLine.Modification
