import TaskLine.LogEvent
import TaskLine.Proofs.LeftoverCut
import TaskLine.Proofs.QuotedText

namespace TaskLine

open Text (OnOneLine onOneLine_quote onOneLine_quoteList)

namespace DescriptionChange

theorem head?_toString (change : DescriptionChange) :
    change.toString.toList.head? = change.kind.name.toList.head? := by
  have hall : ∀ kind ∈ DescriptionKind.all, kind.name.toList ≠ [] := by decide +kernel
  cases htext : change.text? with
  | none => rw [toString_of_none htext]
  | some text =>
    rw [toString_of_some htext, String.append_assoc, String.append_assoc, String.toList_append]
    exact List.head?_append_of_ne_nil _ (hall _ (DescriptionKind.mem_all _))

theorem kind_eq_of_toString {change other : DescriptionChange}
    (h : change.toString = other.toString) : change.kind = other.kind := by
  have hall : ∀ kind ∈ DescriptionKind.all, ∀ other ∈ DescriptionKind.all,
      kind.name.toList.head? = other.name.toList.head? → kind = other := by decide +kernel
  apply hall _ (DescriptionKind.mem_all _) _ (DescriptionKind.mem_all _)
  rw [← head?_toString, ← head?_toString, h]

theorem text?_eq_of_toString {change other : DescriptionChange}
    (h : change.toString = other.toString) : change.text? = other.text? := by
  have hkind := kind_eq_of_toString h
  cases htext : change.text? with
  | none => rw [eq_comm, text?_eq_none_iff, ← hkind, ← text?_eq_none_iff, htext]
  | some text =>
    cases hother : other.text? with
    | none =>
      rw [text?_eq_none_iff, ← hkind, ← text?_eq_none_iff, htext] at hother
      cases hother
    | some others =>
      have hlist := congrArg String.toList h
      rw [toString_of_some htext, toString_of_some hother, hkind] at hlist
      simp only [String.toList_append, List.append_assoc, List.append_cancel_left_eq] at hlist
      rw [(Text.quote_append_inj hlist).1]

theorem parts_eq_of_toString {kind kind' : DescriptionKind} {text text' : Option String}
    {change other : DescriptionChange} (hchange : ofParts? kind text = .ok change)
    (hother : ofParts? kind' text' = .ok other) (h : change.toString = other.toString) :
    kind = kind' ∧ text = text' := by
  obtain ⟨rfl, rfl⟩ := ofParts?_eq_ok_iff.mp hchange
  obtain ⟨rfl, rfl⟩ := ofParts?_eq_ok_iff.mp hother
  exact ⟨kind_eq_of_toString h, text?_eq_of_toString h⟩

theorem onOneLine_toString (change : DescriptionChange) : OnOneLine change.toString.toList := by
  have hall : ∀ kind ∈ DescriptionKind.all, OnOneLine kind.name.toList := by decide +kernel
  have hname : OnOneLine change.kind.name.toList := hall _ (DescriptionKind.mem_all _)
  cases htext : change.text? with
  | none =>
    rw [toString_of_none htext]
    exact hname
  | some text =>
    have hopen : OnOneLine "(".toList := by decide
    have hclose : OnOneLine ")".toList := by decide
    rw [toString_of_some htext]
    simp only [Text.onOneLine_toString_append]
    exact ⟨⟨⟨hname, hopen⟩, onOneLine_quote text⟩, hclose⟩

end DescriptionChange

theorem LogEvent.noMatch_message_injective {args others : Arguments}
    (h : (noMatch args).message = (noMatch others).message) : args = others := by
  have hmessage (words : Arguments) :
      (noMatch words).message = "No grammar matched " ++ Text.quoteList words := rfl
  have hlist := congrArg String.toList h
  rw [hmessage, hmessage, String.toList_append, String.toList_append,
    List.append_cancel_left_eq, String.toList_inj] at hlist
  exact Text.quoteList_injective hlist

namespace Location

theorem onOneLine_argument (index : Nat) (text : String) :
    OnOneLine ("  at argument " ++ index.repr ++ ": " ++ Text.quote text).toList := by
  have hfirst : OnOneLine "  at argument ".toList := by decide
  have hcolon : OnOneLine ": ".toList := by decide
  simp only [Text.onOneLine_toString_append]
  exact ⟨⟨⟨hfirst, Text.onOneLine_repr index⟩, hcolon⟩, onOneLine_quote text⟩

end Location

theorem quoted_output_unambiguous :
    (∀ kind text kind' text' change other, DescriptionChange.ofParts? kind text = .ok change →
      DescriptionChange.ofParts? kind' text' = .ok other → change.toString = other.toString →
      kind = kind' ∧ text = text') ∧
    (∀ args others : Arguments,
      (LogEvent.noMatch args).message = (LogEvent.noMatch others).message → args = others) ∧
    (∀ change : DescriptionChange, OnOneLine change.toString.toList) ∧
    (∀ args : Arguments, OnOneLine (Text.quoteList args).toList) ∧
    ∀ (argv : Arguments) (index : Nat) (text : String), argv[index]? = some text →
      let line := "  at argument " ++ index.repr ++ ": " ++ Text.quote text
      Location.format { argv := argv, index := some (index : Int) } =
        line ++ "\n" ++ ("  command: " ++ " ".intercalate argv) ∧ OnOneLine line.toList := by
  refine ⟨?_, fun _ _ => LogEvent.noMatch_message_injective, DescriptionChange.onOneLine_toString,
    onOneLine_quoteList, ?_⟩
  · intro kind text kind' text' change other hchange hother h
    exact DescriptionChange.parts_eq_of_toString hchange hother h
  · intro argv index text h line
    exact ⟨Location.format_of_index h, Location.onOneLine_argument index text⟩

theorem quoted_output_unambiguous_of_quotes :
    let text := "it's \x22so\x22\u2028"
    let argv := ["ta", "gc", text]
    (DescriptionChange.append text).toString = "append('it\\'s \x22so\x22\\u2028')" ∧
    (∀ kind' text' other, DescriptionChange.ofParts? kind' text' = .ok other →
      other.toString = "append('it\\'s \x22so\x22\\u2028')" →
      kind' = .append ∧ text' = some text) ∧
    (LogEvent.noMatch argv.tail).message = "No grammar matched ('gc', 'it\\'s \x22so\x22\\u2028')" ∧
    (∀ others, (LogEvent.noMatch others).message =
      "No grammar matched ('gc', 'it\\'s \x22so\x22\\u2028')" → others = argv.tail) ∧
    argv[2]? = some text ∧
    OnOneLine "  at argument 2: 'it\\'s \x22so\x22\\u2028'".toList := by
  intro text argv
  obtain ⟨hchange, hargs, -, -, hlocation⟩ := quoted_output_unambiguous
  have hshown : (DescriptionChange.append text).toString =
      "append('it\\'s \x22so\x22\\u2028')" := by decide +kernel
  have hmessage : (LogEvent.noMatch argv.tail).message =
      "No grammar matched ('gc', 'it\\'s \x22so\x22\\u2028')" := by decide +kernel
  have hline : "  at argument " ++ (2 : Nat).repr ++ ": " ++ Text.quote text =
      "  at argument 2: 'it\\'s \x22so\x22\\u2028'" := by decide +kernel
  have hat : argv[2]? = some text := rfl
  refine ⟨hshown, ?_, hmessage, ?_, hat, ?_⟩
  · intro kind' text' other hother h
    obtain ⟨hkind, htext⟩ :=
      hchange .append (some text) kind' text' _ other rfl hother (hshown.trans h.symm)
    exact ⟨hkind.symm, htext.symm⟩
  · intro others hothers
    exact hargs _ _ (hothers.trans hmessage.symm)
  · rw [← hline]
    exact (hlocation argv 2 text hat).2

end TaskLine
