import TaskLine.Proofs.NormalText
import TaskLine.Usage.Describe

/-!
What the usage registry holds after any run of additions. Each step puts its own entries behind those
that are there, and each stored description is in normal form, so that adding the stored entries once
more gives the same entries.
-/

namespace TaskLine.Usage

inductive Step where
  | add (name form summary description : String)
  | describe (grammar : Grammar)
  | describeAll

namespace Step

def apply (usage : Usage) : Step → Usage
  | add name form summary description => usage.add (.ofSource name form summary description)
  | describe grammar => usage.describe grammar
  | describeAll => usage.describeAll

def own : Step → List Entry
  | add name form summary description => [.ofSource name form summary description]
  | describe grammar => grammar.usageEntries
  | describeAll => Grammar.all.flatMap Grammar.usageEntries

theorem entries_apply (usage : Usage) (step : Step) :
    (step.apply usage).entries = usage.entries ++ step.own := by
  cases step with
  | add name form summary description => rfl
  | describe grammar => exact entries_describe usage grammar
  | describeAll => exact entries_describeAll usage

end Step

def run (usage : Usage) (steps : List Step) : Usage := steps.foldl Step.apply usage

theorem entries_run (usage : Usage) (steps : List Step) :
    (usage.run steps).entries = usage.entries ++ steps.flatMap Step.own := by
  induction steps generalizing usage with
  | nil => simp [run]
  | cons step steps ih =>
    rw [run, List.foldl_cons, ← run, ih, Step.entries_apply, List.flatMap_cons, List.append_assoc]

namespace Entry

def again (entry : Entry) : Step :=
  .add entry.name entry.form entry.summary entry.description

def IsNormal (entry : Entry) : Prop :=
  Text.normal entry.description.toList = entry.description.toList

theorem isNormal_ofSource (name form summary description : String) :
    (ofSource name form summary description).IsNormal := by
  rw [IsNormal, toList_description_ofSource, Text.normal_idem]

theorem IsNormal.own_again {entry : Entry} (h : entry.IsNormal) : entry.again.own = [entry] := by
  have hsame : ofSource entry.name entry.form entry.summary entry.description = entry := by
    rw [ofSource, h, String.ofList_toList]
  rw [again, Step.own, hsame]

theorem ofSource_indent {start : List Char} (hstart : start.all Text.isIndent)
    (name form summary description : String) :
    ofSource name form summary (String.ofList (Text.indent start description.toList)) =
      ofSource name form summary description := by
  rw [ofSource, ofSource, String.toList_ofList, Text.normal_indent hstart]

end Entry

theorem isNormal_of_mem_usageEntries (grammar : Grammar) :
    ∀ entry ∈ grammar.usageEntries, entry.IsNormal := by
  cases grammar <;> simp [Grammar.usageEntries, Entry.isNormal_ofSource]

theorem Step.isNormal_of_mem_own {step : Step} {entry : Entry} (h : entry ∈ step.own) :
    entry.IsNormal := by
  cases step with
  | add name form summary description =>
    rw [own, List.mem_singleton] at h
    rw [h]
    exact Entry.isNormal_ofSource name form summary description
  | describe grammar => exact isNormal_of_mem_usageEntries grammar entry h
  | describeAll =>
    obtain ⟨grammar, -, hentry⟩ := List.mem_flatMap.mp h
    exact isNormal_of_mem_usageEntries grammar entry hentry

theorem isNormal_of_mem_run {steps : List Step} {entry : Entry}
    (h : entry ∈ (run {} steps).entries) : entry.IsNormal := by
  rw [entries_run, List.nil_append] at h
  obtain ⟨step, -, hentry⟩ := List.mem_flatMap.mp h
  exact Step.isNormal_of_mem_own hentry

theorem own_again_of_isNormal {entries : List Entry} (h : ∀ entry ∈ entries, entry.IsNormal) :
    (entries.map Entry.again).flatMap Step.own = entries := by
  induction entries with
  | nil => rfl
  | cons entry entries ih =>
    rw [List.map_cons, List.flatMap_cons, ih fun other hother => h other (.tail _ hother),
      (h entry (.head _)).own_again, List.singleton_append]

theorem descriptions_normal :
    (∀ text, Text.normal (Text.normal text) = Text.normal text) ∧
    (∀ start text, (∀ c ∈ start, c = ' ' ∨ c = '\t') →
      Text.normal (Text.indent start text) = Text.normal text) ∧
    (∀ (usage : Usage) (name form summary description : String), ∃ entry : Entry,
      (Step.apply usage (.add name form summary description)).entries = usage.entries ++ [entry] ∧
      entry.name = name ∧ entry.form = form ∧ entry.summary = summary ∧
      entry.description.toList = Text.normal description.toList) ∧
    (∀ (usage : Usage) (name form summary description : String) (start : List Char),
      (∀ c ∈ start, c = ' ' ∨ c = '\t') →
      Step.apply usage
        (.add name form summary (String.ofList (Text.indent start description.toList))) =
        Step.apply usage (.add name form summary description)) ∧
    (∀ (usage : Usage) (step : Step), (step.apply usage).entries = usage.entries ++ step.own) ∧
    ∀ steps, let usage := run {} steps
      usage.entries = steps.flatMap Step.own ∧
      (∀ entry ∈ usage.entries,
        Text.normal entry.description.toList = entry.description.toList) ∧
      (run {} (usage.entries.map Entry.again)).entries = usage.entries := by
  refine ⟨Text.normal_idem, ?_, ?_, ?_, Step.entries_apply, ?_⟩
  · intro start text hstart
    exact Text.normal_indent (Text.all_isIndent_iff.mpr hstart) text
  · intro usage name form summary description
    exact ⟨.ofSource name form summary description, Step.entries_apply usage _, rfl, rfl, rfl,
      Entry.toList_description_ofSource name form summary description⟩
  · intro usage name form summary description start hstart
    rw [Step.apply, Step.apply, Entry.ofSource_indent (Text.all_isIndent_iff.mpr hstart)]
  · intro steps usage
    refine ⟨entries_run {} steps, fun entry => isNormal_of_mem_run, ?_⟩
    rw [entries_run, own_again_of_isNormal fun entry => isNormal_of_mem_run]
    rfl

theorem descriptions_normal_of_mixed :
    let text := " \t\x0b\n \tone\r\n\n \t  two\n \t"
    let indented := String.ofList (Text.indent "\t ".toList text.toList)
    let usage := run {} [.add "x" "x [id]" "X" text, .describe .gc]
    Text.normal (Text.indent "\t ".toList text.toList) = Text.normal text.toList ∧
    indented = "\t  \t\x0b\n\t  \tone\r\n\n\t  \t  two\n \t" ∧
    Step.apply {} (.add "x" "x [id]" "X" indented) = Step.apply {} (.add "x" "x [id]" "X" text) ∧
    usage.entries = [⟨"x", "x [id]", "X", "one\r\n\n  two"⟩,
      ⟨"gc", "gc", "Perform 'garbage collection'",
        "Perform 'garbage collection'.  This refreshes the list of pending tasks\n" ++
          "and their short id's."⟩] ∧
    (∀ entry ∈ usage.entries,
      Text.normal entry.description.toList = entry.description.toList) ∧
    (run {} (usage.entries.map Entry.again)).entries = usage.entries := by
  intro text indented usage
  obtain ⟨-, hindent, -, hstored, -, hrun⟩ := descriptions_normal
  exact ⟨hindent _ _ (by simp), by decide +kernel, hstored _ _ _ _ _ _ (by simp),
    by decide +kernel, (hrun _).2⟩

end TaskLine.Usage
