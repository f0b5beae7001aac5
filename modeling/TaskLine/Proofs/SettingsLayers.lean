import TaskLine.Proofs.EntryOverrides
import TaskLine.Settings.File

/-!
Settings loaded from entries that give only some of them. A key that is given nothing counts as given
its default, so that entries can be laid over settings already loaded as well as over the entries these
were loaded from.
-/

namespace TaskLine.Settings

def keys : List String := [allowTrailingKey, programNameKey]

def toEntries (settings : Settings) : List (String × ConfigValue) :=
  [(allowTrailingKey, .boolean settings.allowTrailing), (programNameKey, .text settings.programName)]

def TrailingRefused (entries : List (String × ConfigValue)) : Prop :=
  ∃ value, Gives entries allowTrailingKey value ∧ ∀ allowed, value ≠ .boolean allowed

def NameRefused (entries : List (String × ConfigValue)) : Prop :=
  ∃ value, Gives entries programNameKey value ∧
    ∀ name, value = .text name → ∀ c ∈ name.toList, Text.isBlank c

structure Validates (entries : List (String × ConfigValue))
    (outcome : Except InvalidSetting Settings) : Prop where
  trailing : ∀ error, outcome = .error error ∧ error.key = allowTrailingKey ↔
    ∃ value, Gives entries allowTrailingKey value ∧ (∀ allowed, value ≠ .boolean allowed) ∧
      error = ⟨allowTrailingKey, "expected bool, got " ++ value.kindName⟩
  name : ∀ error, outcome = .error error ∧ error.key = programNameKey ↔
    ¬TrailingRefused entries ∧ NameRefused entries ∧
      error = ⟨programNameKey, "must be a non-empty string"⟩
  accepted : (∃ settings, outcome = .ok settings) ↔
    ¬TrailingRefused entries ∧ ¬NameRefused entries

structure Loads (entries : List (String × ConfigValue)) (settings : Settings) : Prop where
  allowTrailing : Gives entries allowTrailingKey (.boolean settings.allowTrailing) ∨
    allowTrailingKey ∉ entries.map Prod.fst ∧ settings.allowTrailing = false
  programName : Gives entries programNameKey (.text settings.programName) ∨
    programNameKey ∉ entries.map Prod.fst ∧ settings.programName = "ta"

section Checks

variable {value? : Option ConfigValue} {error : InvalidSetting}

theorem checkAllowTrailing_eq_ok_iff {allowed : Bool} : checkAllowTrailing value? = .ok allowed ↔
    value? = some (.boolean allowed) ∨ value? = none ∧ allowed = false := by
  rcases value? with - | value
  · simp [checkAllowTrailing, eq_comm]
  · cases value <;> simp [checkAllowTrailing]

theorem checkAllowTrailing_eq_error_iff : checkAllowTrailing value? = .error error ↔
    ∃ value, value? = some value ∧ (∀ allowed, value ≠ .boolean allowed) ∧
      error = ⟨allowTrailingKey, "expected bool, got " ++ value.kindName⟩ := by
  rcases value? with - | value
  · simp [checkAllowTrailing]
  · cases value <;> simp [checkAllowTrailing, eq_comm]

theorem checkProgramName_of_blank {name : String} (h : ∀ c ∈ name.toList, Text.isBlank c) :
    checkProgramName (some (.text name)) =
      .error ⟨programNameKey, "must be a non-empty string"⟩ :=
  if_pos (List.all_eq_true.mpr h)

theorem checkProgramName_of_not_blank {name : String}
    (h : ¬∀ c ∈ name.toList, Text.isBlank c) : checkProgramName (some (.text name)) = .ok name :=
  if_neg (mt List.all_eq_true.mp h)

theorem checkProgramName_eq_ok_iff {name : String} : checkProgramName value? = .ok name ↔
    value? = some (.text name) ∧ (¬∀ c ∈ name.toList, Text.isBlank c) ∨
      value? = none ∧ name = "ta" := by
  rcases value? with - | value
  · simp only [checkProgramName, Except.ok.injEq, reduceCtorEq, false_and, true_and, false_or]
    exact eq_comm
  · cases value with
    | text given =>
      by_cases hblank : ∀ c ∈ given.toList, Text.isBlank c
      · rw [checkProgramName_of_blank hblank]
        constructor
        · intro h
          cases h
        · rintro (⟨⟨⟩, hname⟩ | ⟨⟨⟩, -⟩)
          exact absurd hblank hname
      · rw [checkProgramName_of_not_blank hblank]
        constructor
        · rintro ⟨⟩
          exact .inl ⟨rfl, hblank⟩
        · rintro (⟨⟨⟩, -⟩ | ⟨⟨⟩, -⟩)
          rfl
    | _ => simp [checkProgramName]

theorem checkProgramName_eq_error_iff : checkProgramName value? = .error error ↔
    (∃ value, value? = some value ∧
      ∀ name, value = .text name → ∀ c ∈ name.toList, Text.isBlank c) ∧
    error = ⟨programNameKey, "must be a non-empty string"⟩ := by
  rcases value? with - | value
  · simp [checkProgramName]
  · cases value with
    | text given =>
      by_cases hblank : ∀ c ∈ given.toList, Text.isBlank c
      · rw [checkProgramName_of_blank hblank]
        constructor
        · rintro ⟨⟩
          refine ⟨⟨_, rfl, ?_⟩, rfl⟩
          rintro _ ⟨⟩
          exact hblank
        · rintro ⟨-, rfl⟩
          rfl
      · rw [checkProgramName_of_not_blank hblank]
        constructor
        · intro h
          cases h
        · rintro ⟨⟨_, ⟨⟩, hname⟩, -⟩
          exact absurd (hname given rfl) hblank
    | _ => simp [checkProgramName, @eq_comm _ error]

theorem checkProgramName_text {name : String} (h : checkProgramName value? = .ok name) :
    checkProgramName (some (.text name)) = .ok name := by
  rcases checkProgramName_eq_ok_iff.mp h with ⟨-, hname⟩ | ⟨-, rfl⟩
  · exact checkProgramName_of_not_blank hname
  · rfl

end Checks

section Loading

variable {entries others later merged reloaded : List (String × ConfigValue)} {settings : Settings}

theorem ofEntries_eq_ok_iff : ofEntries entries = .ok settings ↔
    checkAllowTrailing (last? allowTrailingKey entries) = .ok settings.allowTrailing ∧
      checkProgramName (last? programNameKey entries) = .ok settings.programName := by
  obtain ⟨allowed, name⟩ := settings
  rw [ofEntries]
  cases checkAllowTrailing (last? allowTrailingKey entries) with
  | error error => simp [bind, Except.bind]
  | ok given =>
    cases checkProgramName (last? programNameKey entries) <;>
      simp [bind, Except.bind, pure, Except.pure]

theorem trailingRefused_iff : TrailingRefused entries ↔
    ∃ error, checkAllowTrailing (last? allowTrailingKey entries) = .error error := by
  simp only [TrailingRefused, checkAllowTrailing_eq_error_iff, last?_eq_some_iff]
  constructor
  · rintro ⟨value, hgiven, hvalue⟩
    exact ⟨_, value, hgiven, hvalue, rfl⟩
  · rintro ⟨_, value, hgiven, hvalue, -⟩
    exact ⟨value, hgiven, hvalue⟩

theorem not_trailingRefused_iff : ¬TrailingRefused entries ↔
    ∃ allowed, checkAllowTrailing (last? allowTrailingKey entries) = .ok allowed := by
  rw [trailingRefused_iff]
  cases checkAllowTrailing (last? allowTrailingKey entries) <;> simp

theorem nameRefused_iff : NameRefused entries ↔
    ∃ error, checkProgramName (last? programNameKey entries) = .error error := by
  simp only [NameRefused, checkProgramName_eq_error_iff, last?_eq_some_iff, exists_and_left,
    exists_eq, and_true]

theorem not_nameRefused_iff : ¬NameRefused entries ↔
    ∃ name, checkProgramName (last? programNameKey entries) = .ok name := by
  rw [nameRefused_iff]
  cases checkProgramName (last? programNameKey entries) <;> simp

theorem exists_ofEntries_eq_ok_iff : (∃ settings, ofEntries entries = .ok settings) ↔
    ¬TrailingRefused entries ∧ ¬NameRefused entries := by
  rw [not_trailingRefused_iff, not_nameRefused_iff]
  constructor
  · rintro ⟨settings, h⟩
    obtain ⟨hallowed, hname⟩ := ofEntries_eq_ok_iff.mp h
    exact ⟨⟨_, hallowed⟩, _, hname⟩
  · rintro ⟨⟨allowed, hallowed⟩, name, hname⟩
    exact ⟨⟨allowed, name⟩, ofEntries_eq_ok_iff.mpr ⟨hallowed, hname⟩⟩

theorem ofEntries_eq_error_iff {error : InvalidSetting} : ofEntries entries = .error error ↔
    (∃ value, Gives entries allowTrailingKey value ∧ (∀ allowed, value ≠ .boolean allowed) ∧
      error = ⟨allowTrailingKey, "expected bool, got " ++ value.kindName⟩) ∨
    ¬TrailingRefused entries ∧ NameRefused entries ∧
      error = ⟨programNameKey, "must be a non-empty string"⟩ := by
  rw [not_trailingRefused_iff, NameRefused]
  simp only [← last?_eq_some_iff, ← checkAllowTrailing_eq_error_iff,
    ← checkProgramName_eq_error_iff]
  rw [ofEntries]
  cases checkAllowTrailing (last? allowTrailingKey entries) with
  | error error => simp [bind, Except.bind]
  | ok given =>
    cases checkProgramName (last? programNameKey entries) <;>
      simp [bind, Except.bind, pure, Except.pure]

theorem validates_ofEntries (entries : List (String × ConfigValue)) :
    Validates entries (ofEntries entries) := by
  have hkeys : allowTrailingKey ≠ programNameKey := by decide
  refine ⟨?_, ?_, exists_ofEntries_eq_ok_iff⟩
  · intro error
    rw [ofEntries_eq_error_iff]
    constructor
    · rintro ⟨htrailing | ⟨-, -, rfl⟩, hkey⟩
      · exact htrailing
      · exact absurd hkey.symm hkeys
    · rintro ⟨value, hgiven, hvalue, rfl⟩
      exact ⟨.inl ⟨value, hgiven, hvalue, rfl⟩, rfl⟩
  · intro error
    rw [ofEntries_eq_error_iff]
    constructor
    · rintro ⟨⟨_, -, -, rfl⟩ | hname, hkey⟩
      · exact absurd hkey hkeys
      · exact hname
    · rintro ⟨htrailing, hname, rfl⟩
      exact ⟨.inr ⟨htrailing, hname, rfl⟩, rfl⟩

theorem loads_of_ofEntries (h : ofEntries entries = .ok settings) : Loads entries settings := by
  rw [ofEntries_eq_ok_iff, checkAllowTrailing_eq_ok_iff, checkProgramName_eq_ok_iff,
    last?_eq_some_iff, last?_eq_some_iff, last?_eq_none_iff, last?_eq_none_iff] at h
  exact ⟨h.1, h.2.imp_left And.left⟩

theorem ofEntries_congr (h : ∀ key ∈ keys, last? key entries = last? key others) :
    ofEntries entries = ofEntries others := by
  rw [ofEntries, ofEntries, h allowTrailingKey (by simp [keys]), h programNameKey (by simp [keys])]

theorem ofEntries_filter (entries : List (String × ConfigValue)) :
    ofEntries (entries.filter fun entry => entry.1 ∈ keys) = ofEntries entries := by
  apply ofEntries_congr
  intro key hkey
  rw [last?_filter fun key => decide (key ∈ keys), if_pos (by simpa using hkey)]

theorem ofEntries_toEntries (h : ofEntries entries = .ok settings) :
    ofEntries settings.toEntries = .ok settings := by
  obtain ⟨-, hname⟩ := ofEntries_eq_ok_iff.mp h
  exact ofEntries_eq_ok_iff.mpr ⟨rfl, checkProgramName_text hname⟩

theorem check_of_overrides {α : Type} {key : String} (check : Option ConfigValue → α)
    (hsame : check (last? key entries) = check (last? key others))
    (hmerged : Overrides later entries merged) (hreloaded : Overrides later others reloaded) :
    check (last? key merged) = check (last? key reloaded) := by
  rw [overrides_iff.mp hmerged, overrides_iff.mp hreloaded]
  -- Where the later entries have the key, both checks are about the same value.
  cases last? key later with
  | none => exact hsame
  | some value => rfl

theorem ofEntries_of_overrides (hentries : ofEntries entries = .ok settings)
    (hothers : ofEntries others = .ok settings) (hmerged : Overrides later entries merged)
    (hreloaded : Overrides later others reloaded) : ofEntries merged = ofEntries reloaded := by
  obtain ⟨hallowed, hname⟩ := ofEntries_eq_ok_iff.mp hentries
  obtain ⟨hallowed', hname'⟩ := ofEntries_eq_ok_iff.mp hothers
  rw [ofEntries, ofEntries,
    check_of_overrides checkAllowTrailing (hallowed.trans hallowed'.symm) hmerged hreloaded,
    check_of_overrides checkProgramName (hname.trans hname'.symm) hmerged hreloaded]

theorem mem_textKeys_iff {given : List (ConfigValue × ConfigValue)} {key : String} :
    key ∈ (given.filterMap textEntry?).map Prod.fst ↔ .text key ∈ given.map Prod.fst := by
  simp only [List.mem_map, List.mem_filterMap, Prod.exists, exists_and_right, exists_eq_right]
  constructor
  · rintro ⟨value, name, item, hmem, hentry⟩
    obtain ⟨rfl, rfl⟩ := Prod.mk.inj (textEntry?_eq_some_iff.mp hentry)
    exact ⟨item, hmem⟩
  · rintro ⟨value, hmem⟩
    exact ⟨value, _, _, hmem, textEntry?_eq_some_iff.mpr rfl⟩

theorem gives_textEntries_iff {given : List (ConfigValue × ConfigValue)} {key : String}
    {value : ConfigValue} :
    Gives (given.filterMap textEntry?) key value ↔ Gives given (.text key) value := by
  constructor
  · rintro ⟨before, after, htexts, hafter⟩
    obtain ⟨front, back, rfl, -, hback⟩ := List.filterMap_eq_append_iff.mp htexts
    obtain ⟨others, entry, rest, rfl, -, hentry, rfl⟩ := List.filterMap_eq_cons_iff.mp hback
    refine ⟨front ++ others, rest, ?_, mt mem_textKeys_iff.mpr hafter⟩
    rw [textEntry?_eq_some_iff.mp hentry, List.append_assoc]
  · rintro ⟨before, after, rfl, hafter⟩
    refine ⟨before.filterMap textEntry?, after.filterMap textEntry?, ?_, mt mem_textKeys_iff.mp hafter⟩
    rw [List.filterMap_append, List.filterMap_cons_some (textEntry?_eq_some_iff.mpr rfl)]

theorem ofValue_mapping (source : String) (given : List (ConfigValue × ConfigValue)) :
    ofValue source (.mapping given) = ofEntries (given.filterMap textEntry?) := by
  cases given with
  | nil => rfl
  | cons entry given => rfl

end Loading

theorem validates_and_layers (entries : List (String × ConfigValue)) :
    Validates entries (ofEntries entries) ∧
    (∀ settings, ofEntries entries = .ok settings →
      Loads entries settings ∧ ofEntries settings.toEntries = .ok settings ∧
      ∀ later merged reloaded, Overrides later entries merged →
        Overrides later settings.toEntries reloaded → ofEntries merged = ofEntries reloaded) ∧
    (∀ later, Overrides later entries (overridden entries later)) ∧
    ofEntries (entries.filter fun entry => entry.1 ∈ keys) = ofEntries entries ∧
    (∀ others, entries.Perm others → (entries.map Prod.fst).Nodup →
      ofEntries others = ofEntries entries) ∧
    (∀ completed, Overrides entries ({} : Settings).toEntries completed →
      ofEntries completed = ofEntries entries) ∧
    ∀ source given, let texts := given.filterMap textEntry?
      (∀ key value, Gives texts key value ↔ Gives given (.text key) value) ∧
      ofValue source (.mapping given) = ofEntries texts ∧
      Validates texts (ofValue source (.mapping given)) := by
  refine ⟨validates_ofEntries entries, ?_, overrides_overridden entries, ofEntries_filter entries,
    ?_, ?_, ?_⟩
  · intro settings hload
    have hreload := ofEntries_toEntries hload
    refine ⟨loads_of_ofEntries hload, hreload, ?_⟩
    intro later merged reloaded hmerged hreloaded
    exact ofEntries_of_overrides hload hreload hmerged hreloaded
  · intro others hperm hdistinct
    apply ofEntries_congr
    intro key _
    exact last?_of_perm hperm hdistinct
  · intro completed hcompleted
    have hnone : ofEntries [] = .ok {} := rfl
    exact ofEntries_of_overrides (ofEntries_toEntries hnone) hnone hcompleted (overrides_nil entries)
  · intro source given texts
    refine ⟨fun key value => gives_textEntries_iff, ofValue_mapping source given, ?_⟩
    rw [ofValue_mapping]
    exact validates_ofEntries texts

theorem validates_and_layers_of_number :
    let entries : List (String × ConfigValue) :=
      [("colour", .null), (programNameKey, .text "\u00a0task")]
    let later : List (String × ConfigValue) :=
      [(allowTrailingKey, .integer 1), ("colour", .list [])]
    let settings : Settings := { programName := "\u00a0task" }
    let given : List (ConfigValue × ConfigValue) :=
      [(.null, .boolean true), (.text allowTrailingKey, .integer 1), (.integer 1, .boolean true)]
    ofEntries entries = .ok settings ∧ (entries.map Prod.fst).Nodup ∧
      ofEntries entries.reverse = .ok settings ∧
      ofEntries (overridden ({} : Settings).toEntries entries) = .ok settings ∧
      ofEntries settings.toEntries = .ok settings ∧
      ofEntries (overridden settings.toEntries later) =
        .error ⟨allowTrailingKey, "expected bool, got int"⟩ ∧
      ofValue "task.yaml" (.mapping given) =
        .error ⟨allowTrailingKey, "expected bool, got int"⟩ := by
  intro entries later settings given
  have hload : ofEntries entries = .ok settings := rfl
  have hdistinct : (entries.map Prod.fst).Nodup := by decide
  obtain ⟨-, hlayers, hoverridden, -, horder, homitted, hmapping⟩ := validates_and_layers entries
  obtain ⟨-, -, hdefaults, -⟩ := validates_and_layers ({} : Settings).toEntries
  obtain ⟨-, -, hreloaded, -⟩ := validates_and_layers settings.toEntries
  obtain ⟨hvalid, -⟩ := validates_and_layers (overridden entries later)
  obtain ⟨-, hreload, hsame⟩ := hlayers settings hload
  refine ⟨hload, hdistinct, ?_, ?_, hreload, ?_, ?_⟩
  · rw [horder entries.reverse entries.reverse_perm.symm hdistinct, hload]
  · rw [homitted _ (hdefaults entries), hload]
  · rw [← hsame later _ _ (hoverridden later) (hreloaded later)]
    have hgiven : Gives later allowTrailingKey (.integer 1) := ⟨[], _, rfl, by decide⟩
    have hmerged := (hoverridden later allowTrailingKey (.integer 1)).mpr (.inl hgiven)
    exact ((hvalid.trailing _).mpr ⟨.integer 1, hmerged, nofun, rfl⟩).1
  · obtain ⟨hgives, -, hchecked⟩ := hmapping "task.yaml" given
    have hgiven : Gives given (.text allowTrailingKey) (.integer 1) :=
      ⟨[(.null, .boolean true)], _, rfl, by simp⟩
    exact ((hchecked.trailing _).mpr ⟨.integer 1, (hgives _ _).mpr hgiven, nofun, rfl⟩).1

end TaskLine.Settings
