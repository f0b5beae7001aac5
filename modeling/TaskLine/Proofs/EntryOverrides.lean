import TaskLine.Settings

namespace TaskLine.Settings

/-- Of entries with the same key the last one counts. -/
def Gives {κ : Type} (entries : List (κ × ConfigValue)) (key : κ) (value : ConfigValue) : Prop :=
  ∃ before after, entries = before ++ (key, value) :: after ∧ key ∉ after.map Prod.fst

/-- The earlier entries are asked only for the keys that the later ones do not have. -/
def Overrides (later earlier merged : List (String × ConfigValue)) : Prop :=
  ∀ key value, Gives merged key value ↔
    Gives later key value ∨ key ∉ later.map Prod.fst ∧ Gives earlier key value

def overridden (earlier later : List (String × ConfigValue)) : List (String × ConfigValue) :=
  earlier.map (fun entry => (entry.1, (last? entry.1 later).getD entry.2)) ++
    later.filter fun entry => entry.1 ∉ earlier.map Prod.fst

variable {entries others later earlier merged : List (String × ConfigValue)} {key : String}
  {value : ConfigValue}

theorem last?_cons (entry : String × ConfigValue) : last? key (entry :: entries) =
    (last? key entries).or (if entry.1 = key then some entry.2 else none) := by
  rw [last?, List.reverse_cons, List.find?_append, Option.map_or, ← last?]
  by_cases hkey : entry.1 = key <;> simp [hkey]

theorem last?_append :
    last? key (earlier ++ later) = (last? key later).or (last? key earlier) := by
  rw [last?, List.reverse_append, List.find?_append, Option.map_or]
  rfl

theorem last?_eq_none_iff : last? key entries = none ↔ key ∉ entries.map Prod.fst := by
  simp only [last?, Option.map_eq_none_iff, List.find?_eq_none, List.mem_reverse, List.mem_map,
    decide_eq_true_eq, not_exists, not_and]

theorem last?_eq_some_iff : last? key entries = some value ↔ Gives entries key value := by
  constructor
  · intro h
    obtain ⟨⟨found, _⟩, hfound, rfl⟩ := Option.map_eq_some_iff.mp h
    -- The search starts from the back, so what it passes stands behind the entry it finds.
    obtain ⟨hkey, after, before, hentries, hafter⟩ := List.find?_eq_some_iff_append.mp hfound
    obtain rfl := of_decide_eq_true hkey
    refine ⟨before.reverse, after.reverse, ?_, ?_⟩
    · simpa using congrArg List.reverse hentries
    · rw [List.map_reverse, List.mem_reverse]
      intro hmem
      obtain ⟨entry, hentry, hsame⟩ := List.mem_map.mp hmem
      simpa [hsame] using hafter entry hentry
  · rintro ⟨before, after, rfl, hafter⟩
    rw [last?_append, last?_cons, last?_eq_none_iff.mpr hafter]
    simp

theorem last?_map (adjust : String → ConfigValue → ConfigValue) :
    last? key (entries.map fun entry => (entry.1, adjust entry.1 entry.2)) =
      (last? key entries).map (adjust key) := by
  induction entries with
  | nil => rfl
  | cons entry entries ih =>
    rw [List.map_cons, last?_cons, last?_cons, ih, Option.map_or]
    by_cases hkey : entry.1 = key <;> simp [hkey]

theorem last?_filter (kept : String → Bool) :
    last? key (entries.filter fun entry => kept entry.1) =
      if kept key then last? key entries else none := by
  induction entries with
  | nil => simp [last?]
  | cons entry entries ih =>
    rw [List.filter_cons, last?_cons]
    by_cases hkey : entry.1 = key
    · subst hkey
      cases hkept : kept entry.1
      · simpa [hkept] using ih
      · simp [hkept, ih, last?_cons]
    · cases hkept : kept entry.1 <;> simp [hkey, ih, last?_cons]

theorem overrides_iff : Overrides later earlier merged ↔
    ∀ key, last? key merged = (last? key later).or (last? key earlier) := by
  simp only [Overrides, ← last?_eq_some_iff, ← last?_eq_none_iff, ← Option.or_eq_some_iff]
  constructor
  · intro h key
    exact Option.ext (h key)
  · intro h key value
    rw [h]

theorem overrides_overridden (earlier later : List (String × ConfigValue)) :
    Overrides later earlier (overridden earlier later) := by
  apply overrides_iff.mpr
  intro key
  -- Behind stand only keys that are new, so a key of the earlier entries is found where it was.
  rw [overridden, last?_append, last?_filter (fun key => decide (key ∉ earlier.map Prod.fst)),
    last?_map fun key value => (last? key later).getD value]
  by_cases hkey : key ∈ earlier.map Prod.fst
  · have hgiven : last? key earlier ≠ none := fun hnone => last?_eq_none_iff.mp hnone hkey
    obtain ⟨value, hvalue⟩ := Option.ne_none_iff_exists'.mp hgiven
    rw [hvalue, if_neg (by simpa using hkey)]
    cases last? key later <;> rfl
  · rw [last?_eq_none_iff.mpr hkey, if_pos (by simpa using hkey), Option.map_none]

theorem overrides_nil (entries : List (String × ConfigValue)) : Overrides entries [] entries := by
  apply overrides_iff.mpr
  intro key
  exact Option.or_none.symm

theorem gives_iff_mem (hdistinct : (entries.map Prod.fst).Nodup) :
    Gives entries key value ↔ (key, value) ∈ entries := by
  constructor
  · rintro ⟨before, after, rfl, -⟩
    simp
  · intro h
    obtain ⟨before, after, rfl⟩ := List.append_of_mem h
    refine ⟨before, after, rfl, ?_⟩
    rw [List.map_append, List.map_cons] at hdistinct
    exact (List.nodup_cons.mp (List.nodup_append.mp hdistinct).2.1).1

theorem last?_of_perm (hperm : entries.Perm others) (hdistinct : (entries.map Prod.fst).Nodup) :
    last? key others = last? key entries := by
  have hothers : (others.map Prod.fst).Nodup := (hperm.map Prod.fst).nodup_iff.mp hdistinct
  apply Option.ext
  intro value
  rw [last?_eq_some_iff, last?_eq_some_iff, gives_iff_mem hothers, gives_iff_mem hdistinct,
    hperm.mem_iff]

end TaskLine.Settings
