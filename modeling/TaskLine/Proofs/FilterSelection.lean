import TaskLine.Proofs.Openings
import TaskLine.Proofs.WrittenFilters

namespace TaskLine

namespace Filter

def listedItems (taken : Arguments) : List (List Char) :=
  (taken.filter (ListsIds ·)).flatMap fun text => text.toList.splitOn ','

def conditionWords (taken : Arguments) : Arguments := taken.filter (¬ ListsIds ·)

structure Selects (filter : Filter) (taken : Arguments) : Prop where
  ids : (listedItems taken).map TaskId.read = filter.base.ids.map .found
  pending : filter.base = .pendingTasks ↔ listedItems taken = []
  conditions : filter.conditions.map Condition.written = conditionWords taken

def followedBy (front back : Filter) : Filter where
  base := Universe.ofIds (front.base.ids ++ back.base.ids)
  conditions := front.conditions ++ back.conditions

section Forms

variable {text : String}

theorem not_listsIds_of_not_hex {c : Char} {rest : List Char} (htext : text.toList = c :: rest)
    (hc : Text.isHexDigit c = false) : ¬ ListsIds text := by
  rw [listsIds_iff, TaskId.readList_of_not_hex htext hc]
  simp

theorem not_listsIds_of_isSigned (h : Tag.IsSigned text) : ¬ ListsIds text := by
  obtain ⟨sign, name, hsign, -, htext⟩ := h
  apply not_listsIds_of_not_hex htext
  rcases hsign with rfl | rfl <;> decide

theorem not_listsIds_of_namesStatus (h : NamesStatus text) : ¬ ListsIds text := by
  obtain ⟨status, rfl⟩ := h
  apply not_listsIds_of_not_hex (Status.toList_argument status)
  decide

theorem not_isSigned_of_namesStatus (h : NamesStatus text) : ¬ Tag.IsSigned text := by
  obtain ⟨status, rfl⟩ := h
  rintro ⟨sign, name, hsign, -, htext⟩
  rw [Status.toList_argument, List.cons.injEq] at htext
  rw [← htext.1] at hsign
  revert hsign
  decide

theorem forms_disjoint (text : String) :
    ¬ (ListsIds text ∧ Tag.IsSigned text) ∧ ¬ (ListsIds text ∧ NamesStatus text) ∧
      ¬ (Tag.IsSigned text ∧ NamesStatus text) := by
  refine ⟨?_, ?_, ?_⟩
  · rintro ⟨hids, hsigned⟩
    exact not_listsIds_of_isSigned hsigned hids
  · rintro ⟨hids, hstatus⟩
    exact not_listsIds_of_namesStatus hstatus hids
  · rintro ⟨hsigned, hstatus⟩
    exact not_isSigned_of_namesStatus hstatus hsigned

theorem spelled_ids {list : List TaskId} (h : (Argument.ids list).Spelled text) :
    ListsIds text ∧ (text.toList.splitOn ',').map TaskId.read = list.map .found :=
  ⟨listsIds_iff.mpr ⟨list, h⟩, TaskId.readList_eq_found_iff.mp h⟩

theorem spelled_condition {c : Condition} (h : (Argument.condition c).Spelled text) :
    ¬ ListsIds text ∧ c.written = text := by
  cases c with
  | hasTag tag =>
    refine ⟨not_listsIds_of_isSigned (Tag.isSigned_of_signed? (.inl rfl) h), ?_⟩
    rw [← String.toList_inj, (Tag.signed?_eq_some_iff.mp h).1, Condition.written,
      String.toList_append]
    rfl
  | noTag tag =>
    refine ⟨not_listsIds_of_isSigned (Tag.isSigned_of_signed? (.inr rfl) h), ?_⟩
    rw [← String.toList_inj, (Tag.signed?_eq_some_iff.mp h).1, Condition.written,
      String.toList_append]
    rfl
  | statusIs status =>
    have htext : text = status.argument := h
    exact ⟨not_listsIds_of_namesStatus ⟨status, htext⟩, htext.symm⟩

end Forms

theorem listedItems_cons_of_listsIds {text : String} (h : ListsIds text) (taken : Arguments) :
    listedItems (text :: taken) = text.toList.splitOn ',' ++ listedItems taken := by
  simp [listedItems, h]

theorem listedItems_cons_of_not {text : String} (h : ¬ ListsIds text) (taken : Arguments) :
    listedItems (text :: taken) = listedItems taken := by
  simp [listedItems, h]

theorem exists_cons_of_map_read {text : String} {taken : Arguments} {arguments : List Argument}
    (h : (text :: taken).map Argument.read = arguments.map .found) :
    ∃ argument others, arguments = argument :: others ∧ argument.Spelled text ∧
      taken.map Argument.read = others.map .found := by
  cases arguments with
  | nil => simp at h
  | cons argument others =>
    rw [List.map_cons, List.map_cons, List.cons.injEq, Argument.read_eq_found_iff] at h
    exact ⟨argument, others, rfl, h⟩

theorem map_read_listedItems {taken : Arguments} {arguments : List Argument}
    (h : taken.map Argument.read = arguments.map .found) :
    (listedItems taken).map TaskId.read =
      (arguments.flatMap Argument.listedIds).map .found := by
  induction taken generalizing arguments with
  | nil =>
    rw [List.map_nil, eq_comm, List.map_eq_nil_iff] at h
    rw [h]
    rfl
  | cons text taken ih =>
    obtain ⟨argument, others, rfl, hspelled, hothers⟩ := exists_cons_of_map_read h
    rw [List.flatMap_cons, List.map_append, ← ih hothers]
    match argument with
    | .ids list =>
      obtain ⟨hids, hread⟩ := spelled_ids hspelled
      rw [listedItems_cons_of_listsIds hids, List.map_append, hread]
      rfl
    | .condition c =>
      rw [listedItems_cons_of_not (spelled_condition hspelled).1]
      rfl

theorem map_written_conditions {taken : Arguments} {arguments : List Argument}
    (h : taken.map Argument.read = arguments.map .found) :
    (arguments.filterMap Argument.condition?).map Condition.written = conditionWords taken := by
  induction taken generalizing arguments with
  | nil =>
    rw [List.map_nil, eq_comm, List.map_eq_nil_iff] at h
    rw [h]
    rfl
  | cons text taken ih =>
    obtain ⟨argument, others, rfl, hspelled, hothers⟩ := exists_cons_of_map_read h
    match argument with
    | .ids list =>
      have hids := (spelled_ids hspelled).1
      rw [List.filterMap_cons_none rfl, ih hothers]
      simp [conditionWords, hids]
    | .condition c =>
      obtain ⟨hnot, hwritten⟩ := spelled_condition hspelled
      have hhead : (Argument.condition c).condition? = some c := rfl
      rw [List.filterMap_cons_some hhead, List.map_cons, ih hothers, hwritten]
      simp [conditionWords, hnot]

theorem selects_ofArguments {taken : Arguments} {arguments : List Argument}
    (h : taken.map Argument.read = arguments.map .found) : (ofArguments arguments).Selects taken := by
  have hids := map_read_listedItems h
  refine ⟨?_, ?_, map_written_conditions h⟩
  · rw [hids, ofArguments, Universe.ids_ofIds]
  · have hlength := congrArg List.length hids
    rw [List.length_map, List.length_map] at hlength
    rw [← List.length_eq_zero_iff, hlength, List.length_eq_zero_iff]
    simp only [ofArguments]
    cases arguments.flatMap Argument.listedIds <;> simp [Universe.ofIds]

theorem Selects.unique {filter other : Filter} {taken : Arguments} (h : filter.Selects taken)
    (hother : other.Selects taken) : filter = other := by
  have hids : filter.base.ids = other.base.ids := by
    have hmap := h.ids.symm.trans hother.ids
    rwa [List.map_inj_right (fun _ _ heq => Reading.found.inj heq)] at hmap
  have hpending : filter.base = .pendingTasks ↔ other.base = .pendingTasks :=
    h.pending.trans hother.pending.symm
  have hconditions : filter.conditions = other.conditions := by
    have hmap := h.conditions.trans hother.conditions.symm
    rwa [List.map_inj_right (fun _ _ heq => Condition.written_injective heq)] at hmap
  obtain ⟨base, conditions⟩ := filter
  obtain ⟨base', conditions'⟩ := other
  simp only at hids hpending hconditions
  rw [hconditions]
  congr 1
  -- The pending tasks and an empty list have the same ids: only the second field tells them apart.
  cases base with
  | pendingTasks => exact (hpending.mp rfl).symm
  | idList ids =>
    cases base' with
    | pendingTasks => exact hpending.mpr rfl
    | idList ids' => exact congrArg Universe.idList hids

theorem Selects.of_same {filter : Filter} {taken others : Arguments} (h : filter.Selects taken)
    (hitems : listedItems taken = listedItems others)
    (hwords : conditionWords taken = conditionWords others) : filter.Selects others := by
  obtain ⟨hids, hpending, hconditions⟩ := h
  rw [hitems] at hids hpending
  rw [hwords] at hconditions
  exact ⟨hids, hpending, hconditions⟩

theorem exists_parser_of_arguments {taken : Arguments} (h : ∀ text ∈ taken, IsArgument text) :
    ∃ filter, parser taken = .found (filter, []) ∧ filter.Selects taken := by
  obtain ⟨filter, hfilter⟩ := parser_all_iff.mpr h
  obtain ⟨arguments, hread, rfl⟩ := parser_eq_found_nil_iff.mp hfilter
  exact ⟨_, hfilter, selects_ofArguments hread⟩

section Run

variable (args : Arguments)

theorem isArgument_of_mem_takeWhile :
    ∀ text ∈ args.takeWhile (IsArgument ·), IsArgument text := by
  have hall := List.all_takeWhile (p := (decide <| IsArgument ·)) (l := args)
  rw [List.all_eq_true] at hall
  intro text htext
  exact of_decide_eq_true (hall text htext)

theorem not_isArgument_of_head?_dropWhile :
    ∀ text ∈ (args.dropWhile (IsArgument ·)).head?, ¬ IsArgument text := by
  intro text htext
  have hhead := List.head?_dropWhile_not (decide <| IsArgument ·) args
  rw [Option.mem_def.mp htext] at hhead
  exact of_decide_eq_false hhead

theorem stallsAt_iff_head? {digits : Nat} :
    StallsAt args digits ↔
      ∃ text ∈ (args.dropWhile (IsArgument ·)).head?, TaskId.HoldsOverlong text digits := by
  constructor
  · rintro ⟨taken, text, rest, rfl, htaken, htext⟩
    refine ⟨text, ?_, htext⟩
    have hnot := not_isArgument_of_overlong htext
    rw [List.dropWhile_append_of_pos (by simpa using htaken),
      List.dropWhile_cons_of_neg (by simpa using hnot)]
    rfl
  · rintro ⟨text, hhead, htext⟩
    obtain ⟨rest, hrest⟩ := List.head?_eq_some_iff.mp hhead
    refine ⟨args.takeWhile (IsArgument ·), text, rest, ?_, isArgument_of_mem_takeWhile args, htext⟩
    rw [← hrest, List.takeWhile_append_dropWhile]

theorem parser_of_not_stalls (h : ¬ Stalls args) :
    ∃ filter, parser args = .found (filter, args.dropWhile (IsArgument ·)) ∧
      filter.Selects (args.takeWhile (IsArgument ·)) := by
  obtain ⟨filter, hfilter, hselects⟩ :=
    exists_parser_of_arguments (isArgument_of_mem_takeWhile args)
  refine ⟨filter, ?_, hselects⟩
  apply parser_eq_found_iff_taken.mpr
  refine ⟨_, List.takeWhile_append_dropWhile.symm, hfilter, ?_⟩
  -- It remains that the run ends where it does because the next argument is declined.
  intro first hfirst
  cases hread : Argument.read first with
  | found argument =>
    have hnot := not_isArgument_of_head?_dropWhile args first hfirst
    exact absurd (Argument.isArgument_iff.mpr ⟨argument, hread⟩) hnot
  | declined => rfl
  | overlong digits =>
    have hholds := Argument.read_eq_overlong_iff.mp hread
    exact absurd ⟨digits, (stallsAt_iff_head? args).mpr ⟨first, hfirst, hholds⟩⟩ h

end Run

theorem ofArguments_append (front back : List Argument) :
    ofArguments (front ++ back) = (ofArguments front).followedBy (ofArguments back) := by
  simp only [ofArguments, followedBy, Universe.ids_ofIds, List.flatMap_append,
    List.filterMap_append]

theorem parser_arguments_append {taken : Arguments} {front : Filter}
    (h : parser taken = .found (front, [])) (args : Arguments) :
    parser (taken ++ args) =
      (parser args).map fun (filter, rest) => (front.followedBy filter, rest) := by
  obtain ⟨arguments, hread, rfl⟩ := parser_eq_found_nil_iff.mp h
  cases hargs : parser args with
  | found answer =>
    obtain ⟨filter, rest⟩ := answer
    obtain ⟨others, back, rfl, hback, hrest, rfl⟩ := parser_eq_found_iff.mp hargs
    simp only [Reading.map_found]
    rw [← ofArguments_append]
    apply parser_eq_found_iff.mpr
    refine ⟨taken ++ others, arguments ++ back, ?_, ?_, hrest, rfl⟩
    · rw [List.append_assoc]
    · rw [List.map_append, List.map_append, hread, hback]
  | declined => exact absurd hargs (parser_ne_declined args)
  | overlong digits =>
    obtain ⟨others, text, rest, rfl, hothers, htext⟩ := parser_eq_overlong_iff.mp hargs
    have htaken := parser_all_iff.mp ⟨_, h⟩
    rw [Reading.map_overlong]
    apply parser_eq_overlong_iff.mpr
    refine ⟨taken ++ others, text, rest, ?_, ?_, htext⟩
    · rw [List.append_assoc]
    · exact List.forall_mem_append.mpr ⟨htaken, hothers⟩

theorem isArgument_of_same {taken others : Arguments} (htaken : ∀ text ∈ taken, IsArgument text)
    (hwords : conditionWords taken = conditionWords others) : ∀ text ∈ others, IsArgument text := by
  intro text htext
  by_cases hids : ListsIds text
  · exact .inl hids
  · -- A word that lists no ids is a condition word of the others, so it was taken before.
    have hmem : text ∈ conditionWords others := List.mem_filter.mpr ⟨htext, by simpa using hids⟩
    rw [← hwords] at hmem
    exact htaken text (List.mem_filter.mp hmem).1

theorem parser_of_same {taken others : Arguments} (htaken : ∀ text ∈ taken, IsArgument text)
    (hitems : listedItems taken = listedItems others)
    (hwords : conditionWords taken = conditionWords others) (args : Arguments) :
    parser (taken ++ args) = parser (others ++ args) := by
  obtain ⟨front, hfront, hselects⟩ := exists_parser_of_arguments htaken
  obtain ⟨other, hother, hselects'⟩ :=
    exists_parser_of_arguments (isArgument_of_same htaken hwords)
  have hsame : front = other := (hselects.of_same hitems hwords).unique hselects'
  rw [parser_arguments_append hfront, parser_arguments_append hother, hsame]

theorem parser_eq_longest_run :
    (∀ text,
      ((∃ filter, parser [text] = .found (filter, [])) ↔
        ListsIds text ∨ Tag.IsSigned text ∨ NamesStatus text) ∧
      ¬ (ListsIds text ∧ Tag.IsSigned text) ∧ ¬ (ListsIds text ∧ NamesStatus text) ∧
      ¬ (Tag.IsSigned text ∧ NamesStatus text)) ∧
    (∀ args,
      let taken := args.takeWhile (IsArgument ·)
      let rest := args.dropWhile (IsArgument ·)
      (∀ digits, parser args = .overlong digits ↔
        ∃ text ∈ rest.head?, TaskId.HoldsOverlong text digits) ∧
      ((∃ digits, parser args = .overlong digits) ∨
        ∃ filter, parser args = .found (filter, rest) ∧ filter.Selects taken)) ∧
    (∀ taken args, (∀ text ∈ taken, IsArgument text) →
      ∃ front, parser taken = .found (front, []) ∧
        parser (taken ++ args) =
          (parser args).map fun (filter, rest) => (front.followedBy filter, rest)) ∧
    ∀ taken others args, (∀ text ∈ taken, IsArgument text) →
      listedItems taken = listedItems others → conditionWords taken = conditionWords others →
      parser (taken ++ args) = parser (others ++ args) := by
  refine ⟨fun text => ⟨exists_parser_singleton_iff, forms_disjoint text⟩, ?_, ?_, ?_⟩
  · intro args taken rest
    have hoverlong (digits : Nat) : parser args = .overlong digits ↔
        ∃ text ∈ rest.head?, TaskId.HoldsOverlong text digits := by
      rw [parser_eq_overlong_iff]
      exact stallsAt_iff_head? args
    refine ⟨hoverlong, ?_⟩
    by_cases hstalls : Stalls args
    · obtain ⟨digits, hdigits⟩ := hstalls
      exact .inl ⟨digits, parser_eq_overlong_iff.mpr hdigits⟩
    · exact .inr (parser_of_not_stalls args hstalls)
  · intro taken args htaken
    obtain ⟨front, hfront, -⟩ := exists_parser_of_arguments htaken
    exact ⟨front, hfront, parser_arguments_append hfront args⟩
  · intro taken others args htaken hitems hwords
    exact parser_of_same htaken hitems hwords args

theorem parser_eq_longest_run_mixed :
    let taken := ["12,abcd1234", "+a", "13", "-h"]
    let others := ["+a", "12", "-h", "abcd1234,13"]
    let args := ["status:deleted", "list", "+b"]
    (∀ text ∈ taken, IsArgument text) ∧ listedItems taken = listedItems others ∧
      conditionWords taken = conditionWords others ∧
      parser (taken ++ args) = parser (others ++ args) ∧
      ∃ front, parser taken = .found (front, []) ∧
        parser (taken ++ args) =
          .found (front.followedBy { conditions := [.statusIs .deleted] }, ["list", "+b"]) := by
  intro taken others args
  have htaken : ∀ text ∈ taken, IsArgument text := by decide +kernel
  have hitems : listedItems taken = listedItems others := by decide +kernel
  have hwords : conditionWords taken = conditionWords others := by decide +kernel
  obtain ⟨-, -, happend, hsame⟩ := parser_eq_longest_run
  obtain ⟨front, hfront, hargs⟩ := happend taken args htaken
  refine ⟨htaken, hitems, hwords, hsame taken others args htaken hitems hwords, front, hfront, ?_⟩
  have hstatus : parser args =
      .found ({ conditions := [.statusIs .deleted] }, ["list", "+b"]) := by decide +kernel
  rw [hargs, hstatus]
  rfl

end Filter

end TaskLine
