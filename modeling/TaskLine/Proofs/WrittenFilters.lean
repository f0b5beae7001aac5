import TaskLine.Proofs.FilterExtent
import TaskLine.Proofs.WrittenIds

namespace TaskLine

namespace Condition

def written : Condition → String
  | hasTag tag => "+" ++ tag
  | noTag tag => "-" ++ tag
  | statusIs status => status.argument

theorem written_injective {c other : Condition} (h : c.written = other.written) :
    c = other := by
  -- The first character tells the kinds apart, the text then the value within a kind.
  have hlist := congrArg String.toList h
  cases c <;> cases other <;> simp [written, Status.toList_argument] at h hlist
  case hasTag.hasTag => rw [h]
  case noTag.noTag => rw [h]
  case statusIs.statusIs => rw [Status.argument_injective h]

def Writable : Condition → Prop
  | hasTag tag | noTag tag => Tag.isName tag.toList
  | statusIs _ => True

theorem read_written {c : Condition} (h : c.Writable) :
    Filter.Argument.read c.written = .found (.condition c) := by
  rw [Filter.Argument.read_eq_found_iff]
  cases c with
  | hasTag tag => exact Tag.signed?_plus h
  | noTag tag => exact Tag.signed?_minus h
  | statusIs status => rfl

end Condition

namespace Filter

def Writable (filter : Filter) : Prop :=
  (filter.base = .pendingTasks ∨
    ∃ ids, filter.base = .idList ids ∧ ids ≠ [] ∧ ∀ id ∈ ids, id.Writable) ∧
  (∀ c ∈ filter.conditions, c.Writable) ∧
  (filter.base = .pendingTasks → filter.conditions.head? ≠ some (.noTag "h"))

def written (filter : Filter) : Arguments :=
  filter.base.ids.map TaskId.toString ++ filter.conditions.map Condition.written

def arguments (filter : Filter) : List Argument :=
  filter.base.ids.map (fun id => .ids [id]) ++ filter.conditions.map .condition

theorem ids_writable {filter : Filter} (h : filter.Writable) : ∀ id ∈ filter.base.ids, id.Writable := by
  rcases h.1 with hbase | ⟨ids, hbase, -, hids⟩
  · simp [hbase, Universe.ids]
  · rw [hbase]
    exact hids

theorem ofIds_ids {filter : Filter} (h : filter.Writable) :
    Universe.ofIds filter.base.ids = filter.base := by
  rcases h.1 with hbase | ⟨ids, hbase, hne, -⟩
  · rw [hbase]
    rfl
  · rw [hbase, Universe.ids]
    cases ids with
    | nil => exact absurd rfl hne
    | cons id ids => rfl

theorem map_read_written {filter : Filter} (h : filter.Writable) :
    filter.written.map Argument.read = filter.arguments.map .found := by
  have hids : ∀ id ∈ filter.base.ids, Argument.read id.toString = .found (.ids [id]) := by
    intro id hid
    rw [Argument.read_eq_found_iff]
    exact TaskId.readList_toString (ids_writable h id hid)
  have hconditions : ∀ c ∈ filter.conditions, Argument.read c.written = .found (.condition c) :=
    fun c hc => Condition.read_written (h.2.1 c hc)
  simp only [written, arguments, List.map_append, List.map_map]
  rw [List.map_congr_left (f := Argument.read ∘ TaskId.toString) hids,
    List.map_congr_left (f := Argument.read ∘ Condition.written) hconditions]
  rfl

theorem ofArguments_arguments {filter : Filter} (h : filter.Writable) :
    ofArguments filter.arguments = filter := by
  have hids : filter.arguments.flatMap Argument.listedIds = filter.base.ids := by
    have hnone : (filter.conditions.map Argument.condition).flatMap Argument.listedIds = [] := by
      rw [List.flatMap_map]
      exact List.flatMap_eq_nil_iff.mpr fun c _ => rfl
    rw [arguments, List.flatMap_append, hnone, List.append_nil, List.flatMap_map]
    exact List.flatMap_singleton' filter.base.ids
  have hconditions : filter.arguments.filterMap Argument.condition? = filter.conditions := by
    have hnone : (filter.base.ids.map fun id => Argument.ids [id]).filterMap
        Argument.condition? = [] := by
      rw [List.filterMap_map]
      exact List.filterMap_eq_nil_iff.mpr fun id _ => rfl
    rw [arguments, List.filterMap_append, hnone, List.nil_append, List.filterMap_map]
    exact List.filterMap_some
  rw [ofArguments, hids, hconditions, ofIds_ids h]

theorem parser_written {filter : Filter} {rest : Arguments} (h : filter.Writable)
    (hrest : ∀ first ∈ rest.head?, Argument.read first = .declined) :
    parser (filter.written ++ rest) = .found (filter, rest) :=
  parser_eq_found_iff.mpr
    ⟨_, _, rfl, map_read_written h, hrest, (ofArguments_arguments h).symm⟩

theorem head?_written_ne {filter : Filter} {word : String} (h : filter.Writable)
    (hword : word ≠ "-h") (rest : Arguments) :
    (filter.written ++ word :: rest).head? ≠ some "-h" := by
  have hhelp : Argument.read "-h" = .found (.condition (.noTag "h")) := by decide +kernel
  have hread := map_read_written h
  intro hhead
  cases hwritten : filter.written with
  | nil =>
    rw [hwritten, List.nil_append, List.head?_cons, Option.some.injEq] at hhead
    exact hword hhead
  | cons first others =>
    rw [hwritten, List.cons_append, List.head?_cons, Option.some.injEq] at hhead
    rw [hwritten, hhead, List.map_cons, hhelp, arguments] at hread
    rcases h.1 with hbase | ⟨ids, hbase, hne, -⟩
    · have hconditions := h.2.2 hbase
      rw [hbase] at hread
      cases hlist : filter.conditions with
      | nil => simp [hlist, Universe.ids] at hread
      | cons c conditions =>
        simp only [hlist, Universe.ids, List.map_nil, List.nil_append, List.map_cons,
          List.cons.injEq, Reading.found.injEq, Argument.condition.injEq] at hread
        rw [hlist, ← hread.1] at hconditions
        exact hconditions rfl
    · rw [hbase] at hread
      cases ids with
      | nil => exact hne rfl
      | cons id ids => simp [Universe.ids] at hread

theorem exists_spelled {taken : Arguments} {arguments : List Argument}
    (h : taken.map Argument.read = arguments.map .found) {argument : Argument}
    (hargument : argument ∈ arguments) : ∃ text, argument.Spelled text := by
  have hmem : Reading.found argument ∈ taken.map Argument.read := by
    rw [h]
    exact List.mem_map_of_mem hargument
  obtain ⟨text, -, htext⟩ := List.mem_map.mp hmem
  exact ⟨text, Argument.read_eq_found_iff.mp htext⟩

theorem Argument.ids_writable {text : String} {list : List TaskId} (h : (ids list).Spelled text) :
    ∀ id ∈ list, id.Writable := by
  intro id hid
  have hmem : Reading.found id ∈ (text.toList.splitOn ',').map TaskId.read := by
    rw [TaskId.readList_eq_found_iff.mp h]
    exact List.mem_map_of_mem hid
  obtain ⟨item, -, hitem⟩ := List.mem_map.mp hmem
  exact TaskId.writable_of_read hitem

theorem Argument.condition_writable {text : String} {c : Condition}
    (h : (condition c).Spelled text) : c.Writable := by
  cases c with
  | hasTag tag => exact (Tag.signed?_eq_some_iff.mp h).2
  | noTag tag => exact (Tag.signed?_eq_some_iff.mp h).2
  | statusIs status => trivial

theorem Argument.eq_help_of_spelled {text : String} (h : (condition (.noTag "h")).Spelled text) :
    text = "-h" := by
  have htext := (Tag.signed?_eq_some_iff.mp h).1
  exact String.toList_inj.mp htext

theorem listedIds_writable {taken : Arguments} {arguments : List Argument}
    (h : taken.map Argument.read = arguments.map .found) :
    ∀ id ∈ arguments.flatMap Argument.listedIds, id.Writable := by
  intro id hid
  obtain ⟨argument, hargument, hid⟩ := List.mem_flatMap.mp hid
  obtain ⟨text, htext⟩ := exists_spelled h hargument
  match argument with
  | .ids list => exact Argument.ids_writable htext id hid
  | .condition c => simp [Argument.listedIds] at hid

theorem conditions_writable {taken : Arguments} {arguments : List Argument}
    (h : taken.map Argument.read = arguments.map .found) :
    ∀ c ∈ arguments.filterMap Argument.condition?, c.Writable := by
  intro c hc
  obtain ⟨argument, hargument, hsome⟩ := List.mem_filterMap.mp hc
  obtain ⟨text, htext⟩ := exists_spelled h hargument
  match argument with
  | .ids list => simp [Argument.condition?] at hsome
  | .condition c' =>
    rw [Argument.condition?, Option.some.injEq] at hsome
    rw [← hsome]
    exact Argument.condition_writable htext

theorem head?_conditions_ne {taken : Arguments} {arguments : List Argument}
    (h : taken.map Argument.read = arguments.map .found) (hhead : taken.head? ≠ some "-h")
    (hbase : (ofArguments arguments).base = .pendingTasks) :
    (ofArguments arguments).conditions.head? ≠ some (.noTag "h") := by
  intro hfirst
  cases arguments with
  | nil => simp [ofArguments] at hfirst
  | cons argument arguments =>
    cases taken with
    | nil => simp at h
    | cons first taken =>
      rw [List.map_cons, List.map_cons, List.cons.injEq, Argument.read_eq_found_iff] at h
      match argument with
      | .ids list =>
        obtain ⟨id, list, rfl⟩ := List.exists_cons_of_ne_nil (TaskId.ne_nil_of_readList h.1)
        simp [ofArguments, Argument.listedIds, Universe.ofIds] at hbase
      | .condition c =>
        have hc : c = .noTag "h" := by simpa [ofArguments, Argument.condition?] using hfirst
        rw [hc] at h
        rw [Argument.eq_help_of_spelled h.1] at hhead
        exact hhead rfl

theorem writable_of_found {args rest : Arguments} {filter : Filter}
    (h : parser args = .found (filter, rest)) (hhead : args.head? ≠ some "-h") :
    filter.Writable := by
  obtain ⟨taken, arguments, rfl, hread, -, rfl⟩ := parser_eq_found_iff.mp h
  refine ⟨?_, conditions_writable hread, ?_⟩
  · have hids := listedIds_writable hread
    simp only [ofArguments]
    cases hlist : arguments.flatMap Argument.listedIds with
    | nil => exact .inl rfl
    | cons id ids =>
      rw [hlist] at hids
      exact .inr ⟨id :: ids, rfl, by simp, hids⟩
  · intro hbase
    apply head?_conditions_ne hread _ hbase
    intro htaken
    rw [List.head?_append, htaken] at hhead
    exact hhead rfl

end Filter

end TaskLine
