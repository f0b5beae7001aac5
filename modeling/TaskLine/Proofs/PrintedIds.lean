import TaskLine.Proofs.AcceptedIds

/-!
Task ids printed with commas between them and read back. What comes back is what was printed, except
that a partial UUID which is all digits comes back as the number that they denote.
-/

namespace TaskLine

namespace TaskId

def reread : TaskId → TaskId
  | workingSet number positive => workingSet number positive
  | partialUuid text =>
    if h : IsDigits text ∧ 0 < number text then workingSet (number text) h.2 else partialUuid text

section One

variable {id : TaskId} {text : String}

theorem isAbbreviatedUuid_of_wellFormed (h : (partialUuid text).WellFormed) :
    IsAbbreviatedUuid text :=
  isPartialUuid_iff_isAbbreviatedUuid.mp (isPartialUuid_of_isLowerHex h)

theorem isNumeral_of_isDigits (h : (partialUuid text).WellFormed) (hdigits : IsDigits text) :
    isNumeral text.toList := by
  refine isNumeral_iff.mpr ⟨?_, hdigits⟩
  intro hnil
  rw [wellFormed_partialUuid, hnil] at h
  exact Bool.noConfusion h

theorem number_pos_of_isDigits (h : (partialUuid text).WellFormed) (hzero : ¬ IsZeroUuid text)
    (hdigits : IsDigits text) : 0 < number text :=
  pos_of_isAbbreviatedUuid (isAbbreviatedUuid_of_wellFormed h) hzero
    (isNumeral_of_isDigits h hdigits)

theorem reread_of_not_isDigits (h : ∀ text, id = partialUuid text → ¬ IsDigits text) :
    id.reread = id := by
  cases id with
  | workingSet number positive => rfl
  | partialUuid text => exact dif_neg fun hdigits => h text rfl hdigits.1

theorem reread_of_isDigits (hdigits : IsDigits text) (hpositive : 0 < number text) :
    (partialUuid text).reread = workingSet (number text) hpositive :=
  dif_pos ⟨hdigits, hpositive⟩

theorem reread_eq_self_iff (h : id.WellFormed)
    (hzero : ∀ text, id = partialUuid text → ¬ IsZeroUuid text) :
    id.reread = id ↔ ∀ text, id = partialUuid text → ¬ IsDigits text := by
  constructor
  · rintro hself text rfl hdigits
    rw [reread_of_isDigits hdigits (number_pos_of_isDigits h (hzero text rfl) hdigits)] at hself
    cases hself
  · exact reread_of_not_isDigits

theorem read_toString_eq_reread (h : id.WellFormed)
    (hzero : ∀ text, id = partialUuid text → ¬ IsZeroUuid text) :
    read id.toString.toList = .found id.reread := by
  cases id with
  | workingSet number positive =>
    exact read_toString ⟨h, nofun⟩
  | partialUuid text =>
    by_cases hdigits : IsDigits text
    · have hpositive := number_pos_of_isDigits h (hzero text rfl) hdigits
      have hlength : text.toList.length ≤ Numeral.maxDigits := by
        rw [String.length_toList]
        exact Nat.le_trans (isAbbreviatedUuid_of_wellFormed h).atMost (by decide)
      rw [reread_of_isDigits hdigits hpositive, read_eq_found_iff]
      exact .inl ⟨isNumeral_of_isDigits h hdigits, hlength, hpositive, rfl⟩
    · have hnot : ∀ other, partialUuid text = partialUuid other → ¬ IsDigits other := by
        rintro _ ⟨⟩
        exact hdigits
      rw [read_toString ⟨h, hnot⟩, reread_of_not_isDigits hnot]

end One

section Lists

variable {ids : List TaskId}

theorem splitOn_printed (hne : ids ≠ []) (hcomma : ∀ id ∈ ids, ',' ∉ id.toString.toList) :
    (",".intercalate (ids.map toString)).toList.splitOn ',' = ids.map (·.toString.toList) := by
  rw [String.toList_intercalate, List.map_map]
  apply List.splitOn_intercalate
  · exact List.forall_mem_map.mpr hcomma
  · simpa using hne

theorem readList_printed (hne : ids ≠ []) (h : ∀ id ∈ ids, id.WellFormed)
    (hzero : ∀ text, partialUuid text ∈ ids → ¬ IsZeroUuid text) :
    readList (",".intercalate (ids.map toString)) = .found (ids.map reread) := by
  have hread : ∀ id ∈ ids, read id.toString.toList = .found id.reread := by
    intro id hid
    apply read_toString_eq_reread (h id hid)
    rintro text rfl
    exact hzero text hid
  have hsplit := splitOn_printed hne fun id hid => comma_not_mem_of_read (hread id hid)
  rw [readList_eq_found_iff, hsplit, List.map_map, List.map_map]
  exact List.map_congr_left hread

theorem map_reread_eq_self_iff (h : ∀ id ∈ ids, id.WellFormed)
    (hzero : ∀ text, partialUuid text ∈ ids → ¬ IsZeroUuid text) :
    ids.map reread = ids ↔ ∀ text, partialUuid text ∈ ids → ¬ IsDigits text := by
  have hself : ids.map reread = ids ↔ ∀ id ∈ ids, id.reread = id := by
    simpa using List.map_inj_left (f := reread) (g := id) (l := ids)
  rw [hself]
  constructor
  · intro hall text htext
    apply (reread_eq_self_iff (h _ htext) _).mp (hall _ htext) text rfl
    rintro _ ⟨⟩
    exact hzero text htext
  · intro hdigits id hid
    apply reread_of_not_isDigits
    rintro text rfl
    exact hdigits text hid

end Lists

theorem listParser_printed {ids : List TaskId} (hne : ids ≠ []) (h : ∀ id ∈ ids, id.WellFormed)
    (hzero : ∀ text, partialUuid text ∈ ids → ¬ IsZeroUuid text) (rest : Arguments) :
    listParser (",".intercalate (ids.map toString) :: rest) = .found (ids.map reread, rest) ∧
      (ids.map reread = ids ↔ ∀ text, partialUuid text ∈ ids → ¬ IsDigits text) := by
  refine ⟨?_, map_reread_eq_self_iff h hzero⟩
  rw [listParser_cons, readList_printed hne h hzero, Reading.map_found]

theorem listParser_printed_mixed :
    let twelve := workingSet 12 (by decide)
    let uuid := partialUuid "abcd1234-ef"
    let ids := [twelve, uuid, partialUuid "00000012"]
    ids ≠ [] ∧ (∀ id ∈ ids, id.WellFormed) ∧
      (∀ text, partialUuid text ∈ ids → ¬ IsZeroUuid text) ∧
      listParser ["12,abcd1234-ef,00000012", "list"] = .found ([twelve, uuid, twelve], ["list"]) := by
  intro twelve uuid ids
  have hne : ids ≠ [] := by simp [ids]
  have htwelve : twelve.WellFormed := by
    have hpower : 10 ^ 2 ≤ 10 ^ Numeral.maxDigits := Nat.pow_le_pow_right (by decide) (by decide)
    exact Nat.lt_of_lt_of_le (by decide) hpower
  have hwellFormed : ∀ id ∈ ids, id.WellFormed := by
    simp only [ids, List.forall_mem_cons]
    exact ⟨htwelve, wellFormed_partialUuid.mpr (by decide +kernel),
      wellFormed_partialUuid.mpr (by decide +kernel), by simp⟩
  have hzero : ∀ text, partialUuid text ∈ ids → ¬ IsZeroUuid text := by
    intro text htext hzeros
    simp only [ids, List.mem_cons, List.not_mem_nil, or_false, reduceCtorEq, false_or,
      partialUuid.injEq, twelve, uuid] at htext
    rcases htext with rfl | rfl
    · exact absurd (hzeros.zeros 'a' (by decide +kernel)) (by decide)
    · exact absurd (hzeros.zeros '1' (by decide +kernel)) (by decide)
  have hprinted : ",".intercalate (ids.map toString) = "12,abcd1234-ef,00000012" := by decide +kernel
  have hreread : ids.map reread = [twelve, uuid, twelve] := by decide +kernel
  obtain ⟨hlist, -⟩ := listParser_printed hne hwellFormed hzero ["list"]
  rw [hprinted, hreread] at hlist
  exact ⟨hne, hwellFormed, hzero, hlist⟩

theorem digit_uuid_read_as_number :
    let uuid := partialUuid "12345678"
    uuid.WellFormed ∧
      listParser [",".intercalate ([uuid].map toString)] =
        .found ([workingSet 12345678 (by decide)], []) ∧
      listParser [",".intercalate ([uuid].map toString)] ≠ .found ([uuid], []) := by
  intro uuid
  have hlist : listParser [",".intercalate ([uuid].map toString)] =
      .found ([workingSet 12345678 (by decide)], []) := by decide +kernel
  refine ⟨wellFormed_partialUuid.mpr (by decide +kernel), hlist, ?_⟩
  rw [hlist]
  decide

end TaskId

end TaskLine
