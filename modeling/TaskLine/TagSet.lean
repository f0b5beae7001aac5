/-!
Finite sets of tag names, kept as strictly increasing lists, so that equal sets are equal values.
-/

namespace TaskLine

structure TagSet where
  names : List String
  increasing : names.Pairwise (· < ·)
deriving DecidableEq, Repr

namespace TagSet

def insertName (name : String) : List String → List String
  | [] => [name]
  | first :: rest =>
    if name < first then name :: first :: rest
    else if name = first then first :: rest
    else first :: insertName name rest

theorem mem_insertName {name tag : String} {names : List String} :
    tag ∈ insertName name names ↔ tag = name ∨ tag ∈ names := by
  induction names with
  | nil => simp [insertName]
  | cons first rest ih =>
    unfold insertName
    split
    · simp
    · split
      · next h => simp [h]
      · simp only [List.mem_cons, ih]
        grind

theorem insertName_increasing {name : String} {names : List String}
    (h : names.Pairwise (· < ·)) : (insertName name names).Pairwise (· < ·) := by
  induction names with
  | nil => simp [insertName]
  | cons first rest ih =>
    obtain ⟨hfirst, hrest⟩ := List.pairwise_cons.1 h
    unfold insertName
    split
    · next hlt =>
      refine List.pairwise_cons.2 ⟨fun tag htag => ?_, h⟩
      rcases List.mem_cons.1 htag with rfl | htag
      · exact hlt
      · exact String.lt_trans hlt (hfirst tag htag)
    · split
      · exact h
      · next hlt hne =>
        refine List.pairwise_cons.2 ⟨fun tag htag => ?_, ih hrest⟩
        rcases mem_insertName.1 htag with rfl | htag
        · exact Decidable.byContradiction fun hn =>
            hne (String.le_antisymm (String.not_lt.1 hn) (String.not_lt.1 hlt))
        · exact hfirst tag htag

def empty : TagSet := ⟨[], .nil⟩

def insert (name : String) (tags : TagSet) : TagSet :=
  ⟨insertName name tags.names, insertName_increasing tags.increasing⟩

def ofList (names : List String) : TagSet := names.foldr insert empty

instance : Membership String TagSet := ⟨fun tags name => name ∈ tags.names⟩

instance : EmptyCollection TagSet := ⟨empty⟩

instance : Inhabited TagSet := ⟨empty⟩

theorem mem_def {name : String} {tags : TagSet} : name ∈ tags ↔ name ∈ tags.names := Iff.rfl

@[simp] theorem mem_insert {name tag : String} {tags : TagSet} :
    tag ∈ tags.insert name ↔ tag = name ∨ tag ∈ tags := mem_insertName

@[simp] theorem mem_ofList {name : String} {names : List String} :
    name ∈ ofList names ↔ name ∈ names := by
  induction names with
  | nil => simp [ofList, empty, mem_def]
  | cons first rest ih =>
    rw [List.mem_cons, ← ih]
    exact mem_insert

theorem ext {tags others : TagSet} (h : ∀ name, name ∈ tags ↔ name ∈ others) : tags = others := by
  have hnodup (set : TagSet) : set.names.Nodup := by
    apply set.increasing.imp
    intro first second hlt heq
    rw [heq] at hlt
    exact String.lt_irrefl second hlt
  have hperm : tags.names.Perm others.names :=
    (List.perm_ext_iff_of_nodup (hnodup tags) (hnodup others)).mpr h
  have hnames : tags.names = others.names := by
    apply List.Perm.eq_of_pairwise _ tags.increasing others.increasing hperm
    intro first second _ _ hlt hgt
    exact absurd hgt (String.lt_asymm hlt)
  cases tags
  cases others
  simpa using hnames

theorem ofList_names (tags : TagSet) : ofList tags.names = tags :=
  ext fun _ => mem_ofList

end TagSet

end TaskLine
