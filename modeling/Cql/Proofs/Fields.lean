import Mathlib.Data.List.Dedup
import Mathlib.Data.List.Induction
import Mathlib.Data.List.Perm.Basic
import Cql.Fields

/-!
What a map from names to values holds after entries were put into it.
-/

namespace Cql

section Entries

variable {α : Type} {name other : String} {value : α}

theorem lookup_insertEntry (entries : List (String × α)) :
    (insertEntry name value entries).lookup other =
      if other = name then some value else entries.lookup other := by
  induction entries with
  | nil =>
    rw [insertEntry, List.lookup_cons]
    split
    · simp_all
    · simp_all
  | cons entry entries ih =>
    obtain ⟨n, v⟩ := entry
    rw [insertEntry]
    split
    · rw [List.lookup_cons]
      split <;> simp_all
    · split
      · rename_i hname
        subst hname
        rw [List.lookup_cons, List.lookup_cons]
        split <;> simp_all
      · rename_i hname
        rw [List.lookup_cons, List.lookup_cons, ih]
        by_cases hother : other = n
        · subst hother
          simp [Ne.symm hname]
        · rw [beq_false_of_ne hother]

variable {entries entries' : List (String × α)}

/-- Of distinct names every entry is the first one. -/
theorem lookup_eq_some_iff_mem (hnodup : (entries.map Prod.fst).Nodup) :
    entries.lookup name = some value ↔ (name, value) ∈ entries := by
  induction entries with
  | nil => simp
  | cons entry entries ih =>
    obtain ⟨other, v⟩ := entry
    obtain ⟨hother, hrest⟩ := List.nodup_cons.mp hnodup
    rw [List.mem_cons]
    by_cases hname : name = other
    · subst hname
      have hentries : (name, value) ∉ entries := by
        intro hmem
        exact hother (List.mem_map.mpr ⟨_, hmem, rfl⟩)
      simp [hentries, eq_comm]
    · rw [List.lookup_cons, beq_false_of_ne hname, ih hrest]
      simp [hname]

theorem lookup_of_perm (hperm : entries.Perm entries') (hnodup : (entries.map Prod.fst).Nodup)
    (name : String) : entries.lookup name = entries'.lookup name := by
  have hnodup' : (entries'.map Prod.fst).Nodup := (hperm.map Prod.fst).nodup hnodup
  apply Option.ext
  intro v
  rw [lookup_eq_some_iff_mem hnodup, lookup_eq_some_iff_mem hnodup', hperm.mem_iff]

/-- Entries of other names do not count. -/
theorem lookup_filter_fst (p : String → Bool) (entries : List (String × α)) :
    (entries.filter fun e => p e.1).lookup name = if p name then entries.lookup name else none := by
  induction entries with
  | nil => simp
  | cons entry entries ih =>
    obtain ⟨other, v⟩ := entry
    rw [List.filter_cons]
    by_cases hname : name = other
    · subst hname
      split
      · simp
      · rename_i hp
        rw [ih, if_neg hp]
    · rw [List.lookup_cons, beq_false_of_ne hname, ← ih]
      split
      · rw [List.lookup_cons, beq_false_of_ne hname]
      · rfl

end Entries

namespace Fields

variable {α : Type} {name : String}

theorem find?_insert (fields : Fields α) (name other : String) (value : α) :
    (fields.insert name value).find? other =
      if other = name then some value else fields.find? other :=
  lookup_insertEntry fields.entries

/-- The last entry of a name counts. -/
theorem find?_ofList (entries : List (String × α)) (name : String) :
    (ofList entries).find? name = entries.reverse.lookup name := by
  induction entries using List.reverseRecOn with
  | nil => rfl
  | append_singleton entries entry ih =>
    have hfold : ofList (entries ++ [entry]) = (ofList entries).insert entry.1 entry.2 := by
      simp [ofList]
    rw [hfold, find?_insert, ih, List.reverse_append, List.reverse_singleton, List.singleton_append,
      List.lookup_cons]
    by_cases hname : name = entry.1
    · simp [hname]
    · rw [beq_false_of_ne hname, if_neg hname]

theorem mem_names_iff {fields : Fields α} :
    name ∈ fields.names ↔ (fields.find? name).isSome = true := by
  rw [find?, List.lookup_isSome_iff, names, List.mem_map]
  simp only [beq_iff_eq]
  exact exists_congr fun e => and_congr_right fun _ => eq_comm

theorem nodup_names (fields : Fields α) : fields.names.Nodup := by
  rw [names, List.Nodup, List.pairwise_map]
  refine fields.sorted.imp fun {a b} hlt heq => ?_
  rw [heq] at hlt
  exact String.lt_irrefl _ hlt

/-- What is found under each name tells all there is. -/
theorem eq_of_find? {fields fields' : Fields α}
    (h : ∀ name, fields.find? name = fields'.find? name) : fields = fields' := by
  have hmem : ∀ e, e ∈ fields.entries ↔ e ∈ fields'.entries := by
    intro ⟨name, value⟩
    rw [← lookup_eq_some_iff_mem fields.nodup_names, ← lookup_eq_some_iff_mem fields'.nodup_names]
    exact Eq.congr_left (h name)
  have hperm : fields.entries.Perm fields'.entries :=
    (List.perm_ext_iff_of_nodup fields.nodup_names.of_map fields'.nodup_names.of_map).mpr hmem
  have hentries : fields.entries = fields'.entries := by
    refine hperm.eq_of_pairwise (fun a b _ _ hab hba => ?_) fields.sorted fields'.sorted
    exact absurd (String.lt_trans hab hba) (String.lt_irrefl _)
  obtain ⟨entries, _⟩ := fields
  obtain ⟨entries', _⟩ := fields'
  obtain rfl : entries = entries' := hentries
  rfl

theorem ofList_entries (fields : Fields α) : ofList fields.entries = fields := by
  apply eq_of_find?
  intro name
  rw [find?_ofList]
  have hnodup : (fields.entries.reverse.map Prod.fst).Nodup := by
    rw [List.map_reverse, List.nodup_reverse]
    exact fields.nodup_names
  exact lookup_of_perm (List.reverse_perm _) hnodup name

/-- Entries of distinct names are all there, whatever their order. -/
theorem ofList_perm {entries : List (String × α)} (hnodup : (entries.map Prod.fst).Nodup) :
    (ofList entries).entries.Perm entries := by
  have hnames := (ofList entries).nodup_names
  rw [List.perm_ext_iff_of_nodup hnames.of_map hnodup.of_map]
  rintro ⟨name, value⟩
  have hfind : (ofList entries).entries.lookup name = entries.lookup name := by
    rw [lookup_of_perm (List.reverse_perm entries).symm hnodup]
    exact find?_ofList entries name
  rw [← lookup_eq_some_iff_mem hnames, ← lookup_eq_some_iff_mem hnodup, hfind]

theorem mem_of_mem_ofList {entries : List (String × α)} {e : String × α}
    (h : e ∈ (ofList entries).entries) : e ∈ entries := by
  obtain ⟨name, value⟩ := e
  have hfind := (lookup_eq_some_iff_mem (ofList entries).nodup_names).mpr h
  change (ofList entries).find? name = some value at hfind
  rw [find?_ofList, List.lookup_eq_some_iff] at hfind
  obtain ⟨before, after, heq, -⟩ := hfind
  exact List.mem_reverse.mp (heq ▸ List.mem_append_right before List.mem_cons_self)

/-- The entries of other names than the given ones. -/
def without (fields : Fields α) (names : List String) : Fields α :=
  ⟨fields.entries.filter fun e => !names.contains e.1, fields.sorted.filter _⟩

theorem find?_without (fields : Fields α) (names : List String) (name : String) :
    (fields.without names).find? name = if name ∈ names then none else fields.find? name := by
  have hfilter : (fields.without names).find? name =
      if !names.contains name then fields.find? name else none :=
    lookup_filter_fst (fun name => !names.contains name) fields.entries
  rw [hfilter]
  by_cases hname : name ∈ names
  · simp [hname]
  · simp [hname]

/-- Each name of an entry is there once. -/
theorem names_ofList_perm (entries : List (String × α)) :
    (ofList entries).names.Perm (entries.map Prod.fst).dedup := by
  rw [List.perm_ext_iff_of_nodup (nodup_names _) (List.nodup_dedup _)]
  intro name
  rw [mem_names_iff, find?_ofList, List.lookup_isSome_iff, List.mem_dedup, List.mem_map]
  simp only [List.mem_reverse, beq_iff_eq]
  exact exists_congr fun e => and_congr_right fun _ => eq_comm

end Fields

end Cql
