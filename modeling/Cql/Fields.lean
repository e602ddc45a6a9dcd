/-!
Maps from names to values, kept in ascending order of the names. Each name occurs once; a later
insertion replaces the value of an earlier one.
-/

namespace Cql

/-- Puts an entry at its place among entries in ascending order. -/
def insertEntry {α : Type} (name : String) (value : α) :
    List (String × α) → List (String × α)
  | [] => [(name, value)]
  | (n, v) :: rest =>
    if name < n then (name, value) :: (n, v) :: rest
    else if name = n then (name, value) :: rest
    else (n, v) :: insertEntry name value rest

theorem fst_of_mem_insertEntry {α : Type} {name : String} {value : α} {entries : List (String × α)}
    {e : String × α} (h : e ∈ insertEntry name value entries) : e.1 = name ∨ e ∈ entries := by
  induction entries with
  | nil => simp_all [insertEntry]
  | cons head rest ih =>
    obtain ⟨n, v⟩ := head
    simp only [insertEntry] at h
    split at h
    · simp only [List.mem_cons] at h ⊢
      rcases h with rfl | h <;> simp_all
    · split at h
      · simp only [List.mem_cons] at h ⊢
        rcases h with rfl | h <;> simp_all
      · simp only [List.mem_cons] at h ⊢
        rcases h with rfl | h
        · simp
        · rcases ih h with h | h <;> simp [h]

theorem sorted_insertEntry {α : Type} (name : String) (value : α) {entries : List (String × α)}
    (h : entries.Pairwise fun a b => a.1 < b.1) :
    (insertEntry name value entries).Pairwise fun a b => a.1 < b.1 := by
  induction entries with
  | nil => simp [insertEntry]
  | cons head rest ih =>
    obtain ⟨n, v⟩ := head
    simp only [List.pairwise_cons] at h
    simp only [insertEntry]
    split
    · rename_i hlt
      simp only [List.pairwise_cons, List.mem_cons]
      refine ⟨?_, h.1, h.2⟩
      rintro e (rfl | he)
      · exact hlt
      · exact String.lt_trans hlt (h.1 e he)
    · split
      · rename_i heq
        subst heq
        exact List.pairwise_cons.2 h
      · rename_i hlt hne
        refine List.pairwise_cons.2 ⟨fun e he => ?_, ih h.2⟩
        have hgt : n < name := by grind
        rcases fst_of_mem_insertEntry he with heq | he
        · exact heq ▸ hgt
        · exact h.1 e he

structure Fields (α : Type) where
  entries : List (String × α)
  sorted : entries.Pairwise fun a b => a.1 < b.1

namespace Fields

variable {α β : Type}

def empty : Fields α := ⟨[], .nil⟩

instance : EmptyCollection (Fields α) := ⟨empty⟩

instance : Inhabited (Fields α) := ⟨empty⟩

def insert (fields : Fields α) (name : String) (value : α) : Fields α :=
  ⟨insertEntry name value fields.entries, sorted_insertEntry name value fields.sorted⟩

/-- Of several entries with one name the last one counts. -/
def ofList (entries : List (String × α)) : Fields α :=
  entries.foldl (fun fields e => fields.insert e.1 e.2) ∅

def find? (fields : Fields α) (name : String) : Option α :=
  fields.entries.lookup name

def names (fields : Fields α) : List String :=
  fields.entries.map Prod.fst

def size (fields : Fields α) : Nat :=
  fields.entries.length

def isEmpty (fields : Fields α) : Bool :=
  fields.entries.isEmpty

def map (f : α → β) (fields : Fields α) : Fields β :=
  ⟨fields.entries.map fun e => (e.1, f e.2), List.pairwise_map.2 fields.sorted⟩

end Fields

end Cql
