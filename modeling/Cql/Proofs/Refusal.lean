import Cql.Proofs.Sending

/-!
Refusals. What a query, a payload or a key refuses, it refuses for a reason of its own: its error is
none of those that only a connection answers with.
-/

namespace Cql

namespace Outcome

variable {α β σ : Type}

/-- A step that fails does so with an error that no connection answered. -/
def Local (x : Except Error α) : Prop :=
  ∀ e, x = .error e → e.kind.isTransport = false

theorem local_ok (a : α) : Local (.ok a) :=
  nofun

theorem local_error {e : Error} (h : e.kind.isTransport = false) :
    Local (.error e : Except Error α) := by
  intro other hother
  rwa [← Except.error.inj hother]

theorem local_bind {x : Except Error α} {f : α → Except Error β} (hx : Local x)
    (hf : ∀ a, Local (f a)) : Local (x >>= f) := by
  cases x with
  | error e => exact local_error (hx e rfl)
  | ok a => exact hf a

theorem local_map {x : Except Error α} (h : Local x) (f : α → β) : Local (x.map f) := by
  cases x with
  | error e => exact local_error (h e rfl)
  | ok a => exact local_ok (f a)

theorem local_ite {p : Prop} [Decidable p] {x y : Except Error α} (hx : Local x) (hy : Local y) :
    Local (if p then x else y) := by
  split
  · exact hx
  · exact hy

theorem local_forM {check : α → Except Error Unit} (h : ∀ a, Local (check a)) (items : List α) :
    Local (items.forM check) := by
  induction items with
  | nil => exact local_ok ()
  | cons item items ih => exact local_bind (h item) fun _ => ih

theorem local_foldlM {step : σ → α → Except Error σ} (h : ∀ s a, Local (step s a))
    (items : List α) (s : σ) : Local (items.foldlM step s) := by
  induction items generalizing s with
  | nil => exact local_ok s
  | cons item items ih => exact local_bind (h s item) ih

end Outcome

open Outcome

theorem Name.local_checkIdentifier (name : String) : Local (checkIdentifier name) := by
  unfold checkIdentifier
  split
  · exact local_error rfl
  · refine local_ite (local_error rfl) (local_ite (local_error rfl) ?_)
    split
    · exact local_error rfl
    · exact local_ite (local_error rfl) (local_ok ())

theorem Name.local_checkColumn (name : String) : Local (checkColumn name) :=
  local_ite (local_ok ()) (local_checkIdentifier name)

namespace Payload

theorem local_checkColumns (seen columns : List String) : Local (checkColumns seen columns) := by
  induction columns generalizing seen with
  | nil => exact local_ok ()
  | cons column columns ih =>
    exact local_bind (Name.local_checkColumn column) fun _ => local_ite (local_error rfl) (ih _)

theorem local_checkRows (expected : List String) (index : Nat) (rows : List Cells) :
    Local (checkRows expected index rows) := by
  induction rows generalizing index with
  | nil => exact local_ok ()
  | cons row rows ih => exact local_ite (ih (index + 1)) (local_error rfl)

theorem local_rows (p : Payload) : Local p.rows? := by
  unfold rows?
  split
  · exact local_error rfl
  · refine local_ite (local_error rfl) (local_bind (local_checkColumns _ _) fun _ => ?_)
    exact local_bind (local_checkRows _ _ _) fun _ => local_ok _

end Payload

namespace Query

theorem local_requireTable (q : Query) : Local q.requireTable :=
  local_ite (local_ok ()) (local_error rfl)

theorem local_selectDefault (q : Query) (columns : List String) :
    Local (q.selectDefault columns) :=
  local_ite (local_ok q) (local_bind (local_forM Name.local_checkColumn columns) fun _ => local_ok _)

theorem local_restrictEq (q : Query) (column : String) (v : Value) : Local (q.restrictEq column v) :=
  local_bind (Name.local_checkIdentifier column) fun _ => local_ok _

end Query

namespace Operation

theorem local_report (q : Query) (operation : Operation) : Local (operation.report q) := by
  have hselect (columns : List String) (f : Query → Statement) :
      Local (q.selectDefault columns >>= fun ready => .ok (f ready)) :=
    local_bind (q.local_selectDefault columns) fun _ => local_ok _
  have hinsert (payload : Payload) : Local (q.insertStatement payload) :=
    local_bind payload.local_rows fun _ => local_ok _
  have hdelete (columns : List String) : Local (q.deleteStatement columns) :=
    local_bind (local_forM Name.local_checkIdentifier columns) fun _ => local_ok _
  cases operation with
  | get | openRows | count | paginate | getLater | first => exact hselect _ _
  | insert | insertLater => exact hinsert _
  | update assignments =>
    refine local_ite (local_error rfl) (local_bind ?_ fun _ => local_ok _)
    exact local_forM (fun a => Name.local_checkIdentifier a.1) assignments
  | createIndex columns =>
    refine local_ite (local_error rfl) (local_bind ?_ fun _ => local_ok _)
    exact local_forM Name.local_checkIdentifier columns
  | deleteRows | deleteColumns => exact hdelete _

theorem local_opening (q : Query) (c : Connection) (operation : Operation) :
    Local (operation.opening q c) := by
  refine local_bind ?_ fun _ => local_bind q.local_requireTable fun _ =>
    local_bind (local_report q operation) fun s => local_bind ?_ fun _ => local_ok _
  · unfold checkColumns
    split
    · exact local_error rfl
    · exact local_ok ()
  · unfold checkPageSize
    split
    · exact local_ite (local_error rfl) (local_ok ())
    · exact local_ok ()

end Operation

namespace PrimaryKey

theorem local_cast (component : KeyColumn) (v : Value) : Local (component.cast v) := by
  unfold KeyColumn.cast
  split
  · intro e he
    rw [Caster.kind_of_cast he]
    rfl
  · exact local_ok v

theorem local_restrict (key : PrimaryKey) (q : Query) (id : KeyValue) :
    Local (key.restrict q id) := by
  unfold restrict
  split
  · exact q.local_restrictEq _ _
  · split
    · exact q.local_restrictEq _ _
    · exact local_error rfl
  · exact local_error rfl
  · split
    · exact local_error rfl
    · refine local_foldlM (fun q entry => ?_) _ q
      exact local_bind (local_cast entry.1 entry.2) fun v => q.local_restrictEq _ v

end PrimaryKey

theorem Model.local_restrict (m : Model) (id : KeyValue) : Local (m.restrict id) :=
  local_bind (m.key.local_restrict m.query id) fun _ => local_ok _

end Cql
