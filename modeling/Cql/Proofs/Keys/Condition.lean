import Cql.Model
import Cql.Proofs.Call

/-!
Keys as lists of conditions. A column of a key and the value that it is given stand for one predicate,
unless the value cannot be cast or the name is refused. To restrict a query by a key, or by the row
that a save replaces, is to find the value of each column and then to add these predicates in the
order of the key; the first column that is refused decides the error.
-/

namespace Cql

namespace KeyColumn

/-- The predicate of a column with a value. The value is cast before the name is checked. -/
def condition (component : KeyColumn) (v : Value) : Except Error Predicate := do
  let v ← component.cast v
  Name.checkIdentifier component.name
  return ⟨component.name, .eq, v⟩

variable {component : KeyColumn} {v : Value}

theorem condition_eq_ok_iff {p : Predicate} :
    component.condition v = .ok p ↔
      ∃ w, component.cast v = .ok w ∧ Name.checkIdentifier component.name = .ok () ∧
        p = ⟨component.name, .eq, w⟩ := by
  unfold condition
  rw [Outcome.bind_eq_ok_iff]
  constructor
  · rintro ⟨w, hcast, hrest⟩
    obtain ⟨_, hname, hp⟩ := Outcome.bind_eq_ok_iff.mp hrest
    exact ⟨w, hcast, hname, (Except.ok.inj hp).symm⟩
  · rintro ⟨w, hcast, hname, rfl⟩
    exact ⟨w, hcast, Outcome.bind_eq_ok_iff.mpr ⟨(), hname, rfl⟩⟩

/-- The value can be cast and the name is an identifier. -/
def Accepts (component : KeyColumn) (v : Value) : Prop :=
  (∃ w, component.cast v = .ok w) ∧ Name.checkIdentifier component.name = .ok ()

/-- The value cannot be cast, or it can and the name is no identifier. -/
def Refuses (component : KeyColumn) (v : Value) (e : Error) : Prop :=
  component.cast v = .error e ∨
    ∃ w, component.cast v = .ok w ∧ Name.checkIdentifier component.name = .error e

theorem accepts_iff : component.Accepts v ↔ ∃ p, component.condition v = .ok p := by
  simp only [condition_eq_ok_iff]
  constructor
  · rintro ⟨⟨w, hcast⟩, hname⟩
    exact ⟨_, w, hcast, hname, rfl⟩
  · rintro ⟨_, w, hcast, hname, _⟩
    exact ⟨⟨w, hcast⟩, hname⟩

theorem refuses_iff {e : Error} : component.Refuses v e ↔ component.condition v = .error e := by
  unfold Refuses condition
  rw [Outcome.bind_eq_error_iff]
  simp only [Outcome.bind_eq_error_iff, pure, Except.pure, reduceCtorEq, and_false, exists_false,
    or_false]

end KeyColumn

/-- The value of a column in a row as it was loaded, or else in the row as it was changed since. -/
def Row.kept? (loaded changed : Row) (name : String) : Option Value :=
  loaded.present? name <|> changed.present? name

theorem Row.isNull_of_kept? {loaded changed : Row} {name : String} {v : Value}
    (h : loaded.kept? changed name = some v) : v.isNull = false := by
  have hpresent : ∀ row : Row, row.present? name = some v → v.isNull = false := by
    intro row hrow
    have hv := (Option.filter_eq_some_iff.mp hrow).2
    simpa using hv
  rw [kept?, Option.orElse_eq_orElse, Option.orElse_eq_or, Option.or_eq_some_iff] at h
  rcases h with hloaded | ⟨_, hchanged⟩
  · exact hpresent loaded hloaded
  · exact hpresent changed hchanged

namespace PrimaryKey

variable {key : PrimaryKey}

/-- A run of steps that each add the predicate of an item. -/
theorem foldlM_conditions {α : Type} {step : Query → α → Except Error Query}
    {condition : α → Except Error Predicate}
    (hstep : ∀ q item, step q item = (condition item).map fun p => q.addPredicates [p])
    (q : Query) (items : List α) :
    items.foldlM step q = (items.mapM condition).map q.addPredicates := by
  induction items generalizing q with
  | nil => simp [pure, Except.pure, Except.map]
  | cons item items ih =>
    rw [List.foldlM_cons, List.mapM_cons, hstep]
    cases condition item with
    | error e => rfl
    | ok p =>
      change items.foldlM step (q.addPredicates [p]) = _
      rw [ih]
      cases hitems : items.mapM condition with
      | error e => simp [bind, Except.bind, Except.map]
      | ok ps => simp [bind, Except.bind, Except.map, pure, Except.pure]

/-- The predicates of columns with their values. -/
def conditions (items : List (KeyColumn × Value)) : Except Error (List Predicate) :=
  items.mapM fun item => item.1.condition item.2

/-- The column of a single key has no caster. -/
theorem restrictEq_eq (q : Query) (name : String) (v : Value) :
    q.restrictEq name v = (conditions [(⟨name, none⟩, v)]).map q.addPredicates := by
  rw [conditions, List.mapM_cons, List.mapM_nil]
  unfold KeyColumn.condition Query.restrictEq Query.restrict KeyColumn.cast
  cases Name.checkIdentifier name <;> rfl

theorem restrictComponent_eq (q : Query) (component : KeyColumn) (v : Value) :
    restrictComponent q component v = (component.condition v).map fun p => q.addPredicates [p] := by
  unfold restrictComponent KeyColumn.condition Query.restrictEq Query.restrict
  cases component.cast v with
  | error e => rfl
  | ok w =>
    dsimp only [bind, Except.bind]
    cases Name.checkIdentifier component.name <;> rfl

/-- The columns of a key that a key value has values for, in the order of the key. There is at least
one, or the key value does not fit the key. -/
def given (key : PrimaryKey) (id : KeyValue) : Except Error (List (KeyColumn × Value)) :=
  match key, id with
  | single name, .single v => .ok [(⟨name, none⟩, v)]
  | single name, .composite _ =>
    match id.find? name with
    | some v => .ok [(⟨name, none⟩, v)]
    | none => .error (.keyColumnMissing name)
  | composite _, .single _ => .error .keyNeedsMapping
  | composite components, .composite _ =>
    match resolve components id with
    | [] => .error .keyNotGiven
    | item :: items => .ok (item :: items)

theorem given_eq_ok_iff {components : List KeyColumn} {entries : List (String × Value)}
    {items : List (KeyColumn × Value)} :
    (composite components).given (.composite entries) = .ok items ↔
      items ≠ [] ∧ resolve components (.composite entries) = items := by
  unfold given
  dsimp only
  cases resolve components (.composite entries) with
  | nil => simp [eq_comm]
  | cons item rest =>
    rw [Except.ok.injEq]
    constructor
    · rintro rfl
      exact ⟨by simp, rfl⟩
    · exact And.right

theorem given_eq_error_iff {components : List KeyColumn} {entries : List (String × Value)}
    {e : Error} :
    (composite components).given (.composite entries) = .error e ↔
      resolve components (.composite entries) = [] ∧ e = .keyNotGiven := by
  unfold given
  dsimp only
  cases resolve components (.composite entries) with
  | nil => simp [eq_comm]
  | cons item rest => simp

/-- To restrict a query by a key adds the conditions of the columns that have values. -/
theorem restrict_eq (key : PrimaryKey) (q : Query) (id : KeyValue) :
    key.restrict q id = (key.given id >>= conditions).map q.addPredicates := by
  cases key with
  | single name =>
    cases id with
    | single v => exact restrictEq_eq q name v
    | composite entries =>
      unfold restrict given
      dsimp only
      cases (KeyValue.composite entries).find? name with
      | some v => exact restrictEq_eq q name v
      | none => rfl
  | composite components =>
    cases id with
    | single v => rfl
    | composite entries =>
      unfold restrict given
      dsimp only
      cases resolve components (.composite entries) with
      | nil => rfl
      | cons item items =>
        exact foldlM_conditions (fun q item => restrictComponent_eq q item.1 item.2) q (item :: items)

/-- The predicate of a column with its value in the rows of a save. -/
def keptCondition (loaded changed : Row) (component : KeyColumn) : Except Error Predicate :=
  match loaded.kept? changed component.name with
  | some v => component.condition v
  | none => .error (.keyColumnMissing component.name)

theorem keptCondition_eq_ok_iff {loaded changed : Row} {component : KeyColumn} {p : Predicate} :
    keptCondition loaded changed component = .ok p ↔
      ∃ v, loaded.kept? changed component.name = some v ∧ component.condition v = .ok p := by
  unfold keptCondition
  cases loaded.kept? changed component.name <;> simp

/-- The rows have a value for a column, which accepts it. -/
def Settled (loaded changed : Row) (component : KeyColumn) : Prop :=
  ∃ v, loaded.kept? changed component.name = some v ∧ component.Accepts v

theorem settled_iff {loaded changed : Row} {component : KeyColumn} :
    Settled loaded changed component ↔ ∃ p, keptCondition loaded changed component = .ok p := by
  unfold Settled
  simp only [keptCondition_eq_ok_iff, KeyColumn.accepts_iff]
  exact ⟨fun ⟨v, hv, p, hp⟩ => ⟨p, v, hv, hp⟩, fun ⟨p, v, hv, hp⟩ => ⟨v, hv, p, hp⟩⟩

theorem components_ne_nil (hkey : key.validate = .ok ()) : key.components ≠ [] := by
  intro hcomponents
  unfold validate names at hkey
  rw [hcomponents] at hkey
  cases hkey

/-- To restrict a query by the row that a save replaces adds the conditions of all columns. -/
theorem restrictSave_eq (hkey : key.validate = .ok ()) (q : Query) (loaded changed : Row) :
    key.restrictSave q loaded changed =
      (key.components.mapM (keptCondition loaded changed)).map q.addPredicates := by
  unfold restrictSave
  rw [hkey]
  apply foldlM_conditions
  intro q component
  unfold keptCondition Row.kept?
  cases loaded.present? component.name <|> changed.present? component.name with
  | some v => exact restrictComponent_eq q component v
  | none => rfl

/-- A save that is accepted is tied to its row by every column of the key. -/
theorem restrictSave_eq_ok_iff (hkey : key.validate = .ok ()) {q later : Query}
    {loaded changed : Row} :
    key.restrictSave q loaded changed = .ok later ↔
      ∃ ps, List.Forall₂ (fun component p => keptCondition loaded changed component = .ok p)
        key.components ps ∧ q.addPredicates ps = later := by
  rw [restrictSave_eq hkey, Outcome.map_eq_ok_iff]
  simp only [Outcome.mapM_eq_ok_iff]

/-- A save is refused for the first column that has no value or refuses it. -/
theorem restrictSave_eq_error_iff (hkey : key.validate = .ok ()) {q : Query}
    {loaded changed : Row} {e : Error} :
    key.restrictSave q loaded changed = .error e ↔
      ∃ before component after, key.components = before ++ component :: after ∧
        (∀ other ∈ before, Settled loaded changed other) ∧
        keptCondition loaded changed component = .error e := by
  rw [restrictSave_eq hkey, Outcome.map_eq_error_iff, Outcome.mapM_eq_error_iff]
  simp only [settled_iff]

end PrimaryKey

namespace Model

theorem ofQuery_eq_ok {q : Query} {key : PrimaryKey} {m : Model} (h : ofQuery q key = .ok m) :
    key.validate = .ok () ∧ m = ⟨q, key⟩ := by
  obtain ⟨_, hkey, hm⟩ := Outcome.bind_eq_ok_iff.mp h
  exact ⟨hkey, (Except.ok.inj hm).symm⟩

variable {m : Model} {id : KeyValue}

/-- To restrict a model restricts its query and keeps its key. -/
theorem restrict_eq (m : Model) (id : KeyValue) :
    m.restrict id = (m.key.given id >>= PrimaryKey.conditions).map
      fun ps => { m with query := m.query.addPredicates ps } := by
  unfold restrict
  rw [PrimaryKey.restrict_eq]
  cases m.key.given id >>= PrimaryKey.conditions <;> rfl

/-- A key value is accepted if it fits the key and all conditions are. They are then added in order. -/
theorem restrict_eq_ok_iff {later : Model} :
    m.restrict id = .ok later ↔
      ∃ items ps, m.key.given id = .ok items ∧
        List.Forall₂ (fun item p => item.1.condition item.2 = .ok p) items ps ∧
        { m with query := m.query.addPredicates ps } = later := by
  rw [restrict_eq, Outcome.map_eq_ok_iff]
  simp only [Outcome.bind_eq_ok_iff, PrimaryKey.conditions, Outcome.mapM_eq_ok_iff]
  constructor
  · rintro ⟨ps, ⟨items, hgiven, hps⟩, hlater⟩
    exact ⟨items, ps, hgiven, hps, hlater⟩
  · rintro ⟨items, ps, hgiven, hps, hlater⟩
    exact ⟨ps, ⟨items, hgiven, hps⟩, hlater⟩

theorem restrict_accepted_iff :
    (∃ later, m.restrict id = .ok later) ↔
      ∃ items, m.key.given id = .ok items ∧ ∀ item ∈ items, item.1.Accepts item.2 := by
  simp only [restrict_eq_ok_iff, KeyColumn.accepts_iff, ← Outcome.exists_forall₂_iff]
  constructor
  · rintro ⟨_, items, ps, hgiven, hps, _⟩
    exact ⟨items, hgiven, ps, hps⟩
  · rintro ⟨items, hgiven, ps, hps⟩
    exact ⟨_, items, ps, hgiven, hps, rfl⟩

/-- A key value is refused if it does not fit the key, and otherwise for the first column that
refuses its value. -/
theorem restrict_eq_error_iff {e : Error} :
    m.restrict id = .error e ↔
      m.key.given id = .error e ∨
        ∃ before item after, m.key.given id = .ok (before ++ item :: after) ∧
          (∀ other ∈ before, other.1.Accepts other.2) ∧ item.1.Refuses item.2 e := by
  rw [restrict_eq, Outcome.map_eq_error_iff, Outcome.bind_eq_error_iff]
  simp only [PrimaryKey.conditions, Outcome.mapM_eq_error_iff, KeyColumn.accepts_iff,
    KeyColumn.refuses_iff]
  constructor
  · rintro (hgiven | ⟨_, hgiven, before, item, after, rfl, hbefore, hitem⟩)
    · exact Or.inl hgiven
    · exact Or.inr ⟨before, item, after, hgiven, hbefore, hitem⟩
  · rintro (hgiven | ⟨before, item, after, hgiven, hbefore, hitem⟩)
    · exact Or.inl hgiven
    · exact Or.inr ⟨_, hgiven, before, item, after, rfl, hbefore, hitem⟩

end Model

end Cql
