import Cql.Query.Call
import Cql.Proofs.Name

/-!
What calls on a query come to. Every call that is accepted adds to the table, the projection, the
predicates, the mutations and the bound values of the query what can be read off the call alone, and
the names that it adds passed their checks. So a query is the sum of the calls that led to it.
-/

namespace Cql

/-- The predicate that a component of a key stands for, unless the value cannot be cast. -/
def KeyColumn.predicate? (component : KeyColumn) (v : Value) : Option Predicate :=
  (component.cast v).toOption.map fun v => ⟨component.name, .eq, v⟩

namespace PrimaryKey

/-- The predicates that hold of the rows with a key value. -/
def predicates (key : PrimaryKey) (id : KeyValue) : List Predicate :=
  match key, id with
  | single name, .single v => [⟨name, .eq, v⟩]
  | single name, .composite _ => (id.find? name).toList.map fun v => ⟨name, .eq, v⟩
  | composite components, _ =>
    (resolve components id).filterMap fun (component, v) => component.predicate? v

/-- The predicates that hold of the row which a save replaces. -/
def savePredicates (key : PrimaryKey) (loaded changed : Row) : List Predicate :=
  key.components.filterMap fun component =>
    (loaded.present? component.name <|> changed.present? component.name).bind component.predicate?

end PrimaryKey

namespace Query

/-- The query with more predicates, and their values in the bucket of the predicates. -/
def addPredicates (q : Query) (predicates : List Predicate) : Query :=
  { q with
    bindings := { q.bindings with
      predicate := q.bindings.predicate ++ predicates.map Predicate.value }
    predicates := q.predicates ++ predicates }

@[simp] theorem addPredicates_nil (q : Query) : q.addPredicates [] = q := by
  simp [addPredicates]

@[simp] theorem addPredicates_addPredicates (q : Query) (first second : List Predicate) :
    (q.addPredicates first).addPredicates second = q.addPredicates (first ++ second) := by
  simp [addPredicates]

theorem restrict_eq_ok_iff {q later : Query} {column : String} {operator : Operator} {v : Value} :
    q.restrict column operator v = .ok later ↔
      Name.checkIdentifier column = .ok () ∧ q.addPredicates [⟨column, operator, v⟩] = later := by
  unfold restrict
  rw [Outcome.bind_eq_ok_iff]
  constructor
  · rintro ⟨⟨⟩, hname, hlater⟩
    exact ⟨hname, Except.ok.inj hlater⟩
  · rintro ⟨hname, rfl⟩
    exact ⟨(), hname, rfl⟩

/-- Only collections are accepted for collection columns, and only for columns with a name. -/
theorem updateCollection_eq_ok {q later : Query} {column : String}
    {operation : Option CollectionChange} {v : Value}
    (h : q.updateCollection column operation v = .ok later) :
    ∃ c, v = .collection c ∧ Name.checkIdentifier column = .ok () ∧
      { q with
        bindings := q.bindings.push .updateCollection (.collection c)
        mutations := q.mutations ++ [⟨column, operation, c⟩] } = later := by
  cases v with
  | collection c =>
    unfold updateCollection at h
    obtain ⟨_, hname, hstep⟩ := Outcome.bind_eq_ok_iff.mp h
    refine ⟨c, rfl, hname, ?_⟩
    split at hstep
    · cases hstep
    · exact Except.ok.inj hstep
  | _ => cases h

end Query

namespace PrimaryKey

variable {q later : Query} {key : PrimaryKey}

theorem restrictComponent_eq_ok {component : KeyColumn} {v : Value}
    (h : restrictComponent q component v = .ok later) :
    ∃ p, component.predicate? v = some p ∧ Name.checkIdentifier p.column = .ok () ∧
      q.addPredicates [p] = later := by
  obtain ⟨cast, hcast, hrestrict⟩ := Outcome.bind_eq_ok_iff.mp h
  obtain ⟨hname, hlater⟩ := Query.restrict_eq_ok_iff.mp hrestrict
  exact ⟨⟨component.name, .eq, cast⟩, by simp [KeyColumn.predicate?, hcast, Except.toOption],
    hname, hlater⟩

/-- A run of steps that each add one predicate adds these predicates in order. -/
theorem foldlM_addPredicates {α : Type} {step : Query → α → Except Error Query}
    {predicate? : α → Option Predicate}
    (hstep : ∀ q item later, step q item = .ok later →
      ∃ p, predicate? item = some p ∧ Name.checkIdentifier p.column = .ok () ∧
        q.addPredicates [p] = later)
    {items : List α} (h : items.foldlM step q = .ok later) :
    q.addPredicates (items.filterMap predicate?) = later ∧
      ∀ p ∈ items.filterMap predicate?, Name.checkIdentifier p.column = .ok () := by
  induction items generalizing q with
  | nil => simpa using Outcome.foldlM_nil_eq_ok_iff.mp h
  | cons item items ih =>
    obtain ⟨next, hitem, hitems⟩ := Outcome.foldlM_cons_eq_ok_iff.mp h
    obtain ⟨p, hp, hname, rfl⟩ := hstep q item next hitem
    obtain ⟨hlater, hnames⟩ := ih hitems
    rw [List.filterMap_cons_some hp]
    refine ⟨by simpa using hlater, ?_⟩
    intro other hother
    rcases List.mem_cons.mp hother with rfl | hother
    · exact hname
    · exact hnames other hother

theorem restrict_eq_ok {id : KeyValue} (h : key.restrict q id = .ok later) :
    q.addPredicates (key.predicates id) = later ∧
      ∀ p ∈ key.predicates id, Name.checkIdentifier p.column = .ok () := by
  unfold restrict at h
  split at h
  · obtain ⟨hname, hlater⟩ := Query.restrict_eq_ok_iff.mp h
    exact ⟨hlater, by simpa [predicates] using hname⟩
  · split at h
    · rename_i v hfind
      obtain ⟨hname, hlater⟩ := Query.restrict_eq_ok_iff.mp h
      simp only [predicates, hfind, Option.toList_some, List.map_cons, List.map_nil]
      exact ⟨hlater, by simpa using hname⟩
    · cases h
  · cases h
  · split at h
    · cases h
    · exact foldlM_addPredicates (fun q item later hstep => restrictComponent_eq_ok hstep) h

theorem restrictSave_eq_ok {loaded changed : Row}
    (h : key.restrictSave q loaded changed = .ok later) :
    q.addPredicates (key.savePredicates loaded changed) = later ∧
      ∀ p ∈ key.savePredicates loaded changed, Name.checkIdentifier p.column = .ok () := by
  obtain ⟨_, _, hfold⟩ := Outcome.bind_eq_ok_iff.mp h
  refine foldlM_addPredicates ?_ hfold
  intro q component later hstep
  split at hstep
  · rename_i v hv
    obtain ⟨p, hp, hname, hlater⟩ := restrictComponent_eq_ok hstep
    exact ⟨p, by rw [hv]; exact hp, hname, hlater⟩
  · cases hstep

end PrimaryKey

namespace Call

@[simp] def table? : Call → Option String
  | onTable table => some table
  | _ => none

@[simp] def columns? : Call → Option (List String)
  | select columns => some columns
  | _ => none

@[simp] def limit? : Call → Option UInt32
  | withLimit limit => some limit
  | _ => none

@[simp] def setsDistinct : Call → Bool
  | withDistinct => true
  | _ => false

@[simp] def setsFiltering : Call → Bool
  | withFiltering => true
  | _ => false

@[simp] def options? : Call → Option (Fields Json)
  | withOptions options => some options
  | _ => none

@[simp] def pageSize? : Call → Option Int32
  | withPageSize size => some size
  | _ => none

@[simp] def predicates : Call → List Predicate
  | restrict column operator v => [⟨column, operator, v⟩]
  | restrictBy column operator v =>
    (Operator.ofText? operator).toList.map fun operator => ⟨column, operator, v⟩
  | restrictKey key id => key.predicates id
  | restrictSave key loaded changed => key.savePredicates loaded changed
  | _ => []

@[simp] def mutations : Call → List Mutation
  | updateCollection column operation (.collection c) => [⟨column, operation, c⟩]
  | replaceCollection column (.collection c) => [⟨column, none, c⟩]
  | _ => []

/-- The bucket and the value of a call that binds a value for no clause. -/
@[simp] def binding? : Call → Option (Bucket × Value)
  | bind kind v => some (kind, v)
  | bindNamed kind v => (Bucket.ofName? kind).map fun kind => (kind, v)
  | _ => none

/-- The call binds a value for no clause, in one of the given buckets. -/
def bindsTo (kinds : List Bucket) (call : Call) : Bool :=
  call.binding?.any fun b => kinds.contains b.1

/-- The values that a call puts into a bucket for the clauses it adds. -/
def clauseValues (call : Call) : Bucket → List Value
  | .predicate => call.predicates.map Predicate.value
  | .updateCollection => call.mutations.map fun m => .collection m.value
  | .select | .join => []

/-- The values that a call puts into a bucket for no clause. -/
def surplus (call : Call) (kind : Bucket) : List Value :=
  (call.binding?.toList.filter fun b => b.1 == kind).map Prod.snd

def values (call : Call) (kind : Bucket) : List Value :=
  call.clauseValues kind ++ call.surplus kind

/-- The query after an accepted call. -/
def after (q : Query) (call : Call) : Query where
  table := call.table?.or q.table
  columns := call.columns?.or q.columns
  predicates := q.predicates ++ call.predicates
  limit := call.limit?.or q.limit
  distinct := q.distinct || call.setsDistinct
  allowFiltering := q.allowFiltering || call.setsFiltering
  mutations := q.mutations ++ call.mutations
  options := call.options?.getD q.options
  bindings :=
    { select := q.bindings.select ++ call.values .select
      predicate := q.bindings.predicate ++ call.values .predicate
      updateCollection := q.bindings.updateCollection ++ call.values .updateCollection
      join := q.bindings.join ++ call.values .join }
  pageSize := call.pageSize?.getD q.pageSize

/-- The names that a call adds to a query are accepted ones. -/
structure Checked (call : Call) : Prop where
  table : ∀ table, call.table? = some table → Name.checkTable table = .ok ()
  columns : ∀ columns, call.columns? = some columns →
    ∀ column ∈ columns, Name.checkColumn column = .ok ()
  predicates : ∀ p ∈ call.predicates, Name.checkIdentifier p.column = .ok ()
  mutations : ∀ m ∈ call.mutations, Name.checkIdentifier m.column = .ok ()

theorem get_after_bindings (q : Query) (call : Call) (kind : Bucket) :
    (after q call).bindings.get kind = q.bindings.get kind ++ call.values kind := by
  cases kind <;> rfl

/-- A call that names no table, no projection and no mutation is checked if its predicates are. -/
theorem checked_of_predicates {call : Call} (htable : call.table? = none)
    (hcolumns : call.columns? = none) (hmutations : call.mutations = [])
    (hpredicates : ∀ p ∈ call.predicates, Name.checkIdentifier p.column = .ok ()) :
    call.Checked := by
  refine ⟨?_, ?_, hpredicates, ?_⟩
  · intro table h
    rw [htable] at h
    cases h
  · intro columns h
    rw [hcolumns] at h
    cases h
  · intro m h
    rw [hmutations] at h
    cases h

theorem after_restrict (q : Query) (column : String) (operator : Operator) (v : Value) :
    after q (.restrict column operator v) = q.addPredicates [⟨column, operator, v⟩] := by
  simp [after, Query.addPredicates, values, clauseValues, surplus]

theorem after_restrictBy {operator : String} {parsed : Operator} (q : Query) (column : String)
    (v : Value) (h : Operator.ofText? operator = some parsed) :
    after q (.restrictBy column operator v) = q.addPredicates [⟨column, parsed, v⟩] := by
  simp [after, Query.addPredicates, values, clauseValues, surplus, h]

theorem after_restrictKey (q : Query) (key : PrimaryKey) (id : KeyValue) :
    after q (.restrictKey key id) = q.addPredicates (key.predicates id) := by
  simp [after, Query.addPredicates, values, clauseValues, surplus]

theorem after_restrictSave (q : Query) (key : PrimaryKey) (loaded changed : Row) :
    after q (.restrictSave key loaded changed) =
      q.addPredicates (key.savePredicates loaded changed) := by
  simp [after, Query.addPredicates, values, clauseValues, surplus]

theorem after_bind (q : Query) (kind : Bucket) (v : Value) :
    after q (.bind kind v) = q.bind kind v := by
  cases kind <;>
    simp [after, Query.bind, Bindings.push, values, clauseValues, surplus]

theorem after_bindNamed {name : String} {kind : Bucket} (q : Query) (v : Value)
    (h : Bucket.ofName? name = some kind) : after q (.bindNamed name v) = q.bind kind v := by
  rw [← after_bind]
  simp [after, values, clauseValues, surplus, h]

theorem after_updateCollection (q : Query) (column : String) (operation : Option CollectionChange)
    (c : Collection Value) :
    after q (.updateCollection column operation (.collection c)) =
      { q with
        bindings := q.bindings.push .updateCollection (.collection c)
        mutations := q.mutations ++ [⟨column, operation, c⟩] } := by
  simp [after, Bindings.push, values, clauseValues, surplus]

theorem after_replaceCollection (q : Query) (column : String) (c : Collection Value) :
    after q (.replaceCollection column (.collection c)) =
      after q (.updateCollection column none (.collection c)) :=
  rfl

/-- An accepted call does what can be read off it, and its names passed their checks. -/
theorem apply_eq_ok {q later : Query} {call : Call} (h : apply q call = .ok later) :
    after q call = later ∧ call.Checked := by
  cases call with
  | onTable table =>
    obtain ⟨_, hname, hlater⟩ := Outcome.bind_eq_ok_iff.mp h
    refine ⟨?_, ⟨?_, by simp, by simp, by simp⟩⟩
    · rw [← Except.ok.inj hlater]
      simp [after, values, clauseValues, surplus]
    · simpa using hname
  | select columns =>
    obtain ⟨_, hnames, hlater⟩ := Outcome.bind_eq_ok_iff.mp h
    refine ⟨?_, ⟨by simp, ?_, by simp, by simp⟩⟩
    · rw [← Except.ok.inj hlater]
      simp [after, values, clauseValues, surplus]
    · simpa using Outcome.forM_eq_ok_iff.mp hnames
  | restrict column operator v =>
    obtain ⟨hname, hlater⟩ := Query.restrict_eq_ok_iff.mp h
    rw [after_restrict]
    exact ⟨hlater, checked_of_predicates rfl rfl rfl (by simpa using hname)⟩
  | restrictBy column operator v =>
    simp only [apply, Query.restrictBy] at h
    split at h
    · rename_i parsed hparsed
      obtain ⟨hname, hlater⟩ := Query.restrict_eq_ok_iff.mp h
      rw [after_restrictBy q column v hparsed]
      exact ⟨hlater, checked_of_predicates rfl rfl rfl (by simpa [hparsed] using hname)⟩
    · cases h
  | orRestrict column => cases h
  | restrictKey key id =>
    obtain ⟨hlater, hnames⟩ := PrimaryKey.restrict_eq_ok h
    rw [after_restrictKey]
    exact ⟨hlater, checked_of_predicates rfl rfl rfl hnames⟩
  | restrictSave key loaded changed =>
    obtain ⟨hlater, hnames⟩ := PrimaryKey.restrictSave_eq_ok h
    rw [after_restrictSave]
    exact ⟨hlater, checked_of_predicates rfl rfl rfl hnames⟩
  | bind kind v =>
    rw [after_bind]
    exact ⟨Except.ok.inj h, checked_of_predicates rfl rfl rfl (by simp)⟩
  | bindNamed name v =>
    simp only [apply, Query.bindNamed] at h
    split at h
    · rename_i kind hkind
      rw [after_bindNamed q v hkind]
      exact ⟨Except.ok.inj h, checked_of_predicates rfl rfl rfl (by simp)⟩
    · cases h
  | updateCollection column operation v =>
    obtain ⟨c, rfl, hname, hlater⟩ := Query.updateCollection_eq_ok h
    rw [after_updateCollection]
    refine ⟨hlater, ⟨by simp, by simp, by simp, ?_⟩⟩
    simpa using hname
  | replaceCollection column v =>
    obtain ⟨c, rfl, hname, hlater⟩ := Query.updateCollection_eq_ok h
    rw [after_replaceCollection, after_updateCollection]
    refine ⟨hlater, ⟨by simp, by simp, by simp, ?_⟩⟩
    simpa using hname
  | withDistinct | withFiltering | withLimit | withOptions | withPageSize =>
    refine ⟨?_, checked_of_predicates rfl rfl rfl (by simp)⟩
    rw [← Except.ok.inj h]
    simp [after, Query.withDistinct, Query.withFiltering, Query.withLimit, Query.withOptions,
      Query.withPageSize, values, clauseValues, surplus]

/-- An accepted run of calls does what each of its calls does, one after another. -/
theorem applyAll_eq_ok {start q : Query} {calls : List Call} (h : applyAll start calls = .ok q) :
    calls.foldl after start = q ∧ ∀ call ∈ calls, call.Checked := by
  induction calls generalizing start with
  | nil => simpa using Outcome.foldlM_nil_eq_ok_iff.mp h
  | cons call calls ih =>
    obtain ⟨next, hcall, hcalls⟩ := Outcome.foldlM_cons_eq_ok_iff.mp h
    obtain ⟨rfl, hchecked⟩ := apply_eq_ok hcall
    obtain ⟨hlater, hrest⟩ := ih hcalls
    refine ⟨hlater, ?_⟩
    intro other hother
    rcases List.mem_cons.mp hother with rfl | hother
    · exact hchecked
    · exact hrest other hother

/-- What each call appends to a part of the query, a run appends in order. -/
theorem foldl_after_append {α : Type} (part : Query → List α) {added : Call → List α}
    (h : ∀ q call, part (after q call) = part q ++ added call) (q : Query) (calls : List Call) :
    part (calls.foldl after q) = part q ++ calls.flatMap added := by
  induction calls generalizing q with
  | nil => simp
  | cons call calls ih => rw [List.foldl_cons, ih, h, List.flatMap_cons, List.append_assoc]

end Call

namespace Query

/-- Every name that the query holds is an accepted one. -/
structure Checked (q : Query) : Prop where
  table : ∀ table, q.table = some table → Name.checkTable table = .ok ()
  columns : ∀ columns, q.columns = some columns →
    ∀ column ∈ columns, Name.checkColumn column = .ok ()
  predicates : ∀ p ∈ q.predicates, Name.checkIdentifier p.column = .ok ()
  mutations : ∀ m ∈ q.mutations, Name.checkIdentifier m.column = .ok ()

theorem Checked.after {q : Query} {call : Call} (hq : q.Checked) (hcall : call.Checked) :
    (Call.after q call).Checked := by
  constructor
  · intro table htable
    rcases Option.or_eq_some_iff.mp htable with hnew | ⟨_, hold⟩
    · exact hcall.table table hnew
    · exact hq.table table hold
  · intro columns hcolumns
    rcases Option.or_eq_some_iff.mp hcolumns with hnew | ⟨_, hold⟩
    · exact hcall.columns columns hnew
    · exact hq.columns columns hold
  · intro p hp
    rcases List.mem_append.mp hp with hold | hnew
    · exact hq.predicates p hold
    · exact hcall.predicates p hnew
  · intro m hm
    rcases List.mem_append.mp hm with hold | hnew
    · exact hq.mutations m hold
    · exact hcall.mutations m hnew

/-- A query without names. -/
theorem checked_fresh (options : Fields Json) (pageSize : Int32) :
    ({ options, pageSize } : Query).Checked := by
  constructor <;> simp

theorem checked_of_applyAll {start q : Query} {calls : List Call} (hstart : start.Checked)
    (h : Call.applyAll start calls = .ok q) : q.Checked := by
  obtain ⟨rfl, hcalls⟩ := Call.applyAll_eq_ok h
  clear h
  induction calls generalizing start with
  | nil => exact hstart
  | cons call calls ih =>
    exact ih (hstart.after (hcalls call (by simp)))
      (fun other hother => hcalls other (by simp [hother]))

end Query

end Cql
