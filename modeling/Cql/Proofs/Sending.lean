import Cql.Workbench
import Cql.Proofs.Asking
import Cql.Proofs.Paging.Agreement

/-!
What the operations of a query send. Each of them repeats the same steps in its own way: it requires
a table, completes the projection, builds a statement and sends it. The first statement that reaches
the connection is the one that building it reports, and where nothing is reported nothing is sent.
-/

namespace Cql

namespace Exec

variable {α β : Type} {c : Connection}

/-- The operation is refused and has sent nothing, or else this is the first statement it sends. -/
def Opens (x : Exec α) (c : Connection) : Except Error Sent → Prop
  | .error e => (x.run c).1 = .error e ∧ (x.run c).2.sent = c.sent
  | .ok statement => ∃ more, (x.run c).2.sent = c.sent ++ statement :: more

/-- Whatever was sent before the operation stays sent. -/
def Extends (x : Exec α) : Prop :=
  ∀ c, ∃ more, (x.run c).2.sent = c.sent ++ more

theorem extends_pure (a : α) : (pure a : Exec α).Extends := by
  intro c
  exact ⟨[], (List.append_nil _).symm⟩

theorem opens_bind {x : Exec α} {f : α → Exec β} {opening : Except Error Sent}
    (h : x.Opens c opening) (hf : ∀ a, (f a).Extends) : (x >>= f).Opens c opening := by
  cases opening with
  | error e =>
    obtain ⟨houtcome, hsent⟩ := h
    have hrun : x.run c = (.error e, (x.run c).2) := Prod.ext houtcome rfl
    rw [Opens, run_bind_error hrun]
    exact ⟨rfl, hsent⟩
  | ok statement =>
    obtain ⟨more, hsent⟩ := h
    rw [Opens, run_bind]
    split
    · rename_i a later hrun
      rw [hrun] at hsent
      obtain ⟨rest, hrest⟩ := hf a later
      exact ⟨more ++ rest, by rw [hrest, hsent, List.append_assoc, List.cons_append]⟩
    · rename_i e later hrun
      rw [hrun] at hsent
      exact ⟨more, hsent⟩

theorem opens_discard {x : Exec α} {opening : Except Error Sent} (h : x.Opens c opening) :
    (discard x).Opens c opening :=
  opens_bind h fun _ => extends_pure _

theorem opens_of_asks {x : Exec α} {allows : Except Error Page → Except Error α → Prop}
    {opening : Except Error Sent} (h : x.Asks c allows opening) : x.Opens c opening := by
  cases opening with
  | error e => exact ⟨h.1, h.2.1⟩
  | ok statement => exact ⟨[], h.2.1⟩

/-- What an operation opens with shows in its outcome and in what it adds to what was sent. -/
theorem opens_congr {d : Connection} {x y : Exec α} {opening : Except Error Sent}
    (hstart : d.sent = c.sent) (houtcome : (x.run c).1 = (y.run d).1)
    (hsent : (x.run c).2.sent = (y.run d).2.sent) (h : y.Opens d opening) : x.Opens c opening := by
  cases opening with
  | error e => exact ⟨houtcome.trans h.1, (hsent.trans h.2).trans hstart⟩
  | ok statement =>
    obtain ⟨more, hmore⟩ := h
    exact ⟨more, by rw [hsent, hmore, hstart]⟩

theorem opens_trace {entry : TraceEntry} {x : Exec α} {opening : Except Error Sent}
    (h : x.Opens (c.note entry) opening) : (trace entry >>= fun _ => x).Opens c opening := by
  have hrun : (trace entry >>= fun _ => x).run c = x.run (c.note entry) :=
    run_bind_ok (run_trace c entry)
  exact opens_congr (c.sent_note entry) (by rw [hrun]) (by rw [hrun]) h

theorem opens_within {span : TraceEntry} {x : Exec α} {opening : Except Error Sent}
    (h : x.Opens (c.note span) opening) : (within span x).Opens c opening :=
  opens_congr (c.sent_note span) rfl (Connection.sent_leave _) h

end Exec

theorem Handle.extends_countAll (h : Handle) : h.countAll.Extends := by
  intro c
  rw [run_countAll]
  exact ⟨_, (h.sent_afterCount c).trans (h.sent_afterWalk c)⟩

namespace Operation

/-- What the operation does on a connection, apart from its answer. -/
def exec (q : Query) : Operation → Exec Unit
  | get columns => discard (q.get columns)
  | first columns => discard (q.first columns)
  | openRows columns => discard (q.openRows columns)
  | count columns => discard (q.count columns)
  | paginate size columns state => discard (q.paginate size columns state)
  | insert payload => q.insert payload
  | update assignments => discard (q.update assignments)
  | createIndex columns => discard (q.createIndex columns)
  | getLater columns _ => discard (q.getLater columns)
  | insertLater payload _ => discard (q.insertLater payload)
  | deleteRows _ => discard q.deleteRows
  | deleteColumns columns _ => discard (q.deleteColumns columns)

/-- The statement that is built for the operation, with the given projection where the query has
none. -/
def report (q : Query) : Operation → Except Error Statement
  | get columns | openRows columns | count columns | paginate _ columns _ | getLater columns _ => do
    let ready ← q.selectDefault columns
    return ready.selectStatement
  | first columns => do
    let ready ← q.selectDefault columns
    return (ready.withLimit 1).selectStatement
  | insert payload | insertLater payload _ => q.insertStatement payload
  | update assignments => q.updateStatement assignments
  | createIndex columns => q.indexStatement columns
  | deleteRows _ => q.deleteStatement []
  | deleteColumns columns _ => q.deleteStatement columns

/-- The rows per page that the operation asks for. -/
def pageSize? (q : Query) : Operation → Option Int32
  | paginate size _ _ => some (size.getD q.pageSize)
  | _ => none

def pagingState? : Operation → Option PagingState
  | paginate _ _ state => state
  | _ => none

/-- The statement is handed over without waiting for its outcome. -/
def isDeferred : Operation → Bool
  | getLater _ _ | insertLater _ _ | deleteRows _ | deleteColumns _ _ => true
  | _ => false

/-- An insert of nothing. -/
def isIdle : Operation → Bool
  | insert payload | insertLater payload _ => payload.isEmpty
  | _ => false

/-- A statement of the query as the operation sends it. -/
def sending (q : Query) (c : Connection) (operation : Operation) (s : Statement) : Sent where
  cql := s.cql
  options :=
    { arguments := s.arguments
      pageSize := operation.pageSize? q
      pagingState := operation.pagingState?
      extra := q.options }
  deferred := operation.isDeferred && c.deferring

/-- A delete of columns names a column. -/
def checkColumns : Operation → Except Error Unit
  | deleteColumns [] _ => throw .emptyColumnDelete
  | _ => pure ()

def checkPageSize (q : Query) (operation : Operation) : Except Error Unit :=
  match operation.pageSize? q with
  | some size => if size ≤ 0 then throw (.pageSizeNotPositive size.toInt) else pure ()
  | none => pure ()

/-- The checks in their order, and what is sent behind them. -/
def opening (q : Query) (c : Connection) (operation : Operation) : Except Error Sent := do
  operation.checkColumns
  q.requireTable
  let s ← operation.report q
  operation.checkPageSize q
  return operation.sending q c s

variable {q : Query} {c : Connection}

theorem asks_paginate (q : Query) (size : Option Int32) (columns : List String)
    (state : Option PagingState) (c : Connection) :
    (q.paginate size columns state).Asks c Exec.Relayed
      (opening q c (.paginate size columns state)) := by
  simp only [opening, checkColumns, report, bind_assoc, pure_bind]
  refine Query.asks_ready fun ready hready => ?_
  have hsize : ready.pageSize = q.pageSize := by rw [Query.selectDefault_eq_ok hready]
  rw [Query.statementOptions_of_selectDefault hready, hsize]
  simp only [checkPageSize, pageSize?]
  split
  · exact ⟨rfl, rfl, rfl⟩
  · exact ⟨rfl, c.sent_execute _ _, rfl⟩

/-- Most operations have no checks of their own. -/
theorem opening_of_unpaged {operation : Operation} (hcolumns : operation.checkColumns = pure ())
    (hsize : operation.pageSize? q = none) :
    operation.opening q c =
      q.requireTable >>= fun _ => operation.report q >>= fun s => .ok (operation.sending q c s) := by
  have hchecked : operation.checkPageSize q = pure () := by rw [checkPageSize, hsize]
  rw [opening, hcolumns, hchecked]
  rfl

/-- What is handed over without waiting, with what will come of it. -/
def later? (q : Query) : Operation → Option (Exec (Except Error Page))
  | getLater columns _ => some (q.getLater columns)
  | insertLater payload _ => some (q.insertLater payload)
  | deleteRows _ => some q.deleteRows
  | deleteColumns columns _ => some (q.deleteColumns columns)
  | _ => none

def isCount : Operation → Bool
  | count _ => true
  | _ => false

theorem eq_count {operation : Operation} (hcount : operation.isCount = true) :
    ∃ columns, operation = count columns := by
  cases operation with
  | count columns => exact ⟨columns, rfl⟩
  | _ => cases hcount

theorem asks_first (q : Query) (columns : List String) (c : Connection) :
    (q.first columns).Asks c Exec.Relayed (opening q c (.first columns)) := by
  have hget := Query.asks_get (q.withLimit 1) columns c
  rw [Query.selectDefault_withLimit, bind_assoc] at hget
  rw [opening_of_unpaged rfl rfl, report, bind_assoc]
  exact Exec.asks_map hget fun _ _ => rfl

/-- An operation that hands its statement over passes the checks and does so. -/
theorem asks_later {operation : Operation} {x : Exec (Except Error Page)}
    (hlater : operation.later? q = some x) (hidle : operation.isIdle = false) :
    x.Asks c Exec.Deferred (operation.opening q c) := by
  cases operation with
  | getLater columns drop =>
    obtain rfl := Option.some.inj hlater
    rw [opening_of_unpaged rfl rfl, report, bind_assoc]
    refine Query.asks_ready fun ready hready => ?_
    have hsend := Query.asks_dispatch ready ready.selectStatement c
    rw [Query.statementOptions_of_selectDefault hready] at hsend
    exact hsend
  | insertLater payload drop =>
    obtain rfl := Option.some.inj hlater
    have hinsert : q.insertLater payload = Exec.ofExcept q.requireTable >>= fun _ =>
        Exec.ofExcept (q.insertStatement payload) >>= fun s => q.dispatch s :=
      if_neg (by simpa [isIdle] using hidle)
    rw [opening_of_unpaged rfl rfl, hinsert]
    exact Query.asks_required fun s => Query.asks_dispatch q s c
  | deleteRows drop =>
    obtain rfl := Option.some.inj hlater
    rw [opening_of_unpaged rfl rfl]
    exact Query.asks_required fun s => Query.asks_dispatch q s c
  | deleteColumns columns drop =>
    obtain rfl := Option.some.inj hlater
    cases columns with
    | nil => exact ⟨rfl, rfl, rfl⟩
    | cons column columns =>
      rw [opening_of_unpaged rfl rfl]
      exact Query.asks_required fun s => Query.asks_dispatch q s c
  | _ => cases hlater

/-- An operation that waits passes the checks, sends its statement and passes the reply on. Counting
goes on behind the first page. -/
theorem asks_exec {operation : Operation} (hlater : operation.later? q = none)
    (hcount : operation.isCount = false) (hidle : operation.isIdle = false) :
    (operation.exec q).Asks c Exec.Relayed (operation.opening q c) := by
  cases operation with
  | get columns =>
    rw [opening_of_unpaged rfl rfl, report, bind_assoc]
    exact Exec.asks_discard (Query.asks_get q columns c)
  | first columns => exact Exec.asks_discard (asks_first q columns c)
  | openRows columns =>
    rw [opening_of_unpaged rfl rfl, report, bind_assoc]
    exact Exec.asks_discard (Query.asks_openRows q columns c)
  | paginate size columns state => exact Exec.asks_discard (asks_paginate q size columns state c)
  | insert payload =>
    have hinsert : q.insert payload = Exec.ofExcept q.requireTable >>= fun _ =>
        Exec.ofExcept (q.insertStatement payload) >>= fun s => discard (q.send s) :=
      if_neg (by simpa [isIdle] using hidle)
    rw [opening_of_unpaged rfl rfl, exec, hinsert]
    exact Query.asks_required fun s => Exec.asks_discard (Query.asks_send q s c)
  | update assignments =>
    rw [opening_of_unpaged rfl rfl]
    exact Exec.asks_discard (Query.asks_required fun s => Query.asks_send q s c)
  | createIndex columns =>
    rw [opening_of_unpaged rfl rfl]
    exact Exec.asks_discard (Query.asks_required fun s => Query.asks_send q s c)
  | count columns => cases hcount
  | _ => cases hlater

theorem exec_of_later {operation : Operation} {x : Exec (Except Error Page)}
    (hlater : operation.later? q = some x) : operation.exec q = discard x := by
  cases operation with
  | getLater | insertLater | deleteRows | deleteColumns =>
    obtain rfl := Option.some.inj hlater
    rfl
  | _ => cases hlater

/-- Every operation that has something to do passes the checks and then sends its statement. -/
theorem exec_opens {operation : Operation} (hidle : operation.isIdle = false) :
    (operation.exec q).Opens c (operation.opening q c) := by
  cases hlater : operation.later? q with
  | some x =>
    rw [exec_of_later hlater]
    exact Exec.opens_discard (Exec.opens_of_asks (asks_later hlater hidle))
  | none =>
    cases hcount : operation.isCount with
    | false => exact Exec.opens_of_asks (asks_exec hlater hcount hidle)
    | true =>
      obtain ⟨columns, rfl⟩ := eq_count hcount
      have hopen := Exec.opens_of_asks (Query.asks_openRows q columns (q.noted c))
      rw [opening_of_unpaged rfl rfl, report, bind_assoc]
      refine Exec.opens_discard (Exec.opens_within (Exec.opens_trace ?_))
      exact Exec.opens_bind hopen Handle.extends_countAll

/-- The projection that is given to an operation which selects. -/
def columns? : Operation → Option (List String)
  | get columns | first columns | openRows columns | count columns | paginate _ columns _
  | getLater columns _ => some columns
  | _ => none

/-- What makes an operation fail before it sends anything. -/
inductive Refused (q : Query) : Operation → Prop
  | table {operation : Operation} (h : q.table = none) : Refused q operation
  | projection {operation : Operation} {columns : List String} {column : String}
      (hcolumns : operation.columns? = some columns) (hnone : q.columns = none)
      (hcolumn : column ∈ columns) (hinvalid : Name.checkColumn column ≠ .ok ()) :
    Refused q operation
  | statement {operation : Operation} {e : Error} (hcolumns : operation.columns? = none)
      (h : operation.report q = .error e) : Refused q operation
  | pageSize {size : Option Int32} {columns : List String} {state : Option PagingState}
      (h : size.getD q.pageSize ≤ 0) : Refused q (paginate size columns state)
  | columns {drop : Bool} : Refused q (deleteColumns [] drop)

/-- A select is built unless the projection is to be completed by an invalid column. -/
theorem report_of_columns {operation : Operation} {columns : List String}
    (hcolumns : operation.columns? = some columns) :
    (∃ s, operation.report q = .ok s) ↔
      (q.columns = none → ∀ column ∈ columns, Name.checkColumn column = .ok ()) := by
  have hreport : (∃ s, operation.report q = .ok s) ↔
      ∃ ready, q.selectDefault columns = .ok ready := by
    cases operation <;> cases hcolumns <;> simp only [report] <;>
      cases q.selectDefault columns <;> simp [bind, Except.bind, pure, Except.pure]
  rw [hreport]
  unfold Query.selectDefault
  cases hnone : q.columns with
  | some chosen => simp
  | none =>
    simp only [Option.isSome_none, Bool.false_eq_true, if_false, forall_const, Query.select,
      Outcome.bind_eq_ok_iff]
    constructor
    · rintro ⟨_, _, hchecked, _⟩
      exact Outcome.forM_eq_ok_iff.mp hchecked
    · intro hvalid
      exact ⟨_, (), Outcome.forM_eq_ok_iff.mpr hvalid, rfl⟩

theorem checkColumns_eq_ok_iff {operation : Operation} :
    operation.checkColumns = .ok () ↔ ∀ drop, operation ≠ deleteColumns [] drop := by
  unfold checkColumns
  split
  · rename_i drop
    exact iff_of_false (fun h => by cases h) (fun h => h drop rfl)
  · rename_i hother
    exact iff_of_true rfl hother

theorem checkPageSize_eq_ok_iff {operation : Operation} :
    operation.checkPageSize q = .ok () ↔
      ∀ size columns state, operation = paginate size columns state →
        ¬ size.getD q.pageSize ≤ 0 := by
  cases operation with
  | paginate size columns state =>
    simp only [checkPageSize, pageSize?]
    split
    · rename_i hsize
      exact iff_of_false (fun h => by cases h) (fun h => h _ _ _ rfl hsize)
    · rename_i hsize
      refine iff_of_true rfl ?_
      rintro _ _ _ ⟨⟩
      exact hsize
  | _ => exact iff_of_true rfl fun _ _ _ h => by cases h

/-- What is sent behind the checks is the reported statement. -/
theorem opening_eq_ok_iff {operation : Operation} {sent : Sent} :
    operation.opening q c = .ok sent ↔
      operation.checkColumns = .ok () ∧ q.requireTable = .ok () ∧
        ∃ s, operation.report q = .ok s ∧ operation.checkPageSize q = .ok () ∧
          operation.sending q c s = sent := by
  simp only [opening, Outcome.bind_eq_ok_iff]
  constructor
  · rintro ⟨_, hcolumns, _, htable, s, hs, _, hsize, hsent⟩
    exact ⟨hcolumns, htable, s, hs, hsize, Except.ok.inj hsent⟩
  · rintro ⟨hcolumns, htable, s, hs, hsize, rfl⟩
    exact ⟨(), hcolumns, (), htable, s, hs, (), hsize, rfl⟩

/-- The checks are passed just where nothing makes the operation fail. -/
theorem opening_accepted_iff {operation : Operation} :
    (∃ sent, operation.opening q c = .ok sent) ↔ ¬ operation.Refused q := by
  simp only [opening_eq_ok_iff]
  constructor
  · rintro ⟨_, hcolumns, htable, s, hs, hsize, _⟩ hrefused
    cases hrefused with
    | table h =>
      rw [Query.requireTable, h] at htable
      cases htable
    | projection hselects hnone hcolumn hinvalid =>
      exact hinvalid ((report_of_columns hselects).mp ⟨s, hs⟩ hnone _ hcolumn)
    | statement _ h =>
      rw [hs] at h
      cases h
    | pageSize h => exact checkPageSize_eq_ok_iff.mp hsize _ _ _ rfl h
    | columns => exact checkColumns_eq_ok_iff.mp hcolumns _ rfl
  · intro hadmitted
    have htable : q.requireTable = .ok () := by
      unfold Query.requireTable
      cases h : q.table with
      | none => exact absurd (.table h) hadmitted
      | some table => rfl
    have hcolumns : operation.checkColumns = .ok () :=
      checkColumns_eq_ok_iff.mpr fun drop h => hadmitted (h ▸ .columns)
    have hsize : operation.checkPageSize q = .ok () :=
      checkPageSize_eq_ok_iff.mpr fun _ _ _ h hsize => hadmitted (h ▸ .pageSize hsize)
    have hreport : ∃ s, operation.report q = .ok s := by
      cases hselects : operation.columns? with
      | some columns =>
        refine (report_of_columns hselects).mpr fun hnone column hcolumn => ?_
        by_cases hvalid : Name.checkColumn column = .ok ()
        · exact hvalid
        · exact absurd (.projection hselects hnone hcolumn hvalid) hadmitted
      | none =>
        cases h : operation.report q with
        | error e => exact absurd (.statement hselects h) hadmitted
        | ok s => exact ⟨s, rfl⟩
    obtain ⟨s, hs⟩ := hreport
    exact ⟨_, hcolumns, htable, s, hs, hsize, rfl⟩

theorem run_idle {operation : Operation} (hidle : operation.isIdle = true) :
    ((operation.exec q).run c).1 = .ok () ∧ ((operation.exec q).run c).2.sent = c.sent := by
  cases operation with
  | insert payload =>
    have hpayload : payload.isEmpty = true := hidle
    simp only [exec, Query.insert, hpayload]
    exact ⟨rfl, c.sent_note _⟩
  | insertLater payload drop =>
    have hpayload : payload.isEmpty = true := hidle
    simp only [exec, Query.insertLater, hpayload]
    exact ⟨rfl, c.sent_note _⟩
  | _ => cases hidle

/-- To hand a select over comes to the rows that are answered where somebody waits. -/
theorem getLater_eq_get (q : Query) (columns : List String) (c : Connection) :
    (((q.getLater columns).run c).1 >>= fun outcome => outcome.map Page.rows) =
      ((q.get columns).run c).1 := by
  unfold Query.getLater Query.get
  cases hready : q.ready columns with
  | error e =>
    rw [Exec.run_bind_error (Query.run_openRows_refused c hready)]
    rfl
  | ok ready =>
    have hopen := Query.run_openRows c hready
    have hdispatch : ((Exec.ofExcept (.ok ready) >>= fun q => q.dispatch q.selectStatement).run c).1
        = .ok c.reply.outcome := rfl
    rw [hdispatch]
    cases hreply : c.reply.outcome with
    | error e =>
      rw [hreply] at hopen
      rw [Exec.run_bind_error hopen]
      rfl
    | ok page =>
      rw [hreply] at hopen
      rw [Exec.run_bind_ok hopen]
      rfl

/-- An operation fails with nothing sent just where it is refused, and otherwise the first statement
it sends is the one that is reported, with the options of the query. An insert of nothing succeeds
and sends nothing, whatever the query. -/
theorem exec_sends (q : Query) (operation : Operation) (c : Connection) :
    (operation.isIdle = true →
      ((operation.exec q).run c).1 = .ok () ∧ ((operation.exec q).run c).2.sent = c.sent) ∧
    (operation.isIdle = false →
      ((∃ e, ((operation.exec q).run c).1 = .error e ∧
        ((operation.exec q).run c).2.sent = c.sent) ↔ operation.Refused q) ∧
      (¬ operation.Refused q → ∃ s more, operation.report q = .ok s ∧
        ((operation.exec q).run c).2.sent = c.sent ++ operation.sending q c s :: more)) ∧
    ∀ columns, (((q.getLater columns).run c).1 >>= fun outcome => outcome.map Page.rows) =
      ((q.get columns).run c).1 := by
  refine ⟨run_idle, fun hidle => ?_, fun columns => getLater_eq_get q columns c⟩
  have hopens := exec_opens (q := q) (c := c) hidle
  have hadmitted : ¬ operation.Refused q → ∃ s more, operation.report q = .ok s ∧
      ((operation.exec q).run c).2.sent = c.sent ++ operation.sending q c s :: more := by
    intro h
    obtain ⟨sent, hopening⟩ := opening_accepted_iff.mpr h
    obtain ⟨_, _, s, hs, _, rfl⟩ := opening_eq_ok_iff.mp hopening
    rw [hopening] at hopens
    obtain ⟨more, hsent⟩ := hopens
    exact ⟨s, more, hs, hsent⟩
  refine ⟨⟨?_, ?_⟩, hadmitted⟩
  · rintro ⟨e, _, hsent⟩
    by_cases h : operation.Refused q
    · exact h
    · obtain ⟨s, more, _, hmore⟩ := hadmitted h
      rw [hsent] at hmore
      simp at hmore
  · intro hrefused
    cases hopening : operation.opening q c with
    | error e =>
      rw [hopening] at hopens
      exact ⟨e, hopens⟩
    | ok sent => exact absurd hrefused (opening_accepted_iff.mp ⟨sent, hopening⟩)

/-- A delete is handed over with its argument and without paging; an insert of nothing needs no
table. -/
theorem exec_sends_delete_of_users :
    let c : Connection := { script := [], settings := {}, deferring := true }
    ∃ q s more, Call.applyAll { options := ∅, pageSize := standardPageSize }
        [.onTable "users", .restrict "id" .eq (.int 7)] = .ok q ∧
      (deleteRows true).report q = .ok s ∧
      (((deleteRows true).exec q).run c).2.sent =
        ⟨s.cql, { arguments := s.arguments }, true⟩ :: more ∧
      (((insert (.single [])).exec ∅).run c).2.sent = [] := by
  intro c
  have hid : Name.checkIdentifier "id" = .ok () := Name.checkIdentifier_eq_ok_iff.mpr (by decide)
  have htable : Name.checkTable "users" = .ok () :=
    Name.checkTable_of_checkIdentifier (Name.checkIdentifier_eq_ok_iff.mpr (by decide)) (by decide)
  have hrun : Call.applyAll { options := ∅, pageSize := standardPageSize }
      [.onTable "users", .restrict "id" .eq (.int 7)] =
      .ok (Query.addPredicates { table := some "users" } [⟨"id", .eq, .int 7⟩]) := by
    simp only [Call.applyAll, List.foldlM_cons, List.foldlM_nil, Call.apply, Query.onTable,
      Query.restrict, htable, hid]
    rfl
  have hadmitted : ¬ (deleteRows true).Refused
      (Query.addPredicates { table := some "users" } [⟨"id", .eq, .int 7⟩]) := by
    intro hrefused
    cases hrefused with
    | table h => cases h
    | projection h => cases h
    | statement _ h => cases h
  obtain ⟨s, more, hs, hsent⟩ := ((exec_sends _ (deleteRows true) c).2.1 rfl).2 hadmitted
  exact ⟨_, s, more, hrun, hs, hsent, ((exec_sends ∅ (insert (.single [])) c).1 rfl).2⟩

end Operation

end Cql
