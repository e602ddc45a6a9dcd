import Mathlib.Data.List.Flatten
import Mathlib.Data.List.Perm.Subperm
import Cql.Proofs.Alike
import Cql.Proofs.Outline.Write

/-!
Values never reach a text. Two runs of calls that differ in the values they hand over, and then two
requests that differ in theirs, are refused at one step or end in statements with one text, whose
arguments differ only where the values do.
-/

namespace Cql

/-- What a query is asked to write. -/
inductive Request where
  | select
  | update (assignments : Cells)
  | delete (columns : List String)
  | insert (payload : Payload)
  | index (columns : List String)

def Query.write (q : Query) : Request → Except Error Statement
  | .select => .ok q.selectStatement
  | .update assignments => q.updateStatement assignments
  | .delete columns => q.deleteStatement columns
  | .insert payload => q.insertStatement payload
  | .index columns => q.indexStatement columns

/-- Payloads of one form, with the same columns row by row. -/
inductive Payload.Alike : Payload → Payload → Prop
  | single {cells cells' : Cells} (h : columnsOf cells = columnsOf cells') :
    Alike (.single cells) (.single cells')
  | batch {rows rows' : List Cells}
      (h : List.Forall₂ (fun row row' => columnsOf row = columnsOf row') rows rows') :
    Alike (.batch rows) (.batch rows')

/-- Requests for one kind of statement, with the same columns. -/
inductive Request.Alike : Request → Request → Prop
  | select : Alike .select .select
  | update {assignments assignments' : Cells}
      (h : assignments.map Prod.fst = assignments'.map Prod.fst) :
    Alike (.update assignments) (.update assignments')
  | delete (columns : List String) : Alike (.delete columns) (.delete columns)
  | insert {payload payload' : Payload} (h : payload.Alike payload') :
    Alike (.insert payload) (.insert payload')
  | index (columns : List String) : Alike (.index columns) (.index columns)

/-- The values that a call hands over. -/
def Call.handed : Call → List Value
  | restrict _ _ v | restrictBy _ _ v | bind _ v | bindNamed _ v | updateCollection _ _ v
  | replaceCollection _ v => [v]
  | restrictKey key id => (key.predicates id).map Predicate.value
  | restrictSave key loaded changed => (key.savePredicates loaded changed).map Predicate.value
  | _ => []

/-- The values of a payload, row by row. -/
def Payload.handed : Payload → List Value
  | single cells => cells.map Prod.snd
  | batch rows => rows.flatMap fun row => row.map Prod.snd

/-- The values that a request hands over. -/
def Request.handed : Request → List Value
  | update assignments => assignments.map Prod.snd
  | insert payload => payload.handed
  | select | delete _ | index _ => []

/-- Two lists that differ only where two others do: the values at one place of the lists are those
at one place of the others, and no place of the others is used twice. -/
structure Twins (handed handed' used used' : List Value) : Prop where
  length_handed : handed.length = handed'.length
  length_used : used.length = used'.length
  pairs : (used.zip used').Subperm (handed.zip handed')

namespace Twins

variable {handed handed' used used' more more' later later' : List Value}

theorem self (h : used.length = used'.length) : Twins used used' used used' :=
  ⟨h, h, List.Subperm.refl _⟩

theorem nil (h : handed.length = handed'.length) : Twins handed handed' [] [] :=
  ⟨h, rfl, List.nil_subperm⟩

theorem append (h : Twins handed handed' used used') (hmore : Twins more more' later later') :
    Twins (handed ++ more) (handed' ++ more') (used ++ later) (used' ++ later') := by
  refine ⟨?_, ?_, ?_⟩
  · rw [List.length_append, List.length_append, h.length_handed, hmore.length_handed]
  · rw [List.length_append, List.length_append, h.length_used, hmore.length_used]
  · rw [List.zip_append h.length_used, List.zip_append h.length_handed]
    exact h.pairs.append hmore.pairs

/-- In which order the values are used does not matter. -/
theorem swap (h : Twins handed handed' (used ++ later) (used' ++ later'))
    (hused : used.length = used'.length) :
    Twins handed handed' (later ++ used) (later' ++ used') := by
  have hlength := h.length_used
  rw [List.length_append, List.length_append] at hlength
  have hlater : later.length = later'.length := by omega
  have hpairs := h.pairs
  rw [List.zip_append hused] at hpairs
  refine ⟨h.length_handed, by rw [List.length_append, List.length_append, hused, hlater], ?_⟩
  rw [List.zip_append hlater]
  exact List.perm_append_comm.subperm.trans hpairs

end Twins

/-- Buckets whose values differ only where those of two lists do. -/
structure BucketTwins (handed handed' : List Value) (get get' : Bucket → List Value) : Prop where
  length_handed : handed.length = handed'.length
  length_get : ∀ kind, (get kind).length = (get' kind).length
  pairs : (Bucket.all.flatMap fun kind => (get kind).zip (get' kind)).Subperm (handed.zip handed')

namespace BucketTwins

variable {handed handed' more more' : List Value} {get get' next next' : Bucket → List Value}

theorem append (h : BucketTwins handed handed' get get')
    (hnext : BucketTwins more more' next next') :
    BucketTwins (handed ++ more) (handed' ++ more') (fun kind => get kind ++ next kind)
      (fun kind => get' kind ++ next' kind) := by
  refine ⟨?_, ?_, ?_⟩
  · rw [List.length_append, List.length_append, h.length_handed, hnext.length_handed]
  · intro kind
    rw [List.length_append, List.length_append, h.length_get, hnext.length_get]
  · have hzip : (fun kind => (get kind ++ next kind).zip (get' kind ++ next' kind)) =
        fun kind => (get kind).zip (get' kind) ++ (next kind).zip (next' kind) := by
      funext kind
      exact List.zip_append (h.length_get kind)
    rw [hzip, List.zip_append h.length_handed]
    exact (List.flatMap_append_perm _ _ _).symm.subperm.trans (h.pairs.append hnext.pairs)

/-- Whatever buckets are read, each of them once, only the values that differ are told apart. -/
theorem flatMap (h : BucketTwins handed handed' get get') {kinds : List Bucket}
    (hkinds : kinds.Subperm Bucket.all) :
    Twins handed handed' (kinds.flatMap get) (kinds.flatMap get') := by
  have hzip : ∀ kinds : List Bucket, (kinds.flatMap get).length = (kinds.flatMap get').length ∧
      (kinds.flatMap get).zip (kinds.flatMap get') =
        kinds.flatMap fun kind => (get kind).zip (get' kind) := by
    intro kinds
    induction kinds with
    | nil => exact ⟨rfl, rfl⟩
    | cons kind kinds ih =>
      rw [List.flatMap_cons, List.flatMap_cons, List.flatMap_cons,
        List.zip_append (h.length_get kind), List.length_append, List.length_append,
        h.length_get kind, ih.1, ih.2]
      exact ⟨rfl, rfl⟩
  obtain ⟨hlength, hpairs⟩ := hzip kinds
  obtain ⟨ordered, hperm, hsublist⟩ := hkinds
  refine ⟨h.length_handed, hlength, ?_⟩
  rw [hpairs]
  exact (hperm.symm.flatMap_right _).subperm.trans ((hsublist.flatMap _).subperm.trans h.pairs)

/-- The arguments of a select or a delete. -/
theorem selectArguments {b b' : Bindings} (h : BucketTwins handed handed' b.get b'.get) :
    Twins handed handed' (b.flattenExcept [.updateCollection])
      (b'.flattenExcept [.updateCollection]) := by
  have hkinds : [Bucket.select, .predicate, .join].Subperm Bucket.all := by decide
  exact h.flatMap hkinds

/-- The arguments of an update, where the values of the predicates stand behind the assigned ones. -/
theorem updateArguments {b b' : Bindings} (h : BucketTwins handed handed' b.get b'.get)
    {assigned assigned' : List Value} (hassigned : assigned.length = assigned'.length) :
    Twins (handed ++ assigned) (handed' ++ assigned') (b.updateArguments assigned)
      (b'.updateArguments assigned') := by
  have hkinds : [Bucket.predicate, .join, .updateCollection].Subperm Bucket.all := by decide
  have hvalues := (h.flatMap hkinds).append (Twins.self hassigned)
  have harguments : ∀ (b : Bindings) (assigned : List Value), b.updateArguments assigned =
      (b.get .join ++ b.get .updateCollection ++ assigned) ++ b.get .predicate := by
    intro b assigned
    simp [Bindings.updateArguments, Bindings.flattenExcept, Bucket.all]
  rw [harguments, harguments]
  refine Twins.swap ?_ (h.length_get .predicate)
  simpa using hvalues

end BucketTwins

namespace Call

variable {call call' : Call} {calls calls' : List Call}

/-- The bucket that takes the values which an accepted call hands over. -/
def bucket? : Call → Option Bucket
  | restrict _ _ _ | restrictKey _ _ | restrictSave _ _ _ => some .predicate
  | restrictBy _ operator _ => (Operator.ofText? operator).map fun _ => .predicate
  | bind kind _ => some kind
  | bindNamed kind _ => Bucket.ofName? kind
  | updateCollection _ _ v | replaceCollection _ v =>
    v.collectionKind?.map fun _ => .updateCollection
  | _ => none

/-- The values of a call stand in its bucket. -/
theorem values_eq (call : Call) (kind : Bucket) :
    call.values kind = if call.bucket? = some kind then call.handed else [] := by
  cases call with
  | bind bucket v => cases bucket <;> cases kind <;> rfl
  | bindNamed name v =>
    cases h : Bucket.ofName? name with
    | none => cases kind <;> simp [values, clauseValues, surplus, bucket?, h]
    | some bucket =>
      cases bucket <;> cases kind <;> simp [values, clauseValues, surplus, bucket?, handed, h]
  | restrictBy column operator v =>
    cases h : Operator.ofText? operator <;> cases kind <;>
      simp [values, clauseValues, surplus, bucket?, handed, h]
  | updateCollection column operation v => cases v <;> cases kind <;> rfl
  | replaceCollection column v => cases v <;> cases kind <;> rfl
  | _ => cases kind <;> simp [values, clauseValues, surplus, bucket?, handed]

theorem Alike.bucket?_eq (h : Alike call call') : call.bucket? = call'.bucket? := by
  cases h with
  | updateCollection column operation v v' hkind => simp only [bucket?, hkind]
  | replaceCollection column v v' hkind => simp only [bucket?, hkind]
  | _ => rfl

theorem Alike.length_handed (h : Alike call call') : call.handed.length = call'.handed.length := by
  cases h <;> rfl

/-- What one call puts into the buckets. -/
theorem Alike.twins (h : Alike call call') :
    BucketTwins call.handed call'.handed call.values call'.values := by
  refine ⟨h.length_handed, ?_, ?_⟩
  · intro kind
    rw [values_eq, values_eq, h.bucket?_eq]
    split
    · exact h.length_handed
    · rfl
  · have hzip : (fun kind => (call.values kind).zip (call'.values kind)) =
        fun kind => if call'.bucket? = some kind then call.handed.zip call'.handed else [] := by
      funext kind
      rw [values_eq, values_eq, h.bucket?_eq]
      split <;> rfl
    rw [hzip]
    cases call'.bucket? with
    | none => exact List.nil_subperm
    | some bucket => cases bucket <;> simp [Bucket.all, List.Subperm.refl]

/-- What a run of calls puts into the buckets. -/
theorem twins_of_alike (h : List.Forall₂ Alike calls calls') :
    BucketTwins (calls.flatMap handed) (calls'.flatMap handed)
      (fun kind => calls.flatMap fun call => call.values kind)
      (fun kind => calls'.flatMap fun call => call.values kind) := by
  induction h with
  | nil => exact ⟨rfl, fun _ => rfl, List.nil_subperm⟩
  | cons hcall _ ih => exact hcall.twins.append ih

end Call

namespace Payload

variable {p p' : Payload} {row row' : Cells}

/-- Rows with the same columns, as one row with two values in each cell. -/
theorem exists_paired (h : columnsOf row = columnsOf row') :
    ∃ paired : List (String × Value × Value),
      (paired.map fun cell => (cell.1, cell.2.1)) = row ∧
        (paired.map fun cell => (cell.1, cell.2.2)) = row' := by
  induction row generalizing row' with
  | nil =>
    cases row' with
    | nil => exact ⟨[], rfl, rfl⟩
    | cons cell' row' => cases h
  | cons cell row ih =>
    cases row' with
    | nil => cases h
    | cons cell' row' =>
      obtain ⟨hcolumn, hcolumns⟩ := List.cons.inj h
      obtain ⟨paired, rfl, rfl⟩ := ih hcolumns
      refine ⟨(cell.1, cell.2, cell'.2) :: paired, rfl, ?_⟩
      rw [List.map_cons, hcolumn]

/-- To put a row in order only looks at its columns. -/
theorem sortCells_twins (h : columnsOf row = columnsOf row') :
    columnsOf (sortCells row) = columnsOf (sortCells row') ∧
      Twins (row.map Prod.snd) (row'.map Prod.snd) ((sortCells row).map Prod.snd)
        ((sortCells row').map Prod.snd) := by
  obtain ⟨paired, rfl, rfl⟩ := exists_paired h
  have hsort : ∀ f : String × Value × Value → Value,
      sortCells (paired.map fun cell => (cell.1, f cell)) =
        (paired.mergeSort fun a b => decide (a.1 ≤ b.1)).map fun cell => (cell.1, f cell) := by
    intro f
    unfold sortCells
    rw [List.map_mergeSort (s := fun a b => decide (a.1 ≤ b.1))]
    intro _ _ _ _
    rfl
  rw [hsort fun cell => cell.2.1, hsort fun cell => cell.2.2]
  simp only [columnsOf, List.map_map]
  refine ⟨rfl, by simp, by simp, ?_⟩
  rw [List.zip_map', List.zip_map']
  exact ((List.mergeSort_perm _ _).map _).subperm

/-- The rows to insert have the same columns, and their values are those of the payload. -/
theorem Alike.ordered (h : p.Alike p') :
    List.Forall₂ (fun row row' => columnsOf row = columnsOf row') p.ordered p'.ordered ∧
      Twins p.handed p'.handed (p.ordered.flatten.map Prod.snd)
        (p'.ordered.flatten.map Prod.snd) := by
  cases h with
  | single h =>
    have hlength := congrArg List.length h
    simp only [columnsOf, List.length_map] at hlength
    refine ⟨.cons h .nil, ?_⟩
    simp only [Payload.ordered, handed, List.flatten_cons, List.flatten_nil, List.append_nil]
    exact Twins.self (by simpa using hlength)
  | batch h =>
    simp only [Payload.ordered, handed]
    induction h with
    | nil => exact ⟨.nil, Twins.nil rfl⟩
    | cons hrow _ ih =>
      obtain ⟨hcolumns, hvalues⟩ := sortCells_twins hrow
      refine ⟨.cons hcolumns ih.1, ?_⟩
      simp only [List.map_cons, List.flatten_cons, List.map_append, List.flatMap_cons]
      exact hvalues.append ih.2

theorem checkRows_congr {rows rows' : List Cells}
    (h : List.Forall₂ (fun row row' => columnsOf row = columnsOf row') rows rows')
    (expected : List String) (index : Nat) :
    checkRows expected index rows = checkRows expected index rows' := by
  induction h generalizing index with
  | nil => rfl
  | cons hrow _ ih => rw [checkRows, checkRows, hrow, ih]

theorem Alike.rows? (h : p.Alike p') :
    Outcome.Alike (fun _ _ => True) p.rows? p'.rows? := by
  obtain ⟨hrows, _⟩ := h.ordered
  unfold Payload.rows?
  generalize p.ordered = rows at hrows ⊢
  generalize p'.ordered = rows' at hrows ⊢
  cases hrows with
  | nil => exact .error rfl
  | cons hfirst hrest =>
    have hempty := congrArg List.isEmpty hfirst
    rw [columnsOf, columnsOf, List.isEmpty_map, List.isEmpty_map] at hempty
    dsimp only
    rw [hempty, hfirst]
    split
    · exact .error rfl
    · refine .after fun _ _ => ?_
      rw [checkRows_congr hrest]
      exact .after fun _ _ => .ok trivial

end Payload

/-- Statements with one text, whose arguments differ only where the values handed over do. -/
structure Statement.Alike (handed handed' : List Value) (s s' : Statement) : Prop where
  cql : s.cql = s'.cql
  arguments : Twins handed handed' s.arguments s'.arguments

namespace Query

variable {q q' : Query} {handed handed' : List Value}

theorem Alike.targets (h : q.Alike q') {assignments assignments' : Cells}
    (hcolumns : assignments.map Prod.fst = assignments'.map Prod.fst) :
    q.targets assignments = q'.targets assignments' := by
  have hplain : ∀ assignments : Cells, (assignments.map fun a => (a.1, none)) =
      (assignments.map Prod.fst).map fun column => (column, (none : Option CollectionChange)) := by
    intro assignments
    rw [List.map_map]
    rfl
  rw [targets_eq, targets_eq q', h.changes, hplain, hplain, hcolumns]

theorem selectStatement_alike (hq : q.Checked) (hq' : q'.Checked) (h : q.Alike q')
    (hbuckets : BucketTwins handed handed' q.bindings.get q'.bindings.get) :
    Statement.Alike handed handed' q.selectStatement q'.selectStatement := by
  have hprojection : q.projection = q'.projection := by rw [projection, projection, h.columns]
  have houtline : q.selectOutline = q'.selectOutline := by
    rw [selectOutline, selectOutline, h.distinct, hprojection, h.table, h.conditions, h.limit,
      h.allowFiltering]
  refine ⟨?_, hbuckets.selectArguments⟩
  change q.selectText = q'.selectText
  rw [selectText_eq hq, selectText_eq hq', houtline]

theorem deleteStatement_alike (hq : q.Checked) (hq' : q'.Checked) (h : q.Alike q')
    (hbuckets : BucketTwins handed handed' q.bindings.get q'.bindings.get)
    (columns : List String) :
    Outcome.Alike (Statement.Alike handed handed') (q.deleteStatement columns)
      (q'.deleteStatement columns) := by
  have houtline : q.deleteOutline columns = q'.deleteOutline columns := by
    rw [deleteOutline, deleteOutline, h.table, h.conditions, h.allowFiltering]
  have hrefused : Outcome.Alike (fun _ _ => True) (q.deleteStatement columns)
      (q'.deleteStatement columns) := .after fun _ _ => .ok trivial
  refine hrefused.of_ok fun s s' hs hs' _ => ⟨?_, ?_⟩
  · rw [(deleteStatement_outline hq hs).2, (deleteStatement_outline hq' hs').2, houtline]
  · obtain ⟨_, rfl⟩ := deleteStatement_eq_ok hs
    obtain ⟨_, rfl⟩ := deleteStatement_eq_ok hs'
    exact hbuckets.selectArguments

theorem updateStatement_refused (h : q.Alike q') {assignments assignments' : Cells}
    (hcolumns : assignments.map Prod.fst = assignments'.map Prod.fst) :
    Outcome.Alike (fun _ _ => True) (q.updateStatement assignments)
      (q'.updateStatement assignments') := by
  have hempty : ∀ (q : Query) (assignments : Cells),
      (assignments.isEmpty && q.mutations.isEmpty) = (q.targets assignments).isEmpty := by
    intro q assignments
    unfold targets
    cases assignments <;> cases q.mutations <;> rfl
  have hcheck : ∀ assignments : Cells, (assignments.forM fun a => Name.checkIdentifier a.1) =
      (assignments.map Prod.fst).forM Name.checkIdentifier :=
    fun assignments => List.forM_map.symm
  unfold updateStatement
  rw [hempty, hempty, h.targets hcolumns, hcheck, hcheck, hcolumns]
  split
  · exact .error rfl
  · exact .after fun _ _ => .ok trivial

theorem updateStatement_alike (hq : q.Checked) (hq' : q'.Checked) (h : q.Alike q')
    (hbuckets : BucketTwins handed handed' q.bindings.get q'.bindings.get)
    {assignments assignments' : Cells}
    (hcolumns : assignments.map Prod.fst = assignments'.map Prod.fst) :
    Outcome.Alike (Statement.Alike (handed ++ assignments.map Prod.snd)
        (handed' ++ assignments'.map Prod.snd))
      (q.updateStatement assignments) (q'.updateStatement assignments') := by
  have houtline : q.updateOutline assignments = q'.updateOutline assignments' := by
    rw [updateOutline, updateOutline, h.table, h.targets hcolumns, h.conditions, h.allowFiltering]
  have hassigned : (assignments.map Prod.snd).length = (assignments'.map Prod.snd).length := by
    simpa using congrArg List.length hcolumns
  refine (updateStatement_refused h hcolumns).of_ok fun s s' hs hs' _ => ⟨?_, ?_⟩
  · rw [(updateStatement_outline hq hs).2, (updateStatement_outline hq' hs').2, houtline]
  · obtain ⟨_, rfl⟩ := updateStatement_eq_ok hs
    obtain ⟨_, rfl⟩ := updateStatement_eq_ok hs'
    exact hbuckets.updateArguments hassigned

theorem insertStatement_alike (hq : q.Checked) (hq' : q'.Checked) (h : q.Alike q')
    (hlength : handed.length = handed'.length) {payload payload' : Payload}
    (hpayload : payload.Alike payload') :
    Outcome.Alike (Statement.Alike (handed ++ payload.handed) (handed' ++ payload'.handed))
      (q.insertStatement payload) (q'.insertStatement payload') := by
  obtain ⟨hrows, hvalues⟩ := hpayload.ordered
  have hcolumns : payload.ordered.map Payload.columnsOf =
      payload'.ordered.map Payload.columnsOf := by
    rw [← List.forall₂_eq_eq_eq, List.forall₂_map_left_iff, List.forall₂_map_right_iff]
    exact hrows
  have houtline : q.insertOutline payload = q'.insertOutline payload' := by
    rw [insertOutline, insertOutline, h.table, hrows.length_eq, ← List.head?_map, ← List.head?_map,
      hcolumns]
  have hrefused : Outcome.Alike (fun _ _ => True) (q.insertStatement payload)
      (q'.insertStatement payload') := hpayload.rows?.bind fun _ _ _ => .ok trivial
  refine hrefused.of_ok fun s s' hs hs' _ => ⟨?_, ?_⟩
  · rw [(insertStatement_outline hq hs).2, (insertStatement_outline hq' hs').2, houtline]
  · obtain ⟨rows, haccepted, hrest⟩ := Outcome.bind_eq_ok_iff.mp hs
    obtain ⟨rows', haccepted', hrest'⟩ := Outcome.bind_eq_ok_iff.mp hs'
    obtain ⟨rfl, _⟩ := Payload.rows?_eq_ok haccepted
    obtain ⟨rfl, _⟩ := Payload.rows?_eq_ok haccepted'
    obtain rfl := Except.ok.inj hrest
    obtain rfl := Except.ok.inj hrest'
    exact (Twins.nil hlength).append hvalues

theorem indexStatement_alike (hq : q.Checked) (hq' : q'.Checked) (h : q.Alike q')
    (hlength : handed.length = handed'.length) (columns : List String) :
    Outcome.Alike (Statement.Alike handed handed') (q.indexStatement columns)
      (q'.indexStatement columns) := by
  have houtline : q.indexOutline columns = q'.indexOutline columns := by
    rw [indexOutline, indexOutline, h.table]
  have hrefused : Outcome.Alike (fun _ _ => True) (q.indexStatement columns)
      (q'.indexStatement columns) := by
    unfold indexStatement
    split
    · exact .error rfl
    · exact .after fun _ _ => .ok trivial
  refine hrefused.of_ok fun s s' hs hs' _ => ⟨?_, ?_⟩
  · rw [(indexStatement_outline hq hs).2, (indexStatement_outline hq' hs').2, houtline]
  · obtain ⟨_, rfl⟩ := indexStatement_eq_ok hs
    obtain ⟨_, rfl⟩ := indexStatement_eq_ok hs'
    exact Twins.nil hlength

/-- What two requests come to that differ in values only, on queries that do. -/
theorem write_alike (hq : q.Checked) (hq' : q'.Checked) (h : q.Alike q')
    (hbuckets : BucketTwins handed handed' q.bindings.get q'.bindings.get) {r r' : Request}
    (hr : r.Alike r') :
    Outcome.Alike (Statement.Alike (handed ++ r.handed) (handed' ++ r'.handed)) (q.write r)
      (q'.write r') := by
  cases hr with
  | select =>
    simp only [Request.handed, List.append_nil]
    exact .ok (selectStatement_alike hq hq' h hbuckets)
  | update hcolumns => exact updateStatement_alike hq hq' h hbuckets hcolumns
  | delete columns =>
    simp only [Request.handed, List.append_nil]
    exact deleteStatement_alike hq hq' h hbuckets columns
  | insert hpayload => exact insertStatement_alike hq hq' h hbuckets.length_handed hpayload
  | index columns =>
    simp only [Request.handed, List.append_nil]
    exact indexStatement_alike hq hq' h hbuckets.length_handed columns

/-- Values never reach the text of a statement. -/
theorem noninterference (options : Fields Json) (pageSize : Int32) {calls calls' : List Call}
    (h : List.Forall₂ Call.Alike calls calls') :
    (∀ n, Outcome.Alike (fun _ _ => True) (Call.applyAll { options, pageSize } (calls.take n))
      (Call.applyAll { options, pageSize } (calls'.take n))) ∧
    ∀ r r', Request.Alike r r' →
      Outcome.Alike (Statement.Alike (calls.flatMap Call.handed ++ r.handed)
          (calls'.flatMap Call.handed ++ r'.handed))
        (Call.applyAll { options, pageSize } calls >>= fun q => q.write r)
        (Call.applyAll { options, pageSize } calls' >>= fun q => q.write r') := by
  have hfresh : Query.Alike { options, pageSize } { options, pageSize } :=
    ⟨rfl, rfl, rfl, rfl, rfl, rfl, rfl⟩
  refine ⟨fun n => ?_, fun r r' hr => ?_⟩
  · have hruns := Call.applyAll_alike (List.forall₂_take n h) hfresh
    exact hruns.of_ok fun _ _ _ _ _ => trivial
  · have hruns : Outcome.Alike
        (fun q q' => q.Alike q' ∧ q.SumOf calls ∧ q'.SumOf calls')
        (Call.applyAll { options, pageSize } calls) (Call.applyAll { options, pageSize } calls') :=
      (Call.applyAll_alike h hfresh).of_ok fun _ _ hq hq' halike =>
        ⟨halike, sumOf_applyAll hq, sumOf_applyAll hq'⟩
    refine hruns.bind ?_
    rintro q q' ⟨halike, hsum, hsum'⟩
    refine write_alike hsum.checked hsum'.checked halike ?_ hr
    rw [funext hsum.bindings, funext hsum'.bindings]
    exact Call.twins_of_alike h

/-- A value that reads like a clause is a value all the same. -/
theorem noninterference_update_of_users :
    ∃ s s', (Call.applyAll { options := ∅, pageSize := standardPageSize }
        [.onTable "users", .restrict "id" .eq (.int 7)] >>= fun q =>
          q.write (.update [("name", .text "Ada")])) = .ok s ∧
      (Call.applyAll { options := ∅, pageSize := standardPageSize }
        [.onTable "users", .restrict "id" .eq (.int 8)] >>= fun q =>
          q.write (.update [("name", .text "Ada allow filtering")])) = .ok s' ∧
      Statement.Alike [.int 7, .text "Ada"] [.int 8, .text "Ada allow filtering"] s s' := by
  have hid : Name.checkIdentifier "id" = .ok () := Name.checkIdentifier_eq_ok_iff.mpr (by decide)
  have hname : Name.checkIdentifier "name" = .ok () :=
    Name.checkIdentifier_eq_ok_iff.mpr (by decide)
  have htable : Name.checkTable "users" = .ok () :=
    Name.checkTable_of_checkIdentifier (Name.checkIdentifier_eq_ok_iff.mpr (by decide)) (by decide)
  have hwritten : ∀ v assigned, ∃ s,
      (Call.applyAll { options := ∅, pageSize := standardPageSize }
        [.onTable "users", .restrict "id" .eq v] >>= fun q =>
          q.write (.update [("name", assigned)])) = .ok s := by
    intro v assigned
    have hcheck : List.forM [("name", assigned)] (fun a => Name.checkIdentifier a.1) = .ok () :=
      Outcome.forM_eq_ok_iff.mpr (by simpa using hname)
    simp only [Call.applyAll, List.foldlM_cons, List.foldlM_nil, Call.apply, onTable, restrict,
      htable, hid, write, updateStatement, hcheck]
    exact ⟨_, rfl⟩
  have hcalls : List.Forall₂ Call.Alike
      [.onTable "users", .restrict "id" .eq (.int 7)]
      [.onTable "users", .restrict "id" .eq (.int 8)] :=
    .cons (.same _) (.cons (.restrict _ _ _ _) .nil)
  obtain ⟨_, hwrite⟩ := noninterference ∅ standardPageSize hcalls
  obtain ⟨s, hs⟩ := hwritten (.int 7) (.text "Ada")
  obtain ⟨s', hs'⟩ := hwritten (.int 8) (.text "Ada allow filtering")
  have halike := hwrite (.update [("name", .text "Ada")])
    (.update [("name", .text "Ada allow filtering")]) (.update rfl)
  rw [hs, hs'] at halike
  cases halike with
  | ok halike => exact ⟨s, s', hs, hs', halike⟩

end Query

end Cql
