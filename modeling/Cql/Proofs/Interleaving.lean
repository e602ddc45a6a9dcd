import Cql.Proofs.Bindings
import Cql.Proofs.Noninterference

/-!
Calls in another order. Of a run of calls a query keeps the last table, projection, limit and options
that were set, whether a flag was set at all, and what was added to each bucket in the order of the
additions. So calls for different parts may change places, and a statement only depends on the calls
for the parts that it is written from.
-/

namespace Cql

namespace Call

/-- What the last call that sets a part sets it to, if there is such a call. -/
def last? {α : Type} (part? : Call → Option α) (calls : List Call) : Option α :=
  (calls.filterMap part?).getLast?

/-- The calls that write to a bucket, in their order. -/
def writing (kind : Bucket) (calls : List Call) : List Call :=
  calls.filter fun call => call.bucket? = some kind

end Call

/-- What calls set or add to. A bucket stands for its values and for the clauses they are bound
for. -/
inductive Part where
  | table | columns | limit | options | distinct | filtering
  | bucket (kind : Bucket)

/-- Two runs of calls do the same to a part, whatever calls for other parts stand in between. -/
def Part.Agrees (calls calls' : List Call) : Part → Prop
  | table => Call.last? Call.table? calls = Call.last? Call.table? calls'
  | columns => Call.last? Call.columns? calls = Call.last? Call.columns? calls'
  | limit => Call.last? Call.limit? calls = Call.last? Call.limit? calls'
  | options => Call.last? Call.options? calls = Call.last? Call.options? calls'
  | distinct => calls.any Call.setsDistinct = calls'.any Call.setsDistinct
  | filtering => calls.any Call.setsFiltering = calls'.any Call.setsFiltering
  | bucket kind => Call.writing kind calls = Call.writing kind calls'

/-- Two queries have a part in common. -/
def Part.Common (q q' : Query) : Part → Prop
  | table => q.table = q'.table
  | columns => q.columns = q'.columns
  | limit => q.limit = q'.limit
  | options => q.options = q'.options
  | distinct => q.distinct = q'.distinct
  | filtering => q.allowFiltering = q'.allowFiltering
  | bucket .select => q.bindings.select = q'.bindings.select
  | bucket .predicate =>
    q.bindings.predicate = q'.bindings.predicate ∧ q.predicates = q'.predicates
  | bucket .updateCollection =>
    q.bindings.updateCollection = q'.bindings.updateCollection ∧ q.mutations = q'.mutations
  | bucket .join => q.bindings.join = q'.bindings.join

/-- The parts that a statement is written from. -/
def Request.parts : Request → List Part
  | select =>
    [.table, .columns, .limit, .distinct, .filtering, .bucket .select, .bucket .predicate,
      .bucket .join]
  | update _ =>
    [.table, .filtering, .bucket .predicate, .bucket .updateCollection, .bucket .join]
  | delete _ => [.table, .filtering, .bucket .select, .bucket .predicate, .bucket .join]
  | insert _ | index _ => [.table]

namespace Call

theorem last?_cons {α : Type} (part? : Call → Option α) (call : Call) (calls : List Call) :
    last? part? (call :: calls) = (last? part? calls).or (part? call) := by
  unfold last?
  rw [List.filterMap_cons]
  cases part? call with
  | none => simp
  | some value =>
    dsimp only
    rw [List.getLast?_cons]
    cases (calls.filterMap part?).getLast? <;> rfl

/-- Of the calls that set a part the last one counts. -/
theorem foldl_after_last {α : Type} (part : Query → Option α) {set : Call → Option α}
    (h : ∀ q call, part (after q call) = (set call).or (part q)) (q : Query) (calls : List Call) :
    part (calls.foldl after q) = (last? set calls).or (part q) := by
  induction calls generalizing q with
  | nil => rfl
  | cons call calls ih => rw [List.foldl_cons, ih, h, last?_cons, Option.or_assoc]

/-- A flag stays set. -/
theorem foldl_after_flag (flag : Query → Bool) {sets : Call → Bool}
    (h : ∀ q call, flag (after q call) = (flag q || sets call)) (q : Query) (calls : List Call) :
    flag (calls.foldl after q) = (flag q || calls.any sets) := by
  induction calls generalizing q with
  | nil => simp
  | cons call calls ih => rw [List.foldl_cons, ih, h, List.any_cons, Bool.or_assoc]

/-- What only calls for one bucket add, the calls for this bucket add alone. -/
theorem flatMap_writing {α : Type} {kind : Bucket} {added : Call → List α}
    (h : ∀ call, call.bucket? ≠ some kind → added call = []) (calls : List Call) :
    (writing kind calls).flatMap added = calls.flatMap added := by
  induction calls with
  | nil => rfl
  | cons call calls ih =>
    by_cases hkind : call.bucket? = some kind
    · have hcons : writing kind (call :: calls) = call :: writing kind calls := by
        simp [writing, hkind]
      rw [hcons, List.flatMap_cons, List.flatMap_cons, ih]
    · have hskip : writing kind (call :: calls) = writing kind calls := by
        simp [writing, hkind]
      rw [hskip, List.flatMap_cons, h call hkind, ih, List.nil_append]

theorem values_of_bucket_ne {call : Call} {kind : Bucket} (h : call.bucket? ≠ some kind) :
    call.values kind = [] := by
  rw [values_eq, if_neg h]

theorem predicates_of_bucket_ne {call : Call} (h : call.bucket? ≠ some .predicate) :
    call.predicates = [] := by
  have hvalues := values_of_bucket_ne h
  simp only [values, clauseValues, List.append_eq_nil_iff, List.map_eq_nil_iff] at hvalues
  exact hvalues.1

theorem mutations_of_bucket_ne {call : Call} (h : call.bucket? ≠ some .updateCollection) :
    call.mutations = [] := by
  have hvalues := values_of_bucket_ne h
  simp only [values, clauseValues, List.append_eq_nil_iff, List.map_eq_nil_iff] at hvalues
  exact hvalues.1

/-- A bucket holds what the calls that write to it handed over. -/
theorem get_foldl_after (q : Query) (calls : List Call) (kind : Bucket) :
    (calls.foldl after q).bindings.get kind =
      q.bindings.get kind ++ (writing kind calls).flatMap fun call => call.values kind := by
  rw [flatMap_writing fun call h => values_of_bucket_ne h]
  exact foldl_after_append (fun q => q.bindings.get kind)
    (fun q call => get_after_bindings q call kind) q calls

theorem predicates_foldl_after (q : Query) (calls : List Call) :
    (calls.foldl after q).predicates =
      q.predicates ++ (writing .predicate calls).flatMap predicates := by
  rw [flatMap_writing fun call h => predicates_of_bucket_ne h]
  exact foldl_after_append Query.predicates (fun q call => rfl) q calls

theorem mutations_foldl_after (q : Query) (calls : List Call) :
    (calls.foldl after q).mutations =
      q.mutations ++ (writing .updateCollection calls).flatMap mutations := by
  rw [flatMap_writing fun call h => mutations_of_bucket_ne h]
  exact foldl_after_append Query.mutations (fun q call => rfl) q calls

/-- Runs that do the same to a part of a query leave the same part. -/
theorem common_foldl_after {calls calls' : List Call} {part : Part}
    (h : part.Agrees calls calls') (start : Query) :
    part.Common (calls.foldl after start) (calls'.foldl after start) := by
  have hlast : ∀ {α : Type} (part : Query → Option α) {set : Call → Option α},
      (∀ q call, part (after q call) = (set call).or (part q)) →
      last? set calls = last? set calls' →
      part (calls.foldl after start) = part (calls'.foldl after start) := by
    intro α part set hpart hset
    rw [foldl_after_last part hpart, foldl_after_last part hpart, hset]
  cases part with
  | table => exact hlast Query.table (fun q call => rfl) h
  | columns => exact hlast Query.columns (fun q call => rfl) h
  | limit => exact hlast Query.limit (fun q call => rfl) h
  | options =>
    -- Options are never absent: they are what was set last, or else what the query started with.
    refine Option.some.inj (hlast (fun q => some q.options) ?_ h)
    intro q call
    dsimp only [after]
    cases call.options? <;> rfl
  | distinct =>
    have hflag := foldl_after_flag Query.distinct fun q call => rfl
    have hany : calls.any setsDistinct = calls'.any setsDistinct := h
    change (calls.foldl after start).distinct = (calls'.foldl after start).distinct
    rw [hflag, hflag, hany]
  | filtering =>
    have hflag := foldl_after_flag Query.allowFiltering fun q call => rfl
    have hany : calls.any setsFiltering = calls'.any setsFiltering := h
    change (calls.foldl after start).allowFiltering = (calls'.foldl after start).allowFiltering
    rw [hflag, hflag, hany]
  | bucket kind =>
    have hwriting : writing kind calls = writing kind calls' := h
    have hvalues : (calls.foldl after start).bindings.get kind =
        (calls'.foldl after start).bindings.get kind := by
      rw [get_foldl_after, get_foldl_after, hwriting]
    cases kind with
    | select => exact hvalues
    | predicate =>
      refine ⟨hvalues, ?_⟩
      rw [predicates_foldl_after, predicates_foldl_after, hwriting]
    | updateCollection =>
      refine ⟨hvalues, ?_⟩
      rw [mutations_foldl_after, mutations_foldl_after, hwriting]
    | join => exact hvalues

end Call

namespace Query

variable {q q' : Query}

/-- The arguments of a select or a delete. -/
theorem flattenExcept_of_common (hselect : (Part.bucket .select).Common q q')
    (hpredicate : (Part.bucket .predicate).Common q q') (hjoin : (Part.bucket .join).Common q q') :
    q.bindings.flattenExcept [.updateCollection] =
      q'.bindings.flattenExcept [.updateCollection] := by
  have hflat : ∀ b : Bindings,
      b.flattenExcept [.updateCollection] = b.select ++ b.predicate ++ b.join := by
    intro b
    simp [Bindings.flattenExcept, Bucket.all, Bindings.get]
  have hvalues : q.bindings.select = q'.bindings.select := hselect
  have hsurplus : q.bindings.join = q'.bindings.join := hjoin
  rw [hflat, hflat, hvalues, hpredicate.1, hsurplus]

theorem tableName_of_common (h : Part.table.Common q q') : q.tableName = q'.tableName :=
  congrArg (fun table => table.getD "") h

theorem projectionText_of_common (h : Part.columns.Common q q') :
    q.projectionText = q'.projectionText := by
  have hcolumns : q.columns = q'.columns := h
  unfold projectionText
  rw [hcolumns]

theorem limitText_of_common (h : Part.limit.Common q q') : q.limitText = q'.limitText := by
  have hlimit : q.limit = q'.limit := h
  unfold limitText
  rw [hlimit]

theorem filteringText_of_common (h : Part.filtering.Common q q') :
    q.filteringText = q'.filteringText :=
  congrArg (fun flag : Bool => if flag then "allow filtering" else "") h

theorem predicateText_of_common (h : (Part.bucket .predicate).Common q q') :
    q.predicateText = q'.predicateText := by
  unfold predicateText
  rw [h.2]

/-- A statement is written from the parts that its request reads, and from nothing else. -/
theorem write_of_common {r : Request} (h : ∀ part ∈ r.parts, part.Common q q') :
    q.write r = q'.write r := by
  cases r with
  | select =>
    simp only [Request.parts, List.forall_mem_cons] at h
    obtain ⟨htable, hcolumns, hlimit, hdistinct, hfiltering, hselect, hpredicate, hjoin, _⟩ := h
    have hflag : q.distinct = q'.distinct := hdistinct
    have harguments := flattenExcept_of_common hselect hpredicate hjoin
    change Except.ok q.selectStatement = .ok q'.selectStatement
    unfold selectStatement selectText
    rw [tableName_of_common htable, projectionText_of_common hcolumns, limitText_of_common hlimit,
      filteringText_of_common hfiltering, predicateText_of_common hpredicate, hflag, harguments]
  | update assignments =>
    simp only [Request.parts, List.forall_mem_cons] at h
    obtain ⟨htable, hfiltering, hpredicate, hqueued, hjoin, _⟩ := h
    have hjoined : q.bindings.get .join = q'.bindings.get .join := hjoin
    have hchanges : q.bindings.get .updateCollection = q'.bindings.get .updateCollection := hqueued.1
    have hvalues : q.bindings.get .predicate = q'.bindings.get .predicate := hpredicate.1
    have harguments : q.bindings.updateArguments (assignments.map Prod.snd) =
        q'.bindings.updateArguments (assignments.map Prod.snd) := by
      rw [Bindings.updateArguments_eq, Bindings.updateArguments_eq, hjoined, hchanges, hvalues]
    change q.updateStatement assignments = q'.updateStatement assignments
    unfold updateStatement updateText
    rw [tableName_of_common htable, filteringText_of_common hfiltering,
      predicateText_of_common hpredicate, hqueued.2, harguments]
  | delete columns =>
    simp only [Request.parts, List.forall_mem_cons] at h
    obtain ⟨htable, hfiltering, hselect, hpredicate, hjoin, _⟩ := h
    have harguments := flattenExcept_of_common hselect hpredicate hjoin
    change q.deleteStatement columns = q'.deleteStatement columns
    unfold deleteStatement deleteText
    rw [tableName_of_common htable, filteringText_of_common hfiltering,
      predicateText_of_common hpredicate, harguments]
  | insert payload =>
    have htable : Part.table.Common q q' := h .table (by simp [Request.parts])
    change q.insertStatement payload = q'.insertStatement payload
    unfold insertStatement insertText
    rw [tableName_of_common htable]
  | index columns =>
    have htable : Part.table.Common q q' := h .table (by simp [Request.parts])
    change q.indexStatement columns = q'.indexStatement columns
    unfold indexStatement indexText
    rw [tableName_of_common htable]

/-- Queries with all parts in common differ in their page size at most. -/
theorem eq_of_common (h : ∀ part : Part, part.Common q q') :
    { q with pageSize := q'.pageSize } = q' := by
  obtain ⟨hvalues, hpredicates⟩ := h (.bucket .predicate)
  obtain ⟨hqueued, hmutations⟩ := h (.bucket .updateCollection)
  have hbindings : q.bindings = q'.bindings :=
    calc q.bindings
        = ⟨q.bindings.select, q.bindings.predicate, q.bindings.updateCollection,
            q.bindings.join⟩ := rfl
      _ = q'.bindings := by rw [h (.bucket .select), hvalues, hqueued, h (.bucket .join)]
  calc { q with pageSize := q'.pageSize }
      = ⟨q.table, q.columns, q.predicates, q.limit, q.distinct, q.allowFiltering, q.mutations,
          q.options, q.bindings, q'.pageSize⟩ := rfl
    _ = q' := by
        rw [h .table, h .columns, hpredicates, h .limit, h .distinct, h .filtering, hmutations,
          h .options, hbindings]

/-- Calls for different parts of a query may change places: two accepted runs that do the same to
each part lead to the same query, but for the page size, and two runs that do the same to the parts
that a request reads lead to the same statement. -/
theorem write_of_interleaved {start : Query} {calls calls' : List Call}
    (hq : Call.applyAll start calls = .ok q) (hq' : Call.applyAll start calls' = .ok q') :
    ((∀ part : Part, part.Agrees calls calls') → { q with pageSize := q'.pageSize } = q') ∧
      ∀ r : Request, (∀ part ∈ r.parts, part.Agrees calls calls') → q.write r = q'.write r := by
  obtain ⟨rfl, _⟩ := Call.applyAll_eq_ok hq
  obtain ⟨rfl, _⟩ := Call.applyAll_eq_ok hq'
  constructor
  · intro h
    exact eq_of_common fun part => Call.common_foldl_after (h part) start
  · intro r h
    exact write_of_common fun part hpart => Call.common_foldl_after (h part hpart) start

/-- The same calls in another order, and a select that does not see the queued mutation. -/
theorem write_of_interleaved_users :
    ∃ q q' plain,
      Call.applyAll ∅ [.onTable "users", .withLimit 5, .restrict "id" .eq (.int 7),
        .updateCollection "tags" (some .append) (.collection (.list .text [.text "new"]))] =
          .ok q ∧
      Call.applyAll ∅ [.withLimit 9,
        .updateCollection "tags" (some .append) (.collection (.list .text [.text "new"])),
        .restrict "id" .eq (.int 7), .withLimit 5, .onTable "users"] = .ok q' ∧
      Call.applyAll ∅ [.restrict "id" .eq (.int 7), .withLimit 5, .onTable "users"] = .ok plain ∧
      { q with pageSize := q'.pageSize } = q' ∧ q.write .select = plain.write .select := by
  have hid : Name.checkIdentifier "id" = .ok () := Name.checkIdentifier_eq_ok_iff.mpr (by decide)
  have htags : Name.checkIdentifier "tags" = .ok () :=
    Name.checkIdentifier_eq_ok_iff.mpr (by decide)
  have htable : Name.checkTable "users" = .ok () :=
    Name.checkTable_of_checkIdentifier (Name.checkIdentifier_eq_ok_iff.mpr (by decide)) (by decide)
  obtain ⟨q, hq⟩ : ∃ q, Call.applyAll ∅ [.onTable "users", .withLimit 5,
      .restrict "id" .eq (.int 7),
      .updateCollection "tags" (some .append) (.collection (.list .text [.text "new"]))] =
        .ok q := by
    simp only [Call.applyAll, List.foldlM_cons, List.foldlM_nil, Call.apply, onTable, restrict,
      updateCollection, htable, hid, htags]
    exact ⟨_, rfl⟩
  obtain ⟨q', hq'⟩ : ∃ q', Call.applyAll ∅ [.withLimit 9,
      .updateCollection "tags" (some .append) (.collection (.list .text [.text "new"])),
      .restrict "id" .eq (.int 7), .withLimit 5, .onTable "users"] = .ok q' := by
    simp only [Call.applyAll, List.foldlM_cons, List.foldlM_nil, Call.apply, onTable, restrict,
      updateCollection, htable, hid, htags]
    exact ⟨_, rfl⟩
  obtain ⟨plain, hplain⟩ : ∃ plain, Call.applyAll ∅
      [.restrict "id" .eq (.int 7), .withLimit 5, .onTable "users"] = .ok plain := by
    simp only [Call.applyAll, List.foldlM_cons, List.foldlM_nil, Call.apply, onTable, restrict,
      htable, hid]
    exact ⟨_, rfl⟩
  refine ⟨q, q', plain, hq, hq', hplain, ?_, ?_⟩
  · apply (write_of_interleaved hq hq').1
    intro part
    cases part with
    | bucket kind => cases kind <;> rfl
    | _ => rfl
  · apply (write_of_interleaved hq hplain).2
    simp only [Request.parts, List.forall_mem_cons]
    exact ⟨rfl, rfl, rfl, rfl, rfl, rfl, rfl, rfl, List.forall_mem_nil _⟩

end Query

end Cql
