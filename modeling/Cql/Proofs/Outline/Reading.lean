import Cql.Proofs.NameLanguage
import Cql.Proofs.Noninterference
import Cql.Proofs.Outline.Pieces
import Cql.Proofs.Text.Separated

/-!
Reading a statement. A text that is written from an outline of some kind cannot be read as another
outline, of this kind or of another one, so the names that are read off it are those of the outline.
To wrap a name is to write its double quotes twice, and accepted names have none: what is read off
the statement of a query are the names that the query holds.
-/

namespace Cql

namespace Outline

/-- The names passed their checks, and no list is empty that must not be. -/
def Checked : Outline → Prop
  | select o => o.Checked
  | update o => o.Checked
  | delete o => o.Checked
  | insert o => o.Checked
  | index o => o.Checked

/-- The text can be read as a statement of this outline. -/
def Reads (o : Outline) (text : String) : Prop :=
  o.Checked ∧ Piece.join o.pieces = text

/-- What a statement of this kind begins with. -/
def lead : Outline → String
  | select _ => "select "
  | update _ => "update "
  | delete _ => "delete"
  | insert _ => "insert into "
  | index _ => "CREATE INDEX IF NOT EXISTS ON "

variable {o p : Outline}

theorem exists_pieces_eq (o : Outline) : ∃ rest, o.pieces = .other o.lead :: rest := by
  cases o <;> exact ⟨_, rfl⟩

theorem apart_lead (o p : Outline) : o.lead = p.lead ∨ Apart o.lead p.lead := by
  cases o <;> cases p <;> simp [lead, Apart]

/-- The start of a text tells which kind of statement it is. -/
theorem lead_eq_of_text_eq (h : o.text = p.text) : o.lead = p.lead := by
  obtain ⟨rest, ho⟩ := o.exists_pieces_eq
  obtain ⟨more, hp⟩ := p.exists_pieces_eq
  rw [← join_pieces, ← join_pieces, ho, hp, Piece.join_cons, Piece.join_cons] at h
  rcases apart_lead o p with hsame | hapart
  · exact hsame
  · exact absurd h (hapart.append_ne _ _)

/-- The text of a statement tells its kind and its outline. -/
theorem eq_of_text_eq (ho : o.Checked) (hp : p.Checked) (h : o.text = p.text) : o = p := by
  have hlead := lead_eq_of_text_eq h
  cases o with
  | select o =>
    cases p with
    | select p => exact congrArg select (SelectOutline.eq_of_text_eq ho hp h)
    | _ => simp [lead] at hlead
  | update o =>
    cases p with
    | update p => exact congrArg update (UpdateOutline.eq_of_text_eq ho hp h)
    | _ => simp [lead] at hlead
  | delete o =>
    cases p with
    | delete p => exact congrArg delete (DeleteOutline.eq_of_text_eq ho hp h)
    | _ => simp [lead] at hlead
  | insert o =>
    cases p with
    | insert p => exact congrArg insert (InsertOutline.eq_of_text_eq ho hp h)
    | _ => simp [lead] at hlead
  | index o =>
    cases p with
    | index p => exact congrArg index (IndexOutline.eq_of_text_eq ho hp h)
    | _ => simp [lead] at hlead

/-- A text has at most one reading. -/
theorem Reads.unique {text : String} (ho : o.Reads text) (hp : p.Reads text) : o = p := by
  refine eq_of_text_eq ho.1 hp.1 ?_
  rw [← join_pieces, ← join_pieces, ho.2, hp.2]

end Outline

/-- The column of a mutation, as often as an update has it: only where the column is replaced, it
does not stand on the right side too. -/
def Mutation.names (m : Mutation) : List String :=
  match m.operation with
  | some _ => [m.column, m.column]
  | none => [m.column]

namespace Query

variable {q : Query} {request : Request} {s : Statement}

def outline (q : Query) : Request → Outline
  | .select => .select q.selectOutline
  | .update assignments => .update (q.updateOutline assignments)
  | .delete columns => .delete (q.deleteOutline columns)
  | .insert payload => .insert (q.insertOutline payload)
  | .index columns => .index (q.indexOutline columns)

/-- The names that a query and a request hold, in the order of their statement. As long as no
columns are chosen, a select has the star in their place. -/
def names (q : Query) : Request → List String
  | .select => q.projection ++ q.table.toList ++ q.predicates.map Predicate.column
  | .update assignments =>
    q.table.toList ++ q.mutations.flatMap Mutation.names ++ assignments.map Prod.fst ++
      q.predicates.map Predicate.column
  | .delete columns => columns ++ q.table.toList ++ q.predicates.map Predicate.column
  | .insert payload => q.table.toList ++ (payload.ordered.head?.map Payload.columnsOf).getD []
  | .index columns => q.table.toList ++ columns

theorem map_fst_conditions (q : Query) :
    q.conditions.map Prod.fst = q.predicates.map Predicate.column := by
  rw [conditions, List.map_map]
  rfl

theorem names_ofTarget (m : Mutation) :
    Piece.names (Piece.ofTarget (m.column, m.operation)) = m.names := by
  unfold Mutation.names
  cases m.operation with
  | none => rfl
  | some operation => cases operation <;> rfl

theorem names_targets (q : Query) (assignments : Cells) :
    Piece.names (Piece.separated ", " ((q.targets assignments).map Piece.ofTarget)) =
      q.mutations.flatMap Mutation.names ++ assignments.map Prod.fst := by
  rw [Piece.names_separated, List.flatMap_map, targets, List.flatMap_append, List.flatMap_map,
    List.flatMap_map, funext names_ofTarget, List.map_eq_flatMap]
  rfl

/-- The names in an outline are those of the query and the request. -/
theorem names_outline (q : Query) (request : Request) :
    Piece.names (q.outline request).pieces = q.names request := by
  cases request with
  | select => simp [outline, Outline.pieces, selectOutline, map_fst_conditions, names]
  | update assignments =>
    simp [outline, Outline.pieces, updateOutline, UpdateOutline.tail, names_targets,
      map_fst_conditions, names]
  | delete columns =>
    simp [outline, Outline.pieces, deleteOutline, DeleteOutline.tail, map_fst_conditions, names]
  | insert payload => simp [outline, Outline.pieces, insertOutline, names]
  | index columns => simp [outline, Outline.pieces, indexOutline, names]

/-- An accepted statement has the text of its outline. -/
theorem write_outline (hq : q.Checked) (h : q.write request = .ok s) :
    (q.outline request).Checked ∧ s.cql = (q.outline request).text := by
  cases request with
  | select =>
    obtain rfl := Except.ok.inj h
    exact ⟨checked_selectOutline hq, selectText_eq hq⟩
  | update assignments => exact updateStatement_outline hq h
  | delete columns => exact deleteStatement_outline hq h
  | insert payload => exact insertStatement_outline hq h
  | index columns => exact indexStatement_outline hq h

theorem reads_outline (hq : q.Checked) (h : q.write request = .ok s) :
    (q.outline request).Reads s.cql := by
  obtain ⟨hchecked, htext⟩ := write_outline hq h
  exact ⟨hchecked, (Outline.join_pieces _).trans htext.symm⟩

end Query

namespace Name

theorem wrap_injective : Function.Injective wrap := by
  intro name other h
  have hdouble := congrArg String.toList h
  rw [toList_wrap, toList_wrap] at hdouble
  exact String.toList_inj.mp (Text.double_injective _ hdouble)

/-- To wrap a name doubles its double quotes, whatever else is in it. So different names stay
different, what stands before and behind a point is wrapped apart, and accepted names are written as
they are. Hence a statement has one reading, and the names in it are those of the query and the
request, unchanged. -/
theorem wrap_doubles :
    (∀ name : String, wrap name = String.ofList
      (name.toList.flatMap fun c => if c = '\x22' then ['\x22', '\x22'] else [c])) ∧
    Function.Injective wrap ∧
    (∀ name other : String, wrap (name ++ "." ++ other) = wrap name ++ "." ++ wrap other) ∧
    (∀ name : String, checkTable name = .ok () ∨ checkColumn name = .ok () → wrap name = name) ∧
    ∀ (options : Fields Json) (pageSize : Int32) (calls : List Call) (q : Query)
      (request : Request) (s : Statement),
      Call.applyAll { options, pageSize } calls = .ok q → q.write request = .ok s →
        ∃ o : Outline, Piece.names o.pieces = q.names request ∧
          ∀ p : Outline, p.Reads s.cql ↔ p = o := by
  have hpoint : wrap "." = "." := wrap_eq_self (by decide)
  refine ⟨wrap_eq_flatMap, wrap_injective, ?_, ?_, ?_⟩
  · intro name other
    rw [wrap_append, wrap_append, hpoint]
  · rintro name (htable | hcolumn)
    · exact wrap_of_checkTable htable
    · exact wrap_of_checkColumn hcolumn
  · intro options pageSize calls q request s hq hs
    have hchecked := Query.checked_of_applyAll (Query.checked_fresh options pageSize) hq
    have hreads := Query.reads_outline hchecked hs
    refine ⟨q.outline request, q.names_outline request, fun p => ?_⟩
    constructor
    · exact fun hp => hp.unique hreads
    · rintro rfl
      exact hreads

/-- A name of quotes, points and stars, and an update that has one of its columns on both sides. -/
theorem wrap_doubles_of_prepend :
    wrap "*..\x22a\x22.*" = "*..\x22\x22a\x22\x22.*" ∧
    checkTable "app.users" = .ok () ∧ wrap "app.users" = "app.users" ∧
    ∃ q s, Call.applyAll { options := ∅, pageSize := standardPageSize }
        [.onTable "app.users", .restrict "id" .eq (.int 7),
          .updateCollection "tags" (some .prepend) (.collection (.list .text [.text "new"]))] =
        .ok q ∧
      q.write (.update [("name", .text "Ada")]) = .ok s ∧
      ∃ o : Outline, o.Reads s.cql ∧
        Piece.names o.pieces = ["app.users", "tags", "tags", "name", "id"] := by
  obtain ⟨hdoubles, _, _, haccepted, hreading⟩ := wrap_doubles
  have hidentifiers : checkIdentifier "id" = .ok () ∧ checkIdentifier "tags" = .ok () ∧
      checkIdentifier "name" = .ok () := by
    simp only [checkIdentifier_eq_ok_iff]
    decide
  obtain ⟨hid, htags, hname⟩ := hidentifiers
  have hkeyspace : "app".toList ∈ keyspaces :=
    ⟨⟨mem_identifiers_iff.mpr (by decide), by decide⟩, by decide⟩
  have hsegment : "users".toList ∈ segments := ⟨mem_identifiers_iff.mpr (by decide), by decide⟩
  have htable : checkTable "app.users" = .ok () :=
    checkTable_iff.mpr (mem_tables_iff.mpr (Or.inr ⟨_, hkeyspace, _, hsegment, by decide⟩))
  refine ⟨(hdoubles _).trans (by decide), htable, haccepted _ (Or.inl htable), ?_⟩
  have hrun : ∃ q, Call.applyAll { options := ∅, pageSize := standardPageSize }
      [.onTable "app.users", .restrict "id" .eq (.int 7),
        .updateCollection "tags" (some .prepend) (.collection (.list .text [.text "new"]))] =
      .ok q := by
    simp only [Call.applyAll, List.foldlM_cons, List.foldlM_nil, Call.apply, Query.onTable,
      Query.restrict, Query.updateCollection, htable, hid, htags]
    exact ⟨_, rfl⟩
  obtain ⟨q, hq⟩ := hrun
  have hwrite : ∃ s, q.write (.update [("name", .text "Ada")]) = .ok s := by
    have hcheck : List.forM [("name", Value.text "Ada")] (fun a => checkIdentifier a.1) = .ok () :=
      Outcome.forM_eq_ok_iff.mpr (by simpa using hname)
    simp only [Query.write, Query.updateStatement, hcheck]
    exact ⟨_, rfl⟩
  obtain ⟨s, hs⟩ := hwrite
  obtain ⟨o, hnames, hreads⟩ := hreading _ _ _ q _ s hq hs
  refine ⟨q, s, hq, hs, o, (hreads o).mpr rfl, hnames.trans ?_⟩
  obtain ⟨rfl, _⟩ := Call.applyAll_eq_ok hq
  rfl

end Name

end Cql
