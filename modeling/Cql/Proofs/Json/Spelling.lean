import Cql.Proofs.Fields
import Cql.Proofs.Json.Writing

/-!
Texts that spell a value: with or without blanks, with the members of an object in any order, with
characters escaped or not. The written text of a value without numbers is one of them.
-/

namespace Cql.Json

/-- No object names a member twice. -/
inductive Document.Distinct : Document → Prop
  | null : Distinct null
  | bool (b : Bool) : Distinct (bool b)
  | number (n : Number) : Distinct (number n)
  | string (s : List Piece) : Distinct (string s)
  | array {items : List Document} (hitems : ∀ item ∈ items, Distinct item) : Distinct (array items)
  | object {members : List (List Piece × Document)}
      (hnames : (members.map fun m => Piece.string? m.1).Nodup)
      (hvalues : ∀ m ∈ members, Distinct m.2) : Distinct (object members)

/-- The text is read as the value, and names no member of an object twice. -/
def Spells (s : String) (j : Json) : Prop :=
  ofText? s = some j ∧ ∀ d, Document.ofText? s = some d → d.Distinct

/-- A value without numbers in which at most `room` arrays and objects stand inside each other. -/
inductive Plain : Nat → Json → Prop
  | null {room : Nat} : Plain room null
  | bool {room : Nat} (b : Bool) : Plain room (bool b)
  | str {room : Nat} (s : String) : Plain room (str s)
  | arr {room : Nat} {items : List Json} (hitems : ∀ item ∈ items, Plain room item) :
    Plain (room + 1) (arr items)
  | ofFields {room : Nat} {fields : Fields Json} (hvalues : ∀ e ∈ fields.entries, Plain room e.2) :
    Plain (room + 1) (ofFields fields)

variable {room : Nat} {j : Json} (spelled : Float → Number)

theorem itemDocuments_eq (items : List Json) :
    itemDocuments spelled items = items.map (document spelled) := by
  induction items with
  | nil => rfl
  | cons item items ih => rw [itemDocuments, ih, List.map_cons]

theorem memberDocuments_eq (members : List (String × Json)) :
    memberDocuments spelled members =
      members.map fun m => (m.1.toList.map .char, m.2.document spelled) := by
  induction members with
  | nil => rfl
  | cons member members ih => rw [memberDocuments, ih, List.map_cons]

theorem Piece.text?_chars (s : List Char) : text? (s.map char) = some s := by
  induction s with
  | nil => rfl
  | cons c s ih => rw [List.map_cons, text?, ih, Option.map_some]

theorem Piece.string?_chars (s : String) : string? (s.toList.map char) = some s := by
  rw [string?, text?_chars, Option.map_some, String.ofList_toList]

/-! ### The written text -/

theorem plain_itemTokens {items : List Document}
    (h : ∀ item ∈ items, ∀ t ∈ item.tokens, t.Plain) :
    ∀ t ∈ Document.itemTokens items, t.Plain := by
  induction items with
  | nil => nofun
  | cons item items ih =>
    have hitem := h item List.mem_cons_self
    have hitems := ih fun item hmem => h item (List.mem_cons_of_mem _ hmem)
    cases items with
    | nil => exact hitem
    | cons next items =>
      rw [Document.itemTokens, List.forall_mem_append, List.forall_mem_cons]
      exact ⟨hitem, .comma, hitems⟩

theorem plain_memberTokens {members : List (List Piece × Document)}
    (hnames : ∀ m ∈ members, ∃ s : List Char, m.1 = s.map .char)
    (hvalues : ∀ m ∈ members, ∀ t ∈ m.2.tokens, t.Plain) :
    ∀ t ∈ Document.memberTokens members, t.Plain := by
  induction members with
  | nil => nofun
  | cons member members ih =>
    obtain ⟨name, value⟩ := member
    obtain ⟨s, rfl⟩ := hnames _ List.mem_cons_self
    have hvalue := hvalues _ List.mem_cons_self
    have hmembers := ih (fun m hmem => hnames m (List.mem_cons_of_mem _ hmem))
      (fun m hmem => hvalues m (List.mem_cons_of_mem _ hmem))
    cases members with
    | nil =>
      rw [Document.memberTokens, List.forall_mem_cons, List.forall_mem_cons]
      exact ⟨.string s, .colon, hvalue⟩
    | cons next members =>
      rw [Document.memberTokens, List.forall_mem_cons, List.forall_mem_cons,
        List.forall_mem_append, List.forall_mem_cons]
      exact ⟨.string s, .colon, hvalue, .comma, hmembers⟩

theorem plain_tokens (h : j.Plain room) : ∀ t ∈ (j.document spelled).tokens, t.Plain := by
  induction h with
  | null => exact List.forall_mem_singleton.mpr .null
  | bool b => exact List.forall_mem_singleton.mpr (.bool b)
  | str s => exact List.forall_mem_singleton.mpr (.string s.toList)
  | arr _ ih =>
    rw [document, itemDocuments_eq, Document.tokens, List.forall_mem_cons, List.forall_mem_append]
    refine ⟨.openArray, plain_itemTokens ?_, List.forall_mem_singleton.mpr .closeArray⟩
    exact List.forall_mem_map.mpr ih
  | ofFields _ ih =>
    rw [ofFields, document, memberDocuments_eq, Document.tokens, List.forall_mem_cons,
      List.forall_mem_append]
    refine ⟨.openObject, plain_memberTokens ?_ ?_, List.forall_mem_singleton.mpr .closeObject⟩
    · exact List.forall_mem_map.mpr fun m _ => ⟨m.1.toList, rfl⟩
    · exact List.forall_mem_map.mpr ih

theorem document_text (h : j.Plain room) :
    Document.ofText? (j.text spelled) = some (j.document spelled) :=
  Document.ofText?_text (plain_tokens spelled h)

theorem distinct_document (h : j.Plain room) : (j.document spelled).Distinct := by
  induction h with
  | null => exact .null
  | bool b => exact .bool b
  | str s => exact .string _
  | arr _ ih =>
    rw [document, itemDocuments_eq]
    exact .array (List.forall_mem_map.mpr ih)
  | @ofFields room fields _ ih =>
    rw [ofFields, document, memberDocuments_eq]
    refine .object ?_ (List.forall_mem_map.mpr ih)
    have hnames : (fields.entries.map fun m => some m.1).Nodup := by
      have hsome := fields.nodup_names.map (Option.some_injective String)
      rwa [Fields.names, List.map_map] at hsome
    rw [List.map_map]
    simpa only [Function.comp_def, Piece.string?_chars] using hnames

theorem itemsToJson?_map {items : List Json}
    (h : ∀ item ∈ items, (item.document spelled).toJson? room = some item) :
    Document.itemsToJson? (items.map (document spelled)) room = some items := by
  induction items with
  | nil => rfl
  | cons item items ih =>
    rw [List.map_cons, Document.itemsToJson?, h item List.mem_cons_self,
      ih fun item hmem => h item (List.mem_cons_of_mem _ hmem)]
    rfl

theorem membersToJson?_map {members : List (String × Json)}
    (h : ∀ m ∈ members, (m.2.document spelled).toJson? room = some m.2) :
    Document.membersToJson?
      (members.map fun m => (m.1.toList.map .char, m.2.document spelled)) room = some members := by
  induction members with
  | nil => rfl
  | cons member members ih =>
    rw [List.map_cons, Document.membersToJson?, Piece.string?_chars, h member List.mem_cons_self,
      ih fun m hmem => h m (List.mem_cons_of_mem _ hmem)]
    rfl

theorem toJson?_document (h : j.Plain room) : (j.document spelled).toJson? room = some j := by
  induction h with
  | null => rfl
  | bool b => rfl
  | str s =>
    rw [document, Document.toJson?, Piece.string?_chars]
    rfl
  | arr _ ih =>
    rw [document, itemDocuments_eq, Document.toJson?, if_neg (Nat.succ_ne_zero _),
      Nat.add_sub_cancel, itemsToJson?_map spelled ih]
    rfl
  | ofFields _ ih =>
    rw [ofFields, document, memberDocuments_eq, Document.toJson?, if_neg (Nat.succ_ne_zero _),
      Nat.add_sub_cancel, membersToJson?_map spelled ih, Option.map_some, Fields.ofList_entries]
    rfl

/-- The written text of a value without numbers spells that value. -/
theorem spells_text (h : j.Plain Document.maxDepth) : Spells (j.text spelled) j := by
  have hdocument := document_text spelled h
  constructor
  · rw [ofText?, hdocument, Option.bind_some]
    exact toJson?_document spelled h
  · intro d hd
    rw [hdocument] at hd
    obtain rfl := Option.some.inj hd
    exact distinct_document spelled h

/-! ### What spells a value -/

section Spelled

variable {d : Document}

theorem eq_int_or_float_of_value? {n : Number} (h : n.value? = some j) :
    (∃ i, j = int i) ∨ ∃ x, j = float x := by
  rw [Number.value?] at h
  split at h
  · exact .inl ⟨_, (Option.some.inj h).symm⟩
  · obtain ⟨x, _, rfl⟩ := Option.map_eq_some_iff.mp h
    exact .inr ⟨x, rfl⟩

theorem eq_null_of_toJson? (h : d.toJson? room = some null) : d = .null := by
  cases d with
  | null => rfl
  | number n =>
    obtain ⟨_, hn⟩ | ⟨_, hn⟩ := eq_int_or_float_of_value? h <;> cases hn
  | _ => simp [Document.toJson?, ofFields] at h

theorem exists_string_of_toJson? {s : String} (h : d.toJson? room = some (str s)) :
    ∃ pieces, d = .string pieces ∧ Piece.string? pieces = some s := by
  cases d with
  | string pieces =>
    obtain ⟨s', hs, heq⟩ := Option.map_eq_some_iff.mp h
    cases heq
    exact ⟨pieces, rfl, hs⟩
  | number n =>
    obtain ⟨_, hn⟩ | ⟨_, hn⟩ := eq_int_or_float_of_value? h <;> cases hn
  | _ => simp [Document.toJson?, ofFields] at h

theorem exists_array_of_toJson? {items : List Json} (h : d.toJson? room = some (arr items)) :
    ∃ documents room, d = .array documents ∧ Document.itemsToJson? documents room = some items := by
  cases d with
  | array documents =>
    simp only [Document.toJson?] at h
    split at h
    · cases h
    · obtain ⟨items', hitems, heq⟩ := Option.map_eq_some_iff.mp h
      cases heq
      exact ⟨documents, _, rfl, hitems⟩
  | number n =>
    obtain ⟨_, hn⟩ | ⟨_, hn⟩ := eq_int_or_float_of_value? h <;> cases hn
  | _ => simp [Document.toJson?, ofFields] at h

theorem exists_object_of_toJson? {members : List (String × Json)}
    (h : d.toJson? room = some (obj members)) :
    ∃ documents room values, d = .object documents ∧
      Document.membersToJson? documents room = some values ∧
      (Fields.ofList values).entries = members := by
  cases d with
  | object documents =>
    simp only [Document.toJson?] at h
    split at h
    · cases h
    · obtain ⟨values, hvalues, heq⟩ := Option.map_eq_some_iff.mp h
      cases heq
      exact ⟨documents, _, values, rfl, hvalues, rfl⟩
  | number n =>
    obtain ⟨_, hn⟩ | ⟨_, hn⟩ := eq_int_or_float_of_value? h <;> cases hn
  | _ => simp [Document.toJson?] at h

theorem forall₂_of_itemsToJson? {documents : List Document} {items : List Json}
    (h : Document.itemsToJson? documents room = some items) :
    List.Forall₂ (fun d j => d.toJson? room = some j) documents items := by
  induction documents generalizing items with
  | nil =>
    cases h
    exact .nil
  | cons d documents ih =>
    rw [Document.itemsToJson?] at h
    obtain ⟨item, hitem, h⟩ := Option.bind_eq_some_iff.mp h
    obtain ⟨items, hitems, h⟩ := Option.bind_eq_some_iff.mp h
    cases h
    exact .cons hitem (ih hitems)

theorem forall₂_of_membersToJson? {documents : List (List Piece × Document)}
    {members : List (String × Json)}
    (h : Document.membersToJson? documents room = some members) :
    List.Forall₂ (fun d m => Piece.string? d.1 = some m.1 ∧ d.2.toJson? room = some m.2)
      documents members := by
  induction documents generalizing members with
  | nil =>
    cases h
    exact .nil
  | cons d documents ih =>
    rw [Document.membersToJson?] at h
    obtain ⟨name, hname, h⟩ := Option.bind_eq_some_iff.mp h
    obtain ⟨value, hvalue, h⟩ := Option.bind_eq_some_iff.mp h
    obtain ⟨members, hmembers, h⟩ := Option.bind_eq_some_iff.mp h
    cases h
    exact .cons ⟨hname, hvalue⟩ (ih hmembers)

/-- In a document that spells an object its members stand in some order, each once. -/
theorem exists_perm_of_toJson? (hdistinct : d.Distinct) {entries : List (String × Json)}
    (hentries : (entries.map Prod.fst).Nodup)
    (h : d.toJson? room = some (ofFields (.ofList entries))) :
    ∃ documents room members, d = .object documents ∧ members.Perm entries ∧
      List.Forall₂ (fun d m => Piece.string? d.1 = some m.1 ∧ d.2.toJson? room = some m.2)
        documents members := by
  obtain ⟨documents, room, members, rfl, hmembers, heq⟩ := exists_object_of_toJson? h
  have hall := forall₂_of_membersToJson? hmembers
  cases hdistinct with
  | object hnames _ =>
    have hsame : documents.map (fun d => Piece.string? d.1) = members.map fun m => some m.1 := by
      rw [← List.forall₂_eq_eq_eq, List.forall₂_map_left_iff, List.forall₂_map_right_iff]
      exact hall.imp fun _ _ hm => hm.1
    have hnodup : (members.map Prod.fst).Nodup := by
      rw [hsame] at hnames
      exact List.Nodup.of_map some (by rwa [List.map_map])
    have hperm := (Fields.ofList_perm hnodup).symm.trans (heq ▸ Fields.ofList_perm hentries)
    exact ⟨documents, room, members, rfl, hperm, hall⟩

end Spelled

end Cql.Json
