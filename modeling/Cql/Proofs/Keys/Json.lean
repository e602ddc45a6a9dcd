import Mathlib.Data.List.Permutation
import Cql.Key.Json
import Cql.Proofs.Json.Spelling

/-!
Keys written as JSON and read back. Every text of the value of a key is read as that key, whatever
the order of the members; so the written text of a key is a normal form of all the texts that are
read as it.
-/

namespace Cql

open Json (Document Piece Spells)

variable {d : Document} {room : Nat}

theorem Caster.ofName?_name (caster : Caster) : ofName? caster.name = some caster := by
  cases caster <;> decide

namespace KeyColumn

/-- The value of the caster of a component. -/
def casterJson (component : KeyColumn) : Json :=
  match component.caster with
  | some caster => .str caster.name
  | none => .null

theorem toJson_eq (component : KeyColumn) : component.toJson =
    .ofFields (Fields.ofList [("name", .str component.name), ("caster", component.casterJson)]) :=
  rfl

theorem ofDocument?_casterJson {component : KeyColumn}
    (h : d.toJson? room = some component.casterJson) :
    Caster.ofDocument? (some d) = some component.caster := by
  obtain ⟨name, caster⟩ := component
  cases caster with
  | none =>
    obtain rfl := Json.eq_null_of_toJson? h
    rfl
  | some caster =>
    obtain ⟨pieces, rfl, hname⟩ := Json.exists_string_of_toJson? h
    rw [Caster.ofDocument?, hname, Option.bind_eq_bind, Option.bind_some, Caster.ofName?_name]
    rfl

/-- A component is read from every text of its value, the caster before the name or after it. -/
theorem ofDocument?_of_toJson? {component : KeyColumn} (hdistinct : d.Distinct)
    (h : d.toJson? room = some component.toJson) : ofDocument? d = some component := by
  let entries : List (String × Json) :=
    [("name", .str component.name), ("caster", component.casterJson)]
  have hnames : (entries.map Prod.fst).Nodup := by
    change ["name", "caster"].Nodup
    decide
  rw [toJson_eq] at h
  obtain ⟨documents, room, members, rfl, hperm, hall⟩ :=
    Json.exists_perm_of_toJson? hdistinct hnames h
  have hread : ∀ name caster : Document,
      name.toJson? room = some (.str component.name) →
      caster.toJson? room = some component.casterJson →
      Document.place? ["name", "caster"] documents = some [some name, some caster] →
        ofDocument? (.object documents) = some component := by
    intro name caster hname hcaster hplaced
    obtain ⟨pieces, rfl, hpieces⟩ := Json.exists_string_of_toJson? hname
    have hofcaster := ofDocument?_casterJson hcaster
    rw [ofDocument?, Document.record?, hplaced]
    simp only [Document.string?, hpieces, hofcaster, Option.bind_eq_bind, Option.bind_some]
    rfl
  rcases List.perm_pair.mp hperm with rfl | rfl
  · obtain _ | ⟨⟨hname, hvalue⟩, _ | ⟨⟨hcaster, hcasterValue⟩, _ | _⟩⟩ := hall
    refine hread _ _ hvalue hcasterValue ?_
    simp only [Document.place?, hname, hcaster]
    rfl
  · obtain _ | ⟨⟨hcaster, hcasterValue⟩, _ | ⟨⟨hname, hvalue⟩, _ | _⟩⟩ := hall
    refine hread _ _ hvalue hcasterValue ?_
    simp only [Document.place?, hname, hcaster]
    rfl

theorem plain_toJson (component : KeyColumn) : component.toJson.Plain (room + 1) := by
  obtain ⟨name, caster⟩ := component
  refine .ofFields fun e he => ?_
  have hmem := Fields.mem_of_mem_ofList he
  rcases List.mem_pair.mp hmem with rfl | rfl
  · exact .str name
  · cases caster with
    | none => exact .null
    | some caster => exact .str caster.name

end KeyColumn

namespace PrimaryKey

theorem plain_toJson (key : PrimaryKey) : key.toJson.Plain Document.maxDepth := by
  cases key with
  | single name => exact .str name
  | composite components =>
    exact .arr (List.forall_mem_map.mpr fun component _ => component.plain_toJson)

theorem mapM_ofDocument? {documents : List Document} {components : List KeyColumn}
    (hdistinct : ∀ d ∈ documents, d.Distinct)
    (h : List.Forall₂ (fun d j => d.toJson? room = some j) documents
      (components.map KeyColumn.toJson)) :
    documents.mapM KeyColumn.ofDocument? = some components := by
  induction components generalizing documents with
  | nil =>
    cases h
    rfl
  | cons component components ih =>
    cases h with
    | cons hcomponent hrest =>
      obtain ⟨hd, hdocuments⟩ := List.forall_mem_cons.mp hdistinct
      rw [List.mapM_cons, KeyColumn.ofDocument?_of_toJson? hd hcomponent, ih hdocuments hrest]
      rfl

theorem ofDocument?_of_toJson? {key : PrimaryKey} (hdistinct : d.Distinct)
    (h : d.toJson? Document.maxDepth = some key.toJson) : ofDocument? d = some key := by
  cases key with
  | single name =>
    obtain ⟨pieces, rfl, hname⟩ := Json.exists_string_of_toJson? h
    simp only [ofDocument?, h, hname, Option.map_some]
  | composite components =>
    obtain ⟨documents, room, rfl, hitems⟩ := Json.exists_array_of_toJson? h
    cases hdistinct with
    | array hdocuments =>
      have hread := mapM_ofDocument? hdocuments (Json.forall₂_of_itemsToJson? hitems)
      simp only [ofDocument?, h, hread, Option.map_some]

/-- Every text of the value of a key is read as that key. -/
theorem ofText?_of_spells {key : PrimaryKey} {s : String} (h : Spells s key.toJson) :
    ofText? s = .ok key := by
  obtain ⟨hvalue, hdistinct⟩ := h
  obtain ⟨d, hd, hjson⟩ := Option.bind_eq_some_iff.mp hvalue
  have hread : (Document.ofText? s >>= ofDocument?) = some key := by
    rw [hd]
    exact ofDocument?_of_toJson? (hdistinct d hd) hjson
  rw [ofText?, hread]

/-- A key is read from its written text, which is a text of its value, and from every other text of
that value. What any text is read as is written as a text that is read as the same key; and two
texts are read as the same key exactly if their keys are written as the same text. -/
theorem json_roundtrip (spelled : Float → Json.Number) :
    (∀ key : PrimaryKey, Spells (key.toJson.text spelled) key.toJson) ∧
    (∀ (key : PrimaryKey) (s : String), Spells s key.toJson → ofText? s = .ok key) ∧
    ∀ (s : String) (key : PrimaryKey), ofText? s = .ok key →
      ofText? (key.toJson.text spelled) = .ok key ∧
      ∀ (t : String) (key' : PrimaryKey), ofText? t = .ok key' →
        (key'.toJson.text spelled = key.toJson.text spelled ↔ key' = key) := by
  have hspells : ∀ key : PrimaryKey, Spells (key.toJson.text spelled) key.toJson :=
    fun key => Json.spells_text spelled key.plain_toJson
  have hread : ∀ key : PrimaryKey, ofText? (key.toJson.text spelled) = .ok key :=
    fun key => ofText?_of_spells (hspells key)
  refine ⟨hspells, fun _ _ => ofText?_of_spells, fun s key _ => ⟨hread key, ?_⟩⟩
  intro t key' _
  constructor
  · intro htext
    have hsame := (hread key').symm.trans (htext ▸ hread key)
    exact Except.ok.inj hsame
  · rintro rfl
    rfl

/-- A text with a blank, an escape and the name first, and one with an array for the component, are
both read as the key whose written text is different from both. -/
theorem json_roundtrip_of_spellings :
    let key := composite [⟨"a", some .int⟩]
    let s := "[\x7b\"name\" : \"\\u0061\", \"caster\": \"int\"\x7d]"
    let t := "[[\"a\",\"int\"]]"
    let written := key.toJson.text fun _ => .ofInt 0
    Spells s key.toJson ∧ ofText? s = .ok key ∧ ofText? t = .ok key ∧ ofText? written = .ok key ∧
      written = "[\x7b\"caster\":\"int\",\"name\":\"a\"\x7d]" := by
  intro key s t written
  have htokens : Json.Token.ofText? s.toList = some [.openArray, .openObject,
      .string ("name".toList.map .char), .colon, .string ("a".toList.map .char), .comma,
      .string ("caster".toList.map .char), .colon, .string ("int".toList.map .char),
      .closeObject, .closeArray] := by
    decide +kernel
  have hdocument : Document.ofText? s = some (.array [.object [
      ("name".toList.map .char, .string ("a".toList.map .char)),
      ("caster".toList.map .char, .string ("int".toList.map .char))]]) := by
    rw [Document.ofText?, htokens]
    rfl
  have hspells : Spells s key.toJson := by
    refine ⟨?_, fun d hd => ?_⟩
    · rw [Json.ofText?, hdocument]
      rfl
    · obtain rfl := Option.some.inj (hdocument.symm.trans hd)
      refine .array (List.forall_mem_singleton.mpr (.object (by decide) ?_))
      exact List.forall_mem_cons.mpr ⟨.string _, List.forall_mem_singleton.mpr (.string _)⟩
  have ht : ofText? t = .ok key := by
    have hkey : (Document.ofText? t >>= ofDocument?) = some key := by decide +kernel
    rw [ofText?, hkey]
  obtain ⟨_, hread, hnormal⟩ := json_roundtrip fun _ => .ofInt 0
  exact ⟨hspells, hread key s hspells, ht, (hnormal t key ht).1, by decide +kernel⟩

end PrimaryKey

end Cql
