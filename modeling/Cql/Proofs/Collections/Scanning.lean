import Cql.Proofs.Collections.Building
import Cql.Proofs.Text.Separated
import Cql.Proofs.Values.Decimal
import Cql.Proofs.Values.Floating
import Cql.Proofs.Values.Uuid

/-!
Reading the literals of collections. The reader knows brackets, commas, colons and quotes, and
nothing of the elements. Main statement: in the literal of a collection that was built it finds the
literals of the elements, one for each, whatever texts the elements hold.
-/

namespace Cql

open Text

namespace Value

variable {v : Value}

/-- A value whose literal has no quotes. -/
theorem numeric_literal (hplain : v.collection? = none) (hunquoted : v.unquoted? = none) :
    Numeric v.literal.toList := by
  cases v with
  | text | inet | date | time => cases hunquoted
  | collection => cases hplain
  | null => decide
  | boolean b => cases b <;> decide
  | tinyInt | smallInt | int | bigInt | timestamp => exact numeric_repr _
  | float | double =>
    rw [literal, String.toList_ofList]
    exact Floating.numeric_literal _
  | decimal =>
    rw [literal, String.toList_ofList]
    exact Decimal.numeric_toText _
  | uuid | timeUuid =>
    rw [literal, String.toList_ofList]
    exact Uuid.numeric_toText _
  | blob bytes =>
    rw [literal, String.toList_ofList, numeric_cons, numeric_cons]
    refine ⟨rfl, rfl, fun c hc => ?_⟩
    obtain ⟨b, _, hc⟩ := List.mem_flatMap.mp hc
    exact numeric_hex _ _ c hc

theorem literal_of_unquoted? {s : String} (h : v.unquoted? = some s) : v.literal = quote s := by
  cases v <;> cases h <;> rfl

/-- In no literal of an element there is a mark outside quotes, neither a comma nor a colon. -/
theorem solid_elementLiteral {mark : Char} (hmark : mark = ',' ∨ mark = ':')
    (hplain : v.collection? = none) (type : NativeType) :
    Solid mark false (v.elementLiteral type).toList := by
  have hquote : ∀ s : String, Solid mark false (quote s).toList := by
    intro s
    rw [toList_quote]
    exact solid_quoted (by rcases hmark with rfl | rfl <;> decide) _
  rw [elementLiteral, inSlot]
  split
  · exact hquote _
  · cases hunquoted : v.unquoted? with
    | some s =>
      rw [literal_of_unquoted? hunquoted]
      exact hquote s
    | none =>
      refine solid_of_forall fun c hc => ?_
      have hnumeric := numeric_literal hplain hunquoted c hc
      constructor
      · rintro rfl
        rcases hmark with rfl | rfl <;> cases hnumeric
      · rintro rfl
        cases hnumeric

theorem entryLiterals_eq (key value : NativeType) (entries : List (Value × Value)) :
    entryLiterals key value entries =
      entries.map fun e => e.1.elementLiteral key ++ ": " ++ e.2.elementLiteral value := by
  induction entries with
  | nil => rw [entryLiterals, List.map_nil]
  | cons e entries ih => rw [entryLiterals, ih, entryLiteral, List.map_cons]; rfl

theorem elementLiterals_eq (element : NativeType) (values : List Value) :
    elementLiterals element values = values.map fun v => v.elementLiteral element := by
  induction values with
  | nil => rw [elementLiterals, List.map_nil]
  | cons v values ih => rw [elementLiterals, ih, List.map_cons]; rfl

end Value

namespace Collection

/-- The brackets of the literals of a kind. -/
def brackets : CollectionKind → Char × Char
  | .map | .set => ('\x7b', '\x7d')
  | .list => ('[', ']')

/-- The text between the brackets. -/
def body? (kind : CollectionKind) (s : List Char) : Option (List Char) :=
  if s.head? = some (brackets kind).1 ∧ s.getLast? = some (brackets kind).2 then
    some s.tail.dropLast
  else none

/-- Reads the literals of one item. Those of a map have a colon between key and value. -/
def readItem? (kind : CollectionKind) (piece : List Char) : Option (List (List Char)) :=
  match kind with
  | .map => (cut? ':' false piece).map fun sides => [sides.1, sides.2]
  | .set | .list => some [piece]

def readItems? (kind : CollectionKind) (s : List Char) : Option (List (List (List Char))) := do
  let body ← body? kind s
  (pieces ',' false body).mapM (readItem? kind)

/-- The literals of the elements, with those of a key and its value side by side. -/
def itemLiterals (c : Collection Value) : List (List (List Char)) :=
  c.items.map fun slots => slots.map fun slot => (slot.2.elementLiteral slot.1).toList

/-- The declared types of the elements. -/
def types {α : Type} : Collection α → List NativeType
  | map key value _ => [key, value]
  | set element _ | list element _ => [element]

section Reading

variable {c d : Collection Value}

theorem body?_brackets (kind : CollectionKind) (s : List Char) :
    body? kind ((brackets kind).1 :: (s ++ [(brackets kind).2])) = some s := by
  have hlast : ((brackets kind).1 :: (s ++ [(brackets kind).2])).getLast? =
      some (brackets kind).2 := by
    rw [← List.cons_append, List.getLast?_concat]
  rw [body?, if_pos ⟨rfl, hlast⟩, List.tail_cons, List.dropLast_concat]

theorem toList_elementLiterals (element : NativeType) (values : List Value) :
    (Value.elementLiterals element values).map String.toList =
      (itemLiterals (list element values)).map [':', ' '].intercalate := by
  simp [Value.elementLiterals_eq, itemLiterals, items, Function.comp_def]

theorem toList_entryLiterals (key value : NativeType) (entries : List (Value × Value)) :
    (Value.entryLiterals key value entries).map String.toList =
      (itemLiterals (map key value entries)).map [':', ' '].intercalate := by
  simp [Value.entryLiterals_eq, itemLiterals, items, Function.comp_def,
    List.intercalate_cons_cons]

/-- The literals of the elements stand between the brackets with marks between them. -/
theorem toList_literal (hne : c.isEmpty = false) :
    c.literal.toList = (brackets c.kind).1 ::
      ([',', ' '].intercalate (c.itemLiterals.map [':', ' '].intercalate) ++
        [(brackets c.kind).2]) := by
  cases c with
  | map key value entries =>
    cases entries with
    | nil => cases hne
    | cons e entries =>
      rw [literal, Value.collectionLiteral, String.toList_append, String.toList_append,
        String.toList_intercalate, toList_entryLiterals]
      · rfl
      · exact List.cons_ne_nil e entries
  | set element values =>
    cases values with
    | nil => cases hne
    | cons v values =>
      rw [literal, Value.collectionLiteral, String.toList_append, String.toList_append,
        String.toList_intercalate, toList_elementLiterals]
      · rfl
      · exact List.cons_ne_nil v values
  | list element values =>
    cases values with
    | nil => cases hne
    | cons v values =>
      rw [literal, Value.collectionLiteral, String.toList_append, String.toList_append,
        String.toList_intercalate, toList_elementLiterals]
      · rfl
      · exact List.cons_ne_nil v values

theorem solid_of_mem_itemLiterals {mark : Char} (hmark : mark = ',' ∨ mark = ':')
    (hplain : ∀ slot ∈ c.slots, slot.2.collection? = none) {literals : List (List Char)}
    (hliterals : literals ∈ c.itemLiterals) {s : List Char} (hs : s ∈ literals) :
    Solid mark false s := by
  obtain ⟨slots, hslots, rfl⟩ := List.mem_map.mp hliterals
  obtain ⟨slot, hslot, rfl⟩ := List.mem_map.mp hs
  exact Value.solid_elementLiteral hmark
    (hplain slot (List.mem_flatten.mpr ⟨slots, hslots, hslot⟩)) _

/-- The literals of an item, joined by a colon, have no comma outside quotes. -/
theorem solid_intercalate {literals : List (List Char)}
    (h : ∀ s ∈ literals, Solid ',' false s) :
    Solid ',' false ([':', ' '].intercalate literals) := by
  induction literals with
  | nil => rfl
  | cons s literals ih =>
    cases literals with
    | nil => simpa using h s (by simp)
    | cons next literals =>
      rw [List.intercalate_cons_cons]
      have hcolon : Solid ',' false [':', ' '] := ⟨.inr (by decide), .inr (by decide), rfl⟩
      refine solid_append (solid_append (h s (by simp)) hcolon) ?_
      exact ih fun other hother => h other (List.mem_cons_of_mem _ hother)

theorem readItem?_intercalate (hplain : ∀ slot ∈ c.slots, slot.2.collection? = none)
    {literals : List (List Char)} (hliterals : literals ∈ c.itemLiterals) :
    readItem? c.kind ([':', ' '].intercalate literals) = some literals := by
  have hsolid : ∀ s ∈ literals, Solid ':' false s :=
    fun s hs => solid_of_mem_itemLiterals (.inr rfl) hplain hliterals hs
  obtain ⟨slots, hslots, rfl⟩ := List.mem_map.mp hliterals
  cases c with
  | map key value entries =>
    obtain ⟨e, _, rfl⟩ := List.mem_map.mp hslots
    have hkey := hsolid (e.1.elementLiteral key).toList (by simp)
    simp only [List.map_cons, List.map_nil, List.intercalate_cons_cons,
      List.intercalate_singleton, List.append_assoc, List.cons_append, List.nil_append]
    simp [readItem?, kind, cut?_append hkey]
  | set element values =>
    obtain ⟨v, _, rfl⟩ := List.mem_map.mp hslots
    simp [readItem?, kind]
  | list element values =>
    obtain ⟨v, _, rfl⟩ := List.mem_map.mp hslots
    simp [readItem?, kind]

theorem mapM_map_eq_some {α β : Type} {f : β → Option α} {g : α → β} {xs : List α}
    (h : ∀ x ∈ xs, f (g x) = some x) : (xs.map g).mapM f = some xs := by
  induction xs with
  | nil => rfl
  | cons x xs ih =>
    rw [List.map_cons, List.mapM_cons, h x (by simp), ih fun y hy => h y (by simp [hy])]
    rfl

theorem readItems?_literal (hne : c.isEmpty = false)
    (hplain : ∀ slot ∈ c.slots, slot.2.collection? = none) :
    readItems? c.kind c.literal.toList = some c.itemLiterals := by
  have hitems : c.itemLiterals ≠ [] := by
    cases c with
    | map key value entries | set element values | list element values =>
      rintro hnil
      simp_all [itemLiterals, items, isEmpty, size]
  have hpieces : pieces ',' false
      ([',', ' '].intercalate (c.itemLiterals.map [':', ' '].intercalate)) =
        c.itemLiterals.map [':', ' '].intercalate := by
    refine pieces_intercalate (by simpa using hitems) fun part hpart => ?_
    obtain ⟨literals, hliterals, rfl⟩ := List.mem_map.mp hpart
    exact solid_intercalate fun s hs =>
      solid_of_mem_itemLiterals (.inl rfl) hplain hliterals hs
  rw [toList_literal hne, readItems?, body?_brackets, Option.bind_eq_bind, Option.bind_some,
    hpieces]
  exact mapM_map_eq_some fun literals hliterals => readItem?_intercalate hplain hliterals

/-- Two elements of one type with one literal. Those of a text type are one text. -/
structure SameLiteral (slot other : NativeType × Value) : Prop where
  type : slot.1 = other.1
  literal : slot.2.elementLiteral slot.1 = other.2.elementLiteral other.1
  text : slot.1 ∈ [.text, .varchar, .ascii] →
    ∃ s : String, slot.2 = .text s ∧ other.2 = .text s

theorem length_items (c : Collection Value) : c.items.length = c.size := by
  cases c <;> simp [items, size]

theorem map_fst_of_mem_items {slots : List (NativeType × Value)} (h : slots ∈ c.items) :
    slots.map Prod.fst = c.types := by
  cases c with
  | map key value entries | set element values | list element values =>
    obtain ⟨_, _, rfl⟩ := List.mem_map.mp h
    rfl

theorem text_of_storable {type : NativeType} {v : Value} (h : Storable type v)
    (htype : type ∈ [NativeType.text, .varchar, .ascii]) :
    ∃ s : String, v = .text s ∧ v.elementLiteral type = quote s := by
  have hfits := h.fits
  simp only [List.mem_cons, List.not_mem_nil, or_false] at htype
  rcases htype with rfl | rfl | rfl <;> cases v <;>
    first | exact ⟨_, rfl, rfl⟩ | cases hfits

theorem sameLiteral_of_storable {slot other : NativeType × Value} (htype : slot.1 = other.1)
    (hliteral : slot.2.elementLiteral slot.1 = other.2.elementLiteral other.1)
    (hslot : Storable slot.1 slot.2) (hother : Storable other.1 other.2) :
    SameLiteral slot other := by
  refine ⟨htype, hliteral, fun htext => ?_⟩
  obtain ⟨s, hs, hquote⟩ := text_of_storable hslot htext
  obtain ⟨t, ht, hquote'⟩ := text_of_storable hother (htype ▸ htext)
  rw [hquote, hquote'] at hliteral
  exact ⟨s, hs, quote_injective hliteral ▸ ht⟩

theorem forall₂_sameLiteral {slots others : List (NativeType × Value)}
    (htypes : slots.map Prod.fst = others.map Prod.fst)
    (hliterals : (slots.map fun slot => (slot.2.elementLiteral slot.1).toList) =
      others.map fun slot => (slot.2.elementLiteral slot.1).toList)
    (hslots : ∀ slot ∈ slots, Storable slot.1 slot.2)
    (hothers : ∀ other ∈ others, Storable other.1 other.2) :
    List.Forall₂ SameLiteral slots others := by
  induction slots generalizing others with
  | nil =>
    cases others with
    | nil => exact .nil
    | cons => cases htypes
  | cons slot slots ih =>
    cases others with
    | nil => cases htypes
    | cons other others =>
      obtain ⟨htype, htypes⟩ := List.cons.inj htypes
      obtain ⟨hliteral, hliterals⟩ := List.cons.inj hliterals
      exact .cons
        (sameLiteral_of_storable htype (String.toList_inj.mp hliteral) (hslots slot (by simp))
          (hothers other (by simp)))
        (ih htypes hliterals (fun s hs => hslots s (by simp [hs]))
          fun s hs => hothers s (by simp [hs]))

theorem forall₂_items (htypes : c.types = d.types) (hliterals : c.itemLiterals = d.itemLiterals)
    (hc : ∀ slot ∈ c.slots, Storable slot.1 slot.2)
    (hd : ∀ slot ∈ d.slots, Storable slot.1 slot.2) :
    List.Forall₂ (List.Forall₂ SameLiteral) c.items d.items := by
  have hlength : c.items.length = d.items.length := by
    simpa [itemLiterals] using congrArg List.length hliterals
  refine List.forall₂_iff_get.mpr ⟨hlength, fun i hi hi' => ?_⟩
  have hmem := List.get_mem c.items ⟨i, hi⟩
  have hmem' := List.get_mem d.items ⟨i, hi'⟩
  refine forall₂_sameLiteral ?_ ?_
    (fun slot hslot => hc slot (List.mem_flatten.mpr ⟨_, hmem, hslot⟩))
    fun slot hslot => hd slot (List.mem_flatten.mpr ⟨_, hmem', hslot⟩)
  · rw [map_fst_of_mem_items hmem, map_fst_of_mem_items hmem', htypes]
  · have hget := congrArg (fun literals => literals[i]?) hliterals
    simpa [itemLiterals, List.getElem?_eq_getElem, hi, hi'] using hget

/-- In the literal of a collection with elements, the reader finds the literal of each of them. So
two collections of one kind with the same types and the same literal have as many elements, with the
same literal at each position, and the same texts where the type is one of texts. -/
theorem readItems?_of_build? {draft built : Collection Value} (hbuild : draft.build? = .ok built)
    (hne : built.isEmpty = false) :
    readItems? built.kind built.literal.toList = some built.itemLiterals ∧
    built.itemLiterals.length = built.size ∧
    ∀ draft' other : Collection Value, draft'.build? = .ok other → other.isEmpty = false →
      other.kind = built.kind → other.types = built.types → other.literal = built.literal →
      other.size = built.size ∧
        List.Forall₂ (List.Forall₂ SameLiteral) built.items other.items := by
  obtain ⟨_, hstorable⟩ := storable_of_build? hbuild
  have hread := readItems?_literal hne fun slot hslot => (hstorable slot hslot).plain
  refine ⟨hread, by rw [itemLiterals, List.length_map, length_items], ?_⟩
  intro draft' other hother hne' hkind htypes hliteral
  obtain ⟨_, hstorable'⟩ := storable_of_build? hother
  have hread' := readItems?_literal hne' fun slot hslot => (hstorable' slot hslot).plain
  rw [hkind, hliteral, hread] at hread'
  have hitems := forall₂_items htypes.symm (Option.some.inj hread') hstorable hstorable'
  refine ⟨?_, hitems⟩
  rw [← length_items, ← length_items, hitems.length_eq]

/-- The texts hold quotes, marks and brackets. -/
theorem readItems?_of_build?_marks :
    ∃ built, (map .text .ascii [(.text "\x7d, ',", .text "': '"),
        (.text "", .text ", \x7b")]).build? = .ok built ∧ built.isEmpty = false ∧
      readItems? .map built.literal.toList = some
        [["'\x7d, '','".toList, "''': '''".toList], ["''".toList, "', \x7b'".toList]] := by
  have hsame : (Value.text "\x7d, '," == Value.text "") = false := by
    rw [Value.beq_eq_same, Value.same]
    decide
  have hbuild : (map .text .ascii [(.text "\x7d, ',", .text "': '"),
      (.text "", .text ", \x7b")]).build? = .ok (map .text .ascii
        [(.text "\x7d, ',", .text "': '"), (.text "", .text ", \x7b")]) := by
    refine build?_eq_ok_iff.mpr ⟨storable_entries_iff.mpr ?_, by simp [settled, putEntry, hsame]⟩
    rw [List.forall_mem_cons, List.forall_mem_singleton]
    exact ⟨⟨⟨rfl, rfl⟩, rfl, rfl⟩, ⟨rfl, rfl⟩, rfl, rfl⟩
  refine ⟨_, hbuild, rfl, ?_⟩
  exact (readItems?_of_build? hbuild rfl).1

end Reading

end Collection

end Cql
