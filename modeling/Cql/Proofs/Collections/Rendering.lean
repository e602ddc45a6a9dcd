import Cql.Proofs.Collections.Scanning

/-!
Elements of collections as written. In a slot of a string type a value stands between quotes, in any
other slot as it stands on its own. Main statement: a value that fits its slot is written there as on
its own, so the literal of a built collection does not depend on the declared types.
-/

namespace Cql

namespace Value

variable {v : Value} {type : NativeType}

/-- The slot makes a difference only where it asks for quotes and the value has none of its own. -/
theorem elementLiteral_eq_literal_iff :
    v.elementLiteral type = v.literal ↔ (type.isStringType = true → v.unquoted?.isSome = true) := by
  rw [elementLiteral, inSlot, rawText]
  cases type.isStringType with
  | false => simp
  | true =>
    cases hunquoted : v.unquoted? with
    | some s => simp [literal_of_unquoted? hunquoted]
    | none => simp [quote_ne]

/-- The string types hold texts and addresses, which are written between quotes anyway. -/
theorem unquoted?_of_fits (hfits : v.fits type = true) (htype : type.isStringType = true) :
    v.unquoted?.isSome = true := by
  cases type with
  | varchar | ascii | inet | text =>
    cases v with
    | text | inet => rfl
    | _ => cases hfits
  | _ => cases htype

theorem elementLiteral_of_fits (hfits : v.fits type = true) : v.elementLiteral type = v.literal :=
  elementLiteral_eq_literal_iff.mpr (unquoted?_of_fits hfits)

end Value

namespace Collection

/-- The elements without the types of their slots. -/
def elements (c : Collection Value) : List (List Value) :=
  c.items.map fun slots => slots.map Prod.snd

/-- Items between the brackets of a kind, each element written as on its own. -/
def written (kind : CollectionKind) (elements : List (List Value)) : String :=
  if elements.isEmpty then "\x7b\x7d"
  else
    String.ofList <| (brackets kind).1 ::
      ([',', ' '].intercalate (elements.map fun values =>
        [':', ' '].intercalate (values.map fun v => v.literal.toList)) ++ [(brackets kind).2])

variable {c draft built : Collection Value}

theorem isEmpty_elements (c : Collection Value) : c.elements.isEmpty = c.isEmpty := by
  rw [Bool.eq_iff_iff, List.isEmpty_iff_length_eq_zero, elements, List.length_map, length_items,
    isEmpty, beq_iff_eq]

theorem itemLiterals_of_fits (h : ∀ slot ∈ c.slots, slot.2.fits slot.1 = true) :
    c.itemLiterals = c.elements.map fun values => values.map fun v => v.literal.toList := by
  rw [itemLiterals, elements, List.map_map]
  refine List.map_congr_left fun slots hslots => ?_
  rw [Function.comp_apply, List.map_map]
  refine List.map_congr_left fun slot hslot => ?_
  have hfits := h slot (List.mem_flatten.mpr ⟨slots, hslots, hslot⟩)
  rw [Function.comp_apply, Value.elementLiteral_of_fits hfits]

/-- Of every kind an empty collection has the same literal. -/
theorem literal_of_isEmpty (h : c.isEmpty = true) : c.literal = "\x7b\x7d" := by
  cases c with
  | map key value entries =>
    cases entries with
    | nil => rfl
    | cons e entries => cases h
  | set element values | list element values =>
    cases values with
    | nil => rfl
    | cons v values => cases h

theorem literal_eq_written (h : ∀ slot ∈ c.slots, slot.2.fits slot.1 = true) :
    c.literal = written c.kind c.elements := by
  rw [written, isEmpty_elements]
  cases hempty : c.isEmpty with
  | true => exact literal_of_isEmpty hempty
  | false =>
    rw [← String.toList_inj, toList_literal hempty, itemLiterals_of_fits h, List.map_map,
      if_neg Bool.false_ne_true, String.toList_ofList]
    rfl

theorem fits_of_build? (hbuild : draft.build? = .ok built) :
    ∀ slot ∈ built.slots, slot.2.fits slot.1 = true :=
  fun slot hslot => ((storable_of_build? hbuild).2 slot hslot).fits

/-- A value is written in a slot as on its own, unless the slot asks for quotes and the value has
none; every value that fits is. Hence the literal of a built collection is made of its kind and of
the literals of its elements, so two of one kind with the same elements have the same literal,
whatever types they declare. -/
theorem literal_of_fitting :
    (∀ (v : Value) (type : NativeType), v.fits type = true → v.elementLiteral type = v.literal) ∧
    (∀ (v : Value) (type : NativeType), v.elementLiteral type = v.literal ↔
      (type.isStringType = true → v.unquoted?.isSome = true)) ∧
    ∀ draft built : Collection Value, draft.build? = .ok built →
      (∀ slot ∈ built.slots, slot.2.elementLiteral slot.1 = slot.2.literal) ∧
      built.literal = written built.kind built.elements ∧
      ∀ draft' other : Collection Value, draft'.build? = .ok other → other.kind = built.kind →
        other.elements = built.elements → other.literal = built.literal := by
  refine ⟨fun v type => Value.elementLiteral_of_fits,
    fun v type => Value.elementLiteral_eq_literal_iff, ?_⟩
  intro draft built hbuild
  have hfits := fits_of_build? hbuild
  refine ⟨fun slot hslot => Value.elementLiteral_of_fits (hfits slot hslot),
    literal_eq_written hfits, ?_⟩
  intro draft' other hother hkind helements
  rw [literal_eq_written hfits, literal_eq_written (fits_of_build? hother), hkind, helements]

/-- One map under two pairs of types. -/
theorem literal_of_fitting_under_other_types :
    ∃ built other,
      (map .ascii .uuid [(.text "it's", .timeUuid ⟨1⟩)]).build? = .ok built ∧
      (map .varchar .timeUuid [(.text "it's", .timeUuid ⟨1⟩)]).build? = .ok other ∧
      (Value.timeUuid ⟨1⟩).elementLiteral .uuid = (Value.timeUuid ⟨1⟩).literal ∧
      other.literal = built.literal ∧
      built.literal = "\x7b'it''s': 00000000-0000-0000-0000-000000000001\x7d" := by
  have hbuild : ∀ key value : NativeType, Storable key (.text "it's") →
      Storable value (.timeUuid ⟨1⟩) →
      (map key value [(.text "it's", .timeUuid ⟨1⟩)]).build? =
        .ok (map key value [(.text "it's", .timeUuid ⟨1⟩)]) := by
    intro key value hkey hvalue
    refine build?_eq_ok_iff.mpr ⟨storable_entries_iff.mpr ?_, rfl⟩
    rw [List.forall_mem_singleton]
    exact ⟨hkey, hvalue⟩
  have hascii := hbuild .ascii .uuid ⟨rfl, rfl⟩ ⟨rfl, rfl⟩
  have hvarchar := hbuild .varchar .timeUuid ⟨rfl, rfl⟩ ⟨rfl, rfl⟩
  obtain ⟨hfitting, _, hbuilt⟩ := literal_of_fitting
  obtain ⟨_, hwritten, hother⟩ := hbuilt _ _ hascii
  refine ⟨_, _, hascii, hvarchar, hfitting _ _ rfl, hother _ _ hvarchar rfl rfl, ?_⟩
  rw [hwritten]
  rfl

end Collection

end Cql
