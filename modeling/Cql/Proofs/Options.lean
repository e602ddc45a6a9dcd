import Cql.Proofs.Fields
import Cql.Proofs.Text.Numeral
import Cql.Run.Options

/-!
The mapping of the options of a statement. Main statement: each member is the one that the options
set, or else the one of the user, and what goes in comes out again as long as the user leaves the
names of the options alone.
-/

namespace Cql

open Text

/-- Hexadecimal digits in lower case that stand for the bytes. -/
def LowerHex (s : String) (bytes : List UInt8) : Prop :=
  bytesOfHex? s.toList = some bytes ∧ ∀ c ∈ s.toList, c ∈ "0123456789abcdef".toList

theorem PagingState.lowerHex_hex (state : PagingState) : LowerHex state.hex state.bytes := by
  have hlower : ∀ k < 16, Nat.digitChar k ∈ "0123456789abcdef".toList := by decide
  rw [LowerHex, hex, String.toList_ofList]
  refine ⟨bytesOfHex?_hexBytes state.bytes, fun c hc => ?_⟩
  obtain ⟨b, _, hc⟩ := List.mem_flatMap.mp hc
  obtain ⟨k, hk, rfl⟩ := mem_hex hc
  exact hlower k hk

namespace StatementOptions

section Members

/-- The options set a member of the name, whatever the user says. -/
def Sets (o : StatementOptions) (name : String) : Prop :=
  name = "arguments" ∨ name = "page_size" ∧ o.pageSize.isSome = true ∨
    name = "paging_state_token" ∧ o.pagingState.isSome = true

theorem find?_setMember (fields : Fields Json) (name other : String) (value : Option Json) :
    (setMember fields name value).find? other =
      if other = name then value.or (fields.find? other) else fields.find? other := by
  cases value with
  | none => simp [setMember]
  | some value => simp [setMember, Fields.find?_insert]

/-- The members by their names: those of the options come before those of the user. -/
theorem member?_toJson (o : StatementOptions) (name : String) :
    o.toJson.member? name =
      if name = "paging_state_token" then
        (o.pagingState.map fun state => Json.str state.hex).or (o.extra.find? name)
      else if name = "page_size" then
        (o.pageSize.map fun n => Json.int n.toInt).or (o.extra.find? name)
      else if name = "arguments" then some (.arr (o.arguments.map Value.toJson))
      else o.extra.find? name := by
  change o.members.find? name = _
  rw [members, find?_setMember, find?_setMember, Fields.find?_insert]
  split
  · rename_i hname
    subst hname
    simp
  · split
    · rename_i hname
      subst hname
      simp
    · rfl

theorem member?_of_not_sets {o : StatementOptions} {name : String} (h : ¬ o.Sets name) :
    o.toJson.member? name = o.extra.find? name := by
  simp only [Sets, not_or, not_and, Bool.not_eq_true, Option.isSome_eq_false_iff,
    Option.isNone_iff_eq_none] at h
  obtain ⟨harguments, hsize, hstate⟩ := h
  rw [member?_toJson]
  split
  · rename_i hname
    rw [hstate hname, Option.map_none, Option.none_or]
  · split
    · rename_i hname
      rw [hsize hname, Option.map_none, Option.none_or]
    · rfl

end Members

section Reading

/-- The page size that a mapping holds. -/
def pageSizeIn? (j : Json) : Option Int32 :=
  match j.member? "page_size" with
  | some (.int n) => some (Int32.ofInt n)
  | _ => none

/-- The paging state that a mapping holds. -/
def pagingStateIn? (j : Json) : Option PagingState :=
  match j.member? "paging_state_token" with
  | some (.str s) => (bytesOfHex? s.toList).map PagingState.mk
  | _ => none

/-- The names that the options may set. -/
def ownNames : List String :=
  ["arguments", "page_size", "paging_state_token"]

/-- The members of a mapping that are not those of the options. -/
def extraIn : Json → Fields Json
  | .obj members => (Fields.ofList members).without ownNames
  | _ => ∅

/-- The user sets no member of these names. -/
def LeavesOwn (o : StatementOptions) : Prop :=
  ∀ name ∈ ownNames, o.extra.find? name = none

variable {o o' : StatementOptions}

theorem pageSizeIn?_toJson (h : o.LeavesOwn) : pageSizeIn? o.toJson = o.pageSize := by
  have hextra : o.extra.find? "page_size" = none := h _ (by decide)
  rw [pageSizeIn?, member?_toJson, if_neg (by decide), if_pos rfl, hextra, Option.or_none]
  cases o.pageSize with
  | none => rfl
  | some n => exact congrArg some n.ofInt_toInt

theorem pagingStateIn?_toJson (h : o.LeavesOwn) : pagingStateIn? o.toJson = o.pagingState := by
  have hextra : o.extra.find? "paging_state_token" = none := h _ (by decide)
  rw [pagingStateIn?, member?_toJson, if_pos rfl, hextra, Option.or_none]
  cases o.pagingState with
  | none => rfl
  | some state =>
    rw [Option.map_some]
    dsimp only
    rw [state.lowerHex_hex.1, Option.map_some]

theorem extraIn_toJson (h : o.LeavesOwn) : extraIn o.toJson = o.extra := by
  change (Fields.ofList o.members.entries).without ownNames = o.extra
  rw [Fields.ofList_entries]
  apply Fields.eq_of_find?
  intro name
  rw [Fields.find?_without]
  split
  · rename_i hname
    exact (h name hname).symm
  · rename_i hname
    apply member?_of_not_sets
    rintro (rfl | ⟨rfl, _⟩ | ⟨rfl, _⟩)
    all_goals exact hname (by decide)

end Reading

/-- The mapping holds the arguments in order, the page size and the paging state where they are set,
and the members of the user that these do not take the place of, and nothing else. Where the user
leaves the names alone, page size, paging state and the options of the user are read back from it,
so mappings of such options are equal only if they agree in all three. -/
theorem toJson_tells :
    (∀ o : StatementOptions,
      (∃ members, o.toJson = .obj members ∧ (members.map Prod.fst).Nodup) ∧
      o.toJson.member? "arguments" = some (.arr (o.arguments.map Value.toJson)) ∧
      (∀ n, o.pageSize = some n → o.toJson.member? "page_size" = some (.int n.toInt)) ∧
      (∀ state, o.pagingState = some state → ∃ hex,
        o.toJson.member? "paging_state_token" = some (.str hex) ∧ LowerHex hex state.bytes) ∧
      (∀ name, ¬ o.Sets name → o.toJson.member? name = o.extra.find? name) ∧
      (o.LeavesOwn → pageSizeIn? o.toJson = o.pageSize ∧ pagingStateIn? o.toJson = o.pagingState ∧
        extraIn o.toJson = o.extra)) ∧
    ∀ o o' : StatementOptions, o.LeavesOwn → o'.LeavesOwn → o.toJson = o'.toJson →
      o.pageSize = o'.pageSize ∧ o.pagingState = o'.pagingState ∧ o.extra = o'.extra := by
  have hread : ∀ o : StatementOptions, o.LeavesOwn → pageSizeIn? o.toJson = o.pageSize ∧
      pagingStateIn? o.toJson = o.pagingState ∧ extraIn o.toJson = o.extra :=
    fun o h => ⟨pageSizeIn?_toJson h, pagingStateIn?_toJson h, extraIn_toJson h⟩
  refine ⟨fun o => ⟨⟨_, rfl, o.members.nodup_names⟩, ?_, ?_, ?_, fun name => member?_of_not_sets,
    hread o⟩, ?_⟩
  · rw [member?_toJson, if_neg (by decide), if_neg (by decide), if_pos rfl]
  · intro n hn
    rw [member?_toJson, if_neg (by decide), if_pos rfl, hn, Option.map_some, Option.some_or]
  · intro state hstate
    refine ⟨state.hex, ?_, state.lowerHex_hex⟩
    rw [member?_toJson, if_pos rfl, hstate, Option.map_some, Option.some_or]
  · intro o o' h h' heq
    obtain ⟨hsize, hstate, hextra⟩ := hread o h
    obtain ⟨hsize', hstate', hextra'⟩ := hread o' h'
    rw [heq] at hsize hstate hextra
    exact ⟨hsize.symm.trans hsize', hstate.symm.trans hstate', hextra.symm.trans hextra'⟩

/-- A token without bytes is told from no token, and a page size that the user sets stays where the
options have none. -/
theorem toJson_tells_of_empty_token :
    (∃ o : StatementOptions, o.LeavesOwn ∧ o.extra.names = ["consistency"] ∧
      pageSizeIn? o.toJson = some 50 ∧ pagingStateIn? o.toJson = some ⟨[]⟩ ∧
      extraIn o.toJson = o.extra) ∧
    ∃ o : StatementOptions, ¬ o.Sets "page_size" ∧
      o.toJson.member? "page_size" = some (.str "all") := by
  let o : StatementOptions :=
    ⟨[.int 1], some 50, some ⟨[]⟩, Fields.insert ∅ "consistency" (.str "LOCAL_QUORUM")⟩
  let o' : StatementOptions := ⟨[], none, none, Fields.insert ∅ "page_size" (.str "all")⟩
  have hleaves : o.LeavesOwn := by
    intro name hname
    refine (Fields.find?_insert ∅ "consistency" name _).trans (if_neg ?_)
    rintro rfl
    exact absurd hname (by decide)
  have hsets : ¬ o'.Sets "page_size" := by
    simp [Sets, o']
  obtain ⟨_, _, _, _, _, hread⟩ := toJson_tells.1 o
  obtain ⟨hsize, hstate, hextra⟩ := hread hleaves
  obtain ⟨_, _, _, _, hkept, _⟩ := toJson_tells.1 o'
  refine ⟨⟨o, hleaves, rfl, hsize, hstate, hextra⟩, o', hsets, ?_⟩
  rw [hkept _ hsets]
  exact (Fields.find?_insert ∅ "page_size" "page_size" _).trans (if_pos rfl)

end StatementOptions

end Cql
