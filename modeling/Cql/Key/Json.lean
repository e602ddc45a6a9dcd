import Cql.Json.Document
import Cql.Key

/-!
Primary keys as JSON. A key of one column is its name; a key of several components is an array of
them. A component is an object with a name and perhaps a caster, or an array of both. The caster is
null or its name, which may also stand as the only member of an object, with the value null.
-/

namespace Cql

open Json (Document Piece)

def KeyColumn.toJson (component : KeyColumn) : Json :=
  let caster : Json :=
    match component.caster with
    | some caster => .str caster.name
    | none => .null
  .ofFields (Fields.ofList [("name", .str component.name), ("caster", caster)])

def PrimaryKey.toJson : PrimaryKey → Json
  | single name => .str name
  | composite components => .arr (components.map KeyColumn.toJson)

/-- The caster of a component; no document stands for no caster, as null does. -/
def Caster.ofDocument? : Option Document → Option (Option Caster)
  | none => some none
  | some .null => some none
  | some (.string name) => do
    let caster ← Caster.ofName? (← Piece.string? name)
    return some caster
  | some (.object [(name, .null)]) => do
    let caster ← Caster.ofName? (← Piece.string? name)
    return some caster
  | _ => none

def KeyColumn.ofDocument? (d : Document) : Option KeyColumn :=
  match d.record? ["name", "caster"] with
  | some [some name, caster] => do
    let name ← name.string?
    let caster ← Caster.ofDocument? caster
    return ⟨name, caster⟩
  | _ => none

namespace PrimaryKey

/-- The key that a document stands for. Every part of the document has to have a value. -/
def ofDocument? (d : Document) : Option PrimaryKey :=
  match d.toJson? Document.maxDepth, d with
  | some _, .string name => (Piece.string? name).map single
  | some _, .array items => (items.mapM KeyColumn.ofDocument?).map composite
  | _, _ => none

def ofText? (s : String) : Except Error PrimaryKey :=
  match Document.ofText? s >>= ofDocument? with
  | some key => .ok key
  | none => .error .unreadable

end PrimaryKey

end Cql
