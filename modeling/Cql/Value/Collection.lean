import Cql.Error
import Cql.Value

/-!
Checked collections. Every element has to be a value of the declared type and no collection. A map
keeps the first position and the last value of a key, a set keeps the first of equal elements, and
a list keeps all.
-/

namespace Cql.Collection

/-- The value, if it may stand in a slot of type `type` in a collection of kind `kind`. -/
def checkElement (kind : CollectionKind) (type : NativeType) (v : Value) : Except Error Value :=
  match v with
  | .collection inner => .error (.nestedCollection inner.kind kind)
  | v => if v.fits type then .ok v else .error (.unstorable v.typeName kind type)

/-- Sets the value of a key in place, or adds the key at the end. -/
def putEntry (k v : Value) : List (Value × Value) → List (Value × Value)
  | [] => [(k, v)]
  | (k', v') :: entries => if k' == k then (k', v) :: entries else (k', v') :: putEntry k v entries

/-- Adds an element at the end unless there is an equal one. -/
def addElement (values : List Value) (v : Value) : List Value :=
  if values.contains v then values else values ++ [v]

def checkEntry (key value : NativeType) (entry : Value × Value) : Except Error (Value × Value) := do
  let k ← checkElement .map key entry.1
  let v ← checkElement .map value entry.2
  return (k, v)

def map? (key value : NativeType) (entries : List (Value × Value)) :
    Except Error (Collection Value) := do
  let entries ← entries.mapM (checkEntry key value)
  return map key value (entries.foldl (fun kept e => putEntry e.1 e.2 kept) [])

def set? (element : NativeType) (values : List Value) : Except Error (Collection Value) := do
  let values ← values.mapM (checkElement .set element)
  return set element (values.foldl addElement [])

def list? (element : NativeType) (values : List Value) : Except Error (Collection Value) := do
  let values ← values.mapM (checkElement .list element)
  return list element values

end Cql.Collection
