import Cql.Value

/-!
Bound values, kept in one bucket for each clause that they belong to. The order of the buckets in a
list of arguments is the order in which a statement has its placeholders.
-/

namespace Cql

structure Bindings where
  select : List Value := []
  predicate : List Value := []
  updateCollection : List Value := []
  join : List Value := []

namespace Bindings

instance : EmptyCollection Bindings := ⟨{}⟩

def get (b : Bindings) : Bucket → List Value
  | .select => b.select
  | .predicate => b.predicate
  | .updateCollection => b.updateCollection
  | .join => b.join

def push (b : Bindings) (kind : Bucket) (v : Value) : Bindings :=
  match kind with
  | .select => { b with select := b.select ++ [v] }
  | .predicate => { b with predicate := b.predicate ++ [v] }
  | .updateCollection => { b with updateCollection := b.updateCollection ++ [v] }
  | .join => { b with join := b.join ++ [v] }

def clear (_ : Bindings) : Bindings := ∅

/-- The values of all buckets but the skipped ones, bucket by bucket. -/
def flattenExcept (b : Bindings) (skip : List Bucket) : List Value :=
  (Bucket.all.filter fun kind => !skip.contains kind).flatMap b.get

def flatten (b : Bindings) : List Value :=
  b.flattenExcept []

def size (b : Bindings) : Nat :=
  Bucket.all.foldl (fun size kind => size + (b.get kind).length) 0

def isEmpty (b : Bindings) : Bool :=
  b.size == 0

/-- The arguments of an update: those of joins, those of collection mutations, the assigned values,
and then every other bucket except the one of the projection. -/
def updateArguments (b : Bindings) (assigned : List Value) : List Value :=
  b.get .join ++ b.get .updateCollection ++ assigned ++
    b.flattenExcept [.select, .join, .updateCollection]

end Bindings

end Cql
