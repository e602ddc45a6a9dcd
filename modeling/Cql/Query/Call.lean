import Cql.Key

/-!
Calls on a query, as data. A call either gives a new query or is refused; a list of calls stops at
the first one that is refused.
-/

namespace Cql

inductive Call where
  | onTable (table : String)
  | select (columns : List String)
  | restrict (column : String) (operator : Operator) (v : Value)
  | restrictBy (column operator : String) (v : Value)
  | orRestrict (column : String)
  | withDistinct
  | withFiltering
  | withLimit (limit : UInt32)
  | withOptions (options : Fields Json)
  | withPageSize (size : Int32)
  | bind (kind : Bucket) (v : Value)
  | bindNamed (kind : String) (v : Value)
  | updateCollection (column : String) (operation : Option CollectionChange) (v : Value)
  | replaceCollection (column : String) (v : Value)
  | restrictKey (key : PrimaryKey) (id : KeyValue)
  | restrictSave (key : PrimaryKey) (loaded changed : Row)

namespace Call

def apply (q : Query) : Call → Except Error Query
  | onTable table => q.onTable table
  | select columns => q.select columns
  | restrict column operator v => q.restrict column operator v
  | restrictBy column operator v => q.restrictBy column operator v
  | orRestrict column => q.orRestrict column
  | withDistinct => .ok q.withDistinct
  | withFiltering => .ok q.withFiltering
  | withLimit limit => .ok (q.withLimit limit)
  | withOptions options => .ok (q.withOptions options)
  | withPageSize size => .ok (q.withPageSize size)
  | bind kind v => .ok (q.bind kind v)
  | bindNamed kind v => q.bindNamed kind v
  | updateCollection column operation v => q.updateCollection column operation v
  | replaceCollection column v => q.replaceCollection column v
  | restrictKey key id => key.restrict q id
  | restrictSave key loaded changed => key.restrictSave q loaded changed

def applyAll (q : Query) (calls : List Call) : Except Error Query :=
  calls.foldlM apply q

end Call

end Cql
