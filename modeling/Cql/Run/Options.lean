import Cql.Page

/-!
The options that go with a statement to the connection. As JSON the arguments, the page size and the
paging state are members beside the options of the user, and take the place of those of their name.
-/

namespace Cql

structure StatementOptions where
  arguments : List Value
  /-- Rows per page; without it the connection decides. -/
  pageSize : Option Int32 := none
  /-- Where the page begins; without it at the first row. -/
  pagingState : Option PagingState := none
  /-- The options of the user. -/
  extra : Fields Json := ∅

namespace StatementOptions

/-- Sets a member if there is a value for it. -/
def setMember (fields : Fields Json) (name : String) (value : Option Json) : Fields Json :=
  match value with
  | some value => fields.insert name value
  | none => fields

def members (o : StatementOptions) : Fields Json :=
  let fields := o.extra.insert "arguments" (.arr (o.arguments.map Value.toJson))
  let fields := setMember fields "page_size" (o.pageSize.map fun n => .int n.toInt)
  setMember fields "paging_state_token" (o.pagingState.map fun state => .str state.hex)

def toJson (o : StatementOptions) : Json :=
  .ofFields o.members

end StatementOptions

end Cql
