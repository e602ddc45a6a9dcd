import Cql.Row
import Cql.Text.Numeral

/-!
Pages of a result. A page with a paging state is followed by another one; a page without one is the
last. A paging state is a token of the store that says where the next page begins.
-/

namespace Cql

structure PagingState where
  bytes : List UInt8
  deriving DecidableEq

namespace PagingState

def hex (state : PagingState) : String :=
  String.ofList (Text.hexBytes state.bytes)

/-- The token is opaque: a description shows its length only. -/
def describe (state : PagingState) : String :=
  s!"PagingState({state.bytes.length} bytes)"

end PagingState

structure Page where
  rows : List Row
  next : Option PagingState

namespace Page

def empty : Page := ⟨[], none⟩

instance : EmptyCollection Page := ⟨empty⟩

def count (page : Page) : Nat :=
  page.rows.length

def isLast (page : Page) : Bool :=
  page.next.isNone

end Page

end Cql
