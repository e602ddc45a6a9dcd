/-!
String literals: a text between single quotes, with every single quote inside it written twice.
-/

namespace Cql.Text

/-- Every occurrence of `c` written twice. -/
def double (c : Char) : List Char → List Char
  | [] => []
  | d :: s => if d = c then d :: d :: double c s else d :: double c s

def quoted (s : List Char) : List Char :=
  '\'' :: (double '\'' s ++ ['\''])

end Cql.Text

namespace Cql

/-- The text as a string literal. -/
def quote (s : String) : String :=
  String.ofList (Text.quoted s.toList)

theorem toList_quote (s : String) : (quote s).toList = Text.quoted s.toList := by
  simp [quote]

end Cql
