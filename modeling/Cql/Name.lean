import Cql.Error
import Cql.Text.NormalForm
import Cql.Text.Quoted

/-!
Names of tables and columns. A name stands in a statement as it is, so every name is checked before
it is stored: an identifier is a letter or an underscore and then letters, digits and underscores,
and is no reserved word. A table may have the name of its keyspace in front, with a point between.
-/

namespace Cql.Name

/-- A segment of a name as written in a statement, with double quotes written twice. -/
def wrapSegment (s : List Char) : List Char :=
  if s = ['*'] then s else Text.double '\x22' s

/-- A name as written in a statement, segment by segment. -/
def wrap (name : String) : String :=
  String.ofList (['.'].intercalate ((name.toList.splitOn '.').map wrapSegment))

/-- Names with commas between them. -/
def list (names : List String) : String :=
  ", ".intercalate (names.map wrap)

/-- The words that no identifier may be, in lower case. -/
def reservedWords : List String :=
  ["add", "allow", "alter", "and", "apply", "asc", "authorize", "batch", "begin", "by",
    "columnfamily", "create", "delete", "desc", "describe", "drop", "entries", "execute",
    "from", "full", "grant", "if", "in", "index", "infinity", "insert", "into", "keyspace",
    "limit", "modify", "nan", "norecursive", "not", "null", "of", "on", "or", "order",
    "primary", "rename", "replace", "revoke", "schema", "select", "set", "table", "to",
    "token", "truncate", "unlogged", "update", "use", "using", "where", "with"]

/-- The keyspaces that belong to the store, in lower case. -/
def systemKeyspaces : List String :=
  ["system", "system_auth", "system_distributed", "system_schema", "system_traces",
    "system_views", "system_virtual_schema"]

def isStart (c : Char) : Bool :=
  c.isAlpha || c == '_'

def isPart (c : Char) : Bool :=
  c.isAlphanum || c == '_'

def lower (s : List Char) : String :=
  String.ofList (s.map Char.toLower)

def checkIdentifier (name : String) : Except Error Unit :=
  match name.toList with
  | [] => .error .emptyIdentifier
  | first :: rest =>
    if !Text.isNormal (first :: rest) then .error (.identifierNotNormal name)
    else if !isStart first then .error (.identifierStart name)
    else
      match rest.find? fun c => !isPart c with
      | some c => .error (.identifierCharacter name c)
      | none =>
        if reservedWords.contains (lower (first :: rest)) then .error (.reservedWord name)
        else .ok ()

/-- A column of a projection, which may be all columns. -/
def checkColumn (name : String) : Except Error Unit :=
  if name = "*" then .ok () else checkIdentifier name

/-- The name of a keyspace, or of a table without its keyspace. -/
def checkSegment (name : String) : Except Error Unit := do
  checkIdentifier name
  if maxNameLength < name.utf8ByteSize then .error (.nameTooLong name) else .ok ()

def checkTable (name : String) : Except Error Unit :=
  if name.isEmpty then .error .emptyTableName
  else
    match name.toList.splitOn '.' with
    | [_] => checkSegment name
    | [keyspace, table] =>
      if systemKeyspaces.contains (lower keyspace) then
        .error (.systemKeyspace (String.ofList keyspace))
      else do
        checkSegment (String.ofList keyspace)
        checkSegment (String.ofList table)
    | _ => .error (.malformedTable name)

end Cql.Name
