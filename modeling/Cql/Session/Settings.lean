import Cql.Json.Document
import Cql.Query
import Cql.Run.Connection
import Cql.Text.Blank

/-!
Settings of a session: the page size and the options that new queries begin with, and the log
settings of the connection. They are read from a JSON text or from the settings of the environment;
what is not given takes its standard value.
-/

namespace Cql

open Json (Document Piece)

structure SessionSettings where
  pageSize : Int32 := standardPageSize
  log : LogSettings := {}
  options : Fields Json := ∅

namespace SessionSettings

def validate (settings : SessionSettings) : Except Error Unit :=
  if settings.pageSize ≤ 0 then .error (.defaultPageSizeNotPositive settings.pageSize.toInt)
  else .ok ()

/-- A whole number within bounds, or the standard value if there is none. -/
def number? (low high standard : Int) : Option Document → Option Int
  | none => some standard
  | some d => do
    let n ← d.int?
    if low ≤ n ∧ n < high then some n else none

/-- A count of up to 64 bits. -/
def count? (standard : Nat) (d : Option Document) : Option Nat :=
  (number? 0 UInt64.size standard d).map Int.toNat

def log? : Option Document → Option LogSettings
  | none => some {}
  | some d =>
    match d.record? ["slow_query_threshold_ms", "cql_preview_len"] with
    | some [slowThreshold, previewLength] => do
      let standard : LogSettings := {}
      let slowThreshold ← count? standard.slowThreshold slowThreshold
      let previewLength ← count? standard.previewLength previewLength
      return { slowThreshold, previewLength }
    | _ => none

/-- The members of an object that stands inside another one. -/
def options? : Option Document → Option (Fields Json)
  | none => some ∅
  | some (.object members) =>
    (Document.membersToJson? members (Document.maxDepth - 2)).map Fields.ofList
  | _ => none

def ofDocument? (d : Document) : Option SessionSettings :=
  match d.record? ["default_page_size", "executor", "default_options"] with
  | some [pageSize, log, options] => do
    let pageSize ←
      number? Int32.minValue.toInt (Int32.maxValue.toInt + 1) standardPageSize.toInt pageSize
    let log ← log? log
    let options ← options? options
    return { pageSize := Int32.ofInt pageSize, log, options }
  | _ => none

/-- The settings that a JSON text gives. -/
def ofText? (s : String) : Except Error SessionSettings :=
  match Document.ofText? s >>= ofDocument? with
  | none => .error .unreadable
  | some settings => do
    settings.validate
    return settings

/-- The settings that the environment gives, each as the text of a number with blanks around it. -/
def ofEnvironment? (pageSize slowThreshold : Option String) : Except Error SessionSettings := do
  let standard : SessionSettings := {}
  let pageSize ←
    match pageSize with
    | none => pure standard.pageSize
    | some raw =>
      match (Text.integer? (Text.trim raw.toList)) with
      | some n =>
        if Int32.minValue.toInt ≤ n ∧ n ≤ Int32.maxValue.toInt then pure (Int32.ofInt n)
        else throw (.settingNotInteger "OUROBOROS_CQL_PAGE_SIZE" raw)
      | none => throw (.settingNotInteger "OUROBOROS_CQL_PAGE_SIZE" raw)
  let slowThreshold ←
    match slowThreshold with
    | none => pure standard.log.slowThreshold
    | some raw =>
      match (Text.natural? (Text.trim raw.toList)) with
      | some n =>
        if n < UInt64.size then pure n
        else throw (.settingNotInteger "OUROBOROS_CQL_SLOW_QUERY_MS" raw)
      | none => throw (.settingNotInteger "OUROBOROS_CQL_SLOW_QUERY_MS" raw)
  let settings : SessionSettings :=
    { standard with pageSize, log := { standard.log with slowThreshold } }
  settings.validate
  return settings

end SessionSettings

end Cql
