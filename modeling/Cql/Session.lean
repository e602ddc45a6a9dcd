import Cql.Run.Query
import Cql.Session.Settings

/-!
Sessions: the settings that every new query begins with.
-/

namespace Cql

structure Session where
  settings : SessionSettings := {}

namespace Session

/-- A session with the given settings. -/
def configure (settings : SessionSettings) : Exec Session :=
  Exec.within (.configure settings.pageSize.toInt settings.log.slowThreshold) do
    Exec.ofExcept settings.validate
    Exec.trace .sessionReady
    return ⟨settings⟩

/-- A query without a table. -/
def query (s : Session) : Query :=
  { options := s.settings.options, pageSize := s.settings.pageSize }

def table (s : Session) (name : String) : Except Error Query :=
  s.query.onTable name

end Session

end Cql
