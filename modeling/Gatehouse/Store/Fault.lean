/-!
Why storage does not answer a call. Callers are never told more than that something failed inside
the server; the wording is for the log.
-/

namespace Gatehouse.Store

/-- What went wrong between the server and its database. -/
inductive DatabaseFault
  /-- A row was expected and there is none. -/
  | rowNotFound
  /-- The connections have been closed. -/
  | poolClosed
  /-- No connection became free in time. -/
  | poolTimedOut
  /-- The database sent something that makes no sense. -/
  | protocol (detail : String)
  /-- The database refused the statement. -/
  | refused (message : String)
  /-- A row lacks a column. -/
  | columnNotFound (name : String)
  /-- A column cannot be read as what it should hold. -/
  | columnUnreadable (name : String)
  /-- The database cannot be reached. -/
  | unreachable
deriving DecidableEq, Repr

def DatabaseFault.message : DatabaseFault → String
  | .rowNotFound => "no rows returned by a query that expected to return at least one row"
  | .poolClosed => "attempted to acquire a connection on a closed pool"
  | .poolTimedOut => "pool timed out while waiting for an open connection"
  | .protocol detail => "encountered unexpected or invalid data: " ++ detail
  | .refused message => "error returned from database: " ++ message
  | .columnNotFound name => "no column found for name: " ++ name
  | .columnUnreadable _ => "error occurred while decoding"
  | .unreachable => "error communicating with database"

/-- Why storage does not answer a call. -/
inductive StoreFault
  /-- The database failed. -/
  | database (fault : DatabaseFault)
  /-- A row holds something that stands for nothing in the domain. -/
  | corruptRow (detail : String)
  /-- Storage did not answer within the bound of the call. -/
  | timedOut
deriving DecidableEq, Repr

def StoreFault.message : StoreFault → String
  | .database fault => "database error: " ++ fault.message
  | .corruptRow detail => "corrupt row: " ++ detail
  | .timedOut => "storage call timed out"

end Gatehouse.Store
