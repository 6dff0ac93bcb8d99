import TypedQuery.Adaptor.Basic

/-!
# Traces as records

A trace is written as a record of texts: a level, a message that tells its sort,
and fields that depend on the sort.
-/

namespace TypedQuery

def TransactionEvent.word : TransactionEvent → String
  | begin => "begin"
  | commit => "commit"
  | rollback => "rollback"

def ConnectionEvent.word : ConnectionEvent → String
  | opened => "open"
  | closed => "close"

namespace Trace

/-- How much a trace matters. -/
def level : Trace → String
  | statement .. => "DEBUG"
  | transaction .. | connection .. => "INFO"
  | rollbackFailed .. => "WARN"

def message : Trace → String
  | statement .. => "relq.query"
  | transaction .. | rollbackFailed .. => "relq.transaction"
  | connection .. => "relq.connection"

def fields : Trace → List (String × String)
  | statement sql paramCount => [("sql", sql), ("params", Digits.naturalText paramCount)]
  | transaction event driver => [("event", event.word), ("driver", driver)]
  | rollbackFailed driver error =>
    [("event", "rollback_failed"), ("driver", driver), ("error", error.display)]
  | connection event driver target =>
    [("event", event.word), ("driver", driver), ("target", target)]

def record (trace : Trace) : List (String × String) :=
  ("level", trace.level) :: ("message", trace.message) :: trace.fields

end Trace

end TypedQuery
