/-!
# Log entries

What the program writes to its log.  An entry has a level and the part of the program that speaks.
The entries of the stopwatch carry only the name of the operation: the measured time is not known to
the rest of the program and is filled in when the entry is written.
-/

namespace QueryLint

/-- How serious an entry is. -/
inductive LogLevel where
  | debug
  | info
  | warning
  | error
deriving DecidableEq, Repr

namespace LogLevel

/-- The level as it is written. -/
def label : LogLevel → String
  | debug => "DEBUG"
  | info => "INFO"
  | warning => "WARNING"
  | error => "ERROR"

end LogLevel

/-- The part of the program that an entry comes from. -/
inductive LogSource where
  | service
  | access
  | failures
  | stopwatch
  | workspace
  | session
deriving DecidableEq, Repr

namespace LogSource

/-- The name of the logger. -/
def label : LogSource → String
  | service => "slowquery.app"
  | access => "slowquery.core.auth"
  | failures => "slowquery.core.error_handler"
  | stopwatch => "slowquery.core.monitoring"
  | workspace => "slowquery.services.workspace"
  | session => "slowquery.services.pipeline"

end LogSource

/-- One entry of the log. -/
inductive LogEntry where
  | message (level : LogLevel) (source : LogSource) (text : String)
  /-- The operation has ended; how long it took is measured outside. -/
  | timing (operation : String)
deriving DecidableEq, Repr

namespace LogEntry

/-- The level of an entry. -/
def level : LogEntry → LogLevel
  | message l _ _ => l
  | timing _ => .info

/-- Where an entry comes from. -/
def source : LogEntry → LogSource
  | message _ s _ => s
  | timing _ => .stopwatch

/-- The text of an entry, given the measured seconds as text. -/
def text (seconds : String) : LogEntry → String
  | message _ _ t => t
  | timing operation => operation ++ " took " ++ seconds ++ "s"

end LogEntry

end QueryLint
