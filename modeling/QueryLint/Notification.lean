import QueryLint.Analysis

/-!
# Notifications

The answer of an on-demand check: one text for the user, with the messages it was made from.  It is
a warning exactly if there are issues.
-/

namespace QueryLint

/-- How a notification is shown. -/
inductive NotificationLevel where
  | warning
  | info
deriving DecidableEq, Repr

namespace NotificationLevel

/-- The level as it is written. -/
def label : NotificationLevel → String
  | warning => "warning"
  | info => "info"

end NotificationLevel

/-- A message to the user about all rules that fired. -/
structure Notification where
  level : NotificationLevel
  message : String
  issues : List String
deriving DecidableEq, Repr

/-- The notification for a list of issues. -/
def notify (issues : List String) : Notification where
  level := if issues.isEmpty then .info else .warning
  message := formatSummary issues
  issues := issues

end QueryLint
