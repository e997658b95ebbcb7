import QueryLint.Catalog
import QueryLint.Pattern.Search

/-!
# Analysis of a text

Two modes over the same catalog.  Detailed mode reports every match of every rule with its place;
summary mode reports the message of each rule that matches at all, and `formatSummary` renders those
messages as one notification text.
-/

namespace QueryLint

/-- One match of a rule: where it starts, counted in characters, and how long it is. -/
structure Finding where
  code : String
  rule : String
  message : String
  startOffset : Nat
  length : Nat
deriving DecidableEq, Repr

namespace Finding

/-- The offset just behind the match. -/
def endOffset (f : Finding) : Nat :=
  f.startOffset + f.length

end Finding

namespace Rule

/-- The finding that a rule reports for a stretch of text. -/
def finding (r : Rule) (s : Span) : Finding where
  code := r.code
  rule := r.name
  message := r.message
  startOffset := s.start
  length := s.length

/-- All matches of the rule, left to right, none overlapping the one before. -/
def findMatches (r : Rule) (text : String) : List Finding :=
  (r.pattern.spans text.toList).map r.finding

/-- Whether the rule matches anywhere in the text. -/
def firesOn (r : Rule) (text : String) : Bool :=
  r.pattern.occursIn text.toList

end Rule

/-- Detailed mode: every match of every rule, grouped by rule in catalog order. -/
def analyze (text : String) : List Finding :=
  catalog.flatMap fun r => r.findMatches text

/-- The rules that match the text, in catalog order. -/
def firedRules (text : String) : List Rule :=
  catalog.filter fun r => r.firesOn text

/-- Summary mode: the message of each rule that matches. -/
def summarize (text : String) : List String :=
  (firedRules text).map Rule.message

/-- What a notification says when nothing was found. -/
def noIssuesMessage : String := "No slow query patterns detected."

/-- The first line of a notification that lists issues. -/
def summaryHeader : String := "Detected potential issues:"

/-- What stands before each issue. -/
def issueBullet : String := "\n- "

/-- One text for a list of messages: a header and a line for each of them. -/
def formatSummary (messages : List String) : String :=
  if messages.isEmpty then noIssuesMessage
  else issueBullet.intercalate (summaryHeader :: messages)

end QueryLint
