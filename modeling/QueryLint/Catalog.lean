import QueryLint.Pattern.Basic

/-!
# The rule catalog

Fifteen patterns of SQL that tends to run slowly, each with a code, a name and the message shown to
the user.  The patterns look at the text alone: they also fire inside string literals and comments.
-/

namespace QueryLint

/-- A check of the catalog. -/
structure Rule where
  code : String
  name : String
  pattern : Pattern
  message : String
deriving DecidableEq, Repr

namespace Rule

open Pattern

/-- Whitespace between two words. -/
def gap : Pattern := many1 .space

/-- Whitespace that may be left out. -/
def slack : Pattern := many .space

/-- Any text at all. -/
def anything : Pattern := many .any

/-- A word that has to begin, but not to end, at a word boundary. -/
def opening (s : String) : Pattern := seq boundary (text s)

/-- A column name. -/
def column : Pattern := many1 .word

def selectStar : Rule where
  code := "SQ001"
  name := "SELECT_STAR"
  pattern := concat [opening "SELECT", gap, text "*"]
  message := "Avoid using 'SELECT *'. " ++
    "Specify the columns you need to reduce I/O and network traffic."

def likeLeadingWildcard : Rule where
  code := "SQ002"
  name := "LIKE_LEADING_WILDCARD"
  pattern := concat
    [opening "WHERE", gap, column, gap, opt (concat [text "NOT", gap]), text "LIKE", gap, text "'%"]
  message := "Avoid leading wildcards in LIKE clauses (e.g., '%value'). " ++
    "They prevent index usage and force full table scans."

def joinIsNull : Rule where
  code := "SQ003"
  name := "JOIN_IS_NULL"
  pattern := concat
    [wholeWord "JOIN", anything, wholeWord "ON", anything, opening "IS", gap, text "NULL"]
  message := "Ensure indexes exist for JOIN conditions, especially when using IS NULL."

def outerJoin : Rule where
  code := "SQ004"
  name := "OUTER_JOIN"
  pattern := alt (concat [opening "LEFT", gap, text "JOIN", boundary])
    (concat [opening "RIGHT", gap, text "JOIN", boundary])
  message :=
    "Outer joins can be slower than inner joins. Ensure they're necessary and properly indexed."

def equalsNull : Rule where
  code := "SQ005"
  name := "EQUALS_NULL"
  pattern := concat [opening "WHERE", gap, column, slack, text "=", slack, text "NULL"]
  message :=
    "Use 'IS NULL' instead of '= NULL'. Comparing with NULL using = will always return false."

def notEqualsNull : Rule where
  code := "SQ006"
  name := "NOT_EQUALS_NULL"
  pattern := concat [opening "WHERE", gap, column, slack, text "<>", slack, text "NULL"]
  message := "Use 'IS NOT NULL' instead of '<> NULL' or '!= NULL'. " ++
    "Comparing with NULL using <> will always return false."

def orderByLimit : Rule where
  code := "SQ007"
  name := "ORDER_BY_LIMIT"
  pattern := concat [opening "ORDER", gap, text "BY", boundary, anything, wholeWord "LIMIT"]
  message := "Ordering large datasets with LIMIT may cause performance issues. " ++
    "Consider using indexed columns for ORDER BY."

def orderByRand : Rule where
  code := "SQ008"
  name := "ORDER_BY_RAND"
  pattern := concat [opening "ORDER", gap, text "BY", gap, text "RAND()"]
  message := "ORDER BY RAND() is extremely inefficient for large datasets. " ++
    "Consider alternative randomization methods."

def groupByHaving : Rule where
  code := "SQ009"
  name := "GROUP_BY_HAVING"
  pattern := concat [opening "GROUP", gap, text "BY", boundary, anything, wholeWord "HAVING"]
  message := "HAVING clauses can be slow. Consider using WHERE before GROUP BY when possible."

def inSubquery : Rule where
  code := "SQ010"
  name := "IN_SUBQUERY"
  pattern := concat
    [opening "WHERE", gap, anything, opening "IN", slack, text "(", slack, text "SELECT"]
  message :=
    "IN + subquery can be slow. Consider using EXISTS or JOIN instead for better performance."

def derivedTable : Rule where
  code := "SQ011"
  name := "DERIVED_TABLE"
  pattern := concat [opening "FROM", slack, text "(", slack, text "SELECT"]
  message := "Derived tables (subqueries in FROM) might impact performance. " ++
    "Consider using CTEs or temporary tables."

def functionInWhere : Rule where
  code := "SQ012"
  name := "FUNCTION_IN_WHERE"
  pattern := concat
    [opening "WHERE", gap, column, slack, text "=", slack, column, text "(", many (.butNot ')'),
      text ")"]
  message :=
    "Using functions in WHERE clauses prevents index usage. Consider restructuring the query."

def distinct : Rule where
  code := "SQ013"
  name := "DISTINCT"
  pattern := wholeWord "DISTINCT"
  message :=
    "DISTINCT can be expensive. Consider if it's really needed or if the query can be rewritten."

def orCondition : Rule where
  code := "SQ014"
  name := "OR_CONDITION"
  pattern := concat [wholeWord "WHERE", anything, wholeWord "OR"]
  message := "OR conditions might prevent optimal index usage. " ++
    "Consider UNION ALL or restructuring the query."

def tempTable : Rule where
  code := "SQ015"
  name := "TEMP_TABLE"
  pattern := concat [opening "INTO", gap, text "#"]
  message :=
    "Consider indexing temporary tables if they're used in subsequent joins or where clauses."

end Rule

/-- The rules in the order in which they are evaluated and reported. -/
def catalog : List Rule :=
  [.selectStar, .likeLeadingWildcard, .joinIsNull, .outerJoin, .equalsNull, .notEqualsNull,
    .orderByLimit, .orderByRand, .groupByHaving, .inSubquery, .derivedTable, .functionInWhere,
    .distinct, .orCondition, .tempTable]

end QueryLint
