import QueryLint.Analysis
import QueryLint.Text.Part

/-!
# Benchmark

A corpus of queries, one for each kind of problem, and texts that make the patterns with wide gaps
work hard: an opening keyword again and again, and never the end of the pattern.  The reports are
tables for people; the measured times are filled in by the caller.
-/

namespace QueryLint

namespace Benchmark

/-- A named query. -/
structure Sample where
  name : String
  query : String
deriving DecidableEq, Repr

/-- The corpus. -/
def badQueries : List Sample :=
  [⟨"SELECT Star", "SELECT * FROM users WHERE id = 1;"⟩,
    ⟨"Leading Wildcard", "SELECT id FROM products WHERE name LIKE '%phone%';"⟩,
    ⟨"NOT LIKE Wildcard", "SELECT id FROM products WHERE name NOT LIKE '%test';"⟩,
    ⟨"Join On IS NULL", "SELECT a.id FROM t1 a JOIN t2 b ON b.ref IS NULL;"⟩,
    ⟨"Left Join", "SELECT u.id FROM users u LEFT JOIN orders o ON u.id = o.user_id;"⟩,
    ⟨"Right Join", "SELECT u.id FROM users u RIGHT JOIN orders o ON u.id = o.user_id;"⟩,
    ⟨"Equals NULL", "SELECT id FROM users WHERE deleted_at = NULL;"⟩,
    ⟨"Not Equals NULL", "SELECT id FROM users WHERE deleted_at <> NULL;"⟩,
    ⟨"Order By Limit", "SELECT id FROM logs ORDER BY created_at DESC LIMIT 10;"⟩,
    ⟨"Order By Rand", "SELECT id FROM quotes ORDER BY RAND();"⟩,
    ⟨"Group By Having", "SELECT dept, COUNT(*) FROM emp GROUP BY dept HAVING COUNT(*) > 5;"⟩,
    ⟨"IN Subquery", "SELECT id FROM users WHERE id IN (SELECT user_id FROM orders);"⟩,
    ⟨"Derived Table", "SELECT t.id FROM (SELECT id FROM users) t;"⟩,
    ⟨"Function In Where", "SELECT id FROM events WHERE created = NOW();"⟩,
    ⟨"Distinct", "SELECT DISTINCT city FROM addresses;"⟩,
    ⟨"OR Condition", "SELECT id FROM users WHERE email = 'a' OR username = 'b';"⟩,
    ⟨"Temp Table", "SELECT id INTO #recent FROM orders;"⟩,
    ⟨"Clean Query", "SELECT id, email FROM users WHERE id = 42;"⟩]

/-- Repeated texts that open a pattern and never close it. -/
def seeds : List Sample :=
  [⟨"join_no_is_null", "JOIN t ON a = b "⟩, ⟨"where_no_or", "WHERE col = 1 AND "⟩,
    ⟨"order_by_no_limit", "ORDER BY x, "⟩]

/-- The lengths to which the seeds are repeated. -/
def defaultSizes : List Int := [1000, 2000, 4000, 8000]

/-- A seed repeated and cut to a number of characters. -/
def seedText (s : Sample) (size : Int) : String :=
  let cs := s.query.toList
  let times := size.toNat / cs.length + 1
  String.ofList ((List.replicate times cs).flatten.take size.toNat)

/-- A rule across the table. -/
def ruler (width : Nat) : String :=
  String.ofList (List.replicate width '-')

/-- The cells of a row, each filled up to its width but the last. -/
def row (cells : List (Nat × String)) (last : String) : String :=
  " | ".intercalate (cells.map (fun c => padRight c.1 c.2) ++ [last])

/-- The row of a query. -/
def corpusRow (s : Sample) (milliseconds : String) : String :=
  row [(24, s.name), (8, toString (analyze s.query).length),
    (8, toString (summarize s.query).length)] milliseconds

/-- The report on a corpus: a row for each query, totals, and the hits of each rule over all queries
as one text. -/
def corpusReport (corpus : List Sample) (milliseconds : String) : List String :=
  let whole := "\n".intercalate (corpus.map Sample.query)
  let hits := catalog.map fun r =>
    "  " ++ r.code ++ " " ++ padRight 24 r.name ++ " " ++ toString (r.findMatches whole).length
  let found := (corpus.map fun s => (analyze s.query).length).foldr (· + ·) 0
  [row [(24, "Benchmark Name"), (8, "Findings"), (8, "Rules")] "Time (ms)", ruler 60] ++
    corpus.map (fun s => corpusRow s milliseconds) ++
    [ruler 60, "Total Benchmarks: " ++ toString corpus.length, "Total Findings: " ++ toString found,
      "", "Per-rule hit counts over the corpus:"] ++ hits

/-- The report on the seeds: a row for each seed and size. -/
def seedReport (sizes : List Int) (milliseconds : String) : List String :=
  ["", row [(20, "Seed"), (8, "Chars")] "Time (ms)", ruler 45] ++
    seeds.flatMap fun s => sizes.map fun size =>
      row [(20, s.name), (8, toString size)] milliseconds

end Benchmark

end QueryLint
