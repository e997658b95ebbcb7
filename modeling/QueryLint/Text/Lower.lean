import QueryLint.Text.CaseTable

/-!
# Lower case

The lower case of a text by the full rules of the Unicode standard: a capital `I` with a dot becomes
two characters, and a capital sigma takes its final form at the end of a word, that is behind a
cased letter and not before one, where characters that bear no case of their own are looked through.
-/

namespace QueryLint

namespace CaseRun

/-- Whether the run holds the code point. -/
def contains (r : CaseRun) (n : Nat) : Bool :=
  r.first ≤ n && n ≤ r.last && (n - r.first) % r.stride == 0

end CaseRun

/-- The lower case of a single character, whatever stands around it. -/
def lowerChar (c : Char) : List Char :=
  if c == 'İ' then ['i', '\u0307']
  else
    match caseRuns.find? fun r => r.contains c.toNat with
    | some r => [Char.ofNat (c.toNat + r.shift).toNat]
    | none => [c]

/-- Whether the first character that is not looked through has case. -/
def meetsCased (cs : List Char) : Bool :=
  (cs.dropWhile (inRanges caseIgnorableRanges)).head?.any (inRanges casedRanges)

/-- Whether a sigma is the last letter of a word, given the text before it, backwards, and behind.
-/
def isFinalSigma (before after : List Char) : Bool :=
  meetsCased before && !meetsCased after

/-- The lower case of a text behind the given one, which is read backwards. -/
def lowerFrom (before : List Char) : List Char → List Char
  | [] => []
  | c :: after =>
    let lowered :=
      if c == 'Σ' then [if isFinalSigma before after then 'ς' else 'σ'] else lowerChar c
    lowered ++ lowerFrom (c :: before) after

/-- The lower case of a text. -/
def lower (s : String) : String :=
  String.ofList (lowerFrom [] s.toList)

end QueryLint
