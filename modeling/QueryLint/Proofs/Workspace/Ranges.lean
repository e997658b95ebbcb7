import QueryLint.Proofs.Catalog.Findings
import QueryLint.Proofs.Schema.RoundTrip
import QueryLint.Proofs.Text.Lines
import QueryLint.Workspace

/-!
# Ranges of diagnostics

The range of a diagnostic says by lines and characters where its finding is.  `LineIndex.offset?`
goes back from a position to an offset, and undoes `LineIndex.position` within the text
(`offset?_position`), so nothing is lost: the range of a published diagnostic gives back both ends
of the stretch that its rule matched (`range_delimits_finding`).  Ends that lie outside of the text
are moved to its end before they are asked for, and stay in order.
-/

namespace QueryLint

namespace LineIndex

variable {text : String}

/-- The offset of a position: where its line starts, and as many characters further. -/
def offset? (index : LineIndex) (p : Position) : Option Nat :=
  index.starts[p.line]?.map fun start => start + p.character

/-- The position of an offset leads back to the offset, moved into the text. -/
theorem offset?_position (text : String) (offset : Int) :
    (ofText text).offset? ((ofText text).position offset) = some ((ofText text).clamp offset) := by
  obtain ⟨start, hstart, -, hcharacter⟩ := exists_start text offset
  rw [offset?, hstart, Option.map_some, hcharacter]

lemma clamp_le (text : String) (offset : Int) : (ofText text).clamp offset ≤ text.toList.length :=
  Nat.min_le_right _ _

lemma clamp_of_le {n : Nat} (h : n ≤ text.toList.length) : (ofText text).clamp n = n := by
  rw [clamp_ofText]
  omega

lemma clamp_mono (text : String) {a b : Nat} (h : a ≤ b) :
    (ofText text).clamp a ≤ (ofText text).clamp b := by
  rw [clamp_ofText, clamp_ofText]
  omega

/-- An offset has the position of the nearest offset in the text. -/
lemma position_clamp (text : String) (offset : Int) :
    (ofText text).position ((ofText text).clamp offset) = (ofText text).position offset := by
  have hclamp := clamp_of_le (clamp_le text offset)
  simp only [position, hclamp]

lemma lex_position_le (text : String) {a b : Nat} (hab : a ≤ b) (hb : b ≤ text.toList.length) :
    ((ofText text).position a).lex ≤ ((ofText text).position b).lex := by
  rcases Nat.lt_or_eq_of_le hab with hlt | rfl
  · exact le_of_lt (lex_position_lt text hlt hb)
  · exact le_rfl

end LineIndex

open LineIndex Pattern

/-- A finding of a text is a stretch of it that is not empty and that one of the rules matches. -/
lemma bounds_of_mem_analyze {text : String} {f : Finding} (hf : f ∈ analyze text) :
    f.startOffset < f.endOffset ∧ f.endOffset ≤ text.toList.length ∧
      ∃ r ∈ catalog, f.code = r.code ∧
        Matches text.toList r.pattern f.startOffset f.endOffset := by
  obtain ⟨r, hr, hf⟩ := List.mem_flatMap.mp hf
  have hmatches := Rule.matches_of_mem_findMatches hf
  refine ⟨hmatches.lt (Rule.consumes_pattern hr), hmatches.le_length, r, hr, ?_, hmatches⟩
  obtain ⟨s, -, rfl⟩ := Rule.mem_findMatches_iff.mp hf
  rfl

/-- The diagnostics of a document that is not SQL are none. -/
lemma value_reportDiagnostics (settings : Settings) (d : Document) (c : DiagnosticCollection) :
    (reportDiagnostics settings d c).2.1
      = if d.isSql settings then (analyze d.text).map (toDiagnostic d) else [] := by
  unfold reportDiagnostics
  split <;> rfl

/-- The range of a finding goes from one offset of the text to another that is no smaller. -/
lemma exists_range_toDiagnostic (d : Document) (f : Finding) :
    ∃ a b : Nat, a ≤ b ∧ b ≤ d.text.toList.length ∧
      (toDiagnostic d f).range = ⟨d.positionAt a, d.positionAt b⟩ := by
  have hle : f.startOffset ≤ f.endOffset := Nat.le_add_right _ _
  refine ⟨(ofText d.text).clamp f.startOffset, (ofText d.text).clamp f.endOffset,
    clamp_mono d.text hle, clamp_le d.text _, ?_⟩
  rw [d.positionAt_eq, d.positionAt_eq, position_clamp, position_clamp, toDiagnostic, d.lines_eq]
  rfl

/-- What the diagnostic of a finding of the text says about the place of the match. -/
lemma delimits_of_mem_analyze {d : Document} {f : Finding} (hf : f ∈ analyze d.text) :
    let p := toDiagnostic d f
    p.range.start.lex < p.range.stop.lex ∧
      (ofText d.text).offset? p.range.start = some f.startOffset ∧
      (ofText d.text).offset? p.range.stop = some f.endOffset := by
  intro p
  obtain ⟨hlt, hle, -⟩ := bounds_of_mem_analyze hf
  have hstart : p.range.start = (ofText d.text).position f.startOffset := d.positionAt_eq _
  have hstop : p.range.stop = (ofText d.text).position f.endOffset := d.positionAt_eq _
  refine ⟨?_, ?_, ?_⟩
  · rw [hstart, hstop]
    exact lex_position_lt d.text hlt hle
  · rw [hstart, offset?_position, clamp_of_le (by omega)]
  · rw [hstop, offset?_position, clamp_of_le hle]

/-- **Ranges delimit findings.**  The diagnostic of any finding in a document keeps all that the
finding says, and it is what is read from the written fields of the finding and a range.  This range
goes from the position of one offset of the text to that of another that is no smaller, so its start
does not come after its end.  The diagnostics published for a SQL document are those of the findings
of its text, and in each of them the start of the range comes before its end, the two lead back to
the offset of the finding and the offset behind it, and between these a rule with the code of the
finding matches. -/
theorem range_delimits_finding (settings : Settings) (d : Document) (c : DiagnosticCollection) :
    (∀ f : Finding,
      let g := toDiagnostic d f
      let range : Schema.Fields := [("range", g.range.json)]
      g.toFinding = f ∧ Diagnostic.check (.obj (f.fields .plain ++ range)) = .ok g ∧
        (∃ a b : Nat, a ≤ b ∧ b ≤ d.text.toList.length ∧
          g.range = ⟨d.positionAt a, d.positionAt b⟩) ∧
        g.range.start.lex ≤ g.range.stop.lex) ∧
    (d.isSql settings = true →
      (reportDiagnostics settings d c).2.1 = (analyze d.text).map (toDiagnostic d)) ∧
    ∀ p ∈ (reportDiagnostics settings d c).2.1,
      p.range.start.lex < p.range.stop.lex ∧
      (LineIndex.ofText d.text).offset? p.range.start = some p.startOffset ∧
      (LineIndex.ofText d.text).offset? p.range.stop = some (p.startOffset + p.length) ∧
      ∃ r ∈ catalog, p.code = r.code ∧
        Matches d.text.toList r.pattern p.startOffset (p.startOffset + p.length) := by
  refine ⟨fun f => ⟨rfl, ?copy, ?range, ?order⟩, fun hsql => ?sql, fun p hp => ?published⟩
  case copy => exact Diagnostic.check_fields .plain f (toDiagnostic d f).range
  case range => exact exists_range_toDiagnostic d f
  case order =>
    obtain ⟨a, b, hab, hb, hrange⟩ := exists_range_toDiagnostic d f
    rw [hrange]
    show (d.positionAt a).lex ≤ (d.positionAt b).lex
    rw [d.positionAt_eq, d.positionAt_eq]
    exact lex_position_le d.text hab hb
  case sql => rw [value_reportDiagnostics, if_pos hsql]
  case published =>
    rw [value_reportDiagnostics] at hp
    split at hp
    · obtain ⟨f, hf, rfl⟩ := List.mem_map.mp hp
      obtain ⟨horder, hstart, hstop⟩ := delimits_of_mem_analyze hf
      exact ⟨horder, hstart, hstop, (bounds_of_mem_analyze hf).2.2⟩
    · cases hp

/-- A match over two lines, right behind one line break and with another one inside. -/
theorem range_delimits_match_over_lines :
    let d := Document.create "u" "sql" 1 (some "a\r\nSELECT\r\n*")
    let p := toDiagnostic d (Rule.selectStar.finding ⟨3, 12⟩)
    p ∈ (reportDiagnostics {} d (.new "sql")).2.1 ∧ p.range = ⟨⟨1, 0⟩, ⟨2, 1⟩⟩ ∧
      p.range.start.lex < p.range.stop.lex ∧
      (LineIndex.ofText d.text).offset? p.range.start = some 3 ∧
      (LineIndex.ofText d.text).offset? p.range.stop = some 12 := by
  intro d p
  have hpublished : p ∈ (reportDiagnostics {} d (.new "sql")).2.1 := by decide +kernel
  have hrange : p.range = ⟨⟨1, 0⟩, ⟨2, 1⟩⟩ := by decide +kernel
  obtain ⟨-, -, hdelimits⟩ := range_delimits_finding {} d (.new "sql")
  obtain ⟨horder, hstart, hstop, -⟩ := hdelimits p hpublished
  exact ⟨hpublished, hrange, horder, hstart, hstop⟩

end QueryLint
