import QueryLint.Document
import QueryLint.Proofs.Schema.Checks
import QueryLint.Service.Response

/-!
# Objects survive the wire

The objects of the wire (`Model`) are read by checks that coerce, fill in defaults and pass over
what they do not know, and written in one plain form, under the names that clients use or under the
inner ones.  What is written is read back as the same value (`check_json` for each object): it needs
no coercion and no default, and each field stands under one name only, so that it does not matter
which of two names wins.

A value that a check has accepted is therefore settled: it is written in a form that the check
accepts as the same value (`accepted_values_survive_writing`).  Where a check asks for more than the
type of its value says, for a URI that is not empty, this holds since the value was accepted.
-/

namespace QueryLint

open Schema

/-! ### Findings and diagnostics -/

/-- A finding is read from among its own fields and others, as long as the name of its offset on the
wire stands for nothing else. -/
lemma Finding.ofFields_fields {rest : Fields}
    (hrest : Json.fieldOf rest startOffsetName.wire = none) (naming : Naming) (f : Finding) :
    ofFields (f.fields naming ++ rest) = .ok f := by
  have hfound : lookup (f.fields naming ++ rest) startOffsetName
      = some (startOffsetName.under naming, .nat f.startOffset) := by
    cases naming with
    | wire => rfl
    | plain =>
      -- the name on the wire is looked for first, in everything that stands there
      have hnone : Json.fieldOf (f.fields .plain ++ rest) startOffsetName.wire = none := hrest
      simp only [lookup, hnone]
      rfl
  have hstart := required_of_lookup hfound (natural_nat f.startOffset)
  simp only [ofFields, hstart]
  cases naming <;> rfl

theorem Finding.check_json (naming : Naming) (f : Finding) :
    Finding.check (f.json naming) = .ok f := by
  have hfields := ofFields_fields (rfl : Json.fieldOf [] startOffsetName.wire = none) naming f
  rwa [List.append_nil] at hfields

theorem Position.check_json (p : Position) : Position.check p.json = .ok p := rfl

theorem Range.check_json (r : Range) : Range.check r.json = .ok r := by
  simp only [check, json, object_obj, Check.bind_ok]
  refine Check.map_eq_ok.mpr ⟨(r.start, r.stop), Check.both_eq_ok.mpr ⟨?start, ?stop⟩, rfl⟩
  case start => exact required_of_lookup rfl (Position.check_json r.start)
  case stop => exact required_of_lookup rfl (Position.check_json r.stop)

/-- A diagnostic is put together from the fields of a finding, under either naming, and a range. -/
theorem Diagnostic.check_fields (naming : Naming) (f : Finding) (r : Range) :
    Diagnostic.check (.obj (f.fields naming ++ ([("range", r.json)] : Fields))) = .ok ⟨f, r⟩ := by
  simp only [check, object_obj, Check.bind_ok]
  refine Check.map_eq_ok.mpr ⟨(f, r), Check.both_eq_ok.mpr ⟨?finding, ?range⟩, rfl⟩
  case finding => exact Finding.ofFields_fields rfl naming f
  case range => cases naming <;> exact required_of_lookup rfl (Range.check_json r)

theorem Diagnostic.check_json (naming : Naming) (d : Diagnostic) :
    Diagnostic.check (d.json naming) = .ok d :=
  check_fields naming d.toFinding d.range

/-! ### Requests -/

theorem TextRequest.check_json (r : TextRequest) : TextRequest.check r.json = .ok r := rfl

theorem OpenRequest.check_json (naming : Naming) {r : OpenRequest} (h : r.uri ≠ "") :
    OpenRequest.check (r.json naming) = .ok r := by
  simp only [check, json, object_obj, Check.bind_ok]
  refine Check.map_eq_ok.mpr ⟨(r.uri, r.languageId, r.text, r.activate), ?_, rfl⟩
  refine Check.both_eq_ok.mpr ⟨?uri, ?others⟩
  case uri => exact required_of_lookup rfl (nonEmptyText_str h)
  case others => cases naming <;> rfl

theorem OpenRequest.uri_ne_empty {j : Json} {r : OpenRequest} (h : OpenRequest.check j = .ok r) :
    r.uri ≠ "" := by
  obtain ⟨fields, -, h⟩ := Check.bind_eq_ok.mp h
  obtain ⟨⟨uri, languageId, text, activate⟩, hfields, rfl⟩ := Check.map_eq_ok.mp h
  exact ne_empty_of_required (Check.both_eq_ok.mp hfields).1

theorem ChangeRequest.check_json {r : ChangeRequest} (h : r.uri ≠ "") :
    ChangeRequest.check r.json = .ok r := by
  simp only [check, json, object_obj, Check.bind_ok]
  refine Check.map_eq_ok.mpr ⟨(r.uri, r.text), Check.both_eq_ok.mpr ⟨?uri, ?text⟩, rfl⟩
  case uri => exact required_of_lookup rfl (nonEmptyText_str h)
  case text => rfl

theorem ChangeRequest.uri_ne_empty {j : Json} {r : ChangeRequest}
    (h : ChangeRequest.check j = .ok r) : r.uri ≠ "" := by
  obtain ⟨fields, -, h⟩ := Check.bind_eq_ok.mp h
  obtain ⟨⟨uri, text⟩, hfields, rfl⟩ := Check.map_eq_ok.mp h
  exact ne_empty_of_required (Check.both_eq_ok.mp hfields).1

theorem DocumentRef.check_json {r : DocumentRef} (h : r.uri ≠ "") :
    DocumentRef.check r.json = .ok r := by
  simp only [check, json, object_obj, Check.bind_ok]
  exact Check.map_eq_ok.mpr ⟨r.uri, required_of_lookup rfl (nonEmptyText_str h), rfl⟩

theorem DocumentRef.uri_ne_empty {j : Json} {r : DocumentRef} (h : DocumentRef.check j = .ok r) :
    r.uri ≠ "" := by
  obtain ⟨fields, -, h⟩ := Check.bind_eq_ok.mp h
  obtain ⟨uri, hfields, rfl⟩ := Check.map_eq_ok.mp h
  exact ne_empty_of_required hfields

/-! ### Answers -/

theorem RuleInfo.check_json (r : RuleInfo) : RuleInfo.check r.json = .ok r := rfl

theorem AnalysisReport.check_json (naming : Naming) (r : AnalysisReport) :
    AnalysisReport.check (r.json naming) = .ok r := by
  simp only [check, json, object_obj, Check.bind_ok]
  refine Check.map_eq_ok.mpr ⟨(r.findings, r.total), ?_, rfl⟩
  refine Check.both_eq_ok.mpr ⟨?findings, ?total⟩
  case findings => exact optional_of_lookup rfl (list_map (Finding.check_json naming) r.findings)
  case total => rfl

theorem Notification.check_json (n : Notification) : Notification.check n.json = .ok n := by
  have hlevel : oneOf levels (.str n.level.label) = .ok n.level := by
    cases n.level <;> rfl
  simp only [check, json, object_obj, Check.bind_ok]
  refine Check.map_eq_ok.mpr ⟨(n.level, n.message, n.issues), ?_, rfl⟩
  refine Check.both_eq_ok.mpr ⟨?level, Check.both_eq_ok.mpr ⟨?message, ?issues⟩⟩
  case level => exact required_of_lookup rfl hlevel
  case message => rfl
  case issues => exact optional_of_lookup rfl (list_map text_str n.issues)

theorem DocumentReport.check_json (naming : Naming) (r : DocumentReport) :
    DocumentReport.check (r.json naming) = .ok r := by
  have hdiagnostics := list_map (Diagnostic.check_json naming) r.diagnostics
  simp only [check, json, object_obj, Check.bind_ok]
  refine Check.map_eq_ok.mpr ⟨(r.uri, r.languageId, r.version, r.diagnostics), ?_, rfl⟩
  refine Check.both_eq_ok.mpr ⟨rfl, Check.both_eq_ok.mpr ⟨?languageId,
    Check.both_eq_ok.mpr ⟨?version, ?diagnostics⟩⟩⟩
  case languageId => cases naming <;> rfl
  case version => cases naming <;> rfl
  case diagnostics => cases naming <;> exact optional_of_lookup rfl hdiagnostics

theorem ClosedReport.check_json (r : ClosedReport) : ClosedReport.check r.json = .ok r := rfl

/-! ### All objects of the wire -/

/-- The kinds of objects that go over the wire. -/
inductive WireKind where
  | finding
  | position
  | range
  | diagnostic
  | ruleInfo
  | textRequest
  | analysisReport
  | notification
  | openRequest
  | changeRequest
  | documentRef
  | documentReport
  | closedReport
deriving DecidableEq, Repr

namespace WireKind

/-- What the objects of a kind stand for. -/
def Value : WireKind → Type
  | finding => Finding
  | position => Position
  | range => Range
  | diagnostic => Diagnostic
  | ruleInfo => RuleInfo
  | textRequest => TextRequest
  | analysisReport => AnalysisReport
  | notification => Notification
  | openRequest => OpenRequest
  | changeRequest => ChangeRequest
  | documentRef => DocumentRef
  | documentReport => DocumentReport
  | closedReport => ClosedReport

/-- Reads an object of a kind. -/
def check : (kind : WireKind) → Json → Check kind.Value
  | finding => Finding.check
  | position => Position.check
  | range => Range.check
  | diagnostic => Diagnostic.check
  | ruleInfo => RuleInfo.check
  | textRequest => TextRequest.check
  | analysisReport => AnalysisReport.check
  | notification => Notification.check
  | openRequest => OpenRequest.check
  | changeRequest => ChangeRequest.check
  | documentRef => DocumentRef.check
  | documentReport => DocumentReport.check
  | closedReport => ClosedReport.check

/-- Writes an object of a kind; some kinds have no field with two names. -/
def json (naming : Naming) : (kind : WireKind) → kind.Value → Json
  | finding => Finding.json naming
  | position => Position.json
  | range => Range.json
  | diagnostic => Diagnostic.json naming
  | ruleInfo => RuleInfo.json
  | textRequest => TextRequest.json
  | analysisReport => AnalysisReport.json naming
  | notification => Notification.json
  | openRequest => OpenRequest.json naming
  | changeRequest => ChangeRequest.json
  | documentRef => DocumentRef.json
  | documentReport => DocumentReport.json naming
  | closedReport => ClosedReport.json

/-- What was accepted once is accepted again as it is written, and stands for the same. -/
theorem check_json_of_check {kind : WireKind} {j : Json} {v : kind.Value}
    (h : kind.check j = .ok v) (naming : Naming) : kind.check (kind.json naming v) = .ok v := by
  cases kind with
  | finding => exact Finding.check_json naming v
  | position => exact Position.check_json v
  | range => exact Range.check_json v
  | diagnostic => exact Diagnostic.check_json naming v
  | ruleInfo => exact RuleInfo.check_json v
  | textRequest => exact TextRequest.check_json v
  | analysisReport => exact AnalysisReport.check_json naming v
  | notification => exact Notification.check_json v
  -- a URI must not be empty, and nothing but the first check says that this one is not
  | openRequest => exact OpenRequest.check_json naming (OpenRequest.uri_ne_empty h)
  | changeRequest => exact ChangeRequest.check_json (ChangeRequest.uri_ne_empty h)
  | documentRef => exact DocumentRef.check_json (DocumentRef.uri_ne_empty h)
  | documentReport => exact DocumentReport.check_json naming v
  | closedReport => exact ClosedReport.check_json v

end WireKind

/-- The body of an answer is read back as what the answer shows; nothing is asked of answers that
show no object of the wire. -/
def Response.ReadsBack (r : Response) : Prop :=
  match r with
  | rules rs => list RuleInfo.check r.body = .ok rs
  | findings report => AnalysisReport.check r.body = .ok report
  | notification n => Notification.check r.body = .ok n
  | document report => DocumentReport.check r.body = .ok report
  | closed report => ClosedReport.check r.body = .ok report
  | _ => True

theorem Response.readsBack (r : Response) : r.ReadsBack := by
  cases r with
  | rules rs => exact list_map RuleInfo.check_json rs
  | findings report => exact AnalysisReport.check_json .wire report
  | notification n => exact Notification.check_json n
  | document report => exact DocumentReport.check_json .wire report
  | closed report => exact ClosedReport.check_json report
  | _ => trivial

/-- **Accepted values survive writing.**  Whatever object a check accepts, with values of other
types, fields under either name, left out or unknown: the value it stands for is written, under the
names of the wire as well as under the inner ones, as an object that is accepted as the same value.
So a diagnostic made of the written fields of a finding and a range is that finding with that range,
and the bodies of all answers are read back as what was answered. -/
theorem accepted_values_survive_writing :
    (∀ (kind : WireKind) (j : Json) (v : kind.Value), kind.check j = .ok v →
      ∀ naming, kind.check (kind.json naming v) = .ok v) ∧
    (∀ (d : Document) (f : Finding),
      let range : Fields := [("range", (toDiagnostic d f).range.json)]
      Diagnostic.check (.obj (f.fields .plain ++ range)) = .ok (toDiagnostic d f)) ∧
    ∀ r : Response, r.ReadsBack := by
  refine ⟨?_, ?_, ?_⟩
  · intro kind j v h naming
    exact WireKind.check_json_of_check h naming
  · intro d f
    exact Diagnostic.check_fields .plain f (toDiagnostic d f).range
  · exact Response.readsBack

/-- A diagnostic whose offset is given under both names, as texts, whose length is a truth value,
and which has a field too many and none for its severity. -/
theorem coerced_diagnostic_survives_writing :
    let place (line character : Json) : Json := .obj [("line", line), ("character", character)]
    let j : Json := .obj [("code", .str "SQ013"), ("rule", .str "DISTINCT"), ("note", .null),
      ("message", .str "m"), ("start_offset", .str "8"), ("startOffset", .str " +07.0 "),
      ("length", .bool true), ("range", .obj [("start", place (.int 0) (.str "-0")),
        ("end", place (.bool false) (.int 1))])]
    let v : Diagnostic := ⟨⟨"SQ013", "DISTINCT", "m", 7, 1⟩, ⟨⟨0, 0⟩, ⟨0, 1⟩⟩⟩
    Diagnostic.check j = .ok v ∧ Diagnostic.check (v.json .wire) = .ok v ∧
      Diagnostic.check (v.json .plain) = .ok v := by
  intro place j v
  have h : WireKind.diagnostic.check j = .ok v := rfl
  have hwritten := accepted_values_survive_writing.1 .diagnostic j v h
  exact ⟨h, hwritten .wire, hwritten .plain⟩

end QueryLint
