import StockResearch.Core.Checked
import StockResearch.Providers.Records

/-!
# The SEC EDGAR adapter

`SecEdgarAdapter.parse_response`: bytes that were already acquired become a batch of records, from
the submissions of a company, from its XBRL company facts, or from one filing document.

The facts of a company stand in four nested loops, over taxonomies, concepts, units and the facts
of a unit.  `factRows` is that nest without its error paths, as one list; `companyFacts_ok` says
that a parse that returns has one record for each row, in the same order.  `filings_ok` is the same
for submissions.
-/

namespace StockResearch.Providers

open PyJson PyTime Checked

/-! ## The context of a parse -/

inductive SecEndpointType where
  | submissionsJson | companyFactsJson | filingDocument
deriving DecidableEq, Repr

inductive SecArtifactKind where
  | submissionsMetadata | companyFacts | filingIndex | primaryFilingDocument
  | completeSubmissionText | xbrlInstance | exhibit
deriving DecidableEq, Repr

def SecArtifactKind.value : SecArtifactKind → String
  | .submissionsMetadata => "SUBMISSIONS_METADATA"
  | .companyFacts => "COMPANY_FACTS"
  | .filingIndex => "FILING_INDEX"
  | .primaryFilingDocument => "PRIMARY_FILING_DOCUMENT"
  | .completeSubmissionText => "COMPLETE_SUBMISSION_TEXT"
  | .xbrlInstance => "XBRL_INSTANCE"
  | .exhibit => "EXHIBIT"

def SecEndpointType.kinds : SecEndpointType → List SecArtifactKind
  | .submissionsJson => [.submissionsMetadata]
  | .companyFactsJson => [.companyFacts]
  | .filingDocument =>
      [.filingIndex, .primaryFilingDocument, .completeSubmissionText, .xbrlInstance, .exhibit]

/-- `SecParseContext`, with its validator `validate_endpoint_kind` as a field. -/
structure SecParseContext where
  providerDefinitionId : Uuid
  providerCapabilityId : Uuid
  rawArtifactId : Uuid
  sourceChecksum : String
  manifestChecksum : String
  sourceIdentity : String
  sourceEndpointType : SecEndpointType
  artifactKind : SecArtifactKind
  contentType : String
  researchAsOfTime : Instant
  sourcePublishedAt : Option Instant
  expectedAccessionNumber : Option String
  expectedDocumentPath : Option String
  syntheticStatus : ProviderSyntheticStatus
  validKind : artifactKind ∈ sourceEndpointType.kinds
  validDocument : if sourceEndpointType = .filingDocument then
      expectedAccessionNumber.isSome ∧ expectedDocumentPath.isSome
    else expectedAccessionNumber = none ∧ expectedDocumentPath = none

/-- The part of the adapter that parsing reads: the normalized CIK and the approved forms. -/
structure SecEdgarAdapter where
  cik : String
  approvedForms : List String

/-! ## Reading JSON -/

def malformed : Raised := .value "SEC_RESPONSE_MALFORMED"

/-- `except _SecBoundaryError: raise`, and every other error is a malformed response. -/
def orMalformed {α : Type} : Except Raised α → Except Raised α
  | .error (.boundary code) => .error (.boundary code)
  | .error _ => .error malformed
  | .ok a => .ok a

lemma orMalformed_ok {α : Type} {x : Except Raised α} {a : α} :
    orMalformed x = .ok a ↔ x = .ok a := by
  rcases x with (_ | _ | _) | a <;> simp [orMalformed]

/-- A JSON object. -/
abbrev Members := List (String × Value)

/-- `fields[name]` -/
def item (fields : Members) (name : String) : Except Raised Value :=
  match fields.lookup name with
  | some v => .ok v
  | none => .error (.value "KeyError")

/-- The text under a name, if a text stands there. -/
def memberText (fields : Members) (name : String) : Option String :=
  match fields.lookup name with
  | some (.str s) => some s
  | _ => none

def objectMapping : Value → Except Raised Members
  | .obj fields => .ok fields
  | _ => .error malformed

def objectList : Value → Except Raised (List Members)
  | .arr items => items.mapM objectMapping
  | _ => .error malformed

/-- `for key in sorted(fields)` -/
def inKeyOrder (fields : Members) : Members := fields.insertionSort fun a b => a.1 ≤ b.1

/-- The constants of JSON that are floats even with `parse_float=Decimal`. -/
def isConstant (literal : List Char) : Bool :=
  literal = "NaN".toList || literal = "Infinity".toList || literal = "-Infinity".toList

/-- `str(value)` -/
def strOf (library : Library) : Value → String
  | .null => "None"
  | .bool true => "True"
  | .bool false => "False"
  | .int n => String.ofList (dumpsInt n)
  | .real literal =>
      if literal = "NaN".toList then "nan"
      else if literal = "Infinity".toList then "inf"
      else if literal = "-Infinity".toList then "-inf"
      else (library.decimal (String.ofList literal)).getD (String.ofList literal)
  | .str s => s
  | v => library.containerText v

/-- A value of a `dict[str, str | None]`. -/
def textOrNone : Value → Except Raised (Option String)
  | .str s => .ok (some s)
  | .null => .ok none
  | _ => .error (.validation "string_type")

/-- A value that a strict model takes as a `str`. -/
def strictText : Value → Except Raised String
  | .str s => .ok s
  | _ => .error (.validation "string_type")

def decimalString (library : Library) (v : Value) : Except Raised String :=
  match v with
  | .int n => .ok (String.ofList (dumpsInt n))
  | .str s => if (library.decimal s).isSome then .ok s else .error (.value "SEC_NUMERIC_VALUE_INVALID")
  | .real literal =>
      if isConstant literal then .error (.value "SEC_NUMERIC_VALUE_INVALID")
      else match library.decimal (String.ofList literal) with
        | some s => .ok s
        | none => .error (.value "SEC_NUMERIC_VALUE_INVALID")
  | _ => .error (.value "SEC_NUMERIC_VALUE_INVALID")

/-- `date.fromisoformat(value)` -/
def isoDate : Value → Except Raised Date
  | .str s =>
      match Date.fromIsoformat s with
      | some d => .ok d
      | none => .error (.value "Invalid isoformat string")
  | _ => .error (.value "TypeError")

/-- `value.replace("Z", "+00:00")` -/
def zoneText (s : String) : String :=
  String.ofList (s.toList.flatMap fun c => if c = 'Z' then "+00:00".toList else [c])

def parseUtcDatetime : Value → Except Raised Instant
  | .str s =>
      match Instant.fromIsoformat (zoneText s) with
      | some t => .ok t
      | none => .error malformed
  | _ => .error malformed

/-- A decimal literal with no digit but zeros before its exponent. -/
def isZeroLiteral (literal : List Char) : Bool :=
  (literal.takeWhile fun c => c != 'e' && c != 'E').all fun c => !c.isDigit || c == '0'

/-- `bool(value)` -/
def isTruthy : Value → Bool
  | .null => false
  | .bool b => b
  | .int n => n != 0
  | .real literal => isConstant literal || !isZeroLiteral literal
  | .str s => s != ""
  | .arr items => !items.isEmpty
  | .obj fields => !fields.isEmpty

def normalizeCik (library : Library) (s : String) : Except Raised String :=
  if 1 ≤ s.length ∧ s.length ≤ 10 ∧ s.toList.all library.isDecimal then
    .ok (String.ofList (s.toList.leftpad 10 '0'))
  else .error (.value "SEC_CIK_INVALID")

def loadJsonObject (library : Library) (body : List UInt8) : Except Raised Members :=
  match (library.decode body).bind loads with
  | some (.obj fields) => .ok fields
  | _ => .error malformed

/-! ## Filings -/

/-- `^\d{10}-\d{2}-\d{6}$` -/
def isAccessionNumber (library : Library) (s : String) : Bool :=
  match s.toList.splitOn '-' with
  | [a, b, c] => a.length == 10 && b.length == 2 && c.length == 6 &&
      (a ++ b ++ c).all library.isDecimal
  | _ => false

/-- `^[A-Z0-9][A-Z0-9-]{0,14}(?:/A)?$` -/
def isSecForm (s : String) : Bool :=
  let cs := s.toList
  let stem := if cs.drop (cs.length - 2) = ['/', 'A'] then cs.take (cs.length - 2) else cs
  match stem with
  | [] => false
  | c :: rest => (c.isUpper || c.isDigit) && rest.length ≤ 14 &&
      rest.all fun c => c.isUpper || c.isDigit || c == '-'

/-- `^[A-Za-z0-9][A-Za-z0-9._-]*$`, of at most 255 characters. -/
def isSecFilename (s : String) : Bool :=
  match s.toList with
  | [] => false
  | c :: rest => c.isAlphanum && rest.length ≤ 254 &&
      rest.all fun c => c.isAlphanum || c == '.' || c == '_' || c == '-'

structure SecFilingMetadata where
  accessionNumber : String
  form : String
  filedDate : Date
  reportDate : Option Date
  acceptedAt : Instant
  primaryDocument : String

/-- `date.fromisoformat(raw["reportDate"]) if raw.get("reportDate") else None` -/
def readReportDate (raw : Members) : Except Raised (Option Date) :=
  match raw.lookup "reportDate" with
  | some v => if isTruthy v then (isoDate v).map some else .ok none
  | none => .ok none

/-- The fields of a filing in a submissions response. -/
def readFiling (library : Library) (raw : Members) : Except Raised SecFilingMetadata := do
  let acceptedAt ← parseUtcDatetime (← item raw "acceptanceDateTime")
  let accessionNumber ← strictText (← item raw "accessionNumber")
  let form ← strictText (← item raw "form")
  let filedDate ← isoDate (← item raw "filingDate")
  let reportDate ← readReportDate raw
  let primaryDocument ← strictText (← item raw "primaryDocument")
  check (¬ (isAccessionNumber library accessionNumber ∧ isSecForm form ∧
    isSecFilename primaryDocument)) (.validation "string_pattern_mismatch")
  pure { accessionNumber, form, filedDate, reportDate, acceptedAt, primaryDocument }

/-- `_record` -/
def secRecord (library : Library) (context : SecParseContext) (recordKey : String)
    (sourcePublishedAt : Option Instant) (numericValues textValues : List (String × Option String)) :
    Except Raised ProviderRecord := do
  let identity ← ProviderRecordIdentity.create context.providerDefinitionId
    context.providerCapabilityId context.sourceIdentity recordKey
  let warningCodes := if sourcePublishedAt = none then ["UNKNOWN_PUBLISHED_AT"] else []
  ProviderRecord.validate library
    { identity, rawArtifactId := context.rawArtifactId, sourceChecksum := context.sourceChecksum
      sourcePublishedAt
      status := if warningCodes = [] then .complete else .partly
      numericValues, textValues, warningCodes, syntheticStatus := context.syntheticStatus }

def rejectFuture (publishedAt : Instant) (context : SecParseContext) : Except Raised Unit :=
  check (context.researchAsOfTime < publishedAt) (.boundary "SEC_FUTURE_DATA")

namespace SecEdgarAdapter

variable (library : Library) (adapter : SecEdgarAdapter) (context : SecParseContext)

/-- One round of the loop of `_parse_submissions`. -/
def filingRecord (raw : Members) : Except Raised ProviderRecord := do
  let filing ← readFiling library raw
  check (filing.form ∉ adapter.approvedForms) (.boundary "SEC_FORM_NOT_APPROVED")
  rejectFuture filing.acceptedAt context
  secRecord library context ("FILING:" ++ filing.accessionNumber) (some filing.acceptedAt) []
    [ ("accession_number", some filing.accessionNumber),
      ("accepted_at", some filing.acceptedAt.isoformat),
      ("evidence_role", some "METADATA_ONLY"),
      ("filed_date", some filing.filedDate.isoformat),
      ("form", some filing.form),
      ("primary_document", some filing.primaryDocument),
      ("report_date", filing.reportDate.map Date.isoformat) ]

/-- The CIK of a response is the adapter's. -/
def checkCik (payload : Members) : Except Raised Unit := do
  let cik ← normalizeCik library (strOf library (← item payload "cik"))
  check (cik ≠ adapter.cik) (.boundary "SEC_CIK_MISMATCH")

/-- `if not records: raise` -/
def nonEmpty (records : List ProviderRecord) : Except Raised (List ProviderRecord) :=
  if records = [] then .error malformed else .ok records

def parseSubmissions (body : List UInt8) : Except Raised (List ProviderRecord) := do
  let payload ← loadJsonObject library body
  let records ← orMalformed do
    adapter.checkCik library payload
    let filings ← objectList (← item payload "filings")
    filings.mapM (adapter.filingRecord library context)
  nonEmpty records

end SecEdgarAdapter

/-! ## Company facts -/

/-- One fact of a company facts response, and where it stands. -/
structure FactRow where
  taxonomy : String
  concept : String
  unit : String
  index : Nat
  fact : Members

namespace FactRow

/-- A text of the fact. -/
def text (row : FactRow) (name : String) : Option String := memberText row.fact name

/-- `f"{value}"` of a text or `None`. -/
def formatted (s : Option String) : String := s.getD "None"

/-- The part of the record key before the index. -/
def stem (row : FactRow) : String :=
  "FACT:" ++ row.taxonomy ++ ":" ++ row.concept ++ ":" ++ row.unit ++ ":" ++
    formatted (row.text "accn") ++ ":" ++ formatted (row.text "end")

/-- `FACT:taxonomy:concept:unit:accession:end:index` -/
def key (row : FactRow) : String := row.stem ++ ":" ++ String.ofList (padded 4 row.index)

end FactRow

namespace SecEdgarAdapter

variable (library : Library) (adapter : SecEdgarAdapter) (context : SecParseContext)

/-- What the record of a fact takes from the fact. -/
structure SecFact where
  accession : Option String
  value : String
  filed : Option String
  fiscalPeriod : Option String
  fiscalYear : String
  form : Option String
  periodEnd : Option String
  periodStart : Option String

/-- `fact[name]`, which the record takes as a `str | None`. -/
def textItem (row : FactRow) (name : String) : Except Raised (Option String) := do
  textOrNone (← item row.fact name)

def readFact (row : FactRow) : Except Raised SecFact := do
  let _ ← item row.fact "accn"
  -- A context of this endpoint expects no accession number, so nothing is refused here.
  check (context.expectedAccessionNumber.any fun e => row.text "accn" ≠ some e)
    (.boundary "SEC_ACCESSION_MISMATCH")
  let value ← decimalString library (← item row.fact "val")
  let periodEnd ← textItem row "end"
  let accession ← textItem row "accn"
  let filed ← textItem row "filed"
  let fiscalPeriod ← textItem row "fp"
  let fiscalYear ← item row.fact "fy"
  let form ← textItem row "form"
  let periodStart ← textOrNone ((row.fact.lookup "start").getD .null)
  return { accession, value, filed, fiscalPeriod, fiscalYear := strOf library fiscalYear, form
           periodEnd, periodStart }

/-- One round of the innermost loop of `_parse_company_facts`. -/
def factRecord (row : FactRow) : Except Raised ProviderRecord := do
  let fact ← readFact library context row
  secRecord library context row.key context.sourcePublishedAt [("value", some fact.value)]
    [ ("accession_number", fact.accession),
      ("concept", some row.concept),
      ("evidence_role", some "STRUCTURED_FACT"),
      ("filed_date", fact.filed),
      ("fiscal_period", fact.fiscalPeriod),
      ("fiscal_year", some fact.fiscalYear),
      ("form", fact.form),
      ("period_end", fact.periodEnd),
      ("period_start", fact.periodStart),
      ("taxonomy", some row.taxonomy),
      ("unit", some row.unit) ]

/-- The facts of one unit. -/
def unitRecords (taxonomy concept : String) (unit : String × Value) :
    Except Raised (List ProviderRecord) := do
  let facts ← objectList unit.2
  (facts.mapIdx fun index fact => FactRow.mk taxonomy concept unit.1 index fact).mapM
    (factRecord library context)

/-- The facts of one concept. -/
def conceptRecords (taxonomy : String) (concept : String × Value) :
    Except Raised (List ProviderRecord) := do
  let conceptPayload ← objectMapping concept.2
  let units ← objectMapping (← item conceptPayload "units")
  collect (unitRecords library context taxonomy concept.1) (inKeyOrder units)

/-- The facts of one taxonomy. -/
def taxonomyRecords (taxonomy : String × Value) : Except Raised (List ProviderRecord) := do
  let concepts ← objectMapping taxonomy.2
  collect (conceptRecords library context taxonomy.1) (inKeyOrder concepts)

def parseCompanyFacts (body : List UInt8) : Except Raised (List ProviderRecord) := do
  let payload ← loadJsonObject library body
  let records ← orMalformed do
    adapter.checkCik library payload
    let taxonomies ← objectMapping (← item payload "facts")
    collect (taxonomyRecords library context) (inKeyOrder taxonomies)
  nonEmpty records

/-! ## Documents -/

/-- `body.lstrip().lower()` -/
def lowered (body : List UInt8) : List UInt8 :=
  (body.dropWhile fun b => b == 32 || (9 ≤ b && b ≤ 13)).map fun b =>
    if 65 ≤ b ∧ b ≤ 90 then b + 32 else b

/-- The bytes of an ASCII text. -/
def ascii (s : String) : List UInt8 := s.toList.map fun c => c.toNat.toUInt8

def validateDocumentBody (body : List UInt8) (contentType : String) : Except Raised Unit :=
  let lowered := lowered (body.take 4096)
  if contentType ∈ ["text/html", "application/xhtml+xml"] then
    check (¬ ascii "<html" <:+: lowered ∧ ¬ ascii "<!doctype html" <:+: lowered) malformed
  else if contentType = "application/pdf" then check (¬ ascii "%PDF-" <+: body) malformed
  else if contentType = "application/json" then (loadJsonObject library body).map fun _ => ()
  else if contentType ∈ ["application/xml", "text/xml"] then
    check (¬ ascii "<" <+: lowered) malformed
  else if contentType = "text/plain" then check (¬ library.isUtf8 body) malformed
  else .error (.value "SEC_CONTENT_TYPE_INVALID")

def parseDocument (body : List UInt8) : Except Raised ProviderRecord := do
  let accession := context.expectedAccessionNumber.getD ""
  let documentPath := context.expectedDocumentPath.getD ""
  check (context.sourceIdentity ≠
      "SEC_FILING_DOCUMENT:" ++ adapter.cik ++ ":" ++ accession ++ ":" ++ documentPath)
    (.value "SEC_ACCESSION_IDENTITY_MISMATCH")
  validateDocumentBody library body context.contentType
  secRecord library context ("DOCUMENT:" ++ accession ++ ":" ++ documentPath)
    context.sourcePublishedAt []
    [ ("accession_number", some accession),
      ("artifact_kind", some context.artifactKind.value),
      ("content_type", some context.contentType),
      ("document_path", some documentPath),
      ("evidence_role", some (if context.artifactKind ∈ [.filingIndex, .xbrlInstance]
        then "METADATA_ONLY" else "COMPANY_BODY")) ]

/-- The records of a response, by endpoint. -/
def parseRecords (body : List UInt8) : Except Raised (List ProviderRecord) :=
  match context.sourceEndpointType with
  | .submissionsJson => adapter.parseSubmissions library context body
  | .companyFactsJson => adapter.parseCompanyFacts library context body
  | .filingDocument => (adapter.parseDocument library context body).map fun r => [r]

def parseResponse (body : List UInt8) : Except Raised ProviderBatch := do
  check (body = [] ∨ 52428800 < body.length) (.value "SEC_RESPONSE_SIZE_INVALID")
  check (library.sha256 body ≠ context.sourceChecksum) (.value "SEC_RESPONSE_CHECKSUM_MISMATCH")
  check (context.sourcePublishedAt.any fun t => context.researchAsOfTime < t)
    (.value "SEC_FUTURE_DATA")
  let records ← adapter.parseRecords library context body
  ProviderBatch.create library context.manifestChecksum (sortRecords records)

end SecEdgarAdapter

/-! ## The rows of a response -/

/-- The members of an object, and nothing of any other value. -/
def members : Value → Members
  | .obj fields => fields
  | _ => []

/-- The elements of an array, and nothing of any other value. -/
def elements : Value → List Value
  | .arr items => items
  | _ => []

/-- The member of a name, or `null`. -/
def member (fields : Members) (name : String) : Value := (fields.lookup name).getD .null

/-- The object that a body decodes to. -/
def payload (library : Library) (body : List UInt8) : Members :=
  (((library.decode body).bind loads).map members).getD []

/-- The filings of a submissions response. -/
def filingRows (payload : Members) : List Members := (elements (member payload "filings")).map members

/-- The facts of one unit. -/
def unitRows (taxonomy concept : String) (unit : String × Value) : List FactRow :=
  ((elements unit.2).map members).mapIdx fun index fact => ⟨taxonomy, concept, unit.1, index, fact⟩

/-- The facts of one concept. -/
def conceptRows (taxonomy : String) (concept : String × Value) : List FactRow :=
  (inKeyOrder (members (member (members concept.2) "units"))).flatMap (unitRows taxonomy concept.1)

/-- The facts of one taxonomy. -/
def taxonomyRows (taxonomy : String × Value) : List FactRow :=
  (inKeyOrder (members taxonomy.2)).flatMap (conceptRows taxonomy.1)

/-- The facts of a company facts response, in the order of the loops. -/
def factRows (payload : Members) : List FactRow :=
  (inKeyOrder (members (member payload "facts"))).flatMap taxonomyRows

lemma item_ok {fields : Members} {name : String} {v : Value} (h : item fields name = .ok v) :
    fields.lookup name = some v := by
  unfold item at h
  split at h
  · cases h
    assumption
  · cases h

lemma member_of_item_ok {fields : Members} {name : String} {v : Value}
    (h : item fields name = .ok v) : member fields name = v := by
  rw [member, item_ok h, Option.getD_some]

lemma objectMapping_ok {v : Value} {fields : Members} (h : objectMapping v = .ok fields) :
    members v = fields := by
  cases v <;> cases h
  rfl

lemma objectList_ok {v : Value} {items : List Members} (h : objectList v = .ok items) :
    (elements v).map members = items := by
  cases v with
  | arr vs =>
      have hitems : List.Forall₂ (fun v fields => members v = fields) vs items :=
        forall₂_mapM (fun _ _ => objectMapping_ok) h
      exact (map_eq_of_forall₂ (q := id) hitems fun _ _ => id).trans (List.map_id items)
  | _ => cases h

lemma loadJsonObject_ok {library : Library} {body : List UInt8} {fields : Members}
    (h : loadJsonObject library body = .ok fields) : payload library body = fields := by
  unfold loadJsonObject at h
  split at h
  · rename_i heq
    cases h
    rw [payload, heq]
    rfl
  · cases h

namespace SecEdgarAdapter

variable {library : Library} {adapter : SecEdgarAdapter} {context : SecParseContext}

/-- What a record says about its publication, and its key. -/
lemma secRecord_ok {recordKey : String} {publishedAt : Option Instant}
    {numericValues textValues : List (String × Option String)} {r : ProviderRecord}
    (h : secRecord library context recordKey publishedAt numericValues textValues = .ok r) :
    r.key = recordKey ∧ r.sourcePublishedAt = publishedAt ∧ r.textValues = textValues := by
  obtain ⟨identity, hidentity, hrecord⟩ := bind_ok.mp h
  rw [ProviderRecord.validate_ok hrecord]
  exact ⟨ProviderRecordIdentity.create_ok hidentity, rfl, rfl⟩

lemma nonEmpty_ok {records records' : List ProviderRecord}
    (h : nonEmpty records = .ok records') : records' = records := by
  unfold nonEmpty at h
  split_ifs at h
  exact (Except.ok.inj h).symm

/-- How the record of a fact shows the fact. -/
structure Shows (context : SecParseContext) (row : FactRow) (r : ProviderRecord) : Prop where
  key : r.key = row.key
  published : r.sourcePublishedAt = context.sourcePublishedAt
  filed : r.text "filed_date" = row.text "filed"
  accepted : r.text "accepted_at" = none

lemma textItem_ok {row : FactRow} {name : String} {s : Option String}
    (h : textItem row name = .ok s) : row.text name = s := by
  obtain ⟨v, hv, h⟩ := bind_ok.mp h
  rw [FactRow.text, memberText, item_ok hv]
  cases v <;> cases h <;> rfl

lemma readFact_ok {row : FactRow} {fact : SecFact} (h : readFact library context row = .ok fact) :
    fact.filed = row.text "filed" := by
  unfold readFact at h
  simp only [bind_ok] at h
  obtain ⟨_, _, _, _, _, _, _, _, _, _, _, _, filed, hfiled, h⟩ := h
  obtain ⟨_, _, _, _, _, _, _, _, h⟩ := h
  cases h
  exact (textItem_ok hfiled).symm

lemma factRecord_ok {row : FactRow} {r : ProviderRecord}
    (h : factRecord library context row = .ok r) : Shows context row r := by
  obtain ⟨fact, hfact, h⟩ := bind_ok.mp h
  obtain ⟨hkey, hpublished, htext⟩ := secRecord_ok h
  refine ⟨hkey, hpublished, ?_, ?_⟩
  · rw [← readFact_ok hfact, ProviderRecord.text, htext]
    rfl
  · rw [ProviderRecord.text, htext]
    rfl

lemma unitRecords_ok {taxonomy concept : String} {unit : String × Value}
    {records : List ProviderRecord}
    (h : unitRecords library context taxonomy concept unit = .ok records) :
    List.Forall₂ (Shows context) (unitRows taxonomy concept unit) records := by
  obtain ⟨facts, hfacts, h⟩ := bind_ok.mp h
  rw [unitRows, objectList_ok hfacts]
  exact forall₂_mapM (fun _ _ => factRecord_ok) h

lemma conceptRecords_ok {taxonomy : String} {concept : String × Value}
    {records : List ProviderRecord}
    (h : conceptRecords library context taxonomy concept = .ok records) :
    List.Forall₂ (Shows context) (conceptRows taxonomy concept) records := by
  obtain ⟨conceptPayload, hpayload, h⟩ := bind_ok.mp h
  obtain ⟨value, hvalue, h⟩ := bind_ok.mp h
  obtain ⟨units, hunits, h⟩ := bind_ok.mp h
  rw [conceptRows, objectMapping_ok hpayload, member_of_item_ok hvalue, objectMapping_ok hunits]
  exact forall₂_collect (fun _ _ => unitRecords_ok) h

lemma taxonomyRecords_ok {taxonomy : String × Value} {records : List ProviderRecord}
    (h : taxonomyRecords library context taxonomy = .ok records) :
    List.Forall₂ (Shows context) (taxonomyRows taxonomy) records := by
  obtain ⟨concepts, hconcepts, h⟩ := bind_ok.mp h
  rw [taxonomyRows, objectMapping_ok hconcepts]
  exact forall₂_collect (fun _ _ => conceptRecords_ok) h

/-- **One record for each fact**, in the order of the loops. -/
theorem companyFacts_ok {body : List UInt8} {records : List ProviderRecord}
    (h : adapter.parseCompanyFacts library context body = .ok records) :
    List.Forall₂ (Shows context) (factRows (payload library body)) records := by
  obtain ⟨fields, hfields, h⟩ := bind_ok.mp h
  obtain ⟨records', hrecords, h⟩ := bind_ok.mp h
  rw [nonEmpty_ok h, loadJsonObject_ok hfields]
  obtain ⟨-, -, hloops⟩ := bind_ok.mp (orMalformed_ok.mp hrecords)
  obtain ⟨value, hvalue, hloops⟩ := bind_ok.mp hloops
  obtain ⟨taxonomies, htaxonomies, hloops⟩ := bind_ok.mp hloops
  rw [factRows, member_of_item_ok hvalue, objectMapping_ok htaxonomies]
  exact forall₂_collect (fun _ _ => taxonomyRecords_ok) hloops

/-- How the record of a filing shows the filing: when it was accepted and on which date it was
filed. -/
def ShowsFiling (context : SecParseContext) (raw : Members) (r : ProviderRecord) : Prop :=
  ∃ (t : Instant) (s : String) (d : Date), ¬ context.researchAsOfTime < t ∧
    r.sourcePublishedAt = some t ∧ r.text "accepted_at" = some t.isoformat ∧
    memberText raw "filingDate" = some s ∧ Date.fromIsoformat s = some d ∧
    r.text "filed_date" = some d.isoformat

lemma isoDate_ok {v : Value} {d : Date} (h : isoDate v = .ok d) :
    ∃ s, v = .str s ∧ Date.fromIsoformat s = some d := by
  cases v with
  | str s =>
      simp only [isoDate] at h
      split at h
      · cases h
        exact ⟨s, rfl, by assumption⟩
      · cases h
  | _ => cases h

lemma readFiling_ok {raw : Members} {filing : SecFilingMetadata}
    (h : readFiling library raw = .ok filing) :
    ∃ s, memberText raw "filingDate" = some s ∧
      Date.fromIsoformat s = some filing.filedDate := by
  unfold readFiling at h
  simp only [bind_ok] at h
  obtain ⟨_, _, _, _, _, _, _, _, _, _, _, _, v, hv, filedDate, hfiled, h⟩ := h
  obtain ⟨_, _, _, _, _, _, _, _, h⟩ := h
  cases h
  obtain ⟨s, rfl, hs⟩ := isoDate_ok hfiled
  exact ⟨s, by rw [memberText, item_ok hv], hs⟩

lemma filingRecord_ok {raw : Members} {r : ProviderRecord}
    (h : adapter.filingRecord library context raw = .ok r) : ShowsFiling context raw r := by
  obtain ⟨filing, hfiling, h⟩ := bind_ok.mp h
  obtain ⟨-, h⟩ := check_bind_ok.mp h
  obtain ⟨hfuture, h⟩ := check_bind_ok.mp h
  obtain ⟨-, hpublished, htext⟩ := secRecord_ok h
  obtain ⟨s, hs, hdate⟩ := readFiling_ok hfiling
  refine ⟨filing.acceptedAt, s, filing.filedDate, hfuture, hpublished, ?_, hs, hdate, ?_⟩
  · rw [ProviderRecord.text, htext]
    rfl
  · rw [ProviderRecord.text, htext]
    rfl

/-- **One record for each filing**, in the order of the response. -/
theorem filings_ok {body : List UInt8} {records : List ProviderRecord}
    (h : adapter.parseSubmissions library context body = .ok records) :
    List.Forall₂ (ShowsFiling context) (filingRows (payload library body)) records := by
  obtain ⟨fields, hfields, h⟩ := bind_ok.mp h
  obtain ⟨records', hrecords, h⟩ := bind_ok.mp h
  rw [nonEmpty_ok h, loadJsonObject_ok hfields]
  obtain ⟨-, -, hloop⟩ := bind_ok.mp (orMalformed_ok.mp hrecords)
  obtain ⟨value, hvalue, hloop⟩ := bind_ok.mp hloop
  obtain ⟨filings, hfilings, hloop⟩ := bind_ok.mp hloop
  rw [filingRows, member_of_item_ok hvalue, objectList_ok hfilings]
  exact forall₂_mapM (fun _ _ => filingRecord_ok) hloop

/-- The record of a document states nothing about a publication but the context's time. -/
lemma parseDocument_ok {body : List UInt8} {r : ProviderRecord}
    (h : adapter.parseDocument library context body = .ok r) :
    r.sourcePublishedAt = context.sourcePublishedAt ∧ r.text "accepted_at" = none ∧
      r.text "filed_date" = none := by
  obtain ⟨-, h⟩ := check_bind_ok.mp h
  obtain ⟨-, -, h⟩ := bind_ok.mp h
  obtain ⟨-, hpublished, htext⟩ := secRecord_ok h
  refine ⟨hpublished, ?_, ?_⟩
  · rw [ProviderRecord.text, htext]
    rfl
  · rw [ProviderRecord.text, htext]
    rfl

/-- What a returned batch holds, and what the context has passed. -/
theorem parseResponse_ok {body : List UInt8} {batch : ProviderBatch}
    (h : adapter.parseResponse library context body = .ok batch) :
    (∀ t, context.sourcePublishedAt = some t → ¬ context.researchAsOfTime < t) ∧
      ∃ records, adapter.parseRecords library context body = .ok records ∧
        (∀ r, r ∈ batch.records ↔ r ∈ records) ∧ (records.map ProviderRecord.key).Nodup := by
  obtain ⟨-, h⟩ := check_bind_ok.mp h
  obtain ⟨-, h⟩ := check_bind_ok.mp h
  obtain ⟨hpublished, h⟩ := check_bind_ok.mp h
  obtain ⟨records, hrecords, h⟩ := bind_ok.mp h
  refine ⟨?_, records, hrecords, ProviderBatch.create_sortRecords_ok h⟩
  intro t ht
  simpa [ht] using hpublished

end SecEdgarAdapter

end StockResearch.Providers
