import StockResearch.Core.JsonMask
import StockResearch.ResearchAgent.CanonicalJson
import StockResearch.ResearchAgent.ToolContext

/-!
# Redacted tool payloads

`redact_tool_payload` stores the input of a tool call as JSON, with a marker under the keys that may
hold a secret.  `_redact` goes into mappings and sequences.  The encoder behind it goes into models
and members of enumerations as well.

**Payloads.**  A `ToolPayload` has every key once in each of its mappings, as a dictionary does.

**The purpose.**  What should be stored is the masked canonical form (`PyJson.mask`), and nothing
that stands under a sensitive key should play a part in it (`SameOutside`).

**What is missed.**  `Hidden`: a model or a member of an enumeration with a sensitive key inside.
-/

namespace StockResearch.ResearchAgent

open PyObject PyJson PyText Checked

/-! ## Redaction -/

def sensitiveKeyParts : List String :=
  ["api_key", "authorization", "cookie", "credential", "header", "password", "path", "secret",
    "token"]

/-- `"[REDACTED]"` -/
def redactionMarker : String := "[REDACTED]"

def maxInputBytes : Nat := 8192

section Redact

variable (folding : CaseFolding)

/-- `any(part in key.casefold().replace("-", "_") for part in _SENSITIVE_KEY_PARTS)` -/
def isSensitive (key : String) : Bool :=
  sensitiveKeyParts.any fun part =>
    decide (part.toList <:+: replace "-" "_" (folding.casefold key.toList))

mutual

/-- `_redact`; bytes are objects of another class here. -/
def redact : Object → Object
  | .mapping fields => .mapping ((redactFields fields).foldl (Dict.put Prod.fst) [])
  | .sequence _ items => .sequence .list (redactItems items)
  | v => v

def redactItems : List Object → List Object
  | [] => []
  | v :: vs => redact v :: redactItems vs

/-- The assignments of the loop over a mapping. -/
def redactFields : List (Key × Object) → List (Key × Object)
  | [] => []
  | (k, v) :: fs =>
      (.str k.text, if isSensitive folding k.text then .str redactionMarker else redact v) ::
        redactFields fs

end

end Redact

mutual

/-- Every mapping has every key once. -/
def Distinct : Object → Prop
  | .enum _ value => Distinct value
  | .model _ dump => Distinct dump
  | .mapping fields => (fields.map Prod.fst).Nodup ∧ DistinctFields fields
  | .sequence _ items => DistinctItems items
  | _ => True

def DistinctItems : List Object → Prop
  | [] => True
  | v :: vs => Distinct v ∧ DistinctItems vs

def DistinctFields : List (Key × Object) → Prop
  | [] => True
  | (_, v) :: fs => Distinct v ∧ DistinctFields fs

end

/-- The input of a tool call. -/
structure ToolPayload where
  fields : List (Key × Object)
  distinct : Distinct (.mapping fields)

/-- The input as an object. -/
def ToolPayload.object (payload : ToolPayload) : Object := .mapping payload.fields

/-- What the redaction raises: a `ResearchInvocationError`, or what the encoder raises. -/
inductive RedactionFailure where
  | rejected (code : String)
  | raised (error : CanonicalError)
deriving DecidableEq, Repr

def redactToolPayload (folding : CaseFolding) (payload : ToolPayload) :
    Except RedactionFailure (List (String × Value)) := do
  let encoded ← (canonicalJson payload.object).mapError .raised
  check (maxInputBytes < byteSize encoded) (.rejected "INVOCATION_INPUT_TOO_LARGE")
  let redacted ← (canonicalJson (redact folding payload.object)).mapError .raised
  match loads redacted with
  | some (.obj normalized) => return normalized
  | _ => .error (.rejected "INVALID_INVOCATION_INPUT")

/-! ## What should be stored -/

mutual

/-- Equal but for what stands under sensitive keys, at any depth. -/
inductive SameOutside (folding : CaseFolding) : Object → Object → Prop where
  | refl (v : Object) : SameOutside folding v v
  | enum (member : String) {v w : Object} (h : SameOutside folding v w) :
      SameOutside folding (.enum member v) (.enum member w)
  | model (className : String) {v w : Object} (h : SameOutside folding v w) :
      SameOutside folding (.model className v) (.model className w)
  | sequence (kind : SequenceKind) {vs ws : List Object} (h : SameItems folding vs ws) :
      SameOutside folding (.sequence kind vs) (.sequence kind ws)
  | mapping {fs fs' gs : List (Key × Object)} (hperm : fs.Perm fs') (h : SameFields folding fs' gs) :
      SameOutside folding (.mapping fs) (.mapping gs)

inductive SameItems (folding : CaseFolding) : List Object → List Object → Prop where
  | nil : SameItems folding [] []
  | cons {v w : Object} {vs ws : List Object} (h : SameOutside folding v w)
      (hs : SameItems folding vs ws) : SameItems folding (v :: vs) (w :: ws)

inductive SameFields (folding : CaseFolding) :
    List (Key × Object) → List (Key × Object) → Prop where
  | nil : SameFields folding [] []
  | secret {k : Key} (hk : isSensitive folding k.text = true) (v w : Object)
      {fs gs : List (Key × Object)} (hs : SameFields folding fs gs) :
      SameFields folding ((k, v) :: fs) ((k, w) :: gs)
  | cons (k : Key) {v w : Object} {fs gs : List (Key × Object)} (h : SameOutside folding v w)
      (hs : SameFields folding fs gs) : SameFields folding ((k, v) :: fs) ((k, w) :: gs)

end

/-- The redaction of a payload: of its canonical form, the result has the marker under every
sensitive key and everything else; and whatever stands under sensitive keys, the result is the
same. -/
structure Redacted (folding : CaseFolding) (payload : ToolPayload) (canonical : Value)
    (result : List (String × Value)) : Prop where
  marked : Sealed (isSensitive folding) redactionMarker (.obj result)
  unchanged : mask (isSensitive folding) redactionMarker (.obj result) =
    mask (isSensitive folding) redactionMarker canonical
  independent : ∀ other result', SameOutside folding payload.object other.object →
    redactToolPayload folding other = .ok result' → result' = result

/-! ## What is missed -/

section Hidden

variable (folding : CaseFolding)

mutual

/-- There is a sensitive key, at whatever depth the encoder comes to. -/
def HasSensitive : Object → Prop
  | .enum _ value => HasSensitive value
  | .model _ dump => HasSensitive dump
  | .mapping fields => HasSensitiveFields fields
  | .sequence _ items => HasSensitiveItems items
  | _ => False

def HasSensitiveItems : List Object → Prop
  | [] => False
  | v :: vs => HasSensitive v ∨ HasSensitiveItems vs

def HasSensitiveFields : List (Key × Object) → Prop
  | [] => False
  | (k, v) :: fs => (isSensitive folding k.text = true ∨ HasSensitive v) ∨ HasSensitiveFields fs

end

mutual

/-- There is a sensitive key inside of a model or of a member of an enumeration that itself stands
under none. -/
def Hidden : Object → Prop
  | .enum _ value => HasSensitive folding value
  | .model _ dump => HasSensitive folding dump
  | .mapping fields => HiddenFields fields
  | .sequence _ items => HiddenItems items
  | _ => False

def HiddenItems : List Object → Prop
  | [] => False
  | v :: vs => Hidden v ∨ HiddenItems vs

def HiddenFields : List (Key × Object) → Prop
  | [] => False
  | (k, v) :: fs => (isSensitive folding k.text = false ∧ Hidden v) ∨ HiddenFields fs

end

end Hidden

end StockResearch.ResearchAgent
