import Mathlib.Data.Char
import Mathlib.Data.List.Dedup
import Mathlib.Data.List.Lex
import Mathlib.Data.List.Sort
import Mathlib.Data.Prod.Lex
import StockResearch.Core.Checked
import StockResearch.Core.Percent
import StockResearch.Core.Placeholders
import StockResearch.Core.Scanning

/-!
# Endpoint policies and their expansion

`ProviderEndpointPolicy` and `ProviderHttpRequestTemplate` with the checks of their validators, and
`expand_endpoint`, which makes a request of them.

Case folding and the IDNA encoding of a host beyond ASCII stay parameters; nothing is asked of them.
The version of a policy is not read.
-/

namespace StockResearch.Providers

open PyText Percent Placeholders

structure EndpointLibrary where
  /-- `text.casefold()` -/
  casefold : Text → Text
  /-- `text.encode("idna")` of a text beyond ASCII, as the ASCII text that it is. -/
  toAscii : Text → Option Text

variable (library : EndpointLibrary)

/-! ## Policies and templates -/

inductive HttpMethod where
  | get
  | post
deriving DecidableEq, Repr

/-- `^[A-Z][A-Z0-9_]{2,127}$` -/
def endpointId : Regex :=
  .seq (.char Char.isUpper)
    (.rep 2 (some 127) (.char fun c => c.isUpper || c.isDigit || c == '_'))

def validateAllowlists (value : List Text) : Except String Unit :=
  Checked.check (value ≠ value.dedup.insertionSort (· ≤ ·))
    "endpoint allowlists must be unique and sorted"

def validateTransportConstants (host pathTemplate : Text) : Except String Unit := do
  Checked.check (host ≠ library.casefold host ∨ '@' ∈ host ∨ '*' ∈ host ∨ host.head? = some '.' ∨
      host.getLast? = some '.')
    "endpoint host must be an exact lowercase DNS name"
  Checked.check (pathTemplate.head? ≠ some '/' ∨ '?' ∈ pathTemplate ∨ '#' ∈ pathTemplate ∨
      '\\' ∈ pathTemplate ∨ "..".toList ∈ pathTemplate.splitOn '/')
    "endpoint path template is unsafe"

structure ProviderEndpointPolicy where
  endpointId : Text
  method : HttpMethod
  scheme : Text
  host : Text
  port : Nat
  pathTemplate : Text
  parameterNames : List Text
  queryKeys : List Text
  acceptedContentTypes : List Text
  maxRedirects : Nat
  endpointId_ok : Providers.endpointId.fullmatch endpointId = true
  scheme_ok : scheme = "https".toList
  host_ok : 4 ≤ host.length ∧ host.length ≤ 253
  port_ok : port = 443
  pathTemplate_ok : 1 ≤ pathTemplate.length ∧ pathTemplate.length ≤ 512
  parameterNames_ok : parameterNames.length ≤ 32 ∧ validateAllowlists parameterNames = .ok ()
  queryKeys_ok : queryKeys.length ≤ 32 ∧ validateAllowlists queryKeys = .ok ()
  acceptedContentTypes_ok : 1 ≤ acceptedContentTypes.length ∧ acceptedContentTypes.length ≤ 16 ∧
    validateAllowlists acceptedContentTypes = .ok ()
  maxRedirects_ok : maxRedirects ≤ 5
  transport_ok : validateTransportConstants library host pathTemplate = .ok ()

def reservedParameterKeys : List String :=
  ["url", "uri", "host", "port", "path", "file", "filename", "sql", "headers", "cookie",
    "authorization", "credential", "provider"]

def validateNormalizedValues (value : List (Text × Text)) : Except String Unit :=
  value.forM fun (key, item) => do
    Checked.check (reservedParameterKeys.contains (String.ofList (library.casefold key)))
      "reserved transport parameter"
    Checked.check (¬ (1 ≤ key.length ∧ key.length ≤ 64) ∨ ¬ (1 ≤ item.length ∧ item.length ≤ 512) ∨
        key ≠ strip key ∨ item ≠ strip item ∨ item.any fun c => c.toNat < 32 || c.toNat == 127)
      "request parameters must be normalized and bounded"

/-- A mapping is the list of its items, in the order of the mapping. -/
structure ProviderHttpRequestTemplate where
  endpointId : Text
  parameters : List (Text × Text)
  query : List (Text × Text)
  endpointId_ok : Providers.endpointId.fullmatch endpointId = true
  parameters_nodup : (parameters.map Prod.fst).Nodup
  query_nodup : (query.map Prod.fst).Nodup
  parameters_ok : parameters.length ≤ 32 ∧ validateNormalizedValues library parameters = .ok ()
  query_ok : query.length ≤ 32 ∧ validateNormalizedValues library query = .ok ()

structure CanonicalProviderRequest where
  endpointId : Text
  method : HttpMethod
  scheme : Text
  host : Text
  port : Nat
  path : Text
  query : List (Text × Text)
  acceptedContentTypes : List Text
  maxRedirects : Nat
  url : Text
deriving DecidableEq, Repr

/-! ## Hosts -/

def isAscii (t : Text) : Bool := t.all fun c => c.toNat < 128

/-- `text.encode("idna")`, as the ASCII text that it is.  An ASCII text is only checked for the
lengths of its labels. -/
def encodeIdna (t : Text) : Option Text :=
  if t = [] then some []
  else if isAscii t then
    let labels := t.splitOn '.'
    if labels.dropLast.all (fun label => 0 < label.length ∧ label.length < 64) ∧
        (labels.getLastD []).length < 64 then some t
    else none
  else library.toAscii t

def isHostChar (c : Char) : Bool := c.isLower || c.isDigit

/-- `[a-z0-9](?:[a-z0-9-]{0,61}[a-z0-9])?` -/
def dnsLabel : Regex :=
  .seq (.char isHostChar) (.rep 0 (some 1)
    (.seq (.rep 0 (some 61) (.char fun c => isHostChar c || c == '-')) (.char isHostChar)))

def dnsName : Regex := .seq dnsLabel (.rep 1 none (.seq (.char (· == '.')) dnsLabel))

def canonicalHost (value : Text) : Except String Text := do
  let encoded ← Checked.require (encodeIdna library value) "ENDPOINT_HOST_INVALID"
  let host := library.casefold encoded
  Checked.check (253 < host.length ∨ dnsName.fullmatch host = false) "ENDPOINT_HOST_INVALID"
  return host

/-! ## Paths -/

def isNameChar (c : Char) : Bool := c.isLower || c.isDigit || c == '_'

def placeholder : Regex :=
  .seq (.char (· == '{'))
    (.seq (.char Char.isLower)
      (.seq (.rep 0 (some 63) (.char isNameChar)) (.char (· == '}'))))

/-- The name between the braces of a match. -/
def nameOf (found : Text) : Text := found.tail.dropLast

/-- `_PLACEHOLDER.findall(text)` -/
def placeholderNames (t : Text) : List Text := (placeholder.finditer t).map nameOf

/-- A text cut at its placeholders, in so many steps. -/
def piecesIn : Nat → Text → List Piece
  | 0, _ => []
  | _ + 1, [] => []
  | n + 1, c :: cs =>
      match (placeholder.tries (c :: cs)).head? with
      | none => .plain c :: piecesIn n cs
      | some rest =>
          .place (nameOf ((c :: cs).take (cs.length + 1 - rest.length))) :: piecesIn n rest

/-- A text cut at its placeholders. -/
def pieces (t : Text) : List Piece := piecesIn t.length t

def unsafePathParameter (value : Text) : Bool :=
  let lowered := library.casefold value
  value = ".".toList ∨ value = "..".toList ∨ '/' ∈ value ∨ '\\' ∈ value ∨ '%' ∈ value ∨
    "%2e".toList <:+: lowered ∨ "%2f".toList <:+: lowered ∨ "%5c".toList <:+: lowered

/-! ## The request -/

/-- `set(xs) == set(ys)` -/
def sameMembers (xs ys : List Text) : Bool := xs ⊆ ys ∧ ys ⊆ xs

/-- The order of tuples of texts. -/
def itemLe (a b : Text × Text) : Prop := toLex a ≤ toLex b

instance : DecidableRel itemLe := fun a b => inferInstanceAs (Decidable (toLex a ≤ toLex b))

/-- One round of the loop over the names of the parameters. -/
def substitute (parameters : List (Text × Text)) (path name : Text) : Except String Text := do
  let value ← Checked.require (parameters.lookup name) "KeyError"
  Checked.check (unsafePathParameter library value = true) "ENDPOINT_PARAMETER_UNSAFE"
  return replaceAfter (marked name) (quote value) 0 path

def expandEndpoint (policy : ProviderEndpointPolicy library)
    (template : ProviderHttpRequestTemplate library) : Except String CanonicalProviderRequest := do
  Checked.check (policy.endpointId ≠ template.endpointId) "ENDPOINT_ID_MISMATCH"
  Checked.check (sameMembers (template.parameters.map Prod.fst) policy.parameterNames = false)
    "ENDPOINT_PARAMETERS_MISMATCH"
  Checked.check (¬ template.query.map Prod.fst ⊆ policy.queryKeys) "ENDPOINT_QUERY_NOT_ALLOWED"
  let host ← canonicalHost library policy.host
  Checked.check (sameMembers (placeholderNames policy.pathTemplate) policy.parameterNames = false)
    "ENDPOINT_POLICY_PLACEHOLDERS_MISMATCH"
  let path ← policy.parameterNames.foldlM (substitute library template.parameters)
    policy.pathTemplate
  Checked.check (path.head? ≠ some '/' ∨ '\\' ∈ path ∨ "/../".toList <:+: path ++ ['/'] ∨
      "/./".toList <:+: path ++ ['/'])
    "ENDPOINT_PATH_UNSAFE"
  let query := template.query.insertionSort itemLe
  let queryString := urlencode query
  let authority := if policy.port = 443 then host else host ++ ':' :: (toString policy.port).toList
  let url := policy.scheme ++ "://".toList ++ authority ++ path
  return {
    endpointId := policy.endpointId
    method := policy.method
    scheme := policy.scheme
    host := host
    port := policy.port
    path := path
    query := query
    acceptedContentTypes := policy.acceptedContentTypes
    maxRedirects := policy.maxRedirects
    url := if queryString = [] then url else url ++ '?' :: queryString }

end StockResearch.Providers
