import StockResearch.Core.Checked
import StockResearch.Core.Url
import Mathlib.Data.List.MinMax
import Mathlib.Data.Prod.Lex

/-!
# The safe HTTP client

`SafeHttpClient.get` performs one logical GET: it validates the URL, resolves the host, pins the
request to one of the addresses, and follows redirects and retries within limits.

Everything outside the client is an answer: of the clock, the resolver, the rate limiter and the
server.  `answers n` holds the answers that the `n`-th attempt meets, so a theorem about every
function `answers` is one about every adversary.  A body is an endless stream of non-empty chunks or
stops; the client reads it until it is over the limit at the latest.

* `validateUrl_ok`: what a target that was accepted has gone through.
* `attempt_lawful`: what one attempt can do, and what it keeps.
* **`get_law`**: the bound on wire requests, where they may go, where sensitive headers may go, and
  the size of a successful body.

A URL in an error or a result is shown masked by `safe_url`; here it is the URL itself.  Pauses
between attempts only pass time.
-/

namespace StockResearch.Providers

open PyText PyUrl

/-! ## Headers -/

abbrev Headers := List (Text × Text)

/-- `headers[name] = value` -/
def setHeader (headers : Headers) (name value : Text) : Headers :=
  if headers.any fun h => h.1 = name then
    headers.map fun h => if h.1 = name then (name, value) else h
  else headers ++ [(name, value)]

/-- `name.lower()` of an ASCII text. -/
def asciiLower (t : Text) : Text := t.map Char.toLower

def sensitiveHeaderNames : List String :=
  ["authorization", "proxy-authorization", "cookie", "set-cookie", "api-key", "x-api-key", "apikey",
    "x-apikey"]

def protectedRequestHeaderNames : List String :=
  ["user-agent", "accept", "accept-encoding", "host", "if-none-match", "if-modified-since"]

def isSensitiveHeader (name : Text) : Bool :=
  let normalized := (asciiLower (strip name)).map fun c => if c = '_' then '-' else c
  let compact := normalized.filter (· ≠ '-')
  sensitiveHeaderNames.contains (String.ofList normalized) ||
    (normalized.splitOn '-').any (fun part =>
      ["token", "secret", "signature"].contains (String.ofList part)) ||
    ["apikey", "token", "secret", "signature"].any fun suffix => suffix.toList.isSuffixOf compact

/-- `_HEADER_NAME_PATTERN` -/
def isHeaderName (name : Text) : Bool :=
  !name.isEmpty && name.all fun c => c.isAlphanum || "!#$%&'*+-.^_`|~".toList.contains c

inductive HttpError where
  | networkDisabled (message : String)
  | policy (message : String)
  | timeout (message : String) (url : Option Text)
  | redirect (message : String)
  | retryExhausted (message : String) (url : Text)
  | responseTooLarge (message : String)
  | invalidNotModified (message : String)
  | other
deriving DecidableEq, Repr

def validateHeader (name value : Text) : Except HttpError Unit :=
  Checked.check (isHeaderName name = false ∨
      ¬ value.all (fun c => 32 ≤ c.toNat && c.toNat < 127) = true)
    (.policy "Provider request contains an invalid header")

/-! ## Policies, requests and answers -/

structure HttpClientPolicy where
  allowedHosts : List Text
  userAgent : Option Text
  networkEnabled : Bool
  maxResponseBytes : Nat
  maxRedirects : Nat
  maxAttempts : Nat
  retryableStatusCodes : List Nat
  hosts_ok : allowedHosts ≠ []
  bytes_ok : 1 ≤ maxResponseBytes ∧ maxResponseBytes ≤ 52428800
  redirects_ok : maxRedirects ≤ 5
  attempts_ok : 1 ≤ maxAttempts ∧ maxAttempts ≤ 3
  userAgent_ok : ∀ agent ∈ userAgent, 1 ≤ agent.length ∧ agent.length ≤ 256 ∧
    ∀ c ∈ agent, 32 ≤ c.toNat ∧ c.toNat ≠ 127
  statuses_ok : ∀ status ∈ retryableStatusCodes, 100 ≤ status ∧ status ≤ 599

structure HttpRequest where
  url : Text
  accept : Text
  headers : Headers

abbrev Bytes := List UInt8

structure CachedResponse where
  body : Bytes
  contentType : Option Text
  etag : Option Text
  lastModified : Option Text

structure HttpResult where
  statusCode : Nat
  body : Bytes
  contentType : Option Text
  url : Text
  attempts : Nat
  cacheStatus : String
  etag : Option Text
  lastModified : Option Text

/-- An address that the resolver returned, with what `ipaddress` says about it. -/
structure IpAddress where
  version : Nat
  value : Nat
  text : Text
  isGlobal : Bool
  isPrivate : Bool
  isLoopback : Bool
  isLinkLocal : Bool
  isMulticast : Bool
  isReserved : Bool
  isUnspecified : Bool
  text_ok : text ≠ []
deriving DecidableEq

/-- The answer to an operation that runs under the deadline. -/
inductive Reply (α : Type) where
  | expired
  | raised
  | answered (a : α)

/-- `_call_with_deadline`, with the error that any other exception is turned into. -/
def Reply.within {α : Type} (message : String) : Reply α → Except HttpError α
  | .answered a => .ok a
  | .expired => .error (.timeout "Provider GET exceeded total timeout" none)
  | .raised => .error (.policy message)

lemma Reply.within_ok {α : Type} {message : String} {reply : Reply α} {a : α} :
    reply.within message = .ok a ↔ reply = .answered a := by
  cases reply <;> simp [within]

/-- How a request or the reading of its body fails. -/
inductive WireFailure where
  | expired
  | timeoutException
  | networkError
  | requestError
  | httpError
  | other
deriving DecidableEq, Repr

/-- What the next read of a body gives; a chunk has a byte at least. -/
inductive ChunkReply where
  | chunk (first : UInt8) (rest : Bytes)
  | stop
  | failed (failure : WireFailure)

structure Response where
  statusCode : Nat
  location : Option Text
  contentLength : Option Text
  etag : Option Text
  lastModified : Option Text
  contentType : Option Text
  body : Nat → ChunkReply

structure AttemptAnswers where
  expiredAtStart : Bool
  resolver : Reply (List IpAddress)
  rateLimiter : Reply Unit
  expiredBeforeRequest : Bool
  response : Except WireFailure Response
  expiredAfterResponse : Bool

/-- The client with its policy, its request identity, and what is cached for the request. -/
structure SafeHttpClient where
  policy : HttpClientPolicy
  requestIdentity : Option Text
  cached : Option CachedResponse
  tables : UrlTables

/-! ## Targets -/

def urlOrigin (tables : UrlTables) (url : Text) : Option (Text × Nat) := do
  let parsed ← urlsplit tables url []
  let port ← parsed.port
  let host ← parsed.hostname tables
  return (tables.lower host, port.getD 443)

/-- `_PinnedTarget` -/
structure PinnedTarget where
  host : Text
  authority : Text
  url : Text

/-- An address is refused when `ipaddress` puts it into one of the special ranges. -/
def IpAddress.isAllowed (a : IpAddress) : Bool :=
  a.isGlobal && !a.isPrivate && !a.isLoopback && !a.isLinkLocal && !a.isMulticast &&
    !a.isReserved && !a.isUnspecified

def IpAddress.pinnedHost (a : IpAddress) : Text :=
  if a.version = 6 then '[' :: (a.text ++ [']']) else a.text

namespace SafeHttpClient

variable (client : SafeHttpClient)

def validateUrl (url : Text) (resolver : Reply (List IpAddress)) :
    Except HttpError PinnedTarget := do
  let parsed ← Checked.require (urlsplit client.tables url []) (.policy "Provider URL is invalid")
  Checked.check (client.tables.lower parsed.scheme ≠ "https".toList)
    (.policy "Provider URL must use HTTPS")
  Checked.check (parsed.hasUserinfo = true)
    (.policy "Provider URL must not contain user information")
  Checked.check (parsed.fragment ≠ []) (.policy "Provider URL must not contain a fragment")
  let port ← Checked.require parsed.port (.policy "Provider URL has an invalid port")
  Checked.check (port ≠ none ∧ port ≠ some 443)
    (.policy "Provider URL port must be 443 when present")
  let host ← Checked.require (parsed.hostname client.tables)
    (.policy "Provider URL must contain a hostname")
  Checked.check (client.tables.isIpv4 host = true ∨ client.tables.isIpv6 host = true)
    (.policy "Provider URL hostname must not be an IP literal")
  Checked.check (client.tables.lower host ∉ client.policy.allowedHosts)
    (.policy "Provider URL hostname is not in the exact allowlist")
  let addresses ← resolver.within "Provider hostname resolution failed"
  Checked.check (addresses = []) (.policy "Provider hostname did not resolve to an address")
  Checked.check (∃ a ∈ addresses, a.isAllowed = false)
    (.policy "Provider hostname must resolve only to global addresses")
  let address ← Checked.require (addresses.argmin fun a => toLex (a.version, a.value))
    (.policy "Provider hostname did not resolve to an address")
  return {
    host := client.tables.lower host
    authority :=
      if port = some 443 then client.tables.lower host ++ ":443".toList
      else client.tables.lower host
    url := urlunsplit ⟨client.tables.lower parsed.scheme, address.pinnedHost, parsed.path,
      parsed.query, []⟩ }

end SafeHttpClient

/-! ## One attempt -/

/-- A request on the wire, with the answer of the resolver that it was pinned by. -/
structure WireRequest where
  target : PinnedTarget
  headers : Headers
  resolver : Reply (List IpAddress)

/-- Where `get` stands between two attempts. -/
structure GetState where
  currentUrl : Text
  headers : Headers
  targetAttempt : Nat
  redirects : Nat
  attempts : Nat

/-- How an attempt goes on; a body that is still being read leaves it open. -/
inductive Step where
  | done (result : Except HttpError HttpResult)
  | again (state : GetState)
  | unfinished

def redirectStatusCodes : List Nat := [301, 302, 303, 307, 308]

/-- `int(text)` of a header value; a `ValueError` is `none`. -/
def pyInt (t : Text) : Option Int :=
  let (negative, digits) := match strip t with
    | '-' :: ds => (true, ds)
    | '+' :: ds => (false, ds)
    | ds => (false, ds)
  let groups := digits.splitOn '_'
  if groups.all (fun g => !g.isEmpty && g.all Char.isDigit) ∧ groups.flatten.length ≤ 4300 then
    let n : Nat := Nat.ofDigitChars 10 groups.flatten 0
    some (if negative then -(n : Int) else n)
  else none

/-- Why the reading of a body stopped early. -/
inductive BodyStop where
  | tooLarge
  | failed (failure : WireFailure)
  | unfinished
deriving DecidableEq, Repr

/-- The loop over the chunks of a body, from the `n`-th on. -/
def readBody (limit : Nat) (chunks : Nat → ChunkReply) : Nat → Nat → Bytes → Except BodyStop Bytes
  | 0, _, _ => .error .unfinished
  | fuel + 1, n, body =>
      match chunks n with
      | .stop => .ok body
      | .failed failure => .error (.failed failure)
      | .chunk first rest =>
          let body := body ++ first :: rest
          if limit < body.length then .error .tooLarge else readBody limit chunks fuel (n + 1) body

namespace SafeHttpClient

variable (client : SafeHttpClient)

/-- The same target once more, or the error when there are no attempts left. -/
def retry (s : GetState) (exhausted : HttpError) : Step :=
  if client.policy.maxAttempts ≤ s.targetAttempt then .done (.error exhausted) else .again s

/-- The handlers around a request. -/
def failed (s : GetState) : WireFailure → Step
  | .expired => .done (.error (.timeout "Provider GET exceeded total timeout" none))
  | .timeoutException => client.retry s (.timeout "Provider GET timed out for" s.currentUrl)
  | .networkError =>
      client.retry s (.retryExhausted "Provider GET retries exhausted for" s.currentUrl)
  | .requestError | .httpError => .done (.error (.policy "Provider HTTP request failed"))
  | .other => .done (.error .other)

def redirect (s : GetState) (location : Option Text) : Step :=
  match location.getD [] with
  | [] => .done (.error (.redirect "Provider redirect is missing a Location header"))
  | location =>
      if client.policy.maxRedirects ≤ s.redirects then
        .done (.error (.redirect "Provider redirect limit was exceeded"))
      else
        match urljoin client.tables s.currentUrl location with
        | none => .done (.error (.redirect "Provider redirect Location is invalid"))
        | some redirectUrl =>
            .again { s with
              currentUrl := redirectUrl
              headers :=
                if urlOrigin client.tables redirectUrl ≠ urlOrigin client.tables s.currentUrl then
                  s.headers.filter fun h => !isSensitiveHeader h.1
                else s.headers
              targetAttempt := 0
              redirects := s.redirects + 1 }

/-- The body of a response that is neither a redirect nor retried. -/
def complete (s : GetState) (response : Response) : Step :=
  let limit := client.policy.maxResponseBytes
  let declared := response.contentLength.bind pyInt
  if ∃ n ∈ declared, (limit : Int) < n then
    .done (.error (.responseTooLarge "Provider response is too large"))
  else
    match readBody limit response.body (limit + 2) 0 [] with
    | .error .tooLarge => .done (.error (.responseTooLarge "Provider response is too large"))
    | .error (.failed failure) => client.failed s failure
    | .error .unfinished => .unfinished
    | .ok body => .done (.ok {
        statusCode := response.statusCode
        body := body
        contentType := response.contentType
        url := s.currentUrl
        attempts := s.attempts
        cacheStatus :=
          if 200 ≤ response.statusCode ∧ response.statusCode < 300 ∧ client.cached.isSome then
            "UPDATED"
          else "MISS"
        etag := response.etag
        lastModified := response.lastModified })

/-- What is done with a response. -/
def handle (s : GetState) (response : Response) : Step :=
  if response.statusCode ∈ redirectStatusCodes then client.redirect s response.location
  else if response.statusCode = 304 then
    match client.cached with
    | none => .done (.error (.invalidNotModified "Provider returned 304 without cached content"))
    | some cached => .done (.ok {
        statusCode := 304
        body := cached.body
        contentType := cached.contentType
        url := s.currentUrl
        attempts := s.attempts
        cacheStatus := "REVALIDATED"
        etag := cached.etag
        lastModified := cached.lastModified })
  else if response.statusCode ∉ client.policy.retryableStatusCodes then client.complete s response
  else client.retry s (.retryExhausted "Provider GET retries exhausted for" s.currentUrl)

/-- `HttpPolicyError` behind a redirect is a `RedirectError`. -/
def targetError (s : GetState) : HttpError → HttpError
  | .policy message =>
      if 0 < s.redirects then .redirect "Provider redirect target was rejected"
      else .policy message
  | e => e

/-- One round of the inner loop: the request that went out, if any, and how it goes on. -/
def attempt (before : GetState) (answers : AttemptAnswers) : Option WireRequest × Step :=
  let timeout := HttpError.timeout "Provider GET exceeded total timeout for" before.currentUrl
  if answers.expiredAtStart then (none, .done (.error timeout))
  else
    let s := { before with
      targetAttempt := before.targetAttempt + 1
      attempts := before.attempts + 1 }
    match client.validateUrl s.currentUrl answers.resolver with
    | .error e => (none, .done (.error (targetError s e)))
    | .ok target =>
        match answers.rateLimiter.within "Provider rate limiter failed" with
        | .error e => (none, .done (.error e))
        | .ok () =>
            if answers.expiredBeforeRequest then (none, .done (.error timeout))
            else
              let wire := ⟨target, setHeader s.headers "Host".toList target.authority,
                answers.resolver⟩
              match answers.response with
              | .error failure => (some wire, client.failed s failure)
              | .ok response =>
                  if answers.expiredAfterResponse then (some wire, .done (.error timeout))
                  else (some wire, client.handle s response)

/-- The loops of `get`: the requests on the wire, and the result unless the fuel is spent. -/
def loop (answers : Nat → AttemptAnswers) :
    Nat → GetState → List WireRequest × Option (Except HttpError HttpResult)
  | 0, _ => ([], none)
  | fuel + 1, s =>
      match client.attempt s (answers s.attempts) with
      | (wire, .done result) => (wire.toList, some result)
      | (wire, .unfinished) => (wire.toList, none)
      | (wire, .again s') =>
          let rest := loop answers fuel s'
          (wire.toList ++ rest.1, rest.2)

/-- The headers that `get` starts with. -/
def requestHeaders (request : HttpRequest) : Except HttpError Headers := do
  let passed ← request.headers.foldlM (fun (headers : Headers) (h : Text × Text) => do
    validateHeader h.1 h.2
    return if protectedRequestHeaderNames.contains (String.ofList (asciiLower h.1)) then headers
      else setHeader headers h.1 h.2) []
  validateHeader "Accept".toList request.accept
  let userAgent ← Checked.require (client.requestIdentity.or client.policy.userAgent)
    (.policy "Provider request identity is required")
  let headers := setHeader passed "Accept".toList request.accept
  let headers := setHeader headers "Accept-Encoding".toList "identity".toList
  let headers := setHeader headers "User-Agent".toList userAgent
  let headers := match client.cached.bind CachedResponse.etag with
    | some etag => setHeader headers "If-None-Match".toList etag
    | none => headers
  let headers := match client.cached.bind CachedResponse.lastModified with
    | some lastModified => setHeader headers "If-Modified-Since".toList lastModified
    | none => headers
  headers.forM fun h => validateHeader h.1 h.2
  return headers

def get (request : HttpRequest) (answers : Nat → AttemptAnswers) (fuel : Nat) :
    List WireRequest × Option (Except HttpError HttpResult) :=
  if client.policy.networkEnabled = false then
    ([], some (.error (.networkDisabled "Provider network access is disabled")))
  else if client.policy.userAgent = none ∧ client.requestIdentity = none then
    ([], some (.error (.policy "Provider request identity is required")))
  else
    match client.requestHeaders request with
    | .error e => ([], some (.error e))
    | .ok headers => client.loop answers fuel ⟨request.url, headers, 0, 0, 0⟩

/-- How many requests a `get` may put on the wire. -/
def wireLimit : Nat := client.policy.maxAttempts * (client.policy.maxRedirects + 1)

end SafeHttpClient

/-! ## The law of a request -/

/-- A request goes over HTTPS, on the default port, to an address that the resolver returned for a
host of the allowlist, and all that it returned were global. -/
def WireRequest.Guarded (policy : HttpClientPolicy) (w : WireRequest) : Prop :=
  w.target.host ∈ policy.allowedHosts ∧
    ∃ addresses, w.resolver = .answered addresses ∧ (∀ a ∈ addresses, a.isGlobal = true) ∧
      ∃ a ∈ addresses, ∃ rest, w.target.url = "https://".toList ++ a.pinnedHost ++ rest ∧
        (rest = [] ∨ rest.head? = some '/' ∨ rest.head? = some '?')

/-- What holds of everything that a `get` does. -/
structure GetLaw (client : SafeHttpClient) (request : HttpRequest)
    (run : List WireRequest × Option (Except HttpError HttpResult)) : Prop where
  /-- It comes to an end. -/
  ends : run.2 ≠ none
  /-- It puts no more requests on the wire than attempts for each target allow. -/
  bounded : run.1.length ≤ client.wireLimit
  /-- Every request is guarded. -/
  guarded : ∀ w ∈ run.1, w.Guarded client.policy
  /-- A sensitive header goes to the host and port of the original request only. -/
  sensitive : ∀ w ∈ run.1, ∀ h ∈ w.headers, isSensitiveHeader h.1 = true →
    urlOrigin client.tables request.url = some (w.target.host, 443)
  /-- A successful body is within the limit. -/
  body : ∀ result, run.2 = some (.ok result) → 200 ≤ result.statusCode → result.statusCode < 300 →
    result.body.length ≤ client.policy.maxResponseBytes

namespace SafeHttpClient

variable {client : SafeHttpClient}

/-! ## Targets that are accepted -/

lemma netloc_of_hostname {tables : UrlTables} {u : SplitUrl} {host : Text}
    (h : u.hostname tables = some host) : u.netloc ≠ [] := by
  intro hempty
  simp [SplitUrl.hostname, SplitUrl.hostinfo, hempty, rpartition, partition] at h

lemma pinnedHost_ne_nil (a : IpAddress) : a.pinnedHost ≠ [] := by
  have htext := a.text_ok
  unfold IpAddress.pinnedHost
  split_ifs
  · simp
  · exact htext

lemma pinned_url (a : IpAddress) {path query : Text} (hpath : path = [] ∨ path.head? = some '/') :
    ∃ rest, urlunsplit ⟨"https".toList, a.pinnedHost, path, query, []⟩ =
        "https://".toList ++ a.pinnedHost ++ rest ∧
      (rest = [] ∨ rest.head? = some '/' ∨ rest.head? = some '?') := by
  have hslash : ¬ (path ≠ [] ∧ path.head? ≠ some '/') := by
    rintro ⟨hne, hhead⟩
    exact hpath.elim hne hhead
  refine ⟨path ++ if query = [] then [] else '?' :: query, ?_, ?_⟩
  · simp [urlunsplit, pinnedHost_ne_nil a, hslash]
  · rcases hpath with rfl | hhead
    · by_cases hquery : query = []
      · simp [hquery]
      · simp [hquery]
    · right; left
      cases path with
      | nil => simp at hhead
      | cons c path => simpa using hhead

/-- **What an accepted target has gone through.** -/
lemma validateUrl_ok {url : Text} {resolver : Reply (List IpAddress)} {target : PinnedTarget}
    (h : client.validateUrl url resolver = .ok target) (headers : Headers) :
    urlOrigin client.tables url = some (target.host, 443) ∧
      WireRequest.Guarded client.policy ⟨target, headers, resolver⟩ := by
  simp only [validateUrl, Checked.require_bind_ok, Checked.check_bind_ok] at h
  rcases h with ⟨parsed, hparsed, hscheme, -, -, port, hport, hdefault, host, hhost, -, hallowed, h⟩
  rcases Checked.bind_ok.mp h with ⟨addresses, haddresses, h⟩
  simp only [Checked.require_bind_ok, Checked.check_bind_ok] at h
  rcases h with ⟨-, hglobal, address, haddress, htarget⟩
  cases htarget
  have hport443 : port.getD 443 = 443 := by
    by_cases hnone : port = none
    · simp [hnone]
    · have hsome : port = some 443 := by
        by_contra hne
        exact hdefault ⟨hnone, hne⟩
      simp [hsome]
  refine ⟨by simp [urlOrigin, hparsed, hport, hhost, hport443], ?_⟩
  refine ⟨not_not.mp hallowed, addresses, Reply.within_ok.mp haddresses, ?_, ?_⟩
  · intro a ha
    by_contra hnot
    exact hglobal ⟨a, ha, by simp [IpAddress.isAllowed, hnot]⟩
  · refine ⟨address, List.argmin_mem haddress, ?_⟩
    rw [not_not.mp hscheme]
    exact pinned_url address (path_of_urlsplit hparsed (netloc_of_hostname hhost))

/-! ## Bodies -/

/-- A body that was read is within the limit. -/
lemma readBody_le {limit : Nat} {chunks : Nat → ChunkReply} (fuel n : Nat) {body result : Bytes}
    (hbody : body.length ≤ limit) (h : readBody limit chunks fuel n body = .ok result) :
    result.length ≤ limit := by
  induction fuel generalizing n body with
  | zero => simp [readBody] at h
  | succ fuel ih =>
      simp only [readBody] at h
      split at h
      · cases h
        exact hbody
      · cases h
      · split_ifs at h with hlimit
        exact ih (n + 1) (not_lt.mp hlimit) h

/-- Every chunk has a byte, so the limit is reached before the fuel is spent. -/
lemma readBody_finishes {limit : Nat} {chunks : Nat → ChunkReply} (fuel n : Nat) {body : Bytes}
    (hfuel : limit + 2 ≤ fuel + body.length) (hbody : body.length ≤ limit) :
    readBody limit chunks fuel n body ≠ .error .unfinished := by
  induction fuel generalizing n body with
  | zero => omega
  | succ fuel ih =>
      simp only [readBody]
      split
      · simp
      · simp
      · split_ifs with hlimit
        · simp
        · refine ih (n + 1) ?_ (not_lt.mp hlimit)
          simp only [List.length_append, List.length_cons]
          omega

/-! ## One attempt -/

/-- How many attempts are left: those of this target, and those of the targets to come. -/
def remaining (client : SafeHttpClient) (s : GetState) : Nat :=
  (client.policy.maxRedirects - s.redirects) * client.policy.maxAttempts +
    (client.policy.maxAttempts - s.targetAttempt)

/-- The invariant between attempts: there are attempts left, and sensitive headers are gone unless
the current URL has the origin of the request. -/
structure Standing (client : SafeHttpClient) (request : HttpRequest) (s : GetState) : Prop where
  attempt : s.targetAttempt < client.policy.maxAttempts
  redirects : s.redirects ≤ client.policy.maxRedirects
  origin : urlOrigin client.tables s.currentUrl = urlOrigin client.tables request.url ∨
    ∀ h ∈ s.headers, isSensitiveHeader h.1 = false

/-- What may come of an attempt that was made with `left` attempts left. -/
def Lawful (client : SafeHttpClient) (request : HttpRequest) (left : Nat) : Step → Prop
  | .done (.ok result) => 200 ≤ result.statusCode → result.statusCode < 300 →
      result.body.length ≤ client.policy.maxResponseBytes
  | .done (.error _) => True
  | .again s => client.Standing request s ∧ client.remaining s < left
  | .unfinished => False

variable {request : HttpRequest} {s : GetState} {left : Nat}

/-- The invariant within an attempt, which has used up one of the attempts that were left. -/
structure Trying (client : SafeHttpClient) (request : HttpRequest) (left : Nat) (s : GetState) :
    Prop where
  redirects : s.redirects ≤ client.policy.maxRedirects
  origin : urlOrigin client.tables s.currentUrl = urlOrigin client.tables request.url ∨
    ∀ h ∈ s.headers, isSensitiveHeader h.1 = false
  retries : client.remaining s < left
  targets : (client.policy.maxRedirects - s.redirects) * client.policy.maxAttempts < left

lemma Standing.trying (h : client.Standing request s) :
    client.Trying request (client.remaining s) { s with
      targetAttempt := s.targetAttempt + 1
      attempts := s.attempts + 1 } := by
  have hattempt := h.attempt
  refine ⟨h.redirects, h.origin, ?_, ?_⟩
  · simp only [remaining]
    omega
  · simp only [remaining]
    omega

lemma retry_lawful (h : client.Trying request left s) (e : HttpError) :
    client.Lawful request left (client.retry s e) := by
  unfold retry
  split_ifs with hlast
  · trivial
  · exact ⟨⟨not_le.mp hlast, h.redirects, h.origin⟩, h.retries⟩

lemma failed_lawful (h : client.Trying request left s) (failure : WireFailure) :
    client.Lawful request left (client.failed s failure) := by
  cases failure with
  | timeoutException => exact retry_lawful h _
  | networkError => exact retry_lawful h _
  | _ => trivial

/-- Behind a redirect the sensitive headers are gone, unless it stays with the origin. -/
lemma redirect_lawful (h : client.Trying request left s) (location : Option Text) :
    client.Lawful request left (client.redirect s location) := by
  unfold redirect
  split
  · trivial
  · split_ifs with hlimit
    · trivial
    · split
      · trivial
      · next redirectUrl _ =>
          rw [not_le] at hlimit
          refine ⟨⟨?_, hlimit, ?_⟩, ?_⟩
          · exact client.policy.attempts_ok.1
          · by_cases hsame : urlOrigin client.tables redirectUrl =
                urlOrigin client.tables s.currentUrl
            · rw [if_neg (not_not.mpr hsame)]
              exact h.origin.imp hsame.trans id
            · rw [if_pos hsame]
              right
              intro header hheader
              simpa using (List.mem_filter.mp hheader).2
          · have hnext : client.policy.maxRedirects - s.redirects =
                client.policy.maxRedirects - (s.redirects + 1) + 1 := by omega
            have htargets := h.targets
            rw [hnext, Nat.succ_mul] at htargets
            simpa [remaining] using htargets

lemma complete_lawful (h : client.Trying request left s) (response : Response) :
    client.Lawful request left (client.complete s response) := by
  simp only [complete]
  split
  · trivial
  · split
    · trivial
    · exact failed_lawful h _
    · next hbody => exact absurd hbody (readBody_finishes _ _ (by simp) (by simp))
    · next body hbody =>
        intro _ _
        exact readBody_le _ _ (by simp) hbody

lemma handle_lawful (h : client.Trying request left s) (response : Response) :
    client.Lawful request left (client.handle s response) := by
  simp only [handle]
  split
  · exact redirect_lawful h _
  · split
    · split
      · trivial
      · -- 304 is not a success
        intro _ hlt
        simp at hlt
    · split
      · exact complete_lawful h response
      · exact retry_lawful h _

lemma isSensitiveHeader_of_mem_setHeader {headers : Headers} {authority : Text}
    {header : Text × Text} (hmem : header ∈ setHeader headers "Host".toList authority)
    (hsensitive : isSensitiveHeader header.1 = true) :
    ∃ h ∈ headers, isSensitiveHeader h.1 = true := by
  have hhost : isSensitiveHeader "Host".toList = false := by decide
  unfold setHeader at hmem
  split_ifs at hmem
  · rcases List.mem_map.mp hmem with ⟨h, hh, rfl⟩
    refine ⟨h, hh, ?_⟩
    split_ifs at hsensitive with hname
    · exact absurd (hhost.symm.trans hsensitive) (by decide)
    · exact hsensitive
  · rcases List.mem_append.mp hmem with hold | hnew
    · exact ⟨header, hold, hsensitive⟩
    · rw [List.mem_singleton.mp hnew] at hsensitive
      exact absurd (hhost.symm.trans hsensitive) (by decide)

/-- A request that goes out from a standing state is guarded, and carries a sensitive header only
to the origin of the original one. -/
lemma wire_lawful (h : client.Standing request s) {resolver : Reply (List IpAddress)}
    {target : PinnedTarget} (htarget : client.validateUrl s.currentUrl resolver = .ok target) :
    WireRequest.Guarded client.policy
        ⟨target, setHeader s.headers "Host".toList target.authority, resolver⟩ ∧
      ∀ header ∈ setHeader s.headers "Host".toList target.authority,
        isSensitiveHeader header.1 = true →
          urlOrigin client.tables request.url = some (target.host, 443) := by
  rcases validateUrl_ok htarget (setHeader s.headers "Host".toList target.authority) with
    ⟨horigin, hguarded⟩
  refine ⟨hguarded, ?_⟩
  intro header hmem hsensitive
  rcases h.origin with hsame | hstripped
  · rw [← hsame]
    exact horigin
  · rcases isSensitiveHeader_of_mem_setHeader hmem hsensitive with ⟨old, hold, hbad⟩
    rw [hstripped old hold] at hbad
    cases hbad

/-- **What one attempt can do.**  At most one request goes out, it is guarded and carries sensitive
headers to the original origin only, and the attempt goes on lawfully with one attempt less. -/
lemma attempt_lawful (h : client.Standing request s) (answers : AttemptAnswers) :
    (∀ w ∈ (client.attempt s answers).1, w.Guarded client.policy ∧ ∀ header ∈ w.headers,
        isSensitiveHeader header.1 = true →
          urlOrigin client.tables request.url = some (w.target.host, 443)) ∧
      client.Lawful request (client.remaining s) (client.attempt s answers).2 := by
  have htrying := h.trying
  simp only [attempt]
  split
  · simp [Lawful]
  · split
    · simp [Lawful]
    · next target htarget =>
        have hwire := wire_lawful h htarget
        split
        · simp [Lawful]
        · split
          · simp [Lawful]
          · split
            · exact ⟨by simpa using hwire, failed_lawful htrying _⟩
            · next response _ =>
                split
                · exact ⟨by simpa using hwire, trivial⟩
                · exact ⟨by simpa using hwire, handle_lawful htrying response⟩

/-! ## Whole runs -/

lemma loop_lawful (answers : Nat → AttemptAnswers) (fuel : Nat) {s : GetState}
    (h : client.Standing request s) (hfuel : client.remaining s ≤ fuel) :
    (client.loop answers fuel s).2 ≠ none ∧
      (client.loop answers fuel s).1.length ≤ client.remaining s ∧
      (∀ w ∈ (client.loop answers fuel s).1, w.Guarded client.policy ∧ ∀ header ∈ w.headers,
        isSensitiveHeader header.1 = true →
          urlOrigin client.tables request.url = some (w.target.host, 443)) ∧
      ∀ result, (client.loop answers fuel s).2 = some (.ok result) → 200 ≤ result.statusCode →
        result.statusCode < 300 → result.body.length ≤ client.policy.maxResponseBytes := by
  induction fuel generalizing s with
  | zero =>
      have hattempt := h.attempt
      simp only [remaining] at hfuel
      omega
  | succ fuel ih =>
      have hleft : 1 ≤ client.remaining s := by
        have hattempt := h.attempt
        simp only [remaining]
        omega
      rcases hstep : client.attempt s (answers s.attempts) with ⟨wire, step⟩
      rcases attempt_lawful h (answers s.attempts) with ⟨hwire, hlawful⟩
      rw [hstep] at hwire hlawful
      have hone : wire.toList.length ≤ 1 := by cases wire <;> simp
      have hsent : ∀ w ∈ wire.toList, w.Guarded client.policy ∧ ∀ header ∈ w.headers,
          isSensitiveHeader header.1 = true →
            urlOrigin client.tables request.url = some (w.target.host, 443) := by
        intro w hw
        exact hwire w (Option.mem_toList.mp hw)
      simp only [loop, hstep]
      cases step with
      | unfinished => exact hlawful.elim
      | done result =>
          refine ⟨by simp, hone.trans hleft, hsent, ?_⟩
          intro r hr
          cases hr
          exact hlawful
      | again s' =>
          rcases hlawful with ⟨hstanding, hless⟩
          rcases ih hstanding (by omega) with ⟨hends, hbound, hrest, hbody⟩
          refine ⟨hends, ?_, ?_, hbody⟩
          · rw [List.length_append]
            omega
          · intro w hw
            rcases List.mem_append.mp hw with hnow | hlater
            · exact hsent w hnow
            · exact hrest w hlater

/-- **The law of `get`.**  For every client, every request and every adversary, with the fuel of the
allowed attempts or more: the call ends, its requests are bounded and guarded, sensitive headers
stay with the original origin, and a successful body is within the limit. -/
theorem get_law (client : SafeHttpClient) (request : HttpRequest)
    (answers : Nat → AttemptAnswers) (more : Nat) :
    GetLaw client request (client.get request answers (client.wireLimit + more)) := by
  have hquiet : ∀ e : HttpError, GetLaw client request ([], some (.error e)) := by
    intro e
    exact ⟨by simp, by simp, by simp, by simp, by simp⟩
  unfold get
  split_ifs with hdisabled hidentity
  · exact hquiet _
  · exact hquiet _
  · split
    · exact hquiet _
    · next headers _ =>
        have hstanding : client.Standing request ⟨request.url, headers, 0, 0, 0⟩ :=
          ⟨client.policy.attempts_ok.1, Nat.zero_le _, Or.inl rfl⟩
        have hleft : client.remaining ⟨request.url, headers, 0, 0, 0⟩ = client.wireLimit := by
          simp [remaining, wireLimit, Nat.mul_add, Nat.mul_comm]
        rcases loop_lawful answers (client.wireLimit + more) hstanding (by omega) with
          ⟨hends, hbound, hwire, hbody⟩
        exact ⟨hends, hbound.trans hleft.le, fun w hw => (hwire w hw).1,
          fun w hw => (hwire w hw).2, hbody⟩

/-- A client that may reach one host. -/
def oneHost : SafeHttpClient where
  policy := {
    allowedHosts := ["data.sec.gov".toList]
    userAgent := some "research".toList
    networkEnabled := true
    maxResponseBytes := 8
    maxRedirects := 3
    maxAttempts := 3
    retryableStatusCodes := [429, 503]
    hosts_ok := by decide
    bytes_ok := by decide
    redirects_ok := by decide
    attempts_ok := by decide
    userAgent_ok := fun _ hagent => by
      cases hagent
      exact ⟨by decide, by decide, forall_of_all (by decide)⟩
    statuses_ok := by decide }
  requestIdentity := none
  cached := none
  tables := ⟨asciiLower, id, fun _ => false, fun _ => false⟩

/-- A server that redirects once within its host, is busy once, and then sends two bytes. -/
def redirectingServer (n : Nat) : AttemptAnswers where
  expiredAtStart := false
  resolver := .answered [⟨4, 0x08080808, "8.8.8.8".toList, true, false, false, false, false, false,
    false, by decide⟩]
  rateLimiter := .answered ()
  expiredBeforeRequest := false
  response := .ok {
    statusCode := match n with | 0 => 302 | 1 => 503 | _ => 200
    location := some "/b".toList
    contentLength := some "2".toList
    etag := none
    lastModified := none
    contentType := none
    body := fun k => match k with | 0 => .chunk 1 [2] | _ => .stop }
  expiredAfterResponse := false

example : (oneHost.get ⟨"https://data.sec.gov/a".toList, "*/*".toList,
      [("X-Api-Key".toList, "k".toList)]⟩ redirectingServer oneHost.wireLimit).1.map
        (fun w => String.ofList w.target.url) =
    ["https://8.8.8.8/a", "https://8.8.8.8/b", "https://8.8.8.8/b"] := by
  decide +kernel

end SafeHttpClient

end StockResearch.Providers
