import StockResearch.Core.Unicode

/-!
# URLs as `urllib.parse` reads them

`urlsplit`, `urlunsplit` and `urljoin` of CPython 3.12, with the derived properties of a split URL.
A `ValueError` is `none`.

Upper and lower case, compatibility normalization and the syntax of IP addresses stay parameters;
nothing is asked of them.

**`path_of_urlsplit`**: behind a network location a path is empty or begins with a slash, so what is
put in front of it stays a network location of its own.

**`urlParts_append`**: what is put together of a scheme, a network location, a path and a query
without each other's delimiters is taken apart into them.  `partition_bare`, `splitScheme_ne` and
`splitNetloc_ne` go the other way.
-/

namespace PyUrl

open PyText

/-- What the reading of URLs needs to know about texts. -/
structure UrlTables where
  /-- `text.lower()` -/
  lower : Text → Text
  /-- `unicodedata.normalize("NFKC", text)` -/
  nfkc : Text → Text
  /-- `ipaddress.ip_address(text)` returns an IPv4 address. -/
  isIpv4 : Text → Bool
  /-- `ipaddress.ip_address(text)` returns an IPv6 address. -/
  isIpv6 : Text → Bool

/-- `text.partition(c)`: what is before the first `c`, and what is after it if there is one. -/
def partition (c : Char) (t : Text) : Text × Option Text :=
  match t.dropWhile (· ≠ c) with
  | [] => (t, none)
  | _ :: after => (t.takeWhile (· ≠ c), some after)

/-- `text.rpartition(c)`: what is after the last `c`, and what is before it if there is one. -/
def rpartition (c : Char) (t : Text) : Option Text × Text :=
  match partition c t.reverse with
  | (after, before) => (before.map List.reverse, after.reverse)

structure SplitUrl where
  scheme : Text
  netloc : Text
  path : Text
  query : Text
  fragment : Text
deriving DecidableEq, Repr

/-- `scheme_chars` -/
def isSchemeChar (c : Char) : Bool := c.isAlphanum || c == '+' || c == '-' || c == '.'

/-- The scheme in front of the first colon, if it is one. -/
def splitScheme (scheme url : Text) : Text × Text :=
  match partition ':' url with
  | (c :: cs, some rest) =>
      if c.isAlpha ∧ (c :: cs).all isSchemeChar then ((c :: cs).map Char.toLower, rest)
      else (scheme, url)
  | _ => (scheme, url)

/-- `_splitnetloc` on a text that begins with two slashes. -/
def splitNetloc : Text → Text × Text
  | '/' :: '/' :: rest =>
      let inside := fun c => c ≠ '/' ∧ c ≠ '?' ∧ c ≠ '#'
      (rest.takeWhile inside, rest.dropWhile inside)
  | url => ([], url)

/-- `_check_bracketed_host` -/
def bracketedHostOk (tables : UrlTables) (host : Text) : Bool :=
  match host with
  | 'v' :: rest =>
      let isHex := fun c : Char => c.isDigit || ('a' ≤ c && c ≤ 'f') || ('A' ≤ c && c ≤ 'F')
      !(rest.takeWhile isHex).isEmpty &&
        match rest.dropWhile isHex with
        | '.' :: c :: cs => (c :: cs).all (· ≠ '\n')
        | _ => false
  | _ => tables.isIpv6 host

/-- `_checknetloc` and the checks of brackets in a network location. -/
def netlocOk (tables : UrlTables) (netloc : Text) : Bool :=
  let plain := netloc.filter fun c => c ≠ '@' && c ≠ ':' && c ≠ '#' && c ≠ '?'
  (netloc.contains '[' == netloc.contains ']') &&
    (!netloc.contains '[' ||
      bracketedHostOk tables (partition ']' ((partition '[' netloc).2.getD [])).1) &&
    (netloc.all (fun c => c.toNat < 128) || tables.nfkc plain == plain ||
      !(tables.nfkc plain).any fun c => c == '/' || c == '?' || c == '#' || c == '@' || c == ':')

/-- `urlsplit(url, scheme)` -/
def urlsplit (tables : UrlTables) (url scheme : Text) : Option SplitUrl :=
  let cleaned := (url.dropWhile fun c => c.toNat ≤ 32).filter fun c =>
    c ≠ '\t' && c ≠ '\r' && c ≠ '\n'
  let (scheme, rest) := splitScheme scheme cleaned
  let (netloc, rest) := splitNetloc rest
  let (rest, fragment) := partition '#' rest
  let (path, query) := partition '?' rest
  if netlocOk tables netloc then
    some ⟨scheme, netloc, path, query.getD [], fragment.getD []⟩
  else none

namespace SplitUrl

variable (tables : UrlTables) (u : SplitUrl)

/-- `username is not None or password is not None` -/
def hasUserinfo : Bool := (rpartition '@' u.netloc).1.isSome

/-- `_hostinfo`: the host and the text of its port. -/
def hostinfo : Text × Option Text :=
  let info := (rpartition '@' u.netloc).2
  let (host, port) :=
    match partition '[' info with
    | (_, some bracketed) =>
        ((partition ']' bracketed).1, (partition ':' ((partition ']' bracketed).2.getD [])).2)
    | (_, none) => partition ':' info
  (host, port.filter fun p => !p.isEmpty)

def hostname : Option Text :=
  match u.hostinfo.1 with
  | [] => none
  | host =>
      match partition '%' host with
      | (host, none) => some (tables.lower host)
      | (host, some zone) => some (tables.lower host ++ '%' :: zone)

/-- The port; the outer `none` is a `ValueError`. -/
def port : Option (Option Nat) :=
  match u.hostinfo.2 with
  | none => some none
  | some digits =>
      if digits.all Char.isDigit ∧ digits.length ≤ 4300 ∧ Nat.ofDigitChars 10 digits 0 ≤ 65535 then
        some (some (Nat.ofDigitChars 10 digits 0))
      else none

end SplitUrl

def usesRelative : List String :=
  ["", "ftp", "http", "gopher", "nntp", "imap", "wais", "file", "https", "shttp", "mms", "prospero",
    "rtsp", "rtsps", "rtspu", "sftp", "svn", "svn+ssh", "ws", "wss"]

def usesNetloc : List String :=
  ["", "ftp", "http", "gopher", "nntp", "telnet", "imap", "wais", "file", "mms", "https", "shttp",
    "snews", "prospero", "rtsp", "rtsps", "rtspu", "rsync", "svn", "svn+ssh", "sftp", "nfs", "git",
    "git+ssh", "ws", "wss", "itms-services"]

def usesParams : List String :=
  ["", "ftp", "hdl", "prospero", "http", "imap", "https", "shttp", "rtsp", "rtsps", "rtspu", "sip",
    "sips", "mms", "sftp", "tel"]

def urlunsplit (u : SplitUrl) : Text :=
  let url :=
    if u.netloc ≠ [] then
      '/' :: '/' :: (u.netloc ++ if u.path ≠ [] ∧ u.path.head? ≠ some '/' then '/' :: u.path
        else u.path)
    else if ['/', '/'].isPrefixOf u.path then '/' :: '/' :: u.path
    else if u.scheme ≠ [] ∧ String.ofList u.scheme ∈ usesNetloc ∧ (u.path = [] ∨ u.path.head? = some '/') then
      '/' :: '/' :: u.path
    else u.path
  (if u.scheme = [] then [] else u.scheme ++ [':']) ++ url ++
    (if u.query = [] then [] else '?' :: u.query) ++
    (if u.fragment = [] then [] else '#' :: u.fragment)

/-- `_splitparams`: the parameters of the last segment of a path, where the scheme has any. -/
def splitParams (scheme path : Text) : Text × Text :=
  if String.ofList scheme ∉ usesParams then (path, []) else
  match rpartition '/' path with
  | (none, _) => ((partition ';' path).1, (partition ';' path).2.getD [])
  | (some before, last) =>
      match partition ';' last with
      | (_, none) => (path, [])
      | (kept, some params) => (before ++ '/' :: kept, params)

/-- One segment of a joined path. -/
def resolveSegment (resolved : List Text) (segment : Text) : List Text :=
  if segment = ['.', '.'] then resolved.dropLast
  else if segment = ['.'] then resolved
  else resolved ++ [segment]

/-- The path of a relative reference against that of its base. -/
def joinPath (base path : Text) : Text :=
  let baseParts := base.splitOn '/'
  let baseParts := if baseParts.getLast? = some [] then baseParts else baseParts.dropLast
  let parts := path.splitOn '/'
  let segments :=
    if path.head? = some '/' then parts
    else
      let all := baseParts ++ parts
      all.take 1 ++ (all.drop 1).dropLast.filter (fun s => !s.isEmpty) ++
        ((all.drop 1).getLast?).toList
  let resolved := segments.foldl resolveSegment []
  let resolved :=
    if segments.getLast? = some ['.'] ∨ segments.getLast? = some ['.', '.'] then resolved ++ [[]]
    else resolved
  match ['/'].intercalate resolved with
  | [] => ['/']
  | joined => joined

/-- A path with its parameters. -/
def withParams (path params : Text) : Text := if params = [] then path else path ++ ';' :: params

/-- `urljoin(base, url)` -/
def urljoin (tables : UrlTables) (base url : Text) : Option Text := do
  if base = [] then return url
  if url = [] then return base
  let b ← urlsplit tables base []
  let u ← urlsplit tables url b.scheme
  if u.scheme ≠ b.scheme ∨ String.ofList u.scheme ∉ usesRelative then return url
  -- every such scheme has a network location
  if u.netloc ≠ [] then return urlunsplit u
  let (basePath, baseParams) := splitParams b.scheme b.path
  let (path, params) := splitParams u.scheme u.path
  if path = [] ∧ params = [] then
    return urlunsplit { u with
      netloc := b.netloc
      path := withParams basePath baseParams
      query := if u.query = [] then b.query else u.query }
  return urlunsplit { u with netloc := b.netloc, path := withParams (joinPath basePath path) params }

/-! ## The shape of a split URL -/

/-- What follows a network location begins with a delimiter. -/
lemma head_splitNetloc {url : Text} {c : Char} (hnetloc : (splitNetloc url).1 ≠ [])
    (h : (splitNetloc url).2.head? = some c) : c = '/' ∨ c = '?' ∨ c = '#' := by
  unfold splitNetloc at hnetloc h
  split at h
  · next rest =>
      have hstop := List.head?_dropWhile_not (fun c => decide (c ≠ '/' ∧ c ≠ '?' ∧ c ≠ '#')) rest
      rw [h] at hstop
      simpa [or_iff_not_imp_left] using hstop
  · simp at hnetloc

lemma head_partition (c d : Char) (t : Text) (h : (partition c t).1.head? = some d) :
    t.head? = some d ∧ d ≠ c := by
  cases t with
  | nil => simp [partition] at h
  | cons a t =>
      by_cases ha : a = c
      · simp [partition, ha] at h
      · have hhead : (partition c (a :: t)).1.head? = some a := by
          simp only [partition]
          split
          · rfl
          · simp [ha]
        rw [hhead, Option.some.injEq] at h
        subst h
        exact ⟨rfl, ha⟩

/-- Behind a network location a path is empty or begins with a slash. -/
theorem path_of_urlsplit {tables : UrlTables} {url scheme : Text} {u : SplitUrl}
    (h : urlsplit tables url scheme = some u) (hnetloc : u.netloc ≠ []) :
    u.path = [] ∨ u.path.head? = some '/' := by
  simp only [urlsplit] at h
  split_ifs at h
  cases h
  set cleaned := (url.dropWhile fun c => c.toNat ≤ 32).filter fun c =>
    c ≠ '\t' && c ≠ '\r' && c ≠ '\n' with hcleaned
  generalize hrest : (splitScheme scheme cleaned).2 = rest at hnetloc ⊢
  cases hpath : (partition '?' (partition '#' (splitNetloc rest).2).1).1 with
  | nil => exact Or.inl rfl
  | cons c path =>
      right
      have hquery := head_partition '?' c _ (by rw [hpath]; rfl)
      have hfragment := head_partition '#' c _ hquery.1
      rw [List.head?_cons, Option.some.injEq]
      rcases head_splitNetloc hnetloc hfragment.1 with hslash | hmark | hhash
      · exact hslash
      · exact absurd hmark hquery.2
      · exact absurd hhash hfragment.2

/-! ## Parts -/

structure UrlParts where
  scheme : Text
  netloc : Text
  path : Text
  query : Option Text
  fragment : Option Text
deriving DecidableEq, Repr

/-- A URL taken apart at its delimiters: `urlsplit` but for what it removes and checks. -/
def urlParts (url : Text) : UrlParts :=
  let (scheme, rest) := splitScheme [] url
  let (netloc, rest) := splitNetloc rest
  let (rest, fragment) := partition '#' rest
  let (path, query) := partition '?' rest
  ⟨scheme, netloc, path, query, fragment⟩

lemma partition_append {c : Char} {s : Text} (h : c ∉ s) (t : Text) :
    partition c (s ++ c :: t) = (s, some t) := by
  have hne : ∀ d ∈ s, (decide (d ≠ c)) = true := by
    intro d hd
    simpa using ne_of_mem_of_not_mem hd h
  unfold partition
  rw [List.dropWhile_append_of_pos hne, List.takeWhile_append_of_pos hne]
  simp

lemma partition_of_not_mem {c : Char} {t : Text} (h : c ∉ t) : partition c t = (t, none) := by
  have hne : ∀ d ∈ t, (decide (d ≠ c)) = true := by
    intro d hd
    simpa using ne_of_mem_of_not_mem hd h
  have hdrop : t.dropWhile (· ≠ c) = [] := by
    rw [← List.append_nil t, List.dropWhile_append_of_pos hne, List.dropWhile_nil]
  unfold partition
  rw [hdrop]

lemma splitScheme_spelled {spelled rest : Text} (hspelled : ∀ c ∈ spelled, c.isAlpha = true)
    (hne : spelled ≠ []) :
    splitScheme [] (spelled ++ ':' :: rest) = (spelled.map Char.toLower, rest) := by
  have hcolon : ':' ∉ spelled := fun h => absurd (hspelled ':' h) (by decide)
  obtain ⟨c, cs, rfl⟩ := List.exists_cons_of_ne_nil hne
  have hall : (c :: cs).all isSchemeChar = true := by
    refine List.all_eq_true.mpr fun d hd => ?_
    simp [isSchemeChar, Char.isAlphanum, hspelled d hd]
  rw [splitScheme, partition_append hcolon]
  dsimp only
  rw [if_pos ⟨hspelled c List.mem_cons_self, hall⟩]

lemma splitScheme_append {scheme rest : Text} (hscheme : ∀ c ∈ scheme, c.isAlpha = true ∧ c.toLower = c)
    (hne : scheme ≠ []) : splitScheme [] (scheme ++ ':' :: rest) = (scheme, rest) := by
  have hlower : scheme.map Char.toLower = scheme :=
    (List.map_congr_left fun d hd => (hscheme d hd).2).trans (List.map_id _)
  rw [splitScheme_spelled (fun c hc => (hscheme c hc).1) hne, hlower]

lemma splitNetloc_append {netloc path : Text} (hnetloc : ∀ c ∈ netloc, c ≠ '/' ∧ c ≠ '?' ∧ c ≠ '#')
    (hpath : path.head? = some '/') : splitNetloc ('/' :: '/' :: (netloc ++ path)) = (netloc, path) := by
  obtain ⟨path, rfl⟩ : ∃ rest, path = '/' :: rest := by
    cases path with
    | nil => cases hpath
    | cons c rest => exact ⟨rest, by rw [Option.some.inj hpath]⟩
  have hinside : ∀ c ∈ netloc, decide (c ≠ '/' ∧ c ≠ '?' ∧ c ≠ '#') = true := by
    intro c hc
    exact decide_eq_true (hnetloc c hc)
  simp only [splitNetloc]
  rw [List.takeWhile_append_of_pos hinside, List.dropWhile_append_of_pos hinside]
  simp

lemma partition_some {c : Char} {t s r : Text} (h : partition c t = (s, some r)) :
    c ∉ s ∧ t = s ++ c :: r := by
  unfold partition at h
  split at h
  · cases h
  · next d after hdrop =>
    cases h
    have hd : d = c := by
      have hstop := List.head?_dropWhile_not (fun d => decide (d ≠ c)) t
      rw [hdrop] at hstop
      simpa using hstop
    refine ⟨fun hmem => ?_, ?_⟩
    · have hall := List.all_takeWhile (p := fun d => decide (d ≠ c)) (l := t)
      simpa using List.all_eq_true.mp hall c hmem
    · rw [← hd, ← hdrop, hd, List.takeWhile_append_dropWhile]

/-- Nothing stands behind the delimiter, which may be missing. -/
lemma partition_bare {c : Char} {t s : Text} (h : (partition c t).1 = s)
    (hbare : (partition c t).2.getD [] = []) : t = s ∨ t = s ++ [c] := by
  cases hpart : partition c t with
  | mk before after =>
      rw [hpart] at h hbare
      dsimp only at h hbare
      subst h
      cases after with
      | none =>
          unfold partition at hpart
          split at hpart
          · cases hpart
            exact .inl rfl
          · cases hpart
      | some after =>
          rw [Option.getD_some] at hbare
          subst hbare
          exact .inr (partition_some hpart).2

/-- Where a scheme was read. -/
lemma splitScheme_ne {url scheme rest : Text} (h : splitScheme [] url = (scheme, rest))
    (hne : scheme ≠ []) :
    ∃ spelled, spelled.map Char.toLower = scheme ∧ url = spelled ++ ':' :: rest := by
  unfold splitScheme at h
  split at h
  · next c cs after hpart =>
    split at h
    · cases h
      exact ⟨c :: cs, rfl, (partition_some hpart).2⟩
    · cases h
      exact absurd rfl hne
  · cases h
    exact absurd rfl hne

/-- Where a network location was read. -/
lemma splitNetloc_ne {url netloc rest : Text} (h : splitNetloc url = (netloc, rest))
    (hne : netloc ≠ []) : url = '/' :: '/' :: (netloc ++ rest) := by
  unfold splitNetloc at h
  split at h
  · cases h
    rw [List.takeWhile_append_dropWhile]
  · cases h
    exact absurd rfl hne

/-- **A URL that is put together of parts has these parts.** -/
theorem urlParts_append {scheme netloc path : Text} {query : Option Text}
    (hscheme : ∀ c ∈ scheme, c.isAlpha = true ∧ c.toLower = c) (hne : scheme ≠ [])
    (hnetloc : ∀ c ∈ netloc, c ≠ '/' ∧ c ≠ '?' ∧ c ≠ '#') (hpath : path.head? = some '/')
    (hplain : '?' ∉ path ∧ '#' ∉ path) (hquery : ∀ q ∈ query, '#' ∉ q) :
    urlParts (scheme ++ "://".toList ++ netloc ++ (path ++ query.elim [] ('?' :: ·))) =
      ⟨scheme, netloc, path, query, none⟩ := by
  have hurl : scheme ++ "://".toList ++ netloc ++ (path ++ query.elim [] ('?' :: ·)) =
      scheme ++ ':' :: '/' :: '/' :: (netloc ++ (path ++ query.elim [] ('?' :: ·))) := by
    simp
  have hhead : (path ++ query.elim [] ('?' :: ·)).head? = some '/' := by
    rw [List.head?_append, hpath, Option.some_or]
  have hfragment : '#' ∉ path ++ query.elim [] ('?' :: ·) := by
    cases query with
    | none => simpa using hplain.2
    | some q => simpa [hplain.2] using hquery q rfl
  rw [urlParts, hurl, splitScheme_append hscheme hne]
  dsimp only
  rw [splitNetloc_append hnetloc hhead]
  dsimp only
  rw [partition_of_not_mem hfragment]
  dsimp only
  cases query with
  | none =>
      rw [Option.elim_none, List.append_nil, partition_of_not_mem hplain.1]
  | some q =>
      rw [Option.elim_some, partition_append hplain.1]

end PyUrl
