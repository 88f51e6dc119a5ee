import StockResearch.Providers.EndpointPolicy

/-!
# What an expanded endpoint is

`Expanded` is what a request may be relied on for: its URL has the scheme and the host of the policy
and no fragment, its path is the path template with every parameter encoded inside its own segment,
no segment is a dot segment, and the query decodes to the query of the template.

**Reading the template.**  `spelled_pieces` and `names_pieces`: cutting a text at its placeholders
loses nothing and finds the names that `findall` finds.

**Filling it.**  `foldlM_substitute`: the loop over the names is `fill`, so `Placeholders.fill_eq_iff`
says when it does what it should.

**Decoding it.**  `unquote_spelled`: a segment decodes to its template with the values in it unless a
plain `%` meets two hexadecimal digits (`Completes`).

**`expanded_iff`**: an expansion that succeeds is as it should be exactly if no name is formed and no
escape is completed.
-/

namespace StockResearch.Providers

open PyText PyUrl Percent Placeholders

variable {library : EndpointLibrary}

/-! ## Reading the template -/

lemma mem_tries_placeholder {t rest : Text} (h : rest ∈ placeholder.tries t) :
    ∃ name, t = marked name ++ rest ∧ ∀ c ∈ name, isNameChar c = true := by
  rw [placeholder, Regex.mem_tries_seq] at h
  obtain ⟨t₁, h₁, h⟩ := h
  rw [Regex.mem_tries_seq] at h
  obtain ⟨t₂, h₂, h⟩ := h
  rw [Regex.mem_tries_seq] at h
  obtain ⟨t₃, h₃, h₄⟩ := h
  obtain ⟨opening, rfl, hopening⟩ := Regex.mem_tries_char.mp h₁
  obtain ⟨first, rfl, hfirst⟩ := Regex.mem_tries_char.mp h₂
  have honly : (Regex.rep 0 (some 63) (.char isNameChar)).Only fun c => isNameChar c = true :=
    fun _ => id
  obtain ⟨more, rfl, hmore⟩ := honly.takes t₂ t₃ h₃
  obtain ⟨closing, rfl, hclosing⟩ := Regex.mem_tries_char.mp h₄
  obtain rfl := beq_iff_eq.mp hopening
  obtain rfl := beq_iff_eq.mp hclosing
  refine ⟨first :: more, by simp [marked], fun c hc => ?_⟩
  rcases List.mem_cons.mp hc with rfl | hc
  · simp [isNameChar, hfirst]
  · exact hmore c hc

lemma braceless_of_isNameChar {name : Text} (h : ∀ c ∈ name, isNameChar c = true) :
    Braceless name :=
  ⟨fun hc => absurd (h _ hc) (by decide), fun hc => absurd (h _ hc) (by decide)⟩

lemma nameOf_marked (name : Text) : nameOf (marked name) = name := by
  simp [nameOf, marked]

/-- What one step finds at the start of a text. -/
lemma take_match {c : Char} {cs rest : Text}
    (h : (placeholder.tries (c :: cs)).head? = some rest) :
    ∃ name, c :: cs = marked name ++ rest ∧ (∀ c ∈ name, isNameChar c = true) ∧
      (c :: cs).take (cs.length + 1 - rest.length) = marked name ∧ rest.length ≤ cs.length := by
  obtain ⟨name, heq, hname⟩ := mem_tries_placeholder (List.mem_of_head? h)
  have hlength : (c :: cs).length = (marked name).length + rest.length := by
    rw [heq, List.length_append]
  rw [List.length_cons] at hlength
  have hpos : 0 < (marked name).length := List.length_pos_iff.mpr (marked_ne_nil name)
  refine ⟨name, heq, hname, ?_, by omega⟩
  rw [hlength, Nat.add_sub_cancel, heq, List.take_left]

lemma spelled_piecesIn (value : Text → Text) (n : Nat) :
    ∀ t : Text, t.length ≤ n → spelled value [] (piecesIn n t) = t := by
  induction n with
  | zero =>
      intro t ht
      obtain rfl := List.length_eq_zero_iff.mp (Nat.le_zero.mp ht)
      rfl
  | succ n ih =>
      intro t ht
      cases t with
      | nil => rfl
      | cons c cs =>
          rw [piecesIn]
          split
          · rw [spelled_cons, ih cs (Nat.le_of_succ_le_succ ht)]
            rfl
          · next rest hrest =>
            obtain ⟨name, heq, -, htake, hlength⟩ := take_match hrest
            rw [spelled_cons, ih rest (hlength.trans (Nat.le_of_succ_le_succ ht)), htake,
              nameOf_marked, heq]
            rfl

/-- **Nothing is lost.** -/
lemma spelled_pieces (value : Text → Text) (t : Text) : spelled value [] (pieces t) = t :=
  spelled_piecesIn value t.length t le_rfl

lemma names_piecesIn (n : Nat) :
    ∀ t : Text, names (piecesIn n t) = (placeholder.finditerIn n t).map nameOf := by
  induction n with
  | zero => exact fun _ => rfl
  | succ n ih =>
      intro t
      cases t with
      | nil => rfl
      | cons c cs =>
          rw [piecesIn, Regex.finditerIn]
          cases (placeholder.tries (c :: cs)).head? with
          | none => exact ih cs
          | some rest => exact congrArg _ (ih rest)

/-- **The names are those that are found.** -/
lemma names_pieces (t : Text) : names (pieces t) = placeholderNames t := names_piecesIn t.length t

lemma isNameChar_names (n : Nat) :
    ∀ t : Text, ∀ name ∈ names (piecesIn n t), ∀ c ∈ name, isNameChar c = true := by
  induction n with
  | zero => exact fun _ name hname => by cases hname
  | succ n ih =>
      intro t
      cases t with
      | nil => exact fun name hname => by cases hname
      | cons c cs =>
          rw [piecesIn]
          split
          · exact ih cs
          · next rest hrest =>
            obtain ⟨name, -, hchars, htake, -⟩ := take_match hrest
            rw [htake, nameOf_marked]
            intro m hm
            rcases List.mem_cons.mp hm with rfl | hm
            · exact hchars
            · exact ih rest m hm

/-! ## Filling it -/

/-- `template.parameters[name]` -/
def ProviderHttpRequestTemplate.value (template : ProviderHttpRequestTemplate library)
    (name : Text) : Text :=
  (template.parameters.lookup name).getD []

/-- A value in a path. -/
def ProviderHttpRequestTemplate.quoted (template : ProviderHttpRequestTemplate library)
    (name : Text) : Text :=
  quote (template.value name)

variable {policy : ProviderEndpointPolicy library} {template : ProviderHttpRequestTemplate library}

lemma substitute_ok {path name path' : Text}
    (h : substitute library template.parameters path name = .ok path') :
    unsafePathParameter library (template.value name) = false ∧
      path' = replaceAfter (marked name) (template.quoted name) 0 path := by
  obtain ⟨value, hvalue, h⟩ := Checked.require_bind_ok.mp h
  obtain ⟨hsafe, h⟩ := Checked.check_bind_ok.mp h
  have heq : template.value name = value := by
    rw [ProviderHttpRequestTemplate.value, hvalue, Option.getD_some]
  refine ⟨by rw [heq]; exact Bool.eq_false_iff.mpr hsafe, ?_⟩
  rw [ProviderHttpRequestTemplate.quoted, heq]
  exact (Except.ok.inj h).symm

/-- **The loop over the names.** -/
lemma foldlM_substitute (names : List Text) : ∀ {path path' : Text},
    names.foldlM (substitute library template.parameters) path = .ok path' →
      path' = fill template.quoted names path ∧
        ∀ name ∈ names, unsafePathParameter library (template.value name) = false := by
  induction names with
  | nil =>
      intro path path' h
      exact ⟨(Except.ok.inj h).symm, fun name hname => by cases hname⟩
  | cons name names ih =>
      intro path path' h
      rw [List.foldlM_cons] at h
      obtain ⟨next, hnext, h⟩ := Checked.bind_ok.mp h
      obtain ⟨hsafe, rfl⟩ := substitute_ok hnext
      obtain ⟨hpath, hall⟩ := ih h
      refine ⟨hpath, fun m hm => ?_⟩
      rcases List.mem_cons.mp hm with rfl | hm
      · exact hsafe
      · exact hall m hm

lemma braceless_quoted (template : ProviderHttpRequestTemplate library) (name : Text) :
    Braceless (template.quoted name) :=
  ⟨not_mem_quote (by decide) (by decide) _, not_mem_quote (by decide) (by decide) _⟩

/-! ## Decoding it -/

/-- A plain `%` of a segment stands in front of two hexadecimal digits. -/
def Completes (value : Text → Text) (names : List Text) (segment : List Piece) : Prop :=
  ∃ front back, segment = front ++ .plain '%' :: back ∧
    (hexPair? (spelled value names back)).isSome = true

variable {value : Text → Text} {names : List Text} {p : Piece} {segment : List Piece}

lemma completes_cons : Completes value names (p :: segment) ↔ Completes value names segment ∨
    p = .plain '%' ∧ (hexPair? (spelled value names segment)).isSome = true := by
  constructor
  · rintro ⟨front, back, heq, hpair⟩
    cases front with
    | nil =>
        obtain ⟨rfl, rfl⟩ := List.cons.inj heq
        exact Or.inr ⟨rfl, hpair⟩
    | cons q front => exact Or.inl ⟨front, back, (List.cons.inj heq).2, hpair⟩
  · rintro (⟨front, back, rfl, hpair⟩ | ⟨rfl, hpair⟩)
    · exact ⟨p :: front, back, rfl, hpair⟩
    · exact ⟨[], segment, rfl, hpair⟩

/-- **What a segment decodes to.** -/
lemma unquote_spelled (value : Text → Text) (names : List Text) (segment : List Piece)
    (hnames : ∀ m ∈ Placeholders.names segment, m ∈ names) :
    unquote (spelled (fun m => quote (value m)) names segment) =
        encode (spelled value names segment) ∧
      ¬ Completes (fun m => quote (value m)) names segment ∨
    (unquote (spelled (fun m => quote (value m)) names segment)).length <
        (encode (spelled value names segment)).length ∧
      Completes (fun m => quote (value m)) names segment := by
  induction segment with
  | nil =>
      refine Or.inl ⟨rfl, ?_⟩
      rintro ⟨front, back, heq, -⟩
      simp at heq
  | cons p segment ih =>
      have ih := ih fun m hm => hnames m (mem_names_cons.mpr (Or.inr hm))
      have hencode : ∀ s t : Text, encode (s ++ t) = encode s ++ encode t := fun s t =>
        List.flatMap_append
      rw [spelled_cons, spelled_cons, hencode]
      by_cases hp : p = .plain '%'
      · subst hp
        rw [completes_cons]
        change unquote ('%' :: spelled (fun m => quote (value m)) names segment) =
            encode ['%'] ++ encode (spelled value names segment) ∧ _ ∨
          (unquote ('%' :: spelled (fun m => quote (value m)) names segment)).length <
            (encode ['%'] ++ encode (spelled value names segment)).length ∧ _
        cases hpair : hexPair? (spelled (fun m => quote (value m)) names segment) with
        | none =>
            rw [unquote_percent hpair, List.append_cancel_left_eq, List.length_append,
              List.length_append, Nat.add_lt_add_iff_left]
            simpa using ih
        | some b =>
            have hlt := length_unquote_percent hpair
            rw [List.length_append] at hlt ⊢
            refine Or.inr ⟨?_, Or.inr ⟨rfl, rfl⟩⟩
            rcases ih with ⟨heq, -⟩ | ⟨hle, -⟩
            · rwa [← heq]
            · omega
      · -- nothing but a plain `%` can start an escape here
        have hfront : ∀ t, unquote (p.spell (fun m => quote (value m)) names ++ t) =
            encode (p.spell value names) ++ unquote t := by
          intro t
          cases p with
          | plain c =>
              have hc : c ≠ '%' := fun h => hp (congrArg Piece.plain h)
              simp only [Piece.spell, encode, List.flatMap_singleton]
              exact unquote_cons hc t
          | place m =>
              have hm := hnames m (mem_names_cons.mpr (Or.inl rfl))
              simp only [Piece.spell, hm, if_true]
              exact unquote_quote_append (value m) t
        have hcompletes : Completes (fun m => quote (value m)) names (p :: segment) ↔
            Completes (fun m => quote (value m)) names segment := by
          rw [completes_cons, or_iff_left fun h => hp h.1]
        rw [hfront, hcompletes, List.append_cancel_left_eq, List.length_append, List.length_append,
          Nat.add_lt_add_iff_left]
        exact ih

/-! ## Hosts -/

lemma canonicalHost_ok {value host : Text} (h : canonicalHost library value = .ok host) :
    ∃ encoded, encodeIdna library value = some encoded ∧ host = library.casefold encoded ∧
      dnsName.fullmatch host = true := by
  obtain ⟨encoded, hencoded, h⟩ := Checked.require_bind_ok.mp h
  obtain ⟨hcheck, h⟩ := Checked.check_bind_ok.mp h
  obtain rfl := Except.ok.inj h
  refine ⟨encoded, hencoded, rfl, ?_⟩
  simpa using (not_or.mp hcheck).2

/-- A host ends where it should. -/
lemma plain_of_canonicalHost {value host : Text} (h : canonicalHost library value = .ok host) :
    ∀ c ∈ host, c ≠ '/' ∧ c ≠ '?' ∧ c ≠ '#' ∧ c ≠ ':' := by
  obtain ⟨-, -, -, hmatch⟩ := canonicalHost_ok h
  have honly : dnsName.Only fun c => c ≠ '/' ∧ c ≠ '?' ∧ c ≠ '#' ∧ c ≠ ':' := by
    have hchar : ∀ c, isHostChar c = true → c ≠ '/' ∧ c ≠ '?' ∧ c ≠ '#' ∧ c ≠ ':' := by
      intro c hc
      refine ⟨?_, ?_, ?_, ?_⟩ <;> rintro rfl <;> exact absurd hc (by decide)
    have hlabel : dnsLabel.Only fun c => c ≠ '/' ∧ c ≠ '?' ∧ c ≠ '#' ∧ c ≠ ':' := by
      refine ⟨hchar, fun c hc => ?_, hchar⟩
      rcases (Bool.or_eq_true _ _).mp hc with hc | hc
      · exact hchar c hc
      · obtain rfl := beq_iff_eq.mp hc
        decide
    refine ⟨hlabel, fun c hc => ?_, hlabel⟩
    obtain rfl := beq_iff_eq.mp hc
    decide
  exact honly.fullmatch hmatch

lemma canonicalHost_ascii {host : Text} (hascii : isAscii policy.host = true)
    (h : canonicalHost library policy.host = .ok host) : host = policy.host := by
  obtain ⟨encoded, hencoded, rfl, -⟩ := canonicalHost_ok h
  have hne : policy.host ≠ [] := by
    intro hnil
    have := policy.host_ok.1
    simp [hnil] at this
  have hsame : encoded = policy.host := by
    rw [encodeIdna, if_neg hne, if_pos hascii] at hencoded
    dsimp only at hencoded
    split at hencoded
    · exact (Option.some.inj hencoded).symm
    · cases hencoded
  have hfolded := (not_or.mp (Checked.check_bind_ok.mp policy.transport_ok).1).1
  rw [hsame]
  exact (not_not.mp hfolded).symm

/-! ## Requests -/

/-- What an expansion that succeeds has gone through. -/
lemma expandEndpoint_ok {request : CanonicalProviderRequest}
    (h : expandEndpoint library policy template = .ok request) :
    canonicalHost library policy.host = .ok request.host ∧
      (∀ m, m ∈ placeholderNames policy.pathTemplate ↔ m ∈ policy.parameterNames) ∧
      request.path = fill template.quoted policy.parameterNames policy.pathTemplate ∧
      (∀ m ∈ policy.parameterNames, unsafePathParameter library (template.value m) = false) ∧
      request.path.head? = some '/' ∧ ¬ "/../".toList <:+: request.path ++ ['/'] ∧
      ¬ "/./".toList <:+: request.path ++ ['/'] ∧
      request.query = template.query.insertionSort itemLe ∧ request.port = policy.port ∧
      request.url = policy.scheme ++ "://".toList ++ request.host ++
        (request.path ++ (if urlencode request.query = [] then none
          else some (urlencode request.query)).elim [] ('?' :: ·)) := by
  obtain ⟨-, h⟩ := Checked.check_bind_ok.mp h
  obtain ⟨-, h⟩ := Checked.check_bind_ok.mp h
  obtain ⟨-, h⟩ := Checked.check_bind_ok.mp h
  obtain ⟨host, hhost, h⟩ := Checked.bind_ok.mp h
  obtain ⟨hnames, h⟩ := Checked.check_bind_ok.mp h
  obtain ⟨path, hpath, h⟩ := Checked.bind_ok.mp h
  obtain ⟨hcheck, h⟩ := Checked.check_bind_ok.mp h
  obtain rfl := Except.ok.inj h
  obtain ⟨hfill, hsafe⟩ := foldlM_substitute policy.parameterNames hpath
  simp only [not_or, not_not] at hcheck
  have hmembers : placeholderNames policy.pathTemplate ⊆ policy.parameterNames ∧
      policy.parameterNames ⊆ placeholderNames policy.pathTemplate := by
    simpa [sameMembers] using hnames
  refine ⟨hhost, fun m => ⟨fun hm => hmembers.1 hm, fun hm => hmembers.2 hm⟩, hfill, hsafe,
    hcheck.1, hcheck.2.2.1, hcheck.2.2.2, rfl, rfl, ?_⟩
  dsimp only
  rw [if_pos policy.port_ok]
  split <;> simp

/-- The segments of a path template. -/
def ProviderEndpointPolicy.segments (policy : ProviderEndpointPolicy library) : List (List Piece) :=
  (pieces policy.pathTemplate).splitOnP (· == .plain '/')

/-- What a request should be. -/
structure Expanded (policy : ProviderEndpointPolicy library)
    (template : ProviderHttpRequestTemplate library) (request : CanonicalProviderRequest) : Prop where
  scheme : (urlParts request.url).scheme = policy.scheme
  netloc : (urlParts request.url).netloc = request.host
  host : canonicalHost library policy.host = .ok request.host
  asciiHost : isAscii policy.host = true → request.host = policy.host
  /-- No port in the network location stands for 443. -/
  port : request.port = policy.port ∧ policy.port = 443 ∧ ':' ∉ request.host
  path : (urlParts request.url).path = request.path
  fragment : (urlParts request.url).fragment = none
  count : (request.path.splitOn '/').length = (policy.pathTemplate.splitOn '/').length
  encoded : request.path.splitOn '/' =
    policy.segments.map (spelled template.quoted policy.parameterNames)
  decoded : (request.path.splitOn '/').map unquote =
    policy.segments.map fun segment => encode (spelled template.value policy.parameterNames segment)
  undotted : ∀ segment ∈ request.path.splitOn '/',
    unquote segment ≠ encode ".".toList ∧ unquote segment ≠ encode "..".toList
  query : parseQuery ((urlParts request.url).query.getD []) =
    request.query.map fun item => (encode item.1, encode item.2)
  mapping : request.query.Perm template.query

/-! ## The segments of a path -/

lemma mem_names_of_place {pieces : List Piece} {m : Text} (h : Piece.place m ∈ pieces) :
    m ∈ Placeholders.names pieces :=
  List.mem_filterMap.mpr ⟨.place m, h, rfl⟩

lemma mem_of_mem_splitOnP (q : Piece → Bool) {pieces : List Piece} :
    ∀ segment ∈ pieces.splitOnP q, segment ⊆ pieces := by
  induction pieces with
  | nil =>
      intro segment h
      obtain rfl := List.mem_singleton.mp h
      exact List.Subset.refl _
  | cons p pieces ih =>
      intro segment h
      rw [List.splitOnP_cons_eq_if_modifyHead] at h
      split at h
      · rcases List.mem_cons.mp h with rfl | h
        · exact List.nil_subset _
        · exact List.Subset.trans (ih segment h) (List.subset_cons_self p pieces)
      · cases hsplit : pieces.splitOnP q with
        | nil =>
            rw [hsplit] at h
            cases h
        | cons first rest =>
            rw [hsplit] at h ih
            rcases List.mem_cons.mp h with rfl | h
            · exact List.cons_subset_cons p (ih first List.mem_cons_self)
            · exact List.Subset.trans (ih segment (List.mem_cons_of_mem first h))
                (List.subset_cons_self p pieces)

/-- A plain character of a template stands in its text. -/
lemma mem_of_plain_mem {c : Char} {t : Text} (h : Piece.plain c ∈ pieces t) : c ∈ t := by
  rw [← spelled_pieces id t]
  exact List.mem_flatMap.mpr ⟨.plain c, h, List.mem_singleton.mpr rfl⟩

/-- The template has as many segments as its text. -/
lemma length_segments (policy : ProviderEndpointPolicy library) :
    policy.segments.length = (policy.pathTemplate.splitOn '/').length := by
  have hsplit := @splitOn_spelled id [] (pieces policy.pathTemplate) '/' fun p hp hne hc => by
    cases p with
    | plain d => exact hne (congrArg Piece.plain (List.mem_singleton.mp hc).symm)
    | place m =>
        have hchars := isNameChar_names _ _ m (mem_names_of_place hp)
        rw [Piece.spell, if_neg List.not_mem_nil] at hc
        rcases List.mem_append.mp hc with hc | hc
        · rcases List.mem_cons.mp hc with hc | hc
          · cases hc
          · exact absurd (hchars '/' hc) (by decide)
        · cases List.mem_singleton.mp hc
  rw [spelled_pieces] at hsplit
  rw [hsplit, List.length_map, ProviderEndpointPolicy.segments]

section Named

variable (hnames : ∀ m ∈ Placeholders.names (pieces policy.pathTemplate), m ∈ policy.parameterNames)
include hnames

/-- A reserved character of a filled template stands in the template. -/
lemma mem_of_mem_spelled {c : Char} (hreserved : isUnreserved c = false) (hpercent : c ≠ '%')
    (h : c ∈ spelled template.quoted policy.parameterNames (pieces policy.pathTemplate)) :
    c ∈ policy.pathTemplate := by
  obtain ⟨p, hp, hc⟩ := List.mem_flatMap.mp h
  cases p with
  | plain d =>
      obtain rfl := List.mem_singleton.mp hc
      exact mem_of_plain_mem hp
  | place m =>
      rw [Piece.spell, if_pos (hnames m (mem_names_of_place hp))] at hc
      exact absurd hc (not_mem_quote hreserved hpercent _)

/-- A filled template has the segments of the template, filled. -/
lemma splitOn_filled :
    (spelled template.quoted policy.parameterNames (pieces policy.pathTemplate)).splitOn '/' =
      policy.segments.map (spelled template.quoted policy.parameterNames) := by
  refine splitOn_spelled fun p hp hne hc => ?_
  cases p with
  | plain d => exact hne (congrArg Piece.plain (List.mem_singleton.mp hc).symm)
  | place m =>
      rw [Piece.spell, if_pos (hnames m (mem_names_of_place hp))] at hc
      exact not_mem_quote (by decide) (by decide) _ hc

lemma names_segment (hsegment : segment ∈ policy.segments) :
    ∀ m ∈ Placeholders.names segment, m ∈ policy.parameterNames := by
  intro m hm
  obtain ⟨p, hp, hplace⟩ := List.mem_filterMap.mp hm
  cases p with
  | plain c => cases hplace
  | place name =>
      obtain rfl : name = m := Option.some.inj hplace
      exact hnames name (mem_names_of_place (mem_of_mem_splitOnP _ segment hsegment hp))

/-- **A path is cut into the filled segments exactly if it is the filled template.** -/
lemma splitOn_eq_iff {path : Text} :
    path.splitOn '/' = policy.segments.map (spelled template.quoted policy.parameterNames) ↔
      path = spelled template.quoted policy.parameterNames (pieces policy.pathTemplate) := by
  rw [← splitOn_filled hnames]
  constructor
  · intro h
    have hjoin := congrArg (List.intercalate ['/']) h
    rwa [List.intercalate_splitOn, List.intercalate_splitOn] at hjoin
  · rintro rfl
    rfl

/-- **When every segment decodes to its template with the values in it.** -/
lemma decoded_iff :
    (policy.segments.map (spelled template.quoted policy.parameterNames)).map unquote =
        policy.segments.map (fun segment =>
          encode (spelled template.value policy.parameterNames segment)) ↔
      ∀ segment ∈ policy.segments, ¬ Completes template.quoted policy.parameterNames segment := by
  rw [List.map_map, List.map_inj_left]
  refine forall₂_congr fun segment hsegment => ?_
  rcases unquote_spelled template.value policy.parameterNames segment
    (names_segment hnames hsegment) with ⟨heq, hno⟩ | ⟨hlt, hcompletes⟩
  · exact iff_of_true heq hno
  · exact iff_of_false (fun heq => absurd (congrArg List.length heq) hlt.ne) (not_not_intro hcompletes)

end Named

/-- A value that no encoding changes. -/
lemma spelled_quoted (h : ∀ c ∈ spelled template.value names segment, isUnreserved c = true) :
    spelled template.quoted names segment = spelled template.value names segment := by
  induction segment with
  | nil => rfl
  | cons p segment ih =>
      rw [spelled_cons] at h
      rw [spelled_cons, spelled_cons, ih fun c hc => h c (List.mem_append_right _ hc)]
      congr 1
      cases p with
      | plain c => rfl
      | place m =>
          have hplace := fun c hc => h c (List.mem_append_left _ hc)
          rw [Piece.spell] at hplace
          rw [Piece.spell, Piece.spell]
          split
          · next hm =>
            rw [if_pos hm] at hplace
            exact quote_of_unreserved hplace
          · rfl

/-- The check for dot segments finds every one. -/
lemma not_mem_splitOn {path dots : Text} (hpath : path.head? = some '/')
    (hdots : dots.head? = some '.') (h : ¬ '/' :: dots ++ ['/'] <:+: path ++ ['/']) :
    dots ∉ path.splitOn '/' := by
  intro hmem
  rcases List.infix_cons_iff.mp (infix_of_mem_splitOn hmem) with hprefix | hinfix
  · obtain ⟨rest, hrest⟩ := hprefix
    cases path with
    | nil => cases hpath
    | cons c path =>
        obtain rfl : c = '/' := Option.some.inj hpath
        cases dots with
        | nil => cases hdots
        | cons d dots =>
            obtain rfl : d = '.' := Option.some.inj hdots
            cases (List.cons.inj (List.cons.inj hrest).2).1
  · exact h hinfix

/-! ## The expansion -/

lemma nodup_parameterNames (policy : ProviderEndpointPolicy library) :
    policy.parameterNames.Nodup := by
  have hsorted := Checked.check_ok.mp policy.parameterNames_ok.2
  rw [not_not.mp hsorted]
  exact (List.perm_insertionSort _ _).nodup_iff.mpr (List.nodup_dedup _)

/-- Nothing comes between the text of a template and the URL that is read of it. -/
structure Clean (policy : ProviderEndpointPolicy library)
    (template : ProviderHttpRequestTemplate library) : Prop where
  /-- No value makes a name of its own between two plain braces. -/
  unformed : ¬ FormsInTurn template.quoted [] policy.parameterNames (pieces policy.pathTemplate)
  /-- No plain `%` meets two digits. -/
  uncompleted : ∀ segment ∈ policy.segments,
    ¬ Completes template.quoted policy.parameterNames segment

variable {request : CanonicalProviderRequest}

/-- **When the path is the filled template.** -/
lemma path_eq_iff (h : expandEndpoint library policy template = .ok request) :
    request.path = spelled template.quoted policy.parameterNames (pieces policy.pathTemplate) ↔
      ¬ FormsInTurn template.quoted [] policy.parameterNames (pieces policy.pathTemplate) := by
  obtain ⟨-, hnames, hpath, -⟩ := expandEndpoint_ok h
  rw [← names_pieces] at hnames
  have hbraceless : ∀ m ∈ policy.parameterNames, Braceless m := fun m hm =>
    braceless_of_isNameChar (isNameChar_names _ _ m ((hnames m).mpr hm))
  rw [← fill_eq_iff (braceless_quoted template) (nodup_parameterNames policy) hbraceless
    fun m hm => (hnames m).mp hm, spelled_pieces, hpath]

lemma urlParts_url (h : expandEndpoint library policy template = .ok request)
    (hplain : '?' ∉ request.path ∧ '#' ∉ request.path) :
    urlParts request.url = ⟨policy.scheme, request.host, request.path,
      if urlencode request.query = [] then none else some (urlencode request.query), none⟩ := by
  obtain ⟨hhost, -, -, -, hhead, -, -, -, -, hurl⟩ := expandEndpoint_ok h
  rw [hurl]
  refine urlParts_append ?_ ?_ (fun c hc => ?_) hhead hplain fun q hq => ?_
  · rw [policy.scheme_ok]
    exact forall_of_all (by decide)
  · rw [policy.scheme_ok]
    decide
  · obtain ⟨hslash, hmark, hhash, -⟩ := plain_of_canonicalHost hhost c hc
    exact ⟨hslash, hmark, hhash⟩
  · split at hq
    · cases hq
    · obtain rfl := Option.some.inj hq
      exact not_mem_urlencode (by decide) (by decide) _

/-- A dot segment is plain text, so it is seen. -/
lemma undotted_of_decoded {segment : List Piece} {dots : Text}
    (hdots : dots = ".".toList ∨ dots = "..".toList)
    (hdecoded : unquote (spelled template.quoted names segment) =
      encode (spelled template.value names segment))
    (hpath : dots ∉ request.path.splitOn '/')
    (hsegment : spelled template.quoted names segment ∈ request.path.splitOn '/') :
    unquote (spelled template.quoted names segment) ≠ encode dots := by
  intro hdot
  rw [hdecoded] at hdot
  have hvalue := encode_inj hdot
  have hunreserved : ∀ c ∈ dots, isUnreserved c = true := by
    rcases hdots with rfl | rfl <;> exact forall_of_all (by decide)
  rw [spelled_quoted (hvalue ▸ hunreserved), hvalue] at hsegment
  exact hpath hsegment

/-- **What an expansion is, and when**: an expansion that succeeds is what it should be exactly if
no value forms a name and no plain `%` is completed. -/
theorem expanded_iff (h : expandEndpoint library policy template = .ok request) :
    Expanded policy template request ↔ Clean policy template := by
  have hpathiff := path_eq_iff h
  obtain ⟨hhost, hnames, -, -, hhead, htwo, hone, hquery, hport, -⟩ := expandEndpoint_ok h
  have hnames : ∀ m ∈ Placeholders.names (pieces policy.pathTemplate), m ∈ policy.parameterNames :=
    fun m hm => (hnames m).mp (names_pieces policy.pathTemplate ▸ hm)
  constructor
  · intro hexpanded
    have hencoded := hexpanded.encoded
    have hdecoded := hexpanded.decoded
    rw [hencoded] at hdecoded
    exact ⟨hpathiff.mp ((splitOn_eq_iff hnames).mp hencoded), (decoded_iff hnames).mp hdecoded⟩
  · rintro ⟨hunformed, huncompleted⟩
    have hpath := hpathiff.mpr hunformed
    have hencoded := (splitOn_eq_iff hnames).mpr hpath
    have hdecoded := (decoded_iff hnames).mpr huncompleted
    have hplain : ∀ c, isUnreserved c = false → c ≠ '%' → c ∉ policy.pathTemplate →
        c ∉ request.path := by
      intro c hreserved hpercent hc hmem
      rw [hpath] at hmem
      exact hc (mem_of_mem_spelled hnames hreserved hpercent hmem)
    have hsafe := Checked.check_ok.mp (Checked.check_bind_ok.mp policy.transport_ok).2
    simp only [not_or] at hsafe
    have hparts := urlParts_url h ⟨hplain '?' (by decide) (by decide) hsafe.2.1,
      hplain '#' (by decide) (by decide) hsafe.2.2.1⟩
    have hdotted := @not_mem_splitOn _ ".".toList hhead rfl hone
    have hdotdot := @not_mem_splitOn _ "..".toList hhead rfl htwo
    constructor
    case scheme => rw [hparts]
    case netloc => rw [hparts]
    case host => exact hhost
    case asciiHost => exact fun hascii => canonicalHost_ascii hascii hhost
    case port =>
      exact ⟨hport, policy.port_ok, fun hc => (plain_of_canonicalHost hhost ':' hc).2.2.2 rfl⟩
    case path => rw [hparts]
    case fragment => rw [hparts]
    case count => rw [hencoded, List.length_map, length_segments]
    case encoded => exact hencoded
    case decoded => rw [hencoded, hdecoded]
    case undotted =>
      intro segment hsegment
      have hmem := hsegment
      rw [hencoded] at hmem
      obtain ⟨pieces, hpieces, rfl⟩ := List.mem_map.mp hmem
      rw [List.map_map] at hdecoded
      have heq := List.map_inj_left.mp hdecoded pieces hpieces
      exact ⟨undotted_of_decoded (Or.inl rfl) heq hdotted hsegment,
        undotted_of_decoded (Or.inr rfl) heq hdotdot hsegment⟩
    case query =>
      rw [hparts, ← parseQuery_urlencode]
      dsimp only
      split
      · next hnil => rw [hnil, Option.getD_none]
      · rw [Option.getD_some]
    case mapping =>
      rw [hquery]
      exact List.perm_insertionSort _ _

/-! ## A page of a document -/

lemma not_formsInTurn {value : Text → Text} {pieces : List Piece} (h : .plain '{' ∉ pieces) :
    ∀ (later done : List Text), ¬ FormsInTurn value done later pieces := by
  intro later
  induction later with
  | nil => exact fun _ => id
  | cons name later ih =>
      rintro done (⟨front, inside, back, rfl, -⟩ | hlater)
      · simp at h
      · exact ih _ hlater

/-- A path template without a brace or a `%` of its own is clean, whatever the values are. -/
lemma clean_of_plain (policy : ProviderEndpointPolicy library)
    (template : ProviderHttpRequestTemplate library)
    (hbrace : .plain '{' ∉ pieces policy.pathTemplate)
    (hpercent : .plain '%' ∉ pieces policy.pathTemplate) : Clean policy template := by
  refine ⟨not_formsInTurn hbrace _ _, fun segment hsegment => ?_⟩
  rintro ⟨front, back, rfl, -⟩
  exact hpercent (mem_of_mem_splitOnP _ _ hsegment (by simp))

/-- Foldings of ASCII texts. -/
def asciiEndpoints : EndpointLibrary where
  casefold t := t.map Char.toLower
  toAscii _ := none

def archivePolicy : ProviderEndpointPolicy asciiEndpoints where
  endpointId := "SEC_FILING_DOCUMENT".toList
  method := .get
  scheme := "https".toList
  host := "www.sec.gov".toList
  port := 443
  pathTemplate := "/Archives/{document}/".toList
  parameterNames := ["document".toList]
  queryKeys := ["page".toList]
  acceptedContentTypes := ["text/html".toList]
  maxRedirects := 0
  endpointId_ok := by decide +kernel
  scheme_ok := rfl
  host_ok := by decide
  port_ok := rfl
  pathTemplate_ok := by decide
  parameterNames_ok := by decide
  queryKeys_ok := by decide
  acceptedContentTypes_ok := by decide
  maxRedirects_ok := Nat.zero_le 5
  transport_ok := by decide

def pageTemplate : ProviderHttpRequestTemplate asciiEndpoints where
  endpointId := "SEC_FILING_DOCUMENT".toList
  parameters := [("document".toList, "a?b &c".toList)]
  query := [("page".toList, "1&2".toList)]
  endpointId_ok := archivePolicy.endpointId_ok
  parameters_nodup := List.nodup_singleton _
  query_nodup := List.nodup_singleton _
  parameters_ok := by decide
  query_ok := by decide

def pageRequest : CanonicalProviderRequest where
  endpointId := "SEC_FILING_DOCUMENT".toList
  method := .get
  scheme := "https".toList
  host := "www.sec.gov".toList
  port := 443
  path := "/Archives/a%3Fb%20%26c/".toList
  query := [("page".toList, "1&2".toList)]
  acceptedContentTypes := ["text/html".toList]
  maxRedirects := 0
  url := "https://www.sec.gov/Archives/a%3Fb%20%26c/?page=1%262".toList

theorem expanded_page : expandEndpoint asciiEndpoints archivePolicy pageTemplate = .ok pageRequest ∧
    Expanded archivePolicy pageTemplate pageRequest := by
  have h : expandEndpoint asciiEndpoints archivePolicy pageTemplate = .ok pageRequest := by
    decide +kernel
  exact ⟨h, (expanded_iff h).mpr (clean_of_plain _ _ (by decide) (by decide))⟩

end StockResearch.Providers
