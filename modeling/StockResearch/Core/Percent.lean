import StockResearch.Core.Url

/-!
# Percent-encoding

`quote(text, safe="")`, `urlencode(items, safe="")` and the decoding that undoes them.  Decoding
yields bytes, and they are compared with the UTF-8 encoding of a text, which determines the text
(`encode_inj`).

**Encoded texts.**  `unquote_quote_append`: an encoded text in front of anything decodes to what was
encoded, whatever follows.  `not_mem_quote`: it holds unreserved characters and `%` only.

**Plain text in between.**  A `%` that was not encoded starts an escape when two hexadecimal digits
follow.  `unquote_percent` and `length_unquote_percent` say what it does in either case: without the
digits it stands for itself, and with them something is lost.

**`parseQuery_urlencode`**: a query decodes to the items that it was made of.
-/

namespace Percent

open PyText

/-- `text.encode("utf-8")` -/
def encode (t : Text) : List UInt8 := t.flatMap String.utf8EncodeChar

lemma encode_inj {s t : Text} (h : encode s = encode t) : s = t := by
  have hbytes : s.utf8Encode = t.utf8Encode := congrArg List.toByteArray h
  rw [← String.toByteArray_ofList, ← String.toByteArray_ofList, String.toByteArray_inj] at hbytes
  exact String.ofList_injective hbytes

/-! ## Encoding -/

/-- A character that is never quoted. -/
def isUnreserved (c : Char) : Bool := c.isAlphanum || c == '_' || c == '.' || c == '-' || c == '~'

def hexDigit (n : Nat) : Char := "0123456789ABCDEF".toList.getD n '0'

/-- `"%{:02X}".format(b)` -/
def escape (b : UInt8) : Text := ['%', hexDigit (b.toNat / 16), hexDigit (b.toNat % 16)]

def quoteChar (c : Char) : Text :=
  if isUnreserved c then [c] else (String.utf8EncodeChar c).flatMap escape

/-- `quote(text, safe="")` -/
def quote (t : Text) : Text := t.flatMap quoteChar

/-- `quote_plus(text, safe="")` -/
def quotePlus (t : Text) : Text := t.flatMap fun c => if c = ' ' then ['+'] else quoteChar c

def queryPair (item : Text × Text) : Text := quotePlus item.1 ++ '=' :: quotePlus item.2

/-- `urlencode(items, safe="")` -/
def urlencode (items : List (Text × Text)) : Text := ['&'].intercalate (items.map queryPair)

/-! ## Decoding -/

def hexValue? (c : Char) : Option Nat :=
  if c.isDigit then some (c.toNat - '0'.toNat)
  else if 'A' ≤ c ∧ c ≤ 'F' then some (c.toNat - 'A'.toNat + 10)
  else if 'a' ≤ c ∧ c ≤ 'f' then some (c.toNat - 'a'.toNat + 10)
  else none

/-- The byte that two hexadecimal digits in front of a text stand for. -/
def hexPair? : Text → Option UInt8
  | a :: b :: _ => do
      let high ← hexValue? a
      let low ← hexValue? b
      return UInt8.ofNat (16 * high + low)
  | _ => none

/-- `unquote_to_bytes(text)` after so many characters that an escape has taken. -/
def unquoteAfter : Nat → Text → List UInt8
  | _, [] => []
  | k + 1, _ :: cs => unquoteAfter k cs
  | 0, c :: cs =>
      match if c = '%' then hexPair? cs else none with
      | some b => b :: unquoteAfter 2 cs
      | none => String.utf8EncodeChar c ++ unquoteAfter 0 cs

/-- `unquote_to_bytes(text)` -/
def unquote (t : Text) : List UInt8 := unquoteAfter 0 t

/-- `unquote_to_bytes(text.replace("+", " "))` -/
def unquotePlus (t : Text) : List UInt8 := unquote (t.map fun c => if c = '+' then ' ' else c)

/-- `parse_qsl(query, keep_blank_values=True)`, before the texts are decoded from UTF-8. -/
def parseQuery (query : Text) : List (List UInt8 × List UInt8) :=
  ((query.splitOn '&').filter (· ≠ [])).map fun pair =>
    match PyUrl.partition '=' pair with
    | (key, value) => (unquotePlus key, unquotePlus (value.getD []))

variable {b : UInt8} {c : Char} {t v : Text}

/-! ## Hexadecimal digits -/

lemma isUnreserved_hexDigit {n : Nat} (h : n < 16) : isUnreserved (hexDigit n) = true := by
  revert n
  decide

lemma hexValue_hexDigit {n : Nat} (h : n < 16) : hexValue? (hexDigit n) = some n := by
  revert n
  decide

lemma hexPair_escape (b : UInt8) (t : Text) :
    hexPair? (hexDigit (b.toNat / 16) :: hexDigit (b.toNat % 16) :: t) = some b := by
  have hb := b.toNat_lt
  have hhigh : b.toNat / 16 < 16 := by omega
  have hlow : b.toNat % 16 < 16 := by omega
  simp only [hexPair?, hexValue_hexDigit hhigh, hexValue_hexDigit hlow, Option.bind_eq_bind,
    Option.bind_some, Nat.div_add_mod, UInt8.ofNat_toNat, Option.pure_def]

/-- The digits are characters other than `%`. -/
lemma hexPair_eq_some (h : hexPair? t = some b) :
    ∃ x y rest, t = x :: y :: rest ∧ x ≠ '%' ∧ y ≠ '%' := by
  have hdigit : ∀ c n, hexValue? c = some n → c ≠ '%' := by
    rintro c n hc rfl
    simp [hexValue?] at hc
  match t, h with
  | x :: y :: rest, h =>
      simp only [hexPair?, Option.bind_eq_bind, Option.bind_eq_some_iff] at h
      obtain ⟨high, hhigh, low, hlow, -⟩ := h
      exact ⟨x, y, rest, rfl, hdigit x _ hhigh, hdigit y _ hlow⟩

/-! ## Encoded texts -/

lemma unquoteAfter_drop (k : Nat) (t : Text) : unquoteAfter k t = unquote (t.drop k) := by
  induction t generalizing k with
  | nil => simp [unquote, unquoteAfter]
  | cons c cs ih =>
      cases k with
      | zero => rfl
      | succ k => exact ih k

lemma unquote_nil : unquote [] = [] := rfl

lemma unquote_cons (h : c ≠ '%') (t : Text) :
    unquote (c :: t) = String.utf8EncodeChar c ++ unquote t := by
  rw [unquote, unquoteAfter, if_neg h]
  rfl

/-- A `%` without two digits stands for itself. -/
lemma unquote_percent (h : hexPair? t = none) : unquote ('%' :: t) = encode ['%'] ++ unquote t := by
  rw [unquote, unquoteAfter, if_pos rfl, h]
  rfl

lemma unquote_percent_of_some (h : hexPair? t = some b) :
    unquote ('%' :: t) = b :: unquote (t.drop 2) := by
  rw [unquote, unquoteAfter, if_pos rfl, h]
  dsimp only
  rw [unquoteAfter_drop]

lemma unquote_escape_append (b : UInt8) (t : Text) : unquote (escape b ++ t) = b :: unquote t :=
  unquote_percent_of_some (hexPair_escape b t)

/-- A `%` that two digits follow takes them along. -/
lemma length_unquote_percent (h : hexPair? t = some b) :
    (unquote ('%' :: t)).length < (encode ['%'] ++ unquote t).length := by
  obtain ⟨x, y, rest, rfl, hx, hy⟩ := hexPair_eq_some h
  rw [unquote_percent_of_some h, unquote_cons hx, unquote_cons hy]
  have hx := x.utf8Size_pos
  have hy := y.utf8Size_pos
  have hp : (encode ['%']).length = 1 := rfl
  simp only [List.drop_succ_cons, List.drop_zero, List.length_cons, List.length_append,
    String.length_utf8EncodeChar, hp]
  omega

lemma unquote_escapes_append (bytes : List UInt8) (t : Text) :
    unquote (bytes.flatMap escape ++ t) = bytes ++ unquote t := by
  induction bytes with
  | nil => rfl
  | cons b bytes ih =>
      rw [List.flatMap_cons, List.append_assoc, unquote_escape_append, ih, List.cons_append]

lemma ne_percent_of_isUnreserved (h : isUnreserved c = true) : c ≠ '%' := by
  rintro rfl
  revert h
  decide

lemma unquote_quoteChar_append (c : Char) (t : Text) :
    unquote (quoteChar c ++ t) = String.utf8EncodeChar c ++ unquote t := by
  unfold quoteChar
  split
  · next h => exact unquote_cons (ne_percent_of_isUnreserved h) t
  · exact unquote_escapes_append _ t

/-- **An encoded text in front of anything.** -/
lemma unquote_quote_append (v t : Text) : unquote (quote v ++ t) = encode v ++ unquote t := by
  induction v with
  | nil => rfl
  | cons c v ih =>
      rw [quote, List.flatMap_cons, List.append_assoc, unquote_quoteChar_append]
      rw [← quote, ih, ← List.append_assoc]
      rfl

lemma mem_quoteChar {d : Char} (h : d ∈ quoteChar c) : isUnreserved d = true ∨ d = '%' := by
  unfold quoteChar at h
  split at h
  · next hc =>
    obtain rfl := List.mem_singleton.mp h
    exact Or.inl hc
  · obtain ⟨b, -, hd⟩ := List.mem_flatMap.mp h
    have hb := b.toNat_lt
    simp only [escape, List.mem_cons, List.not_mem_nil, or_false] at hd
    rcases hd with rfl | rfl | rfl
    · exact Or.inr rfl
    · exact Or.inl (isUnreserved_hexDigit (by omega))
    · exact Or.inl (isUnreserved_hexDigit (by omega))

lemma mem_quote (h : c ∈ quote t) : isUnreserved c = true ∨ c = '%' := by
  obtain ⟨d, -, hc⟩ := List.mem_flatMap.mp h
  exact mem_quoteChar hc

/-- What is reserved does not get into an encoded text. -/
lemma not_mem_quote (hc : isUnreserved c = false) (hp : c ≠ '%') (t : Text) : c ∉ quote t := by
  intro h
  rcases mem_quote h with h | h
  · rw [hc] at h
    cases h
  · exact hp h

lemma quote_of_unreserved (h : ∀ c ∈ t, isUnreserved c = true) : quote t = t := by
  induction t with
  | nil => rfl
  | cons c t ih =>
      have hc := h c List.mem_cons_self
      rw [quote, List.flatMap_cons, quoteChar, if_pos hc]
      exact congrArg (c :: ·) (ih fun d hd => h d (List.mem_cons_of_mem c hd))

/-! ## Queries -/

lemma mem_quotePlus (h : c ∈ quotePlus t) : isUnreserved c = true ∨ c = '%' ∨ c = '+' := by
  obtain ⟨d, -, hc⟩ := List.mem_flatMap.mp h
  split at hc
  · exact Or.inr (Or.inr (List.mem_singleton.mp hc))
  · rcases mem_quoteChar hc with h | h
    · exact Or.inl h
    · exact Or.inr (Or.inl h)

lemma not_mem_quotePlus (hc : isUnreserved c = false) (hp : c ≠ '%') (hplus : c ≠ '+') (t : Text) :
    c ∉ quotePlus t := by
  intro h
  rcases mem_quotePlus h with h | h | h
  · rw [hc] at h
    cases h
  · exact hp h
  · exact hplus h

/-- What is reserved and delimits nothing does not get into a query. -/
lemma not_mem_urlencode (hc : isUnreserved c = false) (hplain : c ∉ ['%', '+', '&', '='])
    (items : List (Text × Text)) : c ∉ urlencode items := by
  simp only [List.mem_cons, not_or] at hplain
  have hpair : ∀ item, c ∉ queryPair item := by
    intro item
    have hkey := not_mem_quotePlus hc hplain.1 hplain.2.1 item.1
    have hvalue := not_mem_quotePlus hc hplain.1 hplain.2.1 item.2
    simp [queryPair, hkey, hvalue, hplain.2.2.2.1]
  induction items with
  | nil => exact List.not_mem_nil
  | cons item items ih =>
      unfold urlencode at ih ⊢
      cases items with
      | nil => simpa [List.intercalate] using hpair item
      | cons next items =>
          rw [List.map_cons] at ih
          rw [List.map_cons, List.map_cons, List.intercalate_cons_cons]
          simp [hpair item, hplain.2.2.1, ih]

lemma unquotePlus_quotePlus (t : Text) : unquotePlus (quotePlus t) = encode t := by
  induction t with
  | nil => rfl
  | cons c t ih =>
      unfold unquotePlus at ih ⊢
      rw [quotePlus, List.flatMap_cons, List.map_append]
      rw [quotePlus] at ih
      split
      · next hc =>
        subst hc
        simp only [List.map_cons, List.map_nil, List.cons_append, List.nil_append, if_true]
        rw [unquote_cons (by decide), ih]
        rfl
      · have hplain : (quoteChar c).map (fun d => if d = '+' then ' ' else d) = quoteChar c := by
          refine (List.map_congr_left fun d hd => if_neg ?_).trans (List.map_id _)
          rintro rfl
          exact absurd (mem_quoteChar hd) (by decide)
        rw [hplain, unquote_quoteChar_append, ih]
        rfl

/-- **A query decodes to its items.** -/
theorem parseQuery_urlencode (items : List (Text × Text)) :
    parseQuery (urlencode items) = items.map fun item => (encode item.1, encode item.2) := by
  unfold parseQuery urlencode
  rcases eq_or_ne items [] with rfl | hne
  · rfl
  have hplain : ∀ pair ∈ items.map queryPair, '&' ∉ pair := by
    intro pair hpair
    obtain ⟨item, -, rfl⟩ := List.mem_map.mp hpair
    have hkey := not_mem_quotePlus (c := '&') (by decide) (by decide) (by decide) item.1
    have hvalue := not_mem_quotePlus (c := '&') (by decide) (by decide) (by decide) item.2
    simp [queryPair, hkey, hvalue]
  have hnonempty : ∀ pair ∈ items.map queryPair, decide (pair ≠ []) = true := by
    intro pair hpair
    obtain ⟨item, -, rfl⟩ := List.mem_map.mp hpair
    simp [queryPair]
  rw [List.splitOn_intercalate _ hplain (by simp [hne]), List.filter_eq_self.mpr hnonempty,
    List.map_map]
  refine List.map_congr_left fun item _ => ?_
  have hkey := not_mem_quotePlus (c := '=') (by decide) (by decide) (by decide) item.1
  simp only [Function.comp_apply, queryPair, PyUrl.partition_append hkey, Option.getD_some,
    unquotePlus_quotePlus]

end Percent
