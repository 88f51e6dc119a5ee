import StockResearch.Core.Canonical
import StockResearch.Core.Unicode

/-!
# JSON texts as bytes

What `json.loads` makes of bytes, and how many bytes a compact text takes.

**Reading.**  `detectEncoding` tells the encodings apart by their first bytes, as the standard
library does; all but UTF-8 stay a parameter.  `loadsBytes_asciiText`: the bytes of an ASCII text
are read back into the value in key order.

**Size.**  An escaped character takes twelve bytes at most (`length_asciiEscape`), so the bytes of
an object are bounded by the lengths of its keys and values, in whatever order they are written
(`length_write_sortKeys`).
-/

namespace PyJson

open PyText

/-! ## Bytes -/

/-- `text.encode("utf-8")` -/
def encodeUtf8 (t : Text) : List UInt8 := t.flatMap String.utf8EncodeChar

/-- `raw.decode("utf-8")` -/
def decodeUtf8 (raw : List UInt8) : Option Text := raw.toByteArray.utf8Decode?.map Array.toList

lemma decodeUtf8_encodeUtf8 (t : Text) : decodeUtf8 (encodeUtf8 t) = some t := by
  have hdecode := List.utf8Decode?_utf8Encode (l := t)
  rw [List.utf8Encode] at hdecode
  rw [decodeUtf8, encodeUtf8, hdecode, Option.map_some]

/-- The encodings of a JSON text. -/
inductive Encoding where
  | utf8
  | utf8Sig
  | utf16
  | utf16be
  | utf16le
  | utf32
  | utf32be
  | utf32le
deriving DecidableEq

/-- `json.detect_encoding` -/
def detectEncoding : List UInt8 → Encoding
  | 0x00 :: 0x00 :: 0xFE :: 0xFF :: _ => .utf32
  | 0xFF :: 0xFE :: 0x00 :: 0x00 :: _ => .utf32
  | 0xFE :: 0xFF :: _ => .utf16
  | 0xFF :: 0xFE :: _ => .utf16
  | 0xEF :: 0xBB :: 0xBF :: _ => .utf8Sig
  | a :: b :: c :: d :: _ =>
      if a = 0 then (if b = 0 then .utf32be else .utf16be)
      else if b = 0 then (if c = 0 ∧ d = 0 then .utf32le else .utf16le)
      else .utf8
  | [a, b] => if a = 0 then .utf16be else if b = 0 then .utf16le else .utf8
  | _ => .utf8

/-- `json.loads(raw)`.  What the other encodings decode to is given. -/
def loadsBytes (decode : Encoding → List UInt8 → Option Text) (raw : List UInt8) : Option Value :=
  match detectEncoding raw with
  | .utf8 => (decodeUtf8 raw).bind loads
  | encoding => (decode encoding raw).bind loads

/-! ## ASCII -/

lemma ascii_escapeNonAscii (c : Char) : ∀ d ∈ escapeNonAscii c, d.toNat < 0x7f := by
  have hescape : ∀ n, ∀ d ∈ unicodeEscapeOf n, d.toNat < 0x7f := by
    intro n d hd
    have hhex : ∀ m, (hexDigit (m % 16)).toNat < 0x7f := fun m =>
      toNat_hexDigit (m % 16) (Nat.mod_lt _ (by decide))
    simp only [unicodeEscapeOf, List.mem_cons, List.not_mem_nil, or_false] at hd
    rcases hd with rfl | rfl | rfl | rfl | rfl | rfl
    · decide
    · decide
    · exact hhex _
    · exact hhex _
    · exact hhex _
    · exact hhex _
  intro d hd
  unfold escapeNonAscii at hd
  split_ifs at hd with hascii
  · rw [List.mem_singleton.mp hd]
    exact hascii
  · exact hescape _ d hd
  · rcases List.mem_append.mp hd with hd | hd
    · exact hescape _ d hd
    · exact hescape _ d hd

lemma ascii_asciiText (v : Value) : ∀ c ∈ asciiText v, c.toNat < 0x7f := by
  intro c hc
  obtain ⟨d, -, hd⟩ := List.mem_flatMap.mp hc
  exact ascii_escapeNonAscii d c hd

lemma utf8EncodeChar_ascii {c : Char} (hc : c.toNat < 0x7f) :
    String.utf8EncodeChar c = [UInt8.ofNat c.toNat] := by
  have hle : c.val.toNat ≤ 0x7f := Nat.le_of_lt hc
  unfold String.utf8EncodeChar
  exact if_pos hle

lemma encodeUtf8_ascii {t : Text} (h : ∀ c ∈ t, c.toNat < 0x7f) :
    encodeUtf8 t = t.map fun c => UInt8.ofNat c.toNat := by
  induction t with
  | nil => rfl
  | cons c t ih =>
      rw [List.forall_mem_cons] at h
      rw [encodeUtf8, List.flatMap_cons, utf8EncodeChar_ascii h.1, List.map_cons, ← ih h.2]
      rfl

lemma length_encodeUtf8_ascii {t : Text} (h : ∀ c ∈ t, c.toNat < 0x7f) :
    (encodeUtf8 t).length = t.length := by
  rw [encodeUtf8_ascii h, List.length_map]

/-! ## Reading back -/

lemma asciiText_eq_write {v : Value} (hv : Plain v) :
    asciiText v = write asciiEscape (sortKeys v) := by
  rw [asciiText, canonicalText, flatMap_dumps _ (plain_sortKeys v hv)]

lemma loads_asciiText {v : Value} (hv : Plain v) : loads (asciiText v) = some (sortKeys v) := by
  rw [asciiText_eq_write hv]
  exact loads_write readable_asciiEscape (plain_sortKeys v hv)

/-- An object with a member is written as a brace and a quotation mark. -/
lemma asciiText_obj_cons {fields : List (String × Value)} (hv : Plain (.obj fields))
    (hne : fields ≠ []) : ∃ rest, asciiText (.obj fields) = '{' :: '"' :: rest := by
  rw [asciiText_eq_write hv, sortKeys_obj, write]
  have hperm := List.perm_insertionSort keyLE (fields.map fun f => (f.1, sortKeys f.2))
  cases hsorted : (fields.map fun f => (f.1, sortKeys f.2)).insertionSort keyLE with
  | nil =>
      rw [hsorted] at hperm
      exact absurd (List.map_eq_nil_iff.mp hperm.nil_eq.symm) hne
  | cons f fs =>
      cases fs with
      | nil => exact ⟨_, rfl⟩
      | cons g gs => exact ⟨_, rfl⟩

/-- Bytes that begin with a brace and a quotation mark are UTF-8. -/
lemma detectEncoding_obj (rest : List UInt8) : detectEncoding (123 :: 34 :: rest) = .utf8 := by
  match rest with
  | [] => rfl
  | [_] => rfl
  | _ :: _ :: _ => rfl

/-- **The bytes of an object are read back into it, in key order.** -/
theorem loadsBytes_asciiText {decode : Encoding → List UInt8 → Option Text}
    {fields : List (String × Value)} (hv : Plain (.obj fields)) (hne : fields ≠ []) :
    loadsBytes decode (encodeUtf8 (asciiText (.obj fields))) = some (sortKeys (.obj fields)) := by
  obtain ⟨rest, hrest⟩ := asciiText_obj_cons hv hne
  have hutf8 : detectEncoding (encodeUtf8 (asciiText (.obj fields))) = .utf8 := by
    rw [encodeUtf8_ascii (ascii_asciiText _), hrest]
    exact detectEncoding_obj _
  rw [loadsBytes, hutf8]
  dsimp only
  rw [decodeUtf8_encodeUtf8, Option.bind_some, loads_asciiText hv]

/-! ## Size -/

lemma length_escapeNonAscii (c : Char) : (escapeNonAscii c).length ≤ 12 := by
  unfold escapeNonAscii
  split_ifs <;> simp [unicodeEscapeOf]

/-- A character takes twelve bytes at most: two for what JSON has a short escape for, six for the
others of the BMP and twelve for a surrogate pair. -/
lemma length_asciiEscape (c : Char) : (asciiEscape c).length ≤ 12 := by
  by_cases hc : c.toNat < 0x7f
  · have hshort : (escapeChar c).length ≤ 6 := by
      unfold escapeChar
      split_ifs <;> simp
    rw [asciiEscape, flatMap_escapeNonAscii (ascii_escapeChar hc)]
    omega
  · rw [asciiEscape, escapeChar_of_not_lt hc, List.flatMap_singleton]
    exact length_escapeNonAscii c

section Width

variable {esc : Char → List Char} {width : Nat}

lemma length_writeText (hesc : ∀ c, (esc c).length ≤ width) (cs : List Char) :
    (writeText esc cs).length ≤ width * cs.length + 1 := by
  induction cs with
  | nil => simp [writeText]
  | cons c cs ih =>
      have hc := hesc c
      rw [writeText, List.length_append, List.length_cons, Nat.mul_succ]
      omega

lemma length_writeStr (hesc : ∀ c, (esc c).length ≤ width) (s : String) :
    (writeStr esc s).length ≤ width * s.length + 2 := by
  have htext := length_writeText hesc s.toList
  rw [String.length_toList] at htext
  rw [writeStr, List.length_cons]
  omega

/-- The length of a member with its colon and the separator behind it. -/
def memberLength (esc : Char → List Char) (f : String × Value) : Nat :=
  (writeStr esc f.1).length + (write esc f.2).length + 2

lemma length_writeFields (esc : Char → List Char) (fs : List (String × Value)) :
    (writeFields esc fs).length ≤ (fs.map (memberLength esc)).sum + 1 := by
  induction fs with
  | nil => simp [writeFields]
  | cons field fs ih =>
      obtain ⟨k, v⟩ := field
      cases fs with
      | nil =>
          simp [writeFields, memberLength]
          omega
      | cons f fs =>
          rw [writeFields, List.map_cons, List.sum_cons, memberLength]
          simp only [List.length_append, List.length_cons]
          omega

/-- **The size of an object**, whatever the order of its members. -/
theorem length_write_sortKeys (esc : Char → List Char) (fields : List (String × Value)) :
    (write esc (sortKeys (.obj fields))).length ≤
      (fields.map fun f => memberLength esc (f.1, sortKeys f.2)).sum + 2 := by
  have hperm := List.perm_insertionSort keyLE (fields.map fun f => (f.1, sortKeys f.2))
  have hsum := (hperm.map (memberLength esc)).sum_nat
  have hfields := length_writeFields esc
    ((fields.map fun f => (f.1, sortKeys f.2)).insertionSort keyLE)
  have hcomp : (memberLength esc ∘ fun f : String × Value => (f.1, sortKeys f.2)) =
      fun f => memberLength esc (f.1, sortKeys f.2) := rfl
  rw [List.map_map, hcomp] at hsum
  rw [sortKeys_obj, write, List.length_cons]
  omega

end Width

lemma length_encodeUtf8_asciiText {v : Value} (hv : Plain v) :
    (encodeUtf8 (asciiText v)).length = (write asciiEscape (sortKeys v)).length := by
  rw [length_encodeUtf8_ascii (ascii_asciiText v), asciiText_eq_write hv]

end PyJson
