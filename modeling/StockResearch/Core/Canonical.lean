import StockResearch.Core.JsonRoundTrip

/-!
# Canonical text and checksums

The canonical text of a value is its compact text with every object in key order.  Two facts make
it usable as an identity.

* Reading a canonical text gives the value in key order, and writing that again gives the same
  text (`loads_canonicalText`, `canonicalText_sortKeys`).
* Two objects over the same keys with the same canonical text agree member by member
  (`canonicalText_obj_inj`), whatever order the members were written in.

`IdealHash` is a digest without collisions: the assumption under which a checksum stands for the
text it was taken of.
-/

namespace PyJson

/-- The order of the members of a canonical object. -/
abbrev keyLE (f g : String × Value) : Prop := f.1 ≤ g.1

instance : Std.Total keyLE := ⟨fun f g => le_total f.1 g.1⟩

instance : IsTrans (String × Value) keyLE := ⟨fun _ _ _ => le_trans⟩

/-- The compact text with `sort_keys=True`. -/
def canonicalText (v : Value) : List Char := dumps (sortKeys v)

/-! ## Sorting the keys -/

lemma sortItems_eq_map (items : List Value) : sortItems items = items.map sortKeys := by
  induction items with
  | nil => rfl
  | cons v vs ih => rw [sortItems, ih, List.map_cons]

lemma sortFields_eq_map (fields : List (String × Value)) :
    sortFields fields = fields.map fun f => (f.1, sortKeys f.2) := by
  induction fields with
  | nil => rfl
  | cons f fs ih => rw [sortFields, ih, List.map_cons]

lemma sortKeys_obj (fields : List (String × Value)) :
    sortKeys (.obj fields) =
      .obj ((fields.map fun f => (f.1, sortKeys f.2)).insertionSort keyLE) := by
  rw [sortKeys, sortFields_eq_map]

lemma keys_sortFields (fields : List (String × Value)) :
    (fields.map fun f => (f.1, sortKeys f.2)).map Prod.fst = fields.map Prod.fst := by
  simp [Function.comp_def]

lemma plainItems_iff {items : List Value} : PlainItems items ↔ ∀ v ∈ items, Plain v := by
  induction items with
  | nil => simp [PlainItems]
  | cons v vs ih => simp [PlainItems, ih]

lemma plainFields_iff {fields : List (String × Value)} :
    PlainFields fields ↔ ∀ f ∈ fields, Plain f.2 := by
  induction fields with
  | nil => simp [PlainFields]
  | cons f fs ih => simp [PlainFields, ih]

lemma map_eq_self {α : Type} {f : α → α} {l : List α} (h : ∀ a ∈ l, f a = a) : l.map f = l := by
  conv_rhs => rw [← List.map_id l]
  exact List.map_congr_left h

mutual

lemma plain_sortKeys (v : Value) (hv : Plain v) : Plain (sortKeys v) := by
  match v with
  | .null => exact hv
  | .bool _ => exact hv
  | .int _ => exact hv
  | .real _ => exact hv
  | .str _ => exact hv
  | .arr items => exact plain_sortItems items hv
  | .obj fields =>
      have hperm := List.perm_insertionSort (fun f g : String × Value => f.1 ≤ g.1)
        (sortFields fields)
      refine ⟨?_, ?_⟩
      · have hkeys := (hperm.map Prod.fst).nodup_iff.mpr
        rw [sortFields_eq_map, keys_sortFields] at hkeys
        rw [sortFields_eq_map]
        exact hkeys hv.1
      · rw [plainFields_iff]
        intro f hf
        exact plainFields_iff.mp (plain_sortFields fields hv.2) f (hperm.mem_iff.mp hf)

lemma plain_sortItems (items : List Value) (h : PlainItems items) : PlainItems (sortItems items) := by
  match items with
  | [] => exact h
  | v :: vs => exact ⟨plain_sortKeys v h.1, plain_sortItems vs h.2⟩

lemma plain_sortFields (fields : List (String × Value)) (h : PlainFields fields) :
    PlainFields (sortFields fields) := by
  match fields with
  | [] => exact h
  | (_, v) :: fs => exact ⟨plain_sortKeys v h.1, plain_sortFields fs h.2⟩

end

mutual

lemma sortKeys_sortKeys (v : Value) : sortKeys (sortKeys v) = sortKeys v := by
  match v with
  | .null => rfl
  | .bool _ => rfl
  | .int _ => rfl
  | .real _ => rfl
  | .str _ => rfl
  | .arr items =>
      rw [sortKeys, sortKeys, sortItems_eq_map (sortItems items),
        map_eq_self (sortItems_fixed items)]
  | .obj fields =>
      have hfixed : ∀ f ∈ (sortFields fields).insertionSort keyLE, (f.1, sortKeys f.2) = f := by
        intro f hf
        rw [sortFields_fixed fields f (List.mem_insertionSort keyLE |>.mp hf)]
      have hsorted := (List.pairwise_insertionSort keyLE (sortFields fields)).insertionSort_eq
      rw [sortKeys, sortKeys_obj, map_eq_self hfixed, hsorted]

lemma sortItems_fixed (items : List Value) : ∀ v ∈ sortItems items, sortKeys v = v := by
  match items with
  | [] => simp [sortItems]
  | v :: vs =>
      intro w hw
      rcases List.mem_cons.mp hw with rfl | hw
      · exact sortKeys_sortKeys v
      · exact sortItems_fixed vs w hw

lemma sortFields_fixed (fields : List (String × Value)) :
    ∀ f ∈ sortFields fields, sortKeys f.2 = f.2 := by
  match fields with
  | [] => simp [sortFields]
  | (_, v) :: fs =>
      intro f hf
      rcases List.mem_cons.mp hf with rfl | hf
      · exact sortKeys_sortKeys v
      · exact sortFields_fixed fs f hf

end

/-! ## Canonical text -/

/-- Reading a canonical text gives the value in key order. -/
theorem loads_canonicalText {v : Value} (hv : Plain v) :
    loads (canonicalText v) = some (sortKeys v) :=
  loads_dumps (plain_sortKeys v hv)

/-- Writing again what was read gives the same canonical text. -/
theorem canonicalText_sortKeys (v : Value) : canonicalText (sortKeys v) = canonicalText v := by
  rw [canonicalText, sortKeys_sortKeys, canonicalText]

theorem canonicalText_inj {v w : Value} (hv : Plain v) (hw : Plain w)
    (h : canonicalText v = canonicalText w) : sortKeys v = sortKeys w :=
  dumps_inj (plain_sortKeys v hv) (plain_sortKeys w hw) h

/-- Two lists over the same distinct keys that hold the same pairs are equal. -/
lemma eq_of_perm_of_keys {fs gs : List (String × Value)} (hperm : fs.Perm gs)
    (hkeys : fs.map Prod.fst = gs.map Prod.fst) (hnodup : (fs.map Prod.fst).Nodup) : fs = gs := by
  induction fs generalizing gs with
  | nil => exact hperm.nil_eq
  | cons f fs ih =>
      cases gs with
      | nil => simp at hkeys
      | cons g gs =>
          simp only [List.map_cons, List.cons.injEq] at hkeys
          simp only [List.map_cons, List.nodup_cons] at hnodup
          have hfg : f = g := by
            rcases List.mem_cons.mp (hperm.mem_iff.mp (List.mem_cons_self ..)) with hfg | hmem
            · exact hfg
            · exact absurd (hkeys.2 ▸ List.mem_map_of_mem hmem) hnodup.1
          subst hfg
          rw [ih (List.perm_cons f |>.mp hperm) hkeys.2 hnodup.2]

/-- Objects over the same distinct keys that are equal in key order agree member by member. -/
lemma fields_eq_of_sortKeys {fs gs : List (String × Value)} (hf : Plain (.obj fs))
    (hkeys : fs.map Prod.fst = gs.map Prod.fst) (hsort : sortKeys (.obj fs) = sortKeys (.obj gs)) :
    (fs.map fun f => (f.1, sortKeys f.2)) = gs.map fun g => (g.1, sortKeys g.2) := by
  rw [sortKeys_obj, sortKeys_obj, Value.obj.injEq] at hsort
  refine eq_of_perm_of_keys ?_ ?_ ?_
  · calc (fs.map fun f => (f.1, sortKeys f.2)).Perm
          ((fs.map fun f => (f.1, sortKeys f.2)).insertionSort keyLE) :=
        (List.perm_insertionSort _ _).symm
      _ = (gs.map fun g => (g.1, sortKeys g.2)).insertionSort keyLE := hsort
      _ |>.Perm (gs.map fun g => (g.1, sortKeys g.2)) := List.perm_insertionSort _ _
  · rw [keys_sortFields, keys_sortFields, hkeys]
  · rw [keys_sortFields]; exact hf.1

/-- Objects over the same distinct keys with the same text agree member by member. -/
theorem canonicalText_obj_inj {fs gs : List (String × Value)} (hf : Plain (.obj fs))
    (hg : Plain (.obj gs)) (hkeys : fs.map Prod.fst = gs.map Prod.fst)
    (h : canonicalText (.obj fs) = canonicalText (.obj gs)) :
    (fs.map fun f => (f.1, sortKeys f.2)) = gs.map fun g => (g.1, sortKeys g.2) :=
  fields_eq_of_sortKeys hf hkeys (canonicalText_inj hf hg h)

/-- Under distinct keys, looking a key up finds its member. -/
lemma get?_of_mem {fs : List (String × Value)} (hnodup : (fs.map Prod.fst).Nodup) {k : String}
    {v : Value} (hmem : (k, v) ∈ fs) : (Value.obj fs).get? k = some v := by
  induction fs with
  | nil => simp at hmem
  | cons f fs ih =>
      simp only [List.map_cons, List.nodup_cons] at hnodup
      rcases List.mem_cons.mp hmem with rfl | hmem
      · simp [Value.get?]
      · have hne : f.1 ≠ k := by
          rintro rfl
          exact hnodup.1 (List.mem_map.mpr ⟨_, hmem, rfl⟩)
        have htail := ih hnodup.2 hmem
        simpa [Value.get?, hne] using htail

/-- Looking a member up after sorting finds the same member, sorted. -/
lemma get?_sortKeys {fs : List (String × Value)} (hf : Plain (.obj fs)) {k : String} {v : Value}
    (hmem : (k, v) ∈ fs) : (sortKeys (.obj fs)).get? k = some (sortKeys v) := by
  have hplain := plain_sortKeys _ hf
  rw [sortKeys_obj] at hplain ⊢
  refine get?_of_mem hplain.1 ((List.mem_insertionSort keyLE).mpr ?_)
  exact List.mem_map.mpr ⟨(k, v), hmem, rfl⟩

/-! ## Text in ASCII -/

/-- `\\uXXXX` -/
def unicodeEscapeOf (n : Nat) : List Char :=
  ['\\', 'u', hexDigit (n / 4096 % 16), hexDigit (n / 256 % 16), hexDigit (n / 16 % 16),
    hexDigit (n % 16)]

/-- A character of a text with `ensure_ascii=True`: beyond the BMP it is a surrogate pair. -/
def escapeNonAscii (c : Char) : List Char :=
  if c.toNat < 0x7f then [c]
  else if c.toNat < 0x10000 then unicodeEscapeOf c.toNat
  else unicodeEscapeOf (0xd800 + (c.toNat - 0x10000) / 0x400) ++
    unicodeEscapeOf (0xdc00 + (c.toNat - 0x10000) % 0x400)

/-- The compact text with `sort_keys=True` and `ensure_ascii=True`.  Only string literals hold
characters beyond ASCII. -/
def asciiText (v : Value) : List Char := (canonicalText v).flatMap escapeNonAscii

/-- A character of a string literal in such a text. -/
def asciiEscape (c : Char) : List Char := (escapeChar c).flatMap escapeNonAscii

lemma escapeNonAscii_of_lt {c : Char} (h : c.toNat < 0x7f) : escapeNonAscii c = [c] := by
  rw [escapeNonAscii, if_pos h]

lemma flatMap_escapeNonAscii {cs : List Char} (h : ∀ c ∈ cs, c.toNat < 0x7f) :
    cs.flatMap escapeNonAscii = cs := by
  induction cs with
  | nil => rfl
  | cons c cs ih =>
      rw [List.flatMap_cons, escapeNonAscii_of_lt (h c (by simp)),
        ih fun d hd => h d (by simp [hd])]
      rfl

lemma toNat_hexDigit : ∀ n < 16, (hexDigit n).toNat < 0x7f := by decide

lemma hex4_hexDigits {n : Nat} (h : n < 65536) (r : List Char) :
    hex4 (hexDigit (n / 4096 % 16) :: hexDigit (n / 256 % 16) :: hexDigit (n / 16 % 16) ::
      hexDigit (n % 16) :: r) = some (n, r) := by
  have h₁ := hexValue_hexDigit (n / 4096 % 16) (Nat.mod_lt _ (by decide))
  have h₂ := hexValue_hexDigit (n / 256 % 16) (Nat.mod_lt _ (by decide))
  have h₃ := hexValue_hexDigit (n / 16 % 16) (Nat.mod_lt _ (by decide))
  have h₄ := hexValue_hexDigit (n % 16) (Nat.mod_lt _ (by decide))
  have hsum : ((n / 4096 % 16 * 16 + n / 256 % 16) * 16 + n / 16 % 16) * 16 + n % 16 = n := by omega
  simp [hex4, h₁, h₂, h₃, h₄, hsum]

lemma scalar_toNat (c : Char) : scalar c.toNat = some c := by
  have hvalid : c.toNat.isValidChar := c.valid
  simp [scalar, hvalid]

lemma unicodeEscapeOf_append (n : Nat) (r : List Char) :
    unicodeEscapeOf n ++ r = '\\' :: 'u' :: hexDigit (n / 4096 % 16) :: hexDigit (n / 256 % 16) ::
      hexDigit (n / 16 % 16) :: hexDigit (n % 16) :: r := rfl

/-- A character of the BMP is read back from its escape. -/
lemma unicodeEscape_bmp {c : Char} (hbmp : c.toNat < 0x10000) (r : List Char) :
    unicodeEscape (hexDigit (c.toNat / 4096 % 16) :: hexDigit (c.toNat / 256 % 16) ::
      hexDigit (c.toNat / 16 % 16) :: hexDigit (c.toNat % 16) :: r) = some (c, r) := by
  have hhex := hex4_hexDigits hbmp r
  have hsurrogate : ¬ (0xd800 ≤ c.toNat ∧ c.toNat ≤ 0xdbff) := by
    have hvalid : c.toNat.isValidChar := c.valid
    rcases hvalid with hlow | hhigh <;> omega
  simp [unicodeEscape, hhex, hsurrogate, scalar_toNat]

/-- A character beyond it is read back from its surrogate pair. -/
lemma unicodeEscape_pair {c : Char} {high low : Nat} (hhigh : 0xd800 ≤ high ∧ high ≤ 0xdbff)
    (hlow : 0xdc00 ≤ low ∧ low ≤ 0xdfff)
    (hsum : 0x10000 + (high - 0xd800) * 0x400 + (low - 0xdc00) = c.toNat) (r : List Char) :
    unicodeEscape (hexDigit (high / 4096 % 16) :: hexDigit (high / 256 % 16) ::
      hexDigit (high / 16 % 16) :: hexDigit (high % 16) :: (unicodeEscapeOf low ++ r)) =
        some (c, r) := by
  have hhex := hex4_hexDigits (n := high) (by omega) (unicodeEscapeOf low ++ r)
  have hhex' := hex4_hexDigits (n := low) (by omega) r
  rw [unicodeEscapeOf_append] at hhex ⊢
  simp [unicodeEscape, hhex, hhigh, hhex', hlow, hsum, scalar_toNat]

lemma loadsText_escapeNonAscii (n : Nat) {c : Char} (h : ¬ c.toNat < 0x7f) (r : List Char) :
    loadsText (n + 1) (escapeNonAscii c ++ r) = (loadsText n r).map fun p => (c :: p.1, p.2) := by
  unfold escapeNonAscii
  rw [if_neg h]
  split
  · next hbmp =>
    rw [unicodeEscapeOf_append]
    refine loadsText_backslash ?_
    rw [escape, unicodeEscape_bmp hbmp]
  · next hbmp =>
    have htop : c.toNat < 0x110000 := by
      have hvalid : c.toNat.isValidChar := c.valid
      rcases hvalid with hlow | hhigh <;> omega
    rw [List.append_assoc, unicodeEscapeOf_append]
    refine loadsText_backslash ?_
    rw [escape]
    exact unicodeEscape_pair ⟨by omega, by omega⟩ ⟨by omega, by omega⟩ (by omega) r

lemma ascii_escapeChar {c : Char} (hc : c.toNat < 0x7f) : ∀ d ∈ escapeChar c, d.toNat < 0x7f := by
  unfold escapeChar
  split_ifs with _ _ _ _ _ _ _ hcontrol
  all_goals try (simp; done)
  · have hhigh := toNat_hexDigit (c.toNat / 16) (by omega)
    have hlow := toNat_hexDigit (c.toNat % 16) (by omega)
    simp [hhigh, hlow]
  · simpa using hc

lemma escapeChar_of_not_lt {c : Char} (hc : ¬ c.toNat < 0x7f) : escapeChar c = [c] := by
  unfold escapeChar
  split_ifs <;> first | rfl | (exfalso; subst_vars; revert hc; decide) | omega

lemma readable_asciiEscape : Readable asciiEscape := by
  refine ⟨?_, ?_⟩
  · intro n c r
    by_cases hc : c.toNat < 0x7f
    · rw [asciiEscape, flatMap_escapeNonAscii (ascii_escapeChar hc), loadsText_escapeChar]
    · rw [asciiEscape, escapeChar_of_not_lt hc, List.flatMap_singleton,
        loadsText_escapeNonAscii n hc]
  · intro c
    have hone : ∀ d, 1 ≤ (escapeNonAscii d).length := by
      intro d
      unfold escapeNonAscii
      split_ifs <;> simp [unicodeEscapeOf]
    rcases List.exists_cons_of_ne_nil (List.ne_nil_of_length_pos (length_escapeChar c)) with
      ⟨d, ds, heq⟩
    have hd := hone d
    rw [asciiEscape, heq, List.flatMap_cons, List.length_append]
    omega

lemma flatMap_dumpsText (cs : List Char) :
    (dumpsText cs).flatMap escapeNonAscii = writeText asciiEscape cs := by
  induction cs with
  | nil => rfl
  | cons c cs ih => rw [dumpsText, List.flatMap_append, ih, writeText, asciiEscape]

lemma flatMap_dumpsStr (s : String) :
    (dumpsStr s).flatMap escapeNonAscii = writeStr asciiEscape s := by
  rw [dumpsStr, List.flatMap_cons, flatMap_dumpsText, writeStr]
  rfl

lemma ascii_dumpsInt (n : Int) : ∀ c ∈ dumpsInt n, c.toNat < 0x7f := by
  have hdigit : ∀ m, ∀ c ∈ Nat.toDigits 10 m, c.toNat < 0x7f := by
    intro m c hc
    have hdigit := isDigit_of_mem_digits hc
    simp only [Char.isDigit, Bool.and_eq_true, decide_eq_true_eq] at hdigit
    have hle : c.toNat ≤ '9'.toNat := hdigit.2
    have hnine : '9'.toNat = 57 := by decide
    omega
  cases n with
  | ofNat n => exact hdigit n
  | negSucc n =>
      intro c hc
      rcases List.mem_cons.mp hc with rfl | hc
      · decide
      · exact hdigit (n + 1) c hc

mutual

lemma flatMap_dumps (v : Value) (hv : Plain v) :
    (dumps v).flatMap escapeNonAscii = write asciiEscape v := by
  match v with
  | .null => rfl
  | .bool true => rfl
  | .bool false => rfl
  | .int n => rw [dumps, write, flatMap_escapeNonAscii (ascii_dumpsInt n)]
  | .str s => rw [dumps, write, flatMap_dumpsStr]
  | .arr items =>
      rw [dumps, write, List.flatMap_cons, flatMap_dumpsItems items hv]
      rfl
  | .obj fields =>
      rw [dumps, write, List.flatMap_cons, flatMap_dumpsFields fields hv.2]
      rfl

lemma flatMap_dumpsItems (vs : List Value) (hvs : PlainItems vs) :
    (dumpsItems vs).flatMap escapeNonAscii = writeItems asciiEscape vs := by
  match vs with
  | [] => rfl
  | [v] =>
      rw [dumpsItems, writeItems, List.flatMap_append, flatMap_dumps v hvs.1]
      rfl
  | v :: w :: ws =>
      rw [dumpsItems, writeItems, List.flatMap_append, List.flatMap_cons, flatMap_dumps v hvs.1,
        flatMap_dumpsItems (w :: ws) hvs.2]
      rfl

lemma flatMap_dumpsFields (fs : List (String × Value)) (hfs : PlainFields fs) :
    (dumpsFields fs).flatMap escapeNonAscii = writeFields asciiEscape fs := by
  match fs with
  | [] => rfl
  | [(k, v)] =>
      rw [dumpsFields, writeFields, List.flatMap_append, List.flatMap_cons, List.flatMap_append,
        flatMap_dumpsStr, flatMap_dumps v hfs.1]
      rfl
  | (k, v) :: f :: fs =>
      rw [dumpsFields, writeFields, List.flatMap_append, List.flatMap_cons, List.flatMap_append,
        List.flatMap_cons, flatMap_dumpsStr, flatMap_dumps v hfs.1,
        flatMap_dumpsFields (f :: fs) hfs.2]
      rfl

end

/-- The text in ASCII determines the value in key order. -/
theorem asciiText_inj {v w : Value} (hv : Plain v) (hw : Plain w)
    (h : asciiText v = asciiText w) : sortKeys v = sortKeys w := by
  have hv' := plain_sortKeys v hv
  have hw' := plain_sortKeys w hw
  rw [asciiText, asciiText, canonicalText, canonicalText, flatMap_dumps _ hv',
    flatMap_dumps _ hw'] at h
  exact write_inj readable_asciiEscape hv' hw' h

/-- Objects over the same distinct keys with the same text in ASCII agree member by member. -/
theorem asciiText_obj_inj {fs gs : List (String × Value)} (hf : Plain (.obj fs))
    (hg : Plain (.obj gs)) (hkeys : fs.map Prod.fst = gs.map Prod.fst)
    (h : asciiText (.obj fs) = asciiText (.obj gs)) :
    (fs.map fun f => (f.1, sortKeys f.2)) = gs.map fun g => (g.1, sortKeys g.2) :=
  fields_eq_of_sortKeys hf hkeys (asciiText_inj hf hg h)

/-! ## Checksums -/

/-- A digest of texts without collisions. -/
structure IdealHash where
  digest : List Char → String
  injective : Function.Injective digest

instance : Inhabited IdealHash := ⟨⟨String.ofList, fun _ _ h => String.ofList_injective h⟩⟩

/-- The checksum of a value: the digest of its canonical text. -/
def IdealHash.checksum (hash : IdealHash) (v : Value) : String := hash.digest (canonicalText v)

lemma IdealHash.checksum_inj {hash : IdealHash} {v w : Value} :
    hash.checksum v = hash.checksum w ↔ canonicalText v = canonicalText w :=
  ⟨fun h => hash.injective h, fun h => by rw [checksum, h, checksum]⟩

end PyJson
