import StockResearch.Core.Json

/-!
# Reading back what was written

`loads` inverts `dumps` on every plain value: no object repeats a key, and no number is a
floating-point one.  The proof follows the shape of the writer.  What stands after a value matters
only for numbers, whose end is found by looking ahead, so every statement carries a rest that
`Ends` the value: a comma, a closing bracket or brace, or nothing.

The fuel of the reader is bounded by the length of the text throughout, which is why no separate
measure on values is needed.
-/

namespace PyJson

/-! ## Plain values -/

mutual

/-- No object repeats a key and no number has a fraction or an exponent. -/
def Plain : Value → Prop
  | .real _ => False
  | .arr items => PlainItems items
  | .obj fields => (fields.map Prod.fst).Nodup ∧ PlainFields fields
  | _ => True

/-- Every element is plain. -/
def PlainItems : List Value → Prop
  | [] => True
  | v :: vs => Plain v ∧ PlainItems vs

/-- Every member is plain. -/
def PlainFields : List (String × Value) → Prop
  | [] => True
  | (_, v) :: fs => Plain v ∧ PlainFields fs

end

/-- What may stand right after a value: a separator, a closing bracket, or the end of the text. -/
def Ends (rest : List Char) : Prop := ∀ c ∈ rest.head?, c = ',' ∨ c = ']' ∨ c = '}'

lemma ends_nil : Ends [] := by simp [Ends]

lemma ends_comma (r : List Char) : Ends (',' :: r) := by simp [Ends]

lemma ends_bracket (r : List Char) : Ends (']' :: r) := by simp [Ends]

lemma ends_brace (r : List Char) : Ends ('}' :: r) := by simp [Ends]

/-! ## Writers

`write esc` is the compact text with the characters of string literals written by `esc`; `dumps` is
one such writer. -/

/-- A string literal after its opening quote, the closing one included. -/
def writeText (esc : Char → List Char) : List Char → List Char
  | [] => ['"']
  | c :: cs => esc c ++ writeText esc cs

/-- A string literal. -/
def writeStr (esc : Char → List Char) (s : String) : List Char := '"' :: writeText esc s.toList

mutual

/-- The compact text of a value. -/
def write (esc : Char → List Char) : Value → List Char
  | .null => "null".toList
  | .bool true => "true".toList
  | .bool false => "false".toList
  | .int n => dumpsInt n
  | .real literal => literal
  | .str s => writeStr esc s
  | .arr items => '[' :: writeItems esc items
  | .obj fields => '{' :: writeFields esc fields

/-- The elements of an array, and its closing bracket. -/
def writeItems (esc : Char → List Char) : List Value → List Char
  | [] => [']']
  | [v] => write esc v ++ [']']
  | v :: w :: vs => write esc v ++ ',' :: writeItems esc (w :: vs)

/-- The members of an object, and its closing brace. -/
def writeFields (esc : Char → List Char) : List (String × Value) → List Char
  | [] => ['}']
  | [(k, v)] => writeStr esc k ++ ':' :: (write esc v ++ ['}'])
  | (k, v) :: f :: fs => writeStr esc k ++ ':' :: (write esc v ++ ',' :: writeFields esc (f :: fs))

end

/-- A written character is read back in one step. -/
structure Readable (esc : Char → List Char) : Prop where
  reads : ∀ n c r, loadsText (n + 1) (esc c ++ r) = (loadsText n r).map fun p => (c :: p.1, p.2)
  length : ∀ c, 1 ≤ (esc c).length

/-! ## Strings -/

lemma hexValue_hexDigit : ∀ n < 16, hexValue (hexDigit n) = some n := by decide

lemma escape_control {c : Char} (h : c.toNat < 0x20) (r : List Char) :
    escape ('u' :: '0' :: '0' :: hexDigit (c.toNat / 16) :: hexDigit (c.toNat % 16) :: r) =
      some (c, r) := by
  have hhigh := hexValue_hexDigit (c.toNat / 16) (by omega)
  have hlow := hexValue_hexDigit (c.toNat % 16) (by omega)
  have hzero : hexValue '0' = some 0 := by decide
  have hsum : c.toNat / 16 * 16 + c.toNat % 16 = c.toNat := by omega
  have hsmall : ¬ 0xd800 ≤ c.toNat := by omega
  have hscalar : scalar c.toNat = some c := by
    have hv : c.toNat.isValidChar := c.valid
    simp [scalar, hv]
  simp [escape, unicodeEscape, hex4, hhigh, hlow, hzero, hsum, hsmall, hscalar]

lemma loadsText_backslash {n : Nat} {e r : List Char} {c : Char} (h : escape e = some (c, r)) :
    loadsText (n + 1) ('\\' :: e) = (loadsText n r).map fun p => (c :: p.1, p.2) := by
  have hquote : '\\' ≠ '"' := by decide
  simp only [loadsText, hquote, if_false, if_true, h]
  cases htext : loadsText n r <;> simp [htext]

/-- An escaped character is read back in one step. -/
lemma loadsText_escapeChar (n : Nat) (c : Char) (r : List Char) :
    loadsText (n + 1) (escapeChar c ++ r) =
      (loadsText n r).map fun p => (c :: p.1, p.2) := by
  unfold escapeChar
  split_ifs with hquote hslash hn hr ht hb hf hcontrol
  · subst hquote; exact loadsText_backslash rfl
  · subst hslash; exact loadsText_backslash rfl
  · subst hn; exact loadsText_backslash rfl
  · subst hr; exact loadsText_backslash rfl
  · subst ht; exact loadsText_backslash rfl
  · subst hb; exact loadsText_backslash rfl
  · subst hf; exact loadsText_backslash rfl
  · exact loadsText_backslash (escape_control hcontrol r)
  · simp only [List.singleton_append, loadsText, hquote, hslash, hcontrol, if_false]
    cases loadsText n r <;> rfl

lemma length_escapeChar (c : Char) : 1 ≤ (escapeChar c).length := by
  unfold escapeChar
  split_ifs <;> simp

lemma readable_escapeChar : Readable escapeChar := ⟨loadsText_escapeChar, length_escapeChar⟩

variable {esc : Char → List Char}

lemma loadsText_writeText (hesc : Readable esc) (cs : List Char) {n : Nat}
    (h : (writeText esc cs).length ≤ n) (r : List Char) :
    loadsText n (writeText esc cs ++ r) = some (cs, r) := by
  induction cs generalizing n with
  | nil =>
      obtain ⟨n, rfl⟩ : ∃ m, n = m + 1 := ⟨n - 1, by simp [writeText] at h; omega⟩
      simp [writeText, loadsText]
  | cons c cs ih =>
      have hc := hesc.length c
      simp only [writeText, List.length_append] at h
      obtain ⟨n, rfl⟩ : ∃ m, n = m + 1 := ⟨n - 1, by omega⟩
      rw [writeText, List.append_assoc, hesc.reads, ih (by omega)]
      rfl

/-! ## Numbers -/

lemma isDigit_of_mem_digits {n : Nat} {c : Char} (h : c ∈ Nat.toDigits 10 n) : c.isDigit = true :=
  Nat.isDigit_of_mem_toDigits (by decide) (by decide) h

/-- Only zero is written with a leading zero. -/
lemma digits_head {n : Nat} (hn : 0 < n) :
    ∃ c cs, Nat.toDigits 10 n = c :: cs ∧ c ≠ '0' ∧ c.isDigit = true := by
  induction n using Nat.strong_induction_on with
  | _ n ih =>
      by_cases hlt : n < 10
      · refine ⟨n.digitChar, [], Nat.toDigits_of_lt_base hlt, ?_, ?_⟩
        · have : ∀ m < 10, 0 < m → m.digitChar ≠ '0' := by decide
          exact this n hlt hn
        · have : ∀ m < 10, m.digitChar.isDigit = true := by decide
          exact this n hlt
      · obtain ⟨c, cs, hcs, hc, hd⟩ := ih (n / 10) (by omega) (by omega)
        rw [Nat.toDigits_of_base_le (by decide) (by omega), hcs]
        exact ⟨c, _, rfl, hc, hd⟩

lemma Ends.not_digit {rest : List Char} (h : Ends rest) :
    rest.takeWhile Char.isDigit = [] ∧ rest.dropWhile Char.isDigit = rest := by
  cases rest with
  | nil => simp
  | cons c r =>
      have hc : c.isDigit = false := by
        rcases h c (by simp) with rfl | rfl | rfl <;> decide
      simp [hc]

lemma Ends.fraction {rest : List Char} (h : Ends rest) : fraction rest = ([], rest) := by
  cases rest with
  | nil => rfl
  | cons c r =>
      rcases h c (by simp) with rfl | rfl | rfl <;> rfl

lemma Ends.exponent {rest : List Char} (h : Ends rest) : exponent rest = ([], rest) := by
  cases rest with
  | nil => rfl
  | cons c r =>
      rcases h c (by simp) with rfl | rfl | rfl <;> rfl

lemma integerDigits_digits (n : Nat) {rest : List Char} (h : Ends rest) :
    integerDigits (Nat.toDigits 10 n ++ rest) = some (Nat.toDigits 10 n, rest) := by
  rcases Nat.eq_zero_or_pos n with rfl | hn
  · rw [Nat.toDigits_zero]
    rfl
  · obtain ⟨c, cs, hcs, hc, hd⟩ := digits_head hn
    have hall : ∀ x ∈ cs, x.isDigit = true := fun x hx =>
      isDigit_of_mem_digits (n := n) (by rw [hcs]; exact List.mem_cons_of_mem _ hx)
    rw [hcs, List.cons_append]
    unfold integerDigits
    split
    · simp_all
    · rename_i heq
      cases heq
      rw [if_pos hd, List.takeWhile_append_of_pos hall, List.dropWhile_append_of_pos hall,
        h.not_digit.1, h.not_digit.2, List.append_nil]
    · simp_all

lemma loadsNumber_digits (negative : Bool) (n : Nat) {rest : List Char} (h : Ends rest) :
    loadsNumber negative (Nat.toDigits 10 n ++ rest) =
      some (.int (if negative then -(n : Int) else n), rest) := by
  simp [loadsNumber, integerDigits_digits n h, h.fraction, h.exponent,
    Nat.ofDigitChars_ten_toDigits]

lemma loadsAtom_digit {c : Char} (hc : c.isDigit = true) (cs : List Char) :
    loadsAtom (c :: cs) = loadsNumber false (c :: cs) := by
  unfold loadsAtom
  split <;> simp_all +decide

/-! ## The first character of a value -/

lemma skip_cons {c : Char} (hc : isSpace c = false) (r : List Char) : skip (c :: r) = c :: r := by
  simp [skip, hc]

/-- A plain value starts with a character that is neither whitespace nor a closing bracket. -/
lemma write_head (esc : Char → List Char) {v : Value} (hv : Plain v) :
    ∃ c r, write esc v = c :: r ∧ isSpace c = false ∧ c ≠ ']' := by
  have hdigit : ∀ c : Char, c.isDigit = true → isSpace c = false ∧ c ≠ ']' := by
    intro c hc
    refine ⟨?_, by rintro rfl; revert hc; decide⟩
    by_contra hspace
    simp only [isSpace, Bool.not_eq_false, Bool.or_eq_true, beq_iff_eq] at hspace
    rcases hspace with ((rfl | rfl) | rfl) | rfl <;> revert hc <;> decide
  cases v with
  | null => exact ⟨_, _, rfl, by decide, by decide⟩
  | bool b => cases b <;> exact ⟨_, _, rfl, by decide, by decide⟩
  | int n =>
      cases n with
      | ofNat n =>
          obtain ⟨c, cs, hcs⟩ := List.exists_cons_of_ne_nil (Nat.toDigits_ne_nil (n := n) (b := 10))
          have hc := hdigit c (isDigit_of_mem_digits (n := n) (by rw [hcs]; simp))
          exact ⟨c, cs, by rw [write, dumpsInt, hcs], hc.1, hc.2⟩
      | negSucc n => exact ⟨_, _, rfl, by decide, by decide⟩
  | real l => exact hv.elim
  | str s => exact ⟨_, _, rfl, by decide, by decide⟩
  | arr items => exact ⟨_, _, rfl, by decide, by decide⟩
  | obj fields => exact ⟨_, _, rfl, by decide, by decide⟩

lemma skip_write (esc : Char → List Char) {v : Value} (hv : Plain v) (r : List Char) :
    skip (write esc v ++ r) = write esc v ++ r := by
  obtain ⟨c, cs, hcs, hc, -⟩ := write_head esc hv
  rw [hcs, List.cons_append, skip_cons hc]

lemma write_length_pos (esc : Char → List Char) {v : Value} (hv : Plain v) : 0 < (write esc v).length := by
  obtain ⟨c, cs, hcs, -, -⟩ := write_head esc hv
  simp [hcs]

lemma writeItems_head (esc : Char → List Char) {v : Value} (hv : Plain v) (vs : List Value) :
    ∃ c r, writeItems esc (v :: vs) = c :: r ∧ isSpace c = false ∧ c ≠ ']' := by
  obtain ⟨c, cs, hcs, hspace, hne⟩ := write_head esc hv
  cases vs with
  | nil => exact ⟨c, _, by rw [writeItems, hcs, List.cons_append], hspace, hne⟩
  | cons w ws => exact ⟨c, _, by rw [writeItems, hcs, List.cons_append], hspace, hne⟩

lemma writeFields_head (esc : Char → List Char) (f : String × Value) (fs : List (String × Value)) :
    ∃ r, writeFields esc (f :: fs) = '"' :: r := by
  cases fs with
  | nil => exact ⟨_, rfl⟩
  | cons g gs => exact ⟨_, rfl⟩

/-! ## Dictionaries without a repeated key -/

lemma putField_fresh {fields : List (String × Value)} {k : String} (v : Value)
    (h : k ∉ fields.map Prod.fst) : putField fields k v = fields ++ [(k, v)] := by
  unfold putField
  rw [if_neg]
  simp only [List.any_eq_true, beq_iff_eq, not_exists, not_and]
  intro f hf hk
  exact h (List.mem_map.mpr ⟨f, hf, hk⟩)

lemma foldl_putField (acc fields : List (String × Value))
    (h : ((acc ++ fields).map Prod.fst).Nodup) :
    fields.foldl (fun acc f => putField acc f.1 f.2) acc = acc ++ fields := by
  induction fields generalizing acc with
  | nil => simp
  | cons f fs ih =>
      have hfresh : f.1 ∉ acc.map Prod.fst := by
        simp only [List.map_append, List.map_cons, List.nodup_append, List.mem_cons] at h
        exact fun hmem => h.2.2 _ hmem _ (Or.inl rfl) rfl
      rw [List.foldl_cons, putField_fresh f.2 hfresh, ih]
      · simp
      · simpa using h

lemma dictOf_nodup {fields : List (String × Value)} (h : (fields.map Prod.fst).Nodup) :
    dictOf fields = fields := by
  unfold dictOf
  simpa using foldl_putField [] fields (by simpa using h)

/-! ## The round trip -/

/-- The reader, one unit of fuel later, at a value that is no string, array or object. -/
lemma loadsValue_atom {n : Nat} {c : Char} (hstr : c ≠ '"') (harr : c ≠ '[') (hobj : c ≠ '{')
    (r : List Char) : loadsValue (n + 1) (c :: r) = loadsAtom (c :: r) := by
  unfold loadsValue
  split <;> simp_all

lemma loadsValue_int (m : Int) {n : Nat} {rest : List Char} (h : Ends rest) :
    loadsValue (n + 1) (dumpsInt m ++ rest) = some (.int m, rest) := by
  cases m with
  | ofNat m =>
      obtain ⟨c, cs, hcs⟩ := List.exists_cons_of_ne_nil (Nat.toDigits_ne_nil (n := m) (b := 10))
      have hc : c.isDigit = true := isDigit_of_mem_digits (n := m) (by rw [hcs]; simp)
      have hnum := loadsNumber_digits false m h
      rw [hcs] at hnum
      rw [dumpsInt, hcs, List.cons_append, loadsValue_atom, loadsAtom_digit hc]
      · simpa using hnum
      all_goals rintro rfl; revert hc; decide
  | negSucc m =>
      have hnum := loadsNumber_digits true (m + 1) h
      rw [dumpsInt, List.cons_append, loadsValue_atom (by decide) (by decide) (by decide)]
      have hneg : loadsAtom ('-' :: (Nat.toDigits 10 (m + 1) ++ rest)) =
          loadsNumber true (Nat.toDigits 10 (m + 1) ++ rest) := by
        obtain ⟨c, cs, hcs, -, hc⟩ := digits_head (Nat.succ_pos m)
        rw [hcs, List.cons_append]
        unfold loadsAtom
        split <;> simp_all +decide
      rw [hneg, hnum]
      simp [Int.negSucc_eq]

mutual

/-- **Reading a written value.** -/
theorem loadsValue_write (hesc : Readable esc) (v : Value) (hv : Plain v) (n : Nat) (hn : (write esc v).length < n)
    (rest : List Char) (hrest : Ends rest) :
    loadsValue n (write esc v ++ rest) = some (v, rest) := by
  obtain ⟨n, rfl⟩ : ∃ m, n = m + 1 := ⟨n - 1, by omega⟩
  match v with
  | .null => rfl
  | .bool true => rfl
  | .bool false => rfl
  | .int m => exact loadsValue_int m hrest
  | .str s =>
      have hlen : (writeText esc s.toList).length ≤ n := by
        simp only [write, writeStr, List.length_cons] at hn; omega
      simp [write, writeStr, loadsValue, loadsText_writeText hesc _ hlen]
  | .arr [] => rfl
  | .arr (w :: ws) =>
      obtain ⟨c, cs, hcs, hspace, hne⟩ := writeItems_head esc hv.1 ws
      have hitems := loadsItems_write hesc w ws hv n (by simp only [write, List.length_cons] at hn; omega)
        rest hrest
      rw [hcs, List.cons_append] at hitems
      simp only [write, List.cons_append, loadsValue, hcs, skip_cons hspace]
      split
      · simp_all
      · simp_all
  | .obj [] => rfl
  | .obj (f :: fs) =>
      obtain ⟨cs, hcs⟩ := writeFields_head esc f fs
      have hfields := loadsFields_write hesc f fs hv.2 n
        (by simp only [write, List.length_cons] at hn; omega) rest hrest
      rw [hcs, List.cons_append] at hfields
      have hspace : isSpace '"' = false := by decide
      simp only [write, List.cons_append, loadsValue, hcs, skip_cons hspace]
      split
      · simp_all
      · simp [hfields, dictOf_nodup hv.1]

theorem loadsItems_write (hesc : Readable esc) (v : Value) (vs : List Value) (hv : PlainItems (v :: vs)) (n : Nat)
    (hn : (writeItems esc (v :: vs)).length < n) (rest : List Char) (hrest : Ends rest) :
    loadsItems n (writeItems esc (v :: vs) ++ rest) = some (v :: vs, rest) := by
  match vs with
  | [] =>
      simp only [writeItems, List.length_append, List.length_singleton] at hn
      obtain ⟨n, rfl⟩ : ∃ m, n = m + 1 := ⟨n - 1, by omega⟩
      have hvalue := loadsValue_write hesc v hv.1 n (by omega) (']' :: rest) (ends_bracket rest)
      have hspace : isSpace ']' = false := by decide
      simp [writeItems, loadsItems, hvalue, skip_cons hspace]
  | w :: ws =>
      simp only [writeItems, List.length_append, List.length_cons] at hn
      obtain ⟨n, rfl⟩ : ∃ m, n = m + 1 := ⟨n - 1, by omega⟩
      have hpos := write_length_pos esc hv.1
      have hvalue := loadsValue_write hesc v hv.1 n (by omega) (',' :: (writeItems esc (w :: ws) ++ rest))
        (ends_comma _)
      have hitems := loadsItems_write hesc w ws hv.2 n (by omega) rest hrest
      obtain ⟨c, cs, hcs, hspace, -⟩ := writeItems_head esc hv.2.1 ws
      rw [hcs, List.cons_append] at hitems hvalue
      have hcomma : isSpace ',' = false := by decide
      simp [writeItems, loadsItems, hcs, hvalue, skip_cons hcomma, skip_cons hspace, hitems]

theorem loadsFields_write (hesc : Readable esc) (f : String × Value) (fs : List (String × Value))
    (hf : PlainFields (f :: fs)) (n : Nat) (hn : (writeFields esc (f :: fs)).length < n)
    (rest : List Char) (hrest : Ends rest) :
    loadsFields n (writeFields esc (f :: fs) ++ rest) = some (f :: fs, rest) := by
  have hcolon : isSpace ':' = false := by decide
  match f, fs with
  | (k, v), [] =>
      simp only [writeFields, writeStr, List.length_append, List.length_cons] at hn
      obtain ⟨n, rfl⟩ : ∃ m, n = m + 1 := ⟨n - 1, by omega⟩
      have hkey := loadsText_writeText hesc k.toList (n := n) (by omega)
        (':' :: (write esc v ++ '}' :: rest))
      have hvalue := loadsValue_write hesc v hf.1 n (by omega) ('}' :: rest) (ends_brace rest)
      have hspace : isSpace '}' = false := by decide
      simp [writeFields, writeStr, loadsFields, hkey, skip_cons hcolon, skip_write esc hf.1, hvalue,
        skip_cons hspace]
  | (k, v), g :: gs =>
      simp only [writeFields, writeStr, List.length_append, List.length_cons] at hn
      obtain ⟨n, rfl⟩ : ∃ m, n = m + 1 := ⟨n - 1, by omega⟩
      have hkey := loadsText_writeText hesc k.toList (n := n) (by omega)
        (':' :: (write esc v ++ ',' :: (writeFields esc (g :: gs) ++ rest)))
      have hvalue := loadsValue_write hesc v hf.1 n (by omega)
        (',' :: (writeFields esc (g :: gs) ++ rest)) (ends_comma _)
      have hfields := loadsFields_write hesc g gs hf.2 n (by omega) rest hrest
      obtain ⟨cs, hcs⟩ := writeFields_head esc g gs
      rw [hcs, List.cons_append] at hfields hkey hvalue
      have hcomma : isSpace ',' = false := by decide
      have hspace : isSpace '"' = false := by decide
      simp [writeFields, writeStr, loadsFields, hkey, skip_cons hcolon, skip_write esc hf.1, hcs, hvalue,
        skip_cons hcomma, skip_cons hspace, hfields]

end

/-- A plain value is read back from its text, however its characters are written. -/
theorem loads_write (hesc : Readable esc) {v : Value} (hv : Plain v) :
    loads (write esc v) = some v := by
  have hread := loadsValue_write hesc v hv ((write esc v).length + 1) (by omega) [] ends_nil
  have hskip := skip_write esc hv []
  rw [List.append_nil] at hread hskip
  have hend : skip [] = [] := rfl
  simp [loads, hskip, hread, hend]

theorem write_inj (hesc : Readable esc) {v w : Value} (hv : Plain v) (hw : Plain w)
    (h : write esc v = write esc w) : v = w := by
  have hread := loads_write hesc hv
  rw [h, loads_write hesc hw] at hread
  exact (Option.some.inj hread).symm

/-! ## The writer of `dumps` -/

lemma writeText_escapeChar (cs : List Char) : writeText escapeChar cs = dumpsText cs := by
  induction cs with
  | nil => rfl
  | cons c cs ih => rw [writeText, dumpsText, ih]

mutual

lemma write_escapeChar (v : Value) : write escapeChar v = dumps v := by
  match v with
  | .null => rfl
  | .bool true => rfl
  | .bool false => rfl
  | .int n => rfl
  | .real literal => rfl
  | .str s => rw [write, dumps, writeStr, dumpsStr, writeText_escapeChar]
  | .arr items => rw [write, dumps, writeItems_escapeChar items]
  | .obj fields => rw [write, dumps, writeFields_escapeChar fields]

lemma writeItems_escapeChar (vs : List Value) : writeItems escapeChar vs = dumpsItems vs := by
  match vs with
  | [] => rfl
  | [v] => rw [writeItems, dumpsItems, write_escapeChar v]
  | v :: w :: ws =>
      rw [writeItems, dumpsItems, write_escapeChar v, writeItems_escapeChar (w :: ws)]

lemma writeFields_escapeChar (fs : List (String × Value)) :
    writeFields escapeChar fs = dumpsFields fs := by
  match fs with
  | [] => rfl
  | [(k, v)] =>
      rw [writeFields, dumpsFields, writeStr, dumpsStr, writeText_escapeChar, write_escapeChar v]
  | (k, v) :: f :: fs =>
      rw [writeFields, dumpsFields, writeStr, dumpsStr, writeText_escapeChar, write_escapeChar v,
        writeFields_escapeChar (f :: fs)]

end

/-- **The round trip.**  A plain value is read back from its text. -/
theorem loads_dumps {v : Value} (hv : Plain v) : loads (dumps v) = some v := by
  rw [← write_escapeChar]
  exact loads_write readable_escapeChar hv

/-- The text of a plain value determines it. -/
theorem dumps_inj {v w : Value} (hv : Plain v) (hw : Plain w) (h : dumps v = dumps w) : v = w := by
  rw [← write_escapeChar, ← write_escapeChar] at h
  exact write_inj readable_escapeChar hv hw h

end PyJson
