import Mathlib
import StockResearch.Infrastructure.BlobStorage

/-!
# The spellings of a blob URI

`_parse_uri` looks at the parts of a URI, and `urlsplit` finds the same parts in texts that differ:
it drops spaces in front, folds the case of the scheme, and leaves out a query or a fragment that is
empty together with its mark.

**Spellings.**  A `Spelling` is what a text may do besides naming a backend and a key;
`Spelling.literal` is how the storage writes URIs.  `Spelling.text_literal`: no other spelling
writes the same text.

**`parseUri_ok_iff`**: what is accepted for a key is exactly its spellings, within the limit of
the length.
-/

namespace StockResearch.Infrastructure

open PyText PyUrl Checked

/-- A library that knows the control characters of ASCII. -/
structure TextLibrary extends BlobLibrary where
  control : ∀ c : Char, c.toNat < 32 → isOther c = true

/-- The storages that have URIs. -/
inductive Backend where
  | memory | files
deriving DecidableEq, Repr

def Backend.name : Backend → Text
  | .memory => "memory".toList
  | .files => "local".toList

/-! ## Characters -/

lemma graphic_of_isHexDigit {c : Char} (h : isHexDigit c = true) :
    32 ≤ c.toNat ∧ c.toNat < 127 ∧ c ≠ '%' ∧ c ≠ '\\' ∧ c ≠ '/' ∧ c ≠ '?' ∧ c ≠ '#' := by
  have hrange : (48 ≤ c.toNat ∧ c.toNat ≤ 57) ∨ (97 ≤ c.toNat ∧ c.toNat ≤ 102) := by
    simpa [isHexDigit, Char.isDigit, UInt32.le_iff_toNat_le, Char.le_def] using h
  have hne : ∀ d : Char, c.toNat ≠ d.toNat → c ≠ d := by
    rintro d hd rfl
    exact hd rfl
  refine ⟨by omega, by omega, ?_⟩
  refine ⟨hne _ ?_, hne _ ?_, hne _ ?_, hne _ ?_, hne _ ?_⟩ <;>
    simp only [Char.reduceToNat] <;> omega

lemma length_of_isHex {n : Nat} {key : Text} (hkey : isHex n key = true) : key.length = n := by
  rw [isHex, Bool.and_eq_true, beq_iff_eq] at hkey
  exact hkey.1

lemma graphic_of_isHex {n : Nat} {key : Text} (hkey : isHex n key = true) {c : Char} (hc : c ∈ key) :
    32 ≤ c.toNat ∧ c.toNat < 127 ∧ c ≠ '%' ∧ c ≠ '\\' ∧ c ≠ '/' ∧ c ≠ '?' ∧ c ≠ '#' := by
  rw [isHex, Bool.and_eq_true] at hkey
  exact graphic_of_isHexDigit (List.all_eq_true.mp hkey.2 c hc)

/-- A letter of the scheme, in either case. -/
lemma letter_of_toLower {c : Char} (h : c.toLower ∈ "blob".toList) :
    c.isAlpha = true ∧ 32 ≤ c.toNat ∧ c.toNat < 127 ∧ c ≠ '%' ∧ c ≠ '\\' := by
  by_cases hupper : c.isUpper = true
  · have hrange : 65 ≤ c.toNat ∧ c.toNat ≤ 90 := by
      simpa [Char.isUpper, UInt32.le_iff_toNat_le] using hupper
    refine ⟨by simp [Char.isAlpha, hupper], by omega, by omega, ?_, ?_⟩
    · rintro rfl
      exact absurd hupper (by decide)
    · rintro rfl
      exact absurd hupper (by decide)
  · have hsame : c.toLower = c := by
      rw [Char.toLower, dif_neg]
      simpa [Char.isUpper] using hupper
    rw [hsame] at h
    exact (forall_of_all (by decide) : ∀ c ∈ "blob".toList,
      c.isAlpha = true ∧ 32 ≤ c.toNat ∧ c.toNat < 127 ∧ c ≠ '%' ∧ c ≠ '\\') c h

/-! ## Spellings -/

/-- What a text may do besides naming a backend and a key. -/
structure Spelling where
  /-- The spaces in front. -/
  spaces : Nat
  scheme : Text
  queryMark : Bool
  fragmentMark : Bool
  folded : scheme.map Char.toLower = "blob".toList

namespace Spelling

/-- The marks of an empty query and of an empty fragment. -/
def marks (s : Spelling) : Text :=
  (if s.queryMark then ['?'] else []) ++ if s.fragmentMark then ['#'] else []

/-- The text that names a key of a backend. -/
def text (s : Spelling) (backend key : Text) : Text :=
  List.replicate s.spaces ' ' ++
    (s.scheme ++ ':' :: '/' :: '/' :: (backend ++ '/' :: (key ++ s.marks)))

/-- The spelling that the storage writes. -/
def literal : Spelling := ⟨0, "blob".toList, false, false, by decide⟩

variable (s : Spelling) {backend key : Text}

lemma toList_blobUri_eq : (blobUri backend key).toList = literal.text backend key := by
  have hliteral : literal.text backend key =
      "blob".toList ++ ':' :: '/' :: '/' :: (backend ++ '/' :: key) := by
    simp [text, literal, marks]
  rw [hliteral]
  exact String.toList_ofList

lemma scheme_length : s.scheme.length = 4 := by
  rw [← List.length_map Char.toLower, s.folded]
  decide

lemma scheme_letter {c : Char} (hc : c ∈ s.scheme) :
    c.isAlpha = true ∧ 32 ≤ c.toNat ∧ c.toNat < 127 ∧ c ≠ '%' ∧ c ≠ '\\' := by
  refine letter_of_toLower ?_
  rw [← s.folded]
  exact List.mem_map_of_mem hc

lemma scheme_ne_nil : s.scheme ≠ [] := by
  intro h
  have hlength := s.scheme_length
  rw [h] at hlength
  cases hlength

/-- The first character of a scheme is no space. -/
lemma head_rest (rest : Text) : ∃ c cs, s.scheme ++ rest = c :: cs ∧ 32 < c.toNat := by
  obtain ⟨c, cs, hscheme⟩ := List.exists_cons_of_ne_nil s.scheme_ne_nil
  have hletter := s.scheme_letter (c := c) (by rw [hscheme]; exact List.mem_cons_self)
  refine ⟨c, cs ++ rest, by rw [hscheme]; rfl, ?_⟩
  have hne : c.toNat ≠ 32 := by
    intro h
    have hspace : c = ' ' := Char.ext (UInt32.toNat_inj.mp h)
    rw [hspace] at hletter
    exact absurd hletter.1 (by decide)
  omega

lemma spaces_take (s : Spelling) (backend key : Text) :
    (s.text backend key).dropWhile (fun c => c.toNat ≤ 32) =
      s.scheme ++ ':' :: '/' :: '/' :: (backend ++ '/' :: (key ++ s.marks)) := by
  obtain ⟨c, cs, hrest, hlarge⟩ :=
    s.head_rest (':' :: '/' :: '/' :: (backend ++ '/' :: (key ++ s.marks)))
  have hspaces : ∀ c ∈ List.replicate s.spaces ' ', decide (c.toNat ≤ 32) = true := by
    intro c hc
    rw [List.eq_of_mem_replicate hc]
    rfl
  rw [text, List.dropWhile_append_of_pos hspaces, hrest, List.dropWhile_cons_of_neg]
  simpa using hlarge

/-- **No other spelling writes the same text.** -/
theorem text_literal {key' : Text} (hkey : isHex 32 key = true) (hkey' : isHex 32 key' = true)
    (h : s.text backend key = literal.text backend key') : s = literal := by
  -- Without the spaces both are a scheme of four characters, and then a key of 32 and the marks.
  have hdrop := congrArg (List.dropWhile fun c : Char => c.toNat ≤ 32) h
  have hlength := congrArg List.length h
  rw [spaces_take, spaces_take] at hdrop
  have hsplit := List.append_inj hdrop (by rw [s.scheme_length, literal.scheme_length])
  obtain ⟨hscheme, hrest⟩ := hsplit
  simp only [List.cons.injEq, true_and, List.append_cancel_left_eq] at hrest
  have hmarks := (List.append_inj hrest
    (by rw [length_of_isHex hkey, length_of_isHex hkey'])).2
  have hspaces : s.spaces = 0 := by
    simp only [text, hscheme, hmarks, List.length_append, List.length_replicate, List.length_cons,
      length_of_isHex hkey, length_of_isHex hkey'] at hlength
    have hnone : literal.spaces = 0 := rfl
    omega
  obtain ⟨spaces, scheme, queryMark, fragmentMark, folded⟩ := s
  dsimp only at hspaces hscheme
  subst hspaces hscheme
  cases queryMark <;> cases fragmentMark <;> first | rfl | cases hmarks

end Spelling

/-! ## Reading -/

section Reading

variable {lib : BlobLibrary} {backend : Backend} {key : Text} {s : Spelling}

lemma graphic_backend (backend : Backend) : ∀ c ∈ backend.name,
    (32 ≤ c.toNat ∧ c.toNat < 127 ∧ c ≠ '%' ∧ c ≠ '\\') ∧ c ≠ '/' ∧ c ≠ '?' ∧ c ≠ '#' := by
  cases backend <;> exact forall_of_all (by decide)

/-- The characters of a spelling are graphic, or spaces. -/
lemma graphic_text (hkey : isHex 32 key = true) : ∀ c ∈ s.text backend.name key,
    32 ≤ c.toNat ∧ c.toNat < 127 ∧ c ≠ '%' ∧ c ≠ '\\' := by
  have hspaces : ∀ c ∈ List.replicate s.spaces ' ',
      32 ≤ c.toNat ∧ c.toNat < 127 ∧ c ≠ '%' ∧ c ≠ '\\' := by
    intro c hc
    rw [List.eq_of_mem_replicate hc]
    decide
  have hmarks : ∀ c ∈ s.marks, 32 ≤ c.toNat ∧ c.toNat < 127 ∧ c ≠ '%' ∧ c ≠ '\\' := by
    unfold Spelling.marks
    cases s.queryMark <;> cases s.fragmentMark <;> exact forall_of_all (by decide)
  have hkeys : ∀ c ∈ key, 32 ≤ c.toNat ∧ c.toNat < 127 ∧ c ≠ '%' ∧ c ≠ '\\' := by
    intro c hc
    have hgraphic := graphic_of_isHex hkey hc
    exact ⟨hgraphic.1, hgraphic.2.1, hgraphic.2.2.1, hgraphic.2.2.2.1⟩
  have hcolon : 32 ≤ ':'.toNat ∧ ':'.toNat < 127 ∧ ':' ≠ '%' ∧ ':' ≠ '\\' := by decide
  have hslash : 32 ≤ '/'.toNat ∧ '/'.toNat < 127 ∧ '/' ≠ '%' ∧ '/' ≠ '\\' := by decide
  intro c hc
  simp only [Spelling.text, List.mem_append, List.mem_cons] at hc
  rcases hc with hc | hc | rfl | rfl | rfl | hc | rfl | hc | hc
  · exact hspaces c hc
  · exact (s.scheme_letter hc).2
  · exact hcolon
  · exact hslash
  · exact hslash
  · exact (graphic_backend backend c hc).1
  · exact hslash
  · exact hkeys c hc
  · exact hmarks c hc

/-- Texts without control characters lose nothing but the spaces in front. -/
lemma filter_clean {text : Text} (h : ∀ c ∈ text, 32 ≤ c.toNat) :
    text.filter (fun c => c ≠ '\t' && c ≠ '\r' && c ≠ '\n') = text := by
  refine List.filter_eq_self.mpr fun c hc => ?_
  have hlow := h c hc
  have hne : ∀ d : Char, d.toNat < 32 → c ≠ d := by
    rintro d hd rfl
    omega
  simp [hne '\t' (by decide), hne '\r' (by decide), hne '\n' (by decide)]

/-- An empty query and an empty fragment are dropped with their marks. -/
lemma partition_marks (hkey : isHex 32 key = true) (s : Spelling) :
    (partition '?' (partition '#' ('/' :: (key ++ s.marks))).1).1 = '/' :: key ∧
      (partition '?' (partition '#' ('/' :: (key ++ s.marks))).1).2.getD [] = [] ∧
      (partition '#' ('/' :: (key ++ s.marks))).2.getD [] = [] := by
  have hplain : ∀ c ∈ '/' :: key, c ≠ '?' ∧ c ≠ '#' := by
    rw [List.forall_mem_cons]
    refine ⟨by decide, fun c hc => ?_⟩
    have hc := graphic_of_isHex hkey hc
    exact ⟨hc.2.2.2.2.2.1, hc.2.2.2.2.2.2⟩
  have hquery : '?' ∉ '/' :: key := fun h => (hplain _ h).1 rfl
  have hfragment : '#' ∉ '/' :: key := fun h => (hplain _ h).2 rfl
  have hboth : '#' ∉ '/' :: (key ++ ['?']) := by
    rw [← List.cons_append, List.mem_append, not_or]
    exact ⟨hfragment, by decide⟩
  unfold Spelling.marks
  cases s.queryMark <;> cases s.fragmentMark
  · simp only [Bool.false_eq_true, if_false, List.append_nil]
    rw [partition_of_not_mem hfragment]
    dsimp only
    rw [partition_of_not_mem hquery]
    exact ⟨rfl, rfl, rfl⟩
  · simp only [Bool.false_eq_true, if_false, if_true, List.nil_append]
    rw [← List.cons_append, partition_append hfragment]
    dsimp only
    rw [partition_of_not_mem hquery]
    exact ⟨rfl, rfl, rfl⟩
  · simp only [Bool.false_eq_true, if_false, if_true, List.append_nil]
    rw [partition_of_not_mem hboth]
    dsimp only
    rw [← List.cons_append, partition_append hquery]
    exact ⟨rfl, rfl, rfl⟩
  · simp only [if_true]
    rw [← List.append_assoc, ← List.cons_append, partition_append hboth]
    dsimp only
    rw [← List.cons_append, partition_append hquery]
    exact ⟨rfl, rfl, rfl⟩

lemma urlsplit_text (hkey : isHex 32 key = true) :
    urlsplit lib.urls (s.text backend.name key) [] =
      some ⟨"blob".toList, backend.name, '/' :: key, [], []⟩ := by
  have hrest : ∀ c ∈ s.scheme ++ ':' :: '/' :: '/' :: (backend.name ++ '/' :: (key ++ s.marks)),
      32 ≤ c.toNat := by
    intro c hc
    exact (graphic_text hkey c (List.mem_append_right _ hc)).1
  have hscheme : splitScheme []
      (s.scheme ++ ':' :: '/' :: '/' :: (backend.name ++ '/' :: (key ++ s.marks))) =
      (s.scheme.map Char.toLower, '/' :: '/' :: (backend.name ++ '/' :: (key ++ s.marks))) :=
    splitScheme_spelled (fun c hc => (s.scheme_letter hc).1) s.scheme_ne_nil
  have hnetloc : splitNetloc ('/' :: '/' :: (backend.name ++ '/' :: (key ++ s.marks))) =
      (backend.name, '/' :: (key ++ s.marks)) :=
    splitNetloc_append (fun c hc => (graphic_backend backend c hc).2) rfl
  have hok : netlocOk lib.urls backend.name = true := by cases backend <;> rfl
  obtain ⟨hpath, hquery, hfragment⟩ := partition_marks hkey s
  rw [urlsplit, s.spaces_take, filter_clean hrest, hscheme]
  dsimp only
  rw [hnetloc]
  dsimp only
  rw [if_pos hok, hpath, hquery, hfragment, s.folded]

/-- A spelling of a key is read. -/
lemma parseUri_text {uri : String} (hkey : isHex 32 key = true) (hlength : uri.length ≤ maxUriLength)
    (huri : uri.toList = s.text backend.name key) : parseUri lib uri backend.name = .ok key := by
  have hgraphic : ∀ c ∈ s.text backend.name key, 32 ≤ c.toNat ∧ c.toNat < 127 ∧ c ≠ '%' ∧ c ≠ '\\' :=
    graphic_text hkey
  have hcontrol : hasControl lib uri.toList = false := by
    refine List.any_eq_false.mpr fun c hc => ?_
    rw [huri] at hc
    have hc := hgraphic c hc
    rw [lib.graphic c hc.1 hc.2.1]
    decide
  have htext : ¬ (maxUriLength < uri.length ∨ hasControl lib uri.toList = true ∨
      '%' ∈ uri.toList ∨ '\\' ∈ uri.toList) := by
    rw [hcontrol, huri]
    rintro (h | h | h | h)
    · exact absurd h (Nat.not_lt.mpr hlength)
    · cases h
    · exact (hgraphic _ h).2.2.1 rfl
    · exact (hgraphic _ h).2.2.2 rfl
  have hslash : key.count '/' = 0 :=
    List.count_eq_zero.mpr fun h => (graphic_of_isHex hkey h).2.2.2.2.1 rfl
  have huser : (SplitUrl.mk "blob".toList backend.name ('/' :: key) [] []).hasUserinfo = false := by
    cases backend <;> rfl
  have hparts : ¬ ("blob".toList ≠ "blob".toList ∨ backend.name ≠ backend.name ∨
      (SplitUrl.mk "blob".toList backend.name ('/' :: key) [] []).hasUserinfo = true ∨
      ([] : Text) ≠ [] ∨ ([] : Text) ≠ [] ∨ ('/' :: key).head? ≠ some '/' ∨
      ('/' :: key).count '/' ≠ 1) := by
    rw [List.count_cons_self, hslash, huser]
    simp only [ne_eq, not_true_eq_false, reduceCtorEq, List.head?_cons, or_self, zero_add,
      not_false_eq_true]
  rw [parseUri, check_ok.mpr htext, ok_bind, huri, urlsplit_text hkey, require, ok_bind]
  exact check_bind_ok.mpr ⟨hparts, if_pos hkey⟩

/-- A part with nothing behind its delimiter may have the delimiter. -/
lemma exists_mark {c : Char} {t : Text} (hbare : (partition c t).2.getD [] = []) :
    ∃ mark : Bool, t = (partition c t).1 ++ if mark then [c] else [] := by
  rcases partition_bare rfl hbare with h | h
  · exact ⟨false, by simpa using h⟩
  · exact ⟨true, by simpa using h⟩

/-- What `urlsplit` cleans of a text without control characters are the spaces in front. -/
lemma exists_spaces {text : Text} (hlow : ∀ c ∈ text, 32 ≤ c.toNat) :
    ∃ n, text = List.replicate n ' ' ++ (text.dropWhile fun c => c.toNat ≤ 32) := by
  refine ⟨(text.takeWhile fun c => c.toNat ≤ 32).length, ?_⟩
  have hspaces : text.takeWhile (fun c => c.toNat ≤ 32) =
      List.replicate (text.takeWhile fun c => c.toNat ≤ 32).length ' ' := by
    refine List.eq_replicate_of_mem fun c hc => ?_
    have hhigh : c.toNat ≤ 32 := by simpa using List.all_eq_true.mp List.all_takeWhile c hc
    have heq : c.toNat = 32 := le_antisymm hhigh (hlow c ((List.takeWhile_prefix _).subset hc))
    exact Char.ext (UInt32.toNat_inj.mp heq)
  rw [← hspaces, List.takeWhile_append_dropWhile]

/-- A text that is read is a spelling of its parts. -/
lemma text_of_urlsplit {text : Text} {u : SplitUrl} (hlow : ∀ c ∈ text, 32 ≤ c.toNat)
    (h : urlsplit lib.urls text [] = some u) (hscheme : u.scheme = "blob".toList)
    (hnetloc : u.netloc ≠ []) (hquery : u.query = []) (hfragment : u.fragment = []) :
    ∃ s : Spelling, text = List.replicate s.spaces ' ' ++
      (s.scheme ++ ':' :: '/' :: '/' :: (u.netloc ++ (u.path ++ s.marks))) := by
  obtain ⟨n, htext⟩ := exists_spaces hlow
  have hclean := filter_clean fun c hc =>
    hlow c ((List.dropWhile_suffix (fun c : Char => decide (c.toNat ≤ 32))).subset hc)
  rw [urlsplit, hclean] at h
  generalize text.dropWhile (fun c => decide (c.toNat ≤ 32)) = cleaned at h htext
  rcases hsplit : splitScheme [] cleaned with ⟨scheme, rest⟩
  rw [hsplit] at h
  dsimp only at h
  rcases hbehind : splitNetloc rest with ⟨netloc, behind⟩
  rw [hbehind] at h
  dsimp only at h
  split_ifs at h
  cases h
  dsimp only at hscheme hnetloc hquery hfragment ⊢
  obtain ⟨spelled, hfolded, hurl⟩ := splitScheme_ne hsplit (by rw [hscheme]; decide)
  have hrest := splitNetloc_ne hbehind hnetloc
  obtain ⟨fragmentMark, hmarked⟩ := exists_mark hfragment
  obtain ⟨queryMark, hpath⟩ := exists_mark hquery
  refine ⟨⟨n, spelled, queryMark, fragmentMark, hfolded.trans hscheme⟩, ?_⟩
  dsimp only [Spelling.marks]
  rw [← List.append_assoc (partition '?' _).1, ← hpath, ← hmarked, ← hrest, ← hurl, ← htext]

end Reading

/-- **What is accepted for a key are its spellings, within the limit of the length.** -/
theorem parseUri_ok_iff (lib : TextLibrary) (backend : Backend) {uri : String} {key : Text} :
    parseUri lib.toBlobLibrary uri backend.name = .ok key ↔
      isHex 32 key = true ∧ uri.length ≤ maxUriLength ∧
        ∃ s : Spelling, uri.toList = s.text backend.name key := by
  constructor
  · intro h
    unfold parseUri at h
    obtain ⟨htext, h⟩ := check_bind_ok.mp h
    obtain ⟨u, hsplit, h⟩ := require_bind_ok.mp h
    obtain ⟨hparts, h⟩ := check_bind_ok.mp h
    simp only [not_or, ne_eq, not_not] at htext hparts
    obtain ⟨hlength, hcontrol, -, -⟩ := htext
    obtain ⟨hscheme, hnetloc, -, hquery, hfragment, hhead, -⟩ := hparts
    unfold validateKey at h
    split at h
    case isFalse => cases h
    case isTrue hhex =>
    cases h
    have hlow : ∀ c ∈ uri.toList, 32 ≤ c.toNat := by
      intro c hc
      by_contra hlt
      exact hcontrol (List.any_eq_true.mpr ⟨c, hc, lib.control c (Nat.not_le.mp hlt)⟩)
    have hnonempty : u.netloc ≠ [] := by
      rw [hnetloc]
      cases backend <;> decide
    obtain ⟨s, hs⟩ := text_of_urlsplit hlow hsplit hscheme hnonempty hquery hfragment
    obtain ⟨path, hpath⟩ : ∃ path, u.path = '/' :: path := by
      cases hp : u.path with
      | nil =>
          rw [hp] at hhead
          cases hhead
      | cons c path =>
          rw [hp] at hhead
          exact ⟨path, by rw [Option.some.inj hhead]⟩
    rw [hpath, hnetloc] at hs
    rw [hpath, List.tail_cons] at hhex ⊢
    exact ⟨hhex, Nat.not_lt.mp hlength, s, hs⟩
  · rintro ⟨hkey, hlength, s, hs⟩
    exact parseUri_text hkey hlength hs

end StockResearch.Infrastructure
