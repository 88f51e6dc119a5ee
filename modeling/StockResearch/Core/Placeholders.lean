import StockResearch.Core.Unicode
import Mathlib.Data.List.Nodup

/-!
# Filling a template, one name after another

A template is plain characters and named places.  Its places are filled by `text.replace` on the
spelled text, one name after another, so a value that is already there can stand between two plain
braces and make a place of its own (`Forms`).

* `replace_spelled`: one replacement of a spelled template, which leaves plain braces alone unless a
  place is formed, and takes two of them when one is.
* `fill_spelled`: the whole loop.
* `splitOn_spelled`: a spelled template splits where the template does.
* **`fill_eq_iff`**: the loop does what filling all places at once does if and only if no name is
  ever formed.

Names and values hold no brace; nothing else is asked of them.
-/

namespace Placeholders

open PyText

inductive Piece where
  | plain (c : Char)
  | place (name : Text)
deriving DecidableEq, Repr

/-- `f"{{{name}}}"` -/
def marked (name : Text) : Text := '{' :: name ++ ['}']

variable (value : Text → Text)

/-- A piece of a template in which the names `done` have their values. -/
def Piece.spell (done : List Text) : Piece → Text
  | .plain c => [c]
  | .place name => if name ∈ done then value name else marked name

/-- A template in which the names `done` have their values. -/
def spelled (done : List Text) (pieces : List Piece) : Text :=
  pieces.flatMap (Piece.spell value done)

/-- `for name in names: text = text.replace(f"{{{name}}}", value(name))` -/
def fill (names : List Text) (text : Text) : Text :=
  names.foldl (fun text name => replaceAfter (marked name) (value name) 0 text) text

/-- The names of a template. -/
def names (pieces : List Piece) : List Text :=
  pieces.filterMap fun
    | .plain _ => none
    | .place name => some name

/-- How many plain opening braces there are. -/
def braces (pieces : List Piece) : Nat := pieces.count (.plain '{')

/-- Between two plain braces stands what spells a name. -/
def Forms (done : List Text) (name : Text) (pieces : List Piece) : Prop :=
  ∃ front inside back, pieces = front ++ .plain '{' :: inside ++ .plain '}' :: back ∧
    spelled value done inside = name

/-- When the turn of one of the names comes, it is formed. -/
def FormsInTurn : List Text → List Text → List Piece → Prop
  | _, [], _ => False
  | done, name :: later, pieces =>
      Forms value done name pieces ∨ FormsInTurn (done ++ [name]) later pieces

/-- A text without braces. -/
def Braceless (t : Text) : Prop := '{' ∉ t ∧ '}' ∉ t

variable {value} {done : List Text} {name old new t s : Text} {c : Char} {p : Piece}
  {pieces : List Piece}

/-! ## Replacing -/

lemma replaceAfter_drop (k : Nat) (t : Text) :
    replaceAfter old new k t = replaceAfter old new 0 (t.drop k) := by
  induction t generalizing k with
  | nil => simp [replaceAfter]
  | cons c cs ih =>
      cases k with
      | zero => rfl
      | succ k => exact ih k

lemma replaceAfter_match (h : old ≠ []) (t : Text) :
    replaceAfter old new 0 (old ++ t) = new ++ replaceAfter old new 0 t := by
  obtain ⟨c, old, rfl⟩ := List.exists_cons_of_ne_nil h
  have hstarts : (c :: old).isPrefixOf (c :: (old ++ t)) = true :=
    List.isPrefixOf_iff_prefix.mpr ⟨t, rfl⟩
  rw [List.cons_append, replaceAfter, if_pos hstarts, replaceAfter_drop]
  simp

lemma replaceAfter_cons (h : ¬ old <+: c :: t) :
    replaceAfter old new 0 (c :: t) = c :: replaceAfter old new 0 t := by
  rw [replaceAfter, if_neg fun hstarts => h (List.isPrefixOf_iff_prefix.mp hstarts)]

/-- What does not begin a match is passed over. -/
lemma replaceAfter_append (h : ∀ c ∈ s, old.head? ≠ some c) (hold : old ≠ []) (t : Text) :
    replaceAfter old new 0 (s ++ t) = s ++ replaceAfter old new 0 t := by
  induction s with
  | nil => rfl
  | cons c s ih =>
      have hno : ¬ old <+: c :: (s ++ t) := by
        rintro ⟨rest, hrest⟩
        obtain ⟨d, old, rfl⟩ := List.exists_cons_of_ne_nil hold
        rw [List.cons_append, List.cons.injEq] at hrest
        exact h c List.mem_cons_self (congrArg some hrest.1)
      rw [List.cons_append, replaceAfter_cons hno,
        ih fun d hd => h d (List.mem_cons_of_mem c hd), List.cons_append]

lemma marked_ne_nil (name : Text) : marked name ≠ [] := List.cons_ne_nil _ _

/-- A text without an opening brace is passed over. -/
lemma replaceAfter_marked_append (h : '{' ∉ s) (t : Text) :
    replaceAfter (marked name) new 0 (s ++ t) = s ++ replaceAfter (marked name) new 0 t := by
  refine replaceAfter_append (fun c hc heq => ?_) (marked_ne_nil name) t
  obtain rfl : '{' = c := Option.some.inj heq
  exact h hc

/-! ## Spelling -/

lemma spelled_cons (p : Piece) (pieces : List Piece) :
    spelled value done (p :: pieces) = p.spell value done ++ spelled value done pieces :=
  List.flatMap_cons

lemma spelled_append (front back : List Piece) :
    spelled value done (front ++ back) = spelled value done front ++ spelled value done back :=
  List.flatMap_append

lemma names_cons_plain (c : Char) (pieces : List Piece) : names (.plain c :: pieces) = names pieces :=
  rfl

lemma names_cons_place (name : Text) (pieces : List Piece) :
    names (.place name :: pieces) = name :: names pieces := rfl

lemma marked_append_inj {name' : Text} (h : Braceless name) (h' : Braceless name')
    (heq : marked name ++ s = marked name' ++ t) : name = name' := by
  have hbody : name ++ '}' :: s = name' ++ '}' :: t := by
    simpa [marked] using heq
  have htake : ∀ n u : Text, Braceless n → (n ++ '}' :: u).takeWhile (· ≠ '}') = n := by
    intro n u hn
    rw [List.takeWhile_append_of_pos fun c hc => by simpa using ne_of_mem_of_not_mem hc hn.2]
    simp
  rw [← htake name s h, hbody, htake name' t h']

/-! ## Splitting at a character -/

lemma splitOn_append {d : Char} (h : d ∉ s) (t : Text) :
    (s ++ t).splitOn d = (t.splitOn d).modifyHead (s ++ ·) := by
  induction s with
  | nil =>
      rw [List.nil_append]
      cases t.splitOn d <;> rfl
  | cons c s ih =>
      have hc : ¬ (c == d) = true := by
        rintro hc
        exact h (beq_iff_eq.mp hc ▸ List.mem_cons_self)
      rw [List.cons_append, List.splitOn_cons_eq_if_modifyHead, if_neg hc,
        ih fun hd => h (List.mem_cons_of_mem c hd), List.modifyHead_modifyHead]
      rfl

/-- **A spelled template splits where the template does.** -/
lemma splitOn_spelled {d : Char} (h : ∀ p ∈ pieces, p ≠ .plain d → d ∉ p.spell value done) :
    (spelled value done pieces).splitOn d =
      (pieces.splitOnP (· == .plain d)).map (spelled value done) := by
  induction pieces with
  | nil => rfl
  | cons p pieces ih =>
      have ih := ih fun q hq => h q (List.mem_cons_of_mem p hq)
      rw [spelled_cons, List.splitOnP_cons_eq_if_modifyHead]
      by_cases hp : p = .plain d
      · subst hp
        rw [if_pos (beq_self_eq_true _), List.map_cons, ← ih]
        change (d :: spelled value done pieces).splitOn d = _
        rw [List.splitOn_cons_eq_if_modifyHead, if_pos (beq_self_eq_true d)]
        rfl
      · rw [if_neg fun heq => hp (beq_iff_eq.mp heq), splitOn_append (h p List.mem_cons_self hp), ih]
        cases pieces.splitOnP (· == .plain d) with
        | nil => rfl
        | cons segment segments => rfl

/-- A segment stands between two delimiters. -/
lemma infix_of_mem_splitOn {d : Char} {segment : Text} (h : segment ∈ t.splitOn d) :
    d :: segment ++ [d] <:+: d :: t ++ [d] := by
  have hjoin : ∀ segments : List Text, segment ∈ segments →
      d :: segment ++ [d] <:+: segments.flatMap (d :: ·) ++ [d] := by
    intro segments hmem
    obtain ⟨front, back, rfl⟩ := List.append_of_mem hmem
    rw [List.flatMap_append, List.flatMap_cons]
    cases back with
    | nil => exact ⟨front.flatMap (d :: ·), [], by simp⟩
    | cons next back =>
        exact ⟨front.flatMap (d :: ·), next ++ back.flatMap (d :: ·) ++ [d], by simp⟩
  have hflat : ∀ segments : List Text, segments ≠ [] →
      d :: [d].intercalate segments = segments.flatMap (d :: ·) := by
    intro segments hne
    induction segments with
    | nil => exact absurd rfl hne
    | cons first rest ih =>
        cases rest with
        | nil => simp [List.intercalate]
        | cons second rest =>
            rw [List.flatMap_cons, ← ih (List.cons_ne_nil _ _), List.intercalate_cons_cons]
            simp
  have hsplit := hflat (t.splitOn d) (List.splitOn_ne_nil d t)
  rw [List.intercalate_splitOn] at hsplit
  rw [hsplit]
  exact hjoin _ h

/-! ## Forming a name -/

lemma forms_cons : Forms value done name (p :: pieces) ↔ Forms value done name pieces ∨
    p = .plain '{' ∧ ∃ inside back, pieces = inside ++ .plain '}' :: back ∧
      spelled value done inside = name := by
  constructor
  · rintro ⟨front, inside, back, heq, hinside⟩
    cases front with
    | nil =>
        obtain ⟨rfl, hpieces⟩ := List.cons.inj heq
        exact Or.inr ⟨rfl, inside, back, hpieces, hinside⟩
    | cons q front => exact Or.inl ⟨front, inside, back, (List.cons.inj heq).2, hinside⟩
  · rintro (⟨front, inside, back, rfl, hinside⟩ | ⟨rfl, inside, back, rfl, hinside⟩)
    · exact ⟨p :: front, inside, back, rfl, hinside⟩
    · exact ⟨[], inside, back, rfl, hinside⟩

lemma braces_append (front back : List Piece) : braces (front ++ back) = braces front + braces back :=
  List.count_append

lemma spell_append_of_ne (h : p ≠ .place name) :
    p.spell value (done ++ [name]) = p.spell value done := by
  cases p with
  | plain c => rfl
  | place m =>
      have hm : m ≠ name := fun heq => h (congrArg Piece.place heq)
      simp only [Piece.spell, List.mem_append, List.mem_singleton, hm, or_false]

lemma forms_cons_of (h : ¬ (p = .plain '{' ∧ ∃ inside back, pieces = inside ++ .plain '}' :: back ∧
    spelled value done inside = name)) :
    Forms value done name (p :: pieces) ↔ Forms value done name pieces := by
  rw [forms_cons, or_iff_left h]

lemma braces_cons_lt {pieces' : List Piece} :
    braces (p :: pieces') < braces (p :: pieces) ↔ braces pieces' < braces pieces := by
  rw [braces, braces, List.count_cons, List.count_cons, Nat.add_lt_add_iff_right]
  rfl

lemma mem_names_cons {m : Text} : m ∈ names (p :: pieces) ↔ p = .place m ∨ m ∈ names pieces := by
  cases p with
  | plain c => simp [names]
  | place name => simp [names, eq_comm]

variable (hvalue : ∀ name, Braceless (value name))
include hvalue

/-- What a spelled template holds in front of a closing brace, when there is no brace in it, is
spelled by the pieces in front of a plain one. -/
lemma exists_inside (h : Braceless name) (heq : spelled value done pieces = name ++ '}' :: s) :
    ∃ inside back, pieces = inside ++ .plain '}' :: back ∧ spelled value done inside = name := by
  induction pieces generalizing name with
  | nil =>
      have := congrArg List.length heq
      simp [spelled] at this
  | cons p pieces ih =>
      rw [spelled_cons] at heq
      match p, heq with
      | .plain c, heq =>
          cases name with
          | nil =>
              obtain rfl : c = '}' := (List.cons.inj heq).1
              exact ⟨[], pieces, rfl, rfl⟩
          | cons d name =>
              obtain ⟨rfl, hrest⟩ : c = d ∧ spelled value done pieces = name ++ '}' :: s :=
                List.cons.inj heq
              have hname : Braceless name :=
                ⟨fun hc => h.1 (List.mem_cons_of_mem _ hc), fun hc => h.2 (List.mem_cons_of_mem _ hc)⟩
              obtain ⟨inside, back, rfl, hinside⟩ := ih hname hrest
              exact ⟨.plain c :: inside, back, rfl, by rw [spelled_cons, hinside]; rfl⟩
      | .place m, heq =>
          by_cases hm : m ∈ done
          · rw [Piece.spell, if_pos hm] at heq
            rcases List.append_eq_append_iff.mp heq with ⟨rest, rfl, hrest⟩ | ⟨rest, hm', hrest⟩
            · have hname : Braceless rest :=
                ⟨fun hc => h.1 (List.mem_append_right _ hc),
                  fun hc => h.2 (List.mem_append_right _ hc)⟩
              obtain ⟨inside, back, rfl, hinside⟩ := ih hname hrest
              refine ⟨.place m :: inside, back, rfl, ?_⟩
              rw [spelled_cons, hinside, Piece.spell, if_pos hm]
            · cases rest with
              | nil =>
                  obtain ⟨inside, back, rfl, hinside⟩ := @ih []
                    ⟨List.not_mem_nil, List.not_mem_nil⟩ hrest.symm
                  refine ⟨.place m :: inside, back, rfl, ?_⟩
                  rw [spelled_cons, hinside, Piece.spell, if_pos hm, hm', List.append_nil,
                    List.append_nil]
              | cons d rest =>
                  obtain rfl : '}' = d := (List.cons.inj hrest).1
                  exact absurd (hm' ▸ List.mem_append_right name List.mem_cons_self)
                    (hvalue m).2
          · rw [Piece.spell, if_neg hm] at heq
            cases name with
            | nil => cases (List.cons.inj heq).1
            | cons d name =>
                obtain rfl : '{' = d := (List.cons.inj heq).1
                exact absurd List.mem_cons_self h.1

/-! ## One name -/

/-- A piece that is not the place of a name stays as it is, unless it opens what spells the name. -/
lemma replace_piece (hname : Braceless name) (hp : p ≠ .place name)
    (hm : ∀ m, p = .place m → Braceless m)
    (hopen : ¬ (p = .plain '{' ∧ ∃ inside back, pieces = inside ++ .plain '}' :: back ∧
      spelled value done inside = name)) :
    replaceAfter (marked name) new 0 (spelled value done (p :: pieces)) =
      p.spell value (done ++ [name]) ++
        replaceAfter (marked name) new 0 (spelled value done pieces) := by
  rw [spelled_cons, spell_append_of_ne hp]
  match p with
  | .plain c =>
      refine replaceAfter_cons ?_
      rintro ⟨rest, hrest⟩
      rw [marked, List.append_assoc, List.cons_append, List.cons.injEq] at hrest
      obtain ⟨rfl, hrest⟩ := hrest
      exact hopen ⟨rfl, exists_inside hvalue hname hrest.symm⟩
  | .place m =>
      rw [Piece.spell]
      split
      · exact replaceAfter_marked_append (hvalue m).1 _
      · have hne : ¬ marked name <+: marked m ++ spelled value done pieces := by
          rintro ⟨rest, hrest⟩
          exact hp (congrArg Piece.place (marked_append_inj hname (hm m rfl) hrest).symm)
        have htail : '{' ∉ m ++ ['}'] := by
          simp [(hm m rfl).1]
        have hspell : marked m ++ spelled value done pieces =
            '{' :: (m ++ ['}'] ++ spelled value done pieces) := rfl
        rw [hspell] at hne ⊢
        rw [replaceAfter_cons hne, replaceAfter_marked_append htail]
        rfl

/-- **One name.**  Plain braces stay, unless the name is formed between two of them. -/
lemma replace_spelled (hname : Braceless name) (hnew : name ∉ done) :
    ∀ pieces, (∀ m ∈ names pieces, Braceless m) → ∃ pieces',
      replaceAfter (marked name) (value name) 0 (spelled value done pieces) =
        spelled value (done ++ [name]) pieces' ∧
      (∀ m ∈ names pieces', m ∈ names pieces ∨ m = name) ∧
      (pieces' = pieces ∧ ¬ Forms value done name pieces ∨
        braces pieces' < braces pieces ∧ Forms value done name pieces) := by
  intro pieces
  induction hlength : pieces.length using Nat.strongRecOn generalizing pieces with
  | ind n ih =>
  intro hnames
  subst hlength
  cases pieces with
  | nil =>
      refine ⟨[], rfl, fun m hm => Or.inl hm, Or.inl ⟨rfl, ?_⟩⟩
      rintro ⟨front, inside, back, heq, -⟩
      simp at heq
  | cons p pieces =>
  have hrest : ∀ m ∈ names pieces, Braceless m := fun m hm =>
    hnames m (mem_names_cons.mpr (Or.inr hm))
  by_cases hopen : p = .plain '{' ∧ ∃ inside back, pieces = inside ++ .plain '}' :: back ∧
      spelled value done inside = name
  · -- two plain braces that the name is formed between: they go
    obtain ⟨rfl, inside, back, rfl, hinside⟩ := hopen
    have hback : ∀ m ∈ names back, m ∈ names (inside ++ .plain '}' :: back) := by
      intro m hm
      rw [names, List.filterMap_append]
      exact List.mem_append_right _ hm
    obtain ⟨pieces', heq, hsub, hforms⟩ := ih back.length
      (by simp only [List.length_cons, List.length_append]; omega) back rfl
      fun m hm => hrest m (hback m hm)
    refine ⟨.place name :: pieces', ?_, ?_, Or.inr ⟨?_, forms_cons.mpr
      (Or.inr ⟨rfl, inside, back, rfl, hinside⟩)⟩⟩
    · have htext : spelled value done (.plain '{' :: (inside ++ .plain '}' :: back)) =
          marked name ++ spelled value done back := by
        rw [spelled_cons, spelled_append, spelled_cons, hinside]
        simp [Piece.spell, marked]
      rw [htext, replaceAfter_match (marked_ne_nil name), heq, spelled_cons, Piece.spell,
        if_pos (by simp)]
    · intro m hm
      rcases mem_names_cons.mp hm with hm | hm
      · exact Or.inr (Piece.place.inj hm).symm
      · exact (hsub m hm).imp_left fun hm => mem_names_cons.mpr (Or.inr (hback m hm))
    · have hle : braces pieces' ≤ braces back := by
        rcases hforms with ⟨rfl, -⟩ | ⟨hlt, -⟩
        · exact Nat.le_refl _
        · exact Nat.le_of_lt hlt
      have hcount : braces (.place name :: pieces') = braces pieces' := by
        simp [braces]
      have hmore : braces (.plain '{' :: (inside ++ .plain '}' :: back)) =
          braces inside + braces back + 1 := by
        simp [braces]
      omega
  · obtain ⟨pieces', heq, hsub, hforms⟩ := ih pieces.length (Nat.lt_succ_self _) pieces rfl hrest
    refine ⟨p :: pieces', ?_, ?_, ?_⟩
    · rw [spelled_cons p pieces', ← heq]
      by_cases hp : p = .place name
      · subst hp
        rw [spelled_cons, Piece.spell, if_neg hnew, replaceAfter_match (marked_ne_nil name),
          Piece.spell, if_pos (by simp)]
      · refine replace_piece hvalue hname hp ?_ hopen
        rintro m rfl
        exact hnames m (mem_names_cons.mpr (Or.inl rfl))
    · intro m hm
      rcases mem_names_cons.mp hm with rfl | hm
      · exact Or.inl (mem_names_cons.mpr (Or.inl rfl))
      · exact (hsub m hm).imp_left fun hm => mem_names_cons.mpr (Or.inr hm)
    · rw [forms_cons_of hopen, braces_cons_lt]
      exact hforms.imp_left fun h => ⟨congrArg (p :: ·) h.1, h.2⟩

/-! ## All names -/

/-- **The loop.** -/
lemma fill_spelled (later : List Text) : ∀ (done : List Text) (pieces : List Piece),
    (done ++ later).Nodup → (∀ m ∈ later, Braceless m) → (∀ m ∈ names pieces, Braceless m) →
      ∃ pieces', fill value later (spelled value done pieces) = spelled value (done ++ later) pieces' ∧
        (∀ m ∈ names pieces', m ∈ names pieces ∨ m ∈ later) ∧
        (pieces' = pieces ∧ ¬ FormsInTurn value done later pieces ∨
          braces pieces' < braces pieces ∧ FormsInTurn value done later pieces) := by
  induction later with
  | nil =>
      intro done pieces _ _ _
      exact ⟨pieces, by simp [fill], fun m hm => Or.inl hm, Or.inl ⟨rfl, id⟩⟩
  | cons name later ih =>
      intro done pieces hnodup hlater hnames
      have hsplit : done ++ name :: later = (done ++ [name]) ++ later := by simp
      have hnew : name ∉ done := by
        intro hmem
        exact (List.nodup_append.mp hnodup).2.2 name hmem name List.mem_cons_self rfl
      obtain ⟨pieces₁, heq₁, hsub₁, hforms₁⟩ := replace_spelled hvalue
        (hlater name List.mem_cons_self) hnew pieces hnames
      have hnames₁ : ∀ m ∈ names pieces₁, Braceless m := by
        intro m hm
        rcases hsub₁ m hm with hm | rfl
        · exact hnames m hm
        · exact hlater m List.mem_cons_self
      obtain ⟨pieces₂, heq₂, hsub₂, hforms₂⟩ := ih (done ++ [name]) pieces₁ (hsplit ▸ hnodup)
        (fun m hm => hlater m (List.mem_cons_of_mem name hm)) hnames₁
      refine ⟨pieces₂, ?_, ?_, ?_⟩
      · rw [hsplit, ← heq₂, ← heq₁]
        rfl
      · intro m hm
        rcases hsub₂ m hm with hm | hm
        · exact (hsub₁ m hm).imp_right fun heq => by simp [heq]
        · exact Or.inr (List.mem_cons_of_mem name hm)
      · rcases hforms₁ with ⟨rfl, hno⟩ | ⟨hlt, hforms⟩
        · rcases hforms₂ with ⟨rfl, hlater⟩ | ⟨hlt, hlater⟩
          · exact Or.inl ⟨rfl, fun h => h.elim hno hlater⟩
          · exact Or.inr ⟨hlt, Or.inr hlater⟩
        · have hle : braces pieces₂ ≤ braces pieces₁ := by
            rcases hforms₂ with ⟨rfl, -⟩ | ⟨hlt, -⟩
            · exact Nat.le_refl _
            · exact Nat.le_of_lt hlt
          exact Or.inr ⟨Nat.lt_of_le_of_lt hle hlt, Or.inl hforms⟩

/-- With every place filled, the opening braces are the plain ones. -/
lemma count_spelled (h : ∀ m ∈ names pieces, m ∈ done) :
    (spelled value done pieces).count '{' = braces pieces := by
  induction pieces with
  | nil => rfl
  | cons p pieces ih =>
      have ih := ih fun m hm => h m (mem_names_cons.mpr (Or.inr hm))
      rw [spelled_cons, List.count_append, ih, braces, braces, List.count_cons, Nat.add_comm]
      congr 1
      cases p with
      | plain c =>
          by_cases hc : c = '{' <;> simp [Piece.spell, hc]
      | place m =>
          have hm := h m (mem_names_cons.mpr (Or.inl rfl))
          have hnone : (value m).count '{' = 0 := List.count_eq_zero.mpr (hvalue m).1
          simp [Piece.spell, hm, hnone]

/-- **When filling one name after another fills all places at once.** -/
theorem fill_eq_iff {order : List Text} (hnodup : order.Nodup) (horder : ∀ m ∈ order, Braceless m)
    (hnames : ∀ m ∈ names pieces, m ∈ order) :
    fill value order (spelled value [] pieces) = spelled value order pieces ↔
      ¬ FormsInTurn value [] order pieces := by
  obtain ⟨pieces', heq, hsub, hforms⟩ := fill_spelled hvalue order [] pieces hnodup horder
    fun m hm => horder m (hnames m hm)
  rw [List.nil_append] at heq
  rcases hforms with ⟨rfl, hno⟩ | ⟨hlt, hforms⟩
  · exact iff_of_true heq hno
  · refine iff_of_false (fun hfill => ?_) (not_not_intro hforms)
    have hall : ∀ m ∈ names pieces', m ∈ order := fun m hm => (hsub m hm).elim (hnames m) id
    have hcount := congrArg (List.count '{') (heq.symm.trans hfill)
    rw [count_spelled hvalue hall, count_spelled hvalue hnames] at hcount
    omega

end Placeholders
