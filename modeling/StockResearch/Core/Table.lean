import StockResearch.Core.Dict
import StockResearch.Core.Transaction
import Mathlib.Data.List.Dedup
import Mathlib.Data.List.Pairwise
import Mathlib.Data.List.Sort

/-!
# Keyed tables

A relational table with its constraints.  `Schema ρ` says which two rows of type `ρ` may not stand
in one table (primary keys and unique constraints) and which rows may stand in it at all (check
constraints).  A `Table` carries the proof that its rows respect both, so no later argument has to
ask whether a key is unique.

Both writes go through `Table.ofRows?`, which hands back a table exactly when the constraints hold
of the new rows.  A write that would break one is refused, as the database refuses it.
-/

namespace Txn

/-- The constraints of a table with rows of type `ρ`. -/
class Schema (ρ : Type) where
  /-- Two rows that may not both be stored: they agree on a primary key or a unique constraint. -/
  clash : ρ → ρ → Prop
  /-- The row-wise check constraints. -/
  check : ρ → Prop
  clash_symm : ∀ a b, clash a b → clash b a
  decClash : DecidableRel clash
  decCheck : DecidablePred check

attribute [reducible, instance] Schema.decClash Schema.decCheck

/-- Where any two elements would clash and none do, there is at most one. -/
lemma length_le_one_of_pairwise {α : Type} {R : α → α → Prop} {l : List α}
    (hl : l.Pairwise fun a b => ¬ R a b) (h : ∀ a ∈ l, ∀ b ∈ l, R a b) : l.length ≤ 1 := by
  match l with
  | [] => simp
  | [_] => simp
  | a :: b :: rest =>
      exact absurd (h a (by simp) b (by simp)) ((List.pairwise_cons.mp hl).1 b (by simp))

/-- A table whose rows satisfy the constraints of their schema. -/
structure Table (ρ : Type) [Schema ρ] where
  rows : List ρ
  keyed : rows.Pairwise (fun a b => ¬ Schema.clash a b)
  checked : ∀ r ∈ rows, Schema.check r

namespace Table

variable {ρ : Type} [Schema ρ] {t t' : Table ρ}

lemma ext_rows (h : t.rows = t'.rows) : t = t' := by
  cases t
  cases t'
  cases h
  rfl

instance : EmptyCollection (Table ρ) := ⟨⟨[], List.Pairwise.nil, by simp⟩⟩

/-- A table of one row. -/
def single (row : ρ) (h : Schema.check row) : Table ρ :=
  ⟨[row], List.pairwise_singleton _ _, by simpa using h⟩

/-- The rows as a table, when the constraints hold of them. -/
def ofRows? (rows : List ρ) : Option (Table ρ) :=
  if h : rows.Pairwise (fun a b => ¬ Schema.clash a b) ∧ ∀ r ∈ rows, Schema.check r then
    some ⟨rows, h.1, h.2⟩
  else none

/-- `INSERT`: the new row goes to the end. -/
def insert (t : Table ρ) (row : ρ) : Option (Table ρ) := ofRows? (t.rows ++ [row])

/-- The insertions of one flush: the new rows go to the end, or none of them does. -/
def insertAll (t : Table ρ) (rows : List ρ) : Option (Table ρ) := ofRows? (t.rows ++ rows)

/-- `UPDATE … SET f WHERE p`. -/
def update (t : Table ρ) (p : ρ → Bool) (f : ρ → ρ) : Option (Table ρ) :=
  ofRows? (t.rows.map fun r => if p r then f r else r)

/-- `SELECT … WHERE p`, every row. -/
def select (t : Table ρ) (p : ρ → Bool) : List ρ := t.rows.filter p

/-- `SELECT … WHERE p` on a key: the one row, if there is one. -/
def selectOne (t : Table ρ) (p : ρ → Bool) : Option ρ := t.rows.find? p

/-- `SELECT count(*) … WHERE p`. -/
def count (t : Table ρ) (p : ρ → Bool) : Nat := (t.select p).length

lemma ofRows?_eq_some {rows : List ρ} (h : ofRows? rows = some t) : t.rows = rows := by
  unfold ofRows? at h
  split at h
  · cases h; rfl
  · cases h

lemma rows_insert {row : ρ} (h : t.insert row = some t') : t'.rows = t.rows ++ [row] :=
  ofRows?_eq_some h

lemma rows_insertAll {rows : List ρ} (h : t.insertAll rows = some t') :
    t'.rows = t.rows ++ rows :=
  ofRows?_eq_some h

lemma rows_update {p : ρ → Bool} {f : ρ → ρ} (h : t.update p f = some t') :
    t'.rows = t.rows.map fun r => if p r then f r else r :=
  ofRows?_eq_some h

lemma select_insert {row : ρ} (h : t.insert row = some t') (p : ρ → Bool) :
    t'.select p = t.select p ++ if p row then [row] else [] := by
  simp [select, rows_insert h, List.filter_append, List.filter_singleton]

lemma mem_insert {row r : ρ} (h : t.insert row = some t') :
    r ∈ t'.rows ↔ r ∈ t.rows ∨ r = row := by
  simp [rows_insert h]

lemma mem_select {p : ρ → Bool} {r : ρ} : r ∈ t.select p ↔ r ∈ t.rows ∧ p r = true :=
  List.mem_filter

lemma mem_of_selectOne {p : ρ → Bool} {r : ρ} (h : t.selectOne p = some r) :
    r ∈ t.rows ∧ p r = true :=
  ⟨List.mem_of_find?_eq_some h, List.find?_some h⟩

lemma selectOne_eq_none {p : ρ → Bool} : t.selectOne p = none ↔ ∀ r ∈ t.rows, ¬ p r = true :=
  List.find?_eq_none

lemma count_eq_zero {p : ρ → Bool} : t.count p = 0 ↔ ∀ r ∈ t.rows, ¬ p r = true := by
  simp [count, select, List.filter_eq_nil_iff]

/-- **A key names one row.** -/
lemma eq_of_clash {a b : ρ} (ha : a ∈ t.rows) (hb : b ∈ t.rows) (h : Schema.clash a b) : a = b := by
  by_contra hne
  have hsymm : Std.Symm (fun a b : ρ => ¬ Schema.clash a b) :=
    ⟨fun a b hab hba => hab (Schema.clash_symm b a hba)⟩
  exact t.keyed.forall ha hb hne h

/-- What an accepted insertion has checked. -/
lemma not_clash_of_insert {row : ρ} (h : t.insert row = some t') :
    ∀ r ∈ t.rows, ¬ Schema.clash r row := by
  have hk := t'.keyed
  rw [rows_insert h, List.pairwise_append] at hk
  intro r hr
  exact hk.2.2 r hr row (List.mem_singleton_self row)

/-- An insertion that breaks no constraint goes through. -/
lemma insert_isSome {row : ρ} (hk : ∀ r ∈ t.rows, ¬ Schema.clash r row)
    (hc : Schema.check row) : ∃ t', t.insert row = some t' := by
  have hpair : (t.rows ++ [row]).Pairwise (fun a b => ¬ Schema.clash a b) := by
    rw [List.pairwise_append]
    refine ⟨t.keyed, List.pairwise_singleton _ _, ?_⟩
    intro a ha b hb
    rw [List.mem_singleton.mp hb]
    exact hk a ha
  have hcheck : ∀ r ∈ t.rows ++ [row], Schema.check r := by
    intro r hr
    rcases List.mem_append.mp hr with hr | hr
    · exact t.checked r hr
    · rw [List.mem_singleton.mp hr]; exact hc
  exact ⟨_, dif_pos ⟨hpair, hcheck⟩⟩

/-- Whether rows can be stored depends on their keys, in order, and on which rows pass the check
constraints: nothing else. -/
lemma ofRows?_isSome_congr {κ : Type} {key : ρ → κ} (hkey : ∀ a b, Schema.clash a b ↔ key a = key b)
    {rows rows' : List ρ} (hkeys : rows.map key = rows'.map key)
    (hcheck : (∀ r ∈ rows, Schema.check r) ↔ ∀ r ∈ rows', Schema.check r) :
    (ofRows? rows).isSome = (ofRows? rows').isSome := by
  have hpair : ∀ l : List ρ,
      l.Pairwise (fun a b => ¬ Schema.clash a b) ↔ (l.map key).Pairwise (· ≠ ·) := by
    intro l
    rw [List.pairwise_map]
    simp only [hkey, ne_eq]
  have hiff : (rows.Pairwise (fun a b => ¬ Schema.clash a b) ∧ ∀ r ∈ rows, Schema.check r) ↔
      (rows'.Pairwise (fun a b => ¬ Schema.clash a b) ∧ ∀ r ∈ rows', Schema.check r) := by
    rw [hpair, hpair, hkeys, hcheck]
  unfold ofRows?
  by_cases h : rows.Pairwise (fun a b => ¬ Schema.clash a b) ∧ ∀ r ∈ rows, Schema.check r
  · rw [dif_pos h, dif_pos (hiff.mp h)]
    rfl
  · rw [dif_neg h, dif_neg (mt hiff.mpr h)]

/-- An update that leaves the key columns alone and keeps the check constraints goes through. -/
lemma update_isSome {p : ρ → Bool} {f : ρ → ρ}
    (hk : ∀ a ∈ t.rows, ∀ b ∈ t.rows,
      Schema.clash (if p a then f a else a) (if p b then f b else b) → Schema.clash a b)
    (hc : ∀ r ∈ t.rows, p r = true → Schema.check (f r)) : ∃ t', t.update p f = some t' := by
  have hpair : (t.rows.map fun r => if p r then f r else r).Pairwise
      (fun a b => ¬ Schema.clash a b) := by
    rw [List.pairwise_map]
    exact t.keyed.imp_of_mem fun {a b} ha hb hab hclash => hab (hk a ha b hb hclash)
  have hcheck : ∀ r ∈ t.rows.map fun r => if p r then f r else r, Schema.check r := by
    intro r hr
    obtain ⟨r₀, hr₀, rfl⟩ := List.mem_map.mp hr
    split
    · exact hc r₀ hr₀ ‹_›
    · exact t.checked r₀ hr₀
  exact ⟨_, dif_pos ⟨hpair, hcheck⟩⟩

/-- A condition that names the key of a row finds it. -/
lemma selectOne_of_mem {p : ρ → Bool} {row : ρ} (hmem : row ∈ t.rows) (hrow : p row = true)
    (hkey : ∀ r, p r = true → Schema.clash r row) : t.selectOne p = some row :=
  Dict.find?_of_unique hmem hrow fun r hr hp => t.eq_of_clash hr hmem (hkey r hp)

/-- Looking up a row after an update that leaves the condition alone. -/
lemma selectOne_update {p : ρ → Bool} {f : ρ → ρ} (h : t.update p f = some t')
    (hp : ∀ r, p (f r) = p r) : t'.selectOne p = (t.selectOne p).map f := by
  unfold selectOne
  rw [rows_update h]
  induction t.rows with
  | nil => rfl
  | cons r rows ih =>
      by_cases hr : p r = true
      · simp [hr, hp]
      · simpa [hr] using ih

/-- A condition that names a key selects one row, when it selects any. -/
lemma count_eq_one {p : ρ → Bool} (hkey : ∀ a b, p a = true → p b = true → Schema.clash a b)
    {row : ρ} (hmem : row ∈ t.rows) (hrow : p row = true) : t.count p = 1 := by
  have hle : (t.select p).length ≤ 1 := length_le_one_of_pairwise (t.keyed.filter p)
    fun a ha b hb => hkey a b (mem_select.mp ha).2 (mem_select.mp hb).2
  have hpos : 0 < (t.select p).length :=
    List.length_pos_of_mem (mem_select.mpr ⟨hmem, hrow⟩)
  unfold count
  omega

/-! ### Totals over a table -/

/-- A total over all rows, in which each row counts as `w` says. -/
def total (t : Table ρ) (w : ρ → Nat) : Nat := (t.rows.map w).sum

lemma total_insert {row : ρ} (h : t.insert row = some t') (w : ρ → Nat) :
    t'.total w = t.total w + w row := by
  simp [total, rows_insert h]

/-- Updating the one row that a key selects exchanges its share of the total. -/
lemma total_update {p : ρ → Bool} {f : ρ → ρ} (h : t.update p f = some t') (w : ρ → Nat)
    (hkey : ∀ a b, p a = true → p b = true → Schema.clash a b) {row : ρ} (hmem : row ∈ t.rows)
    (hrow : p row = true) : t'.total w + w row = t.total w + w (f row) := by
  have hlist : ∀ l : List ρ, l.Pairwise (fun a b => ¬ Schema.clash a b) → row ∈ l →
      ((l.map fun r => if p r then f r else r).map w).sum + w row = (l.map w).sum + w (f row) := by
    intro l hl hmem
    induction l with
    | nil => simp at hmem
    | cons a l ih =>
        rw [List.pairwise_cons] at hl
        rcases List.mem_cons.mp hmem with rfl | hmem
        · -- no row further on is selected: it would clash with this one
          have hrest : l.map (fun r => if p r then f r else r) = l := by
            conv_rhs => rw [← List.map_id l]
            refine List.map_congr_left fun b hb => ?_
            exact if_neg fun hp => hl.1 b hb (hkey _ _ hrow hp)
          simp only [List.map_cons, List.sum_cons, hrow, if_true, hrest]
          omega
        · have ha : ¬ p a = true := fun hp => hl.1 row hmem (hkey _ _ hp hrow)
          have hrest := ih hl.2 hmem
          simp only [List.map_cons, List.sum_cons, ha, if_false, Bool.false_eq_true] at hrest ⊢
          omega
  unfold total
  rw [rows_update h]
  exact hlist t.rows t.keyed hmem

/-- The total over the selected rows. -/
lemma sum_select (t : Table ρ) (p : ρ → Bool) (w : ρ → Nat) :
    ((t.select p).map w).sum = t.total fun r => if p r then w r else 0 := by
  unfold select total
  induction t.rows with
  | nil => rfl
  | cons r rows ih =>
      by_cases hp : p r = true
      · simp [hp, ih]
      · simp [hp, ih]

end Table

/-! ## Repeated values

`count(*) - count(DISTINCT v)` bounds how often any one value occurs, and how often any two do. -/

section Repetition

variable {α : Type} [DecidableEq α]

lemma length_dedup_cons (a : α) (l : List α) :
    (a :: l).dedup.length = l.dedup.length + if a ∈ l then 0 else 1 := by
  by_cases h : a ∈ l
  · simp [List.dedup_cons_of_mem h, h]
  · simp [List.dedup_cons_of_notMem h, h]

lemma length_dedup_concat (l : List α) (a : α) :
    (l ++ [a]).dedup.length = l.dedup.length + if a ∈ l then 0 else 1 := by
  rw [← length_dedup_cons]
  exact (List.perm_append_singleton a l).dedup.length_eq

lemma count_le_of_dedup (l : List α) (x : α) : l.count x + l.dedup.length ≤ l.length + 1 := by
  induction l with
  | nil => simp
  | cons a l ih =>
      rw [length_dedup_cons, List.count_cons, List.length_cons]
      by_cases ha : a ∈ l
      · simp only [ha, if_true]
        split <;> omega
      · have hdistinct := (List.dedup_sublist l).length_le
        by_cases hx : a = x
        · subst hx
          simp only [ha, if_false, List.count_eq_zero_of_not_mem ha, beq_self_eq_true, if_true]
          omega
        · simp only [ha, if_false, beq_iff_eq, hx]
          omega

lemma count_add_count_le_of_dedup (l : List α) {x y : α} (hxy : x ≠ y) :
    l.count x + l.count y + l.dedup.length ≤ l.length + 2 := by
  induction l with
  | nil => simp
  | cons a l ih =>
      rw [length_dedup_cons, List.count_cons, List.count_cons, List.length_cons]
      have hboth : (if (a == x) = true then 1 else 0) + (if (a == y) = true then 1 else 0) ≤ 1 := by
        by_cases hx : a = x
        · subst hx; simp [hxy]
        · simp only [beq_iff_eq, hx, if_false]; split <;> omega
      by_cases ha : a ∈ l
      · simp only [ha, if_true]
        omega
      · -- a value met for the first time brings a new distinct value with it
        have hx := count_le_of_dedup l x
        have hy := count_le_of_dedup l y
        by_cases hax : a = x
        · subst hax
          have hzero := List.count_eq_zero_of_not_mem ha
          simp only [ha, if_false]
          omega
        · by_cases hay : a = y
          · subst hay
            have hzero := List.count_eq_zero_of_not_mem ha
            simp only [ha, if_false]
            omega
          · simp only [ha, if_false, beq_iff_eq, hax, hay]
            omega

end Repetition

/-! ## Reading in key order -/

/-- Under distinct keys there is one order of the keys. -/
lemma eq_of_perm_of_keyed {α κ : Type} {key : α → κ} {le : κ → κ → Prop}
    (hanti : ∀ a b, le a b → le b a → a = b) {xs ys : List α} (hperm : xs.Perm ys)
    (hkeys : xs.Pairwise fun a b => key a ≠ key b)
    (hxs : xs.Pairwise fun a b => le (key a) (key b))
    (hys : ys.Pairwise fun a b => le (key a) (key b)) : xs = ys := by
  refine List.Perm.eq_of_pairwise ?_ hxs hys hperm
  intro a b ha hb hab hba
  have hnodup : (xs.map key).Nodup := List.pairwise_map.mpr hkeys
  exact List.inj_on_of_nodup_map hnodup ha (hperm.mem_iff.mpr hb) (hanti _ _ hab hba)

variable {ρ : Type} (r : ρ → ρ → Prop) [DecidableRel r]

lemma orderedInsert_append_last {a x : ρ} (hax : r a x) (l : List ρ) :
    (l ++ [x]).orderedInsert r a = l.orderedInsert r a ++ [x] := by
  induction l with
  | nil => simp [hax]
  | cons b l ih =>
      simp only [List.cons_append, List.orderedInsert_cons]
      split
      · rfl
      · rw [ih, List.cons_append]

/-- Sorting after appending a row that comes last in the order appends it to the sorted rows. -/
lemma insertionSort_append_last {x : ρ} (l : List ρ) (hx : ∀ a ∈ l, r a x) :
    (l ++ [x]).insertionSort r = l.insertionSort r ++ [x] := by
  induction l with
  | nil => rfl
  | cons a l ih =>
      have hl := ih fun b hb => hx b (List.mem_cons_of_mem _ hb)
      simp only [List.cons_append, List.insertionSort_cons, hl]
      exact orderedInsert_append_last r (hx a (List.mem_cons_self ..)) _

end Txn
