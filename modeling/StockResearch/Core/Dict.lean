import Mathlib.Algebra.GroupWithZero.Nat
import Mathlib.Data.List.Nodup
import Mathlib.Tactic.Common

/-!
# Dictionaries that remember the order of their keys

`{key(x): x for x in xs}.values()`: a key stands where it was first met, with the value that was met
last.

`defaultdict(list)`, filled with `d[key(x)].append(x)`: **`lookup_groupBy`**, under a key stand the
values that have it, in their order.
-/

namespace Dict

variable {α κ : Type} [DecidableEq κ]

/-- Assign a value under its key. -/
def put (key : α → κ) (values : List α) (a : α) : List α :=
  if values.any fun b => key b = key a then values.map fun b => if key b = key a then a else b
  else values ++ [a]

/-- The values of `{key(x): x for x in xs}`. -/
def valuesBy (key : α → κ) (xs : List α) : List α := xs.foldl (put key) []

/-- Keys that differ lose no value. -/
theorem valuesBy_of_nodup {key : α → κ} {xs : List α} (h : (xs.map key).Nodup) :
    valuesBy key xs = xs := by
  have hfold : ∀ (ys zs : List α), ((zs ++ ys).map key).Nodup → ys.foldl (put key) zs = zs ++ ys := by
    intro ys
    induction ys with
    | nil => simp
    | cons y ys ih =>
        intro zs hzs
        have hnew : ¬ (zs.any fun b => key b = key y) = true := by
          simp only [List.any_eq_true, decide_eq_true_eq, not_exists, not_and]
          intro z hz heq
          rw [List.map_append, List.nodup_append] at hzs
          exact hzs.2.2 (key z) (List.mem_map_of_mem hz) (key y) (by simp) heq
        rw [List.foldl_cons, put, if_neg hnew, ih (zs ++ [y]) (by simpa using hzs)]
        simp
  exact hfold xs [] (by simpa using h)

/-- A value that is met first takes the place, or the next one is asked. -/
lemma put_cons {key : α → κ} {x a : α} {xs : List α} (hnodup : ((x :: xs).map key).Nodup) :
    put key (x :: xs) a = if key x = key a then a :: xs else x :: put key xs a := by
  rw [List.map_cons, List.nodup_cons] at hnodup
  by_cases h : key x = key a
  · have hrest : (xs.map fun b => if key b = key a then a else b) = xs := by
      conv_rhs => rw [← List.map_id xs]
      refine List.map_congr_left fun b hb => if_neg fun hkey => ?_
      exact hnodup.1 (h.trans hkey.symm ▸ List.mem_map_of_mem hb)
    simp [put, h, hrest]
  · by_cases hany : (xs.any fun b => key b = key a) = true
    · simp [put, h, hany]
    · simp [put, h, hany]

lemma mem_of_mem_put {key : α → κ} {xs : List α} {a b : α} (h : b ∈ put key xs a) :
    b = a ∨ b ∈ xs := by
  unfold put at h
  split at h
  · obtain ⟨c, hc, rfl⟩ := List.mem_map.mp h
    split
    · exact .inl rfl
    · exact .inr hc
  · rcases List.mem_append.mp h with h | h
    · exact .inr h
    · exact .inl (List.mem_singleton.mp h)

lemma length_put_le (key : α → κ) (xs : List α) (a : α) :
    (put key xs a).length ≤ xs.length + 1 := by
  unfold put
  split
  · rw [List.length_map]
    omega
  · rw [List.length_append]
    exact Nat.le_refl _

lemma nodup_put {key : α → κ} {xs : List α} (hnodup : (xs.map key).Nodup) (a : α) :
    ((put key xs a).map key).Nodup := by
  induction xs with
  | nil => simp [put]
  | cons x xs ih =>
      rw [put_cons hnodup]
      rw [List.map_cons, List.nodup_cons] at hnodup
      split_ifs with h
      · rw [List.map_cons, ← h, List.nodup_cons]
        exact hnodup
      · rw [List.map_cons, List.nodup_cons]
        refine ⟨fun hmem => ?_, ih hnodup.2⟩
        obtain ⟨b, hb, hkey⟩ := List.mem_map.mp hmem
        rcases mem_of_mem_put hb with rfl | hb
        · exact h hkey.symm
        · exact hnodup.1 (hkey ▸ List.mem_map_of_mem hb)

/-- A value adds its weight at most. -/
lemma sum_put_le {key : α → κ} (weight : α → Nat) {xs : List α} (hnodup : (xs.map key).Nodup)
    (a : α) : ((put key xs a).map weight).sum ≤ (xs.map weight).sum + weight a := by
  induction xs with
  | nil => simp [put]
  | cons x xs ih =>
      rw [put_cons hnodup]
      rw [List.map_cons, List.nodup_cons] at hnodup
      have htail := ih hnodup.2
      split_ifs
      · simp only [List.map_cons, List.sum_cons]
        omega
      · simp only [List.map_cons, List.sum_cons]
        omega

/-! ## Looking up -/

/-- The one element that a search can find is found. -/
lemma find?_of_unique {p : α → Bool} {xs : List α} {x : α} (hx : x ∈ xs) (hp : p x = true)
    (hunique : ∀ y ∈ xs, p y = true → y = x) : xs.find? p = some x := by
  rcases hfound : xs.find? p with _ | y
  · have hnone := List.find?_eq_none.mp hfound x hx
    exact absurd hp hnone
  · rw [hunique y (List.mem_of_find?_eq_some hfound) (List.find?_some hfound)]

/-- `{k: f(k, v) for k, v in d.items()}` -/
lemma lookup_map {β : Type} {f : κ → α → β} {entries : List (κ × α)} {k : κ} :
    (entries.map fun entry => (entry.1, f entry.1 entry.2)).lookup k =
      (entries.lookup k).map (f k) := by
  induction entries with
  | nil => rfl
  | cons entry entries ih =>
      obtain ⟨key, value⟩ := entry
      simp only [List.map_cons, List.lookup_cons]
      cases hkey : k == key
      · exact ih
      · rw [beq_iff_eq.mp hkey]
        rfl

lemma lookup_cons_ite {β : Type} [BEq κ] [LawfulBEq κ] {entries : List (κ × β)} {k l : κ}
    {value : β} :
    ((l, value) :: entries).lookup k = if k = l then some value else entries.lookup k := by
  rw [List.lookup_cons]
  by_cases h : k = l
  · rw [if_pos h, beq_iff_eq.mpr h]
  · rw [if_neg h, beq_eq_false_iff_ne.mpr h]

/-- Deleting other keys leaves a key alone. -/
lemma lookup_filter {β : Type} [BEq κ] [LawfulBEq κ] {p : κ → Bool} {k : κ} (hk : p k = true)
    (entries : List (κ × β)) :
    (entries.filter fun e => p e.1).lookup k = entries.lookup k := by
  induction entries with
  | nil => rfl
  | cons e entries ih =>
      obtain ⟨l, value⟩ := e
      rw [List.filter_cons, lookup_cons_ite]
      by_cases hkl : k = l
      · subst hkl
        rw [if_pos hk, if_pos rfl, lookup_cons_ite, if_pos rfl]
      · rw [if_neg hkl]
        split_ifs
        · rw [lookup_cons_ite, if_neg hkl, ih]
        · exact ih

lemma mem_of_lookup {α β : Type} [BEq α] [LawfulBEq α] {pairs : List (α × β)} {a : α} {b : β}
    (h : pairs.lookup a = some b) : (a, b) ∈ pairs := by
  obtain ⟨before, after, rfl, -⟩ := List.lookup_eq_some_iff.mp h
  simp

lemma lookup_of_forall {α β : Type} [BEq α] [LawfulBEq α] {pairs : List (α × β)} {a : α} {b : β}
    (hmem : (a, b) ∈ pairs) (hall : ∀ b', (a, b') ∈ pairs → b' = b) :
    pairs.lookup a = some b := by
  induction pairs with
  | nil => cases hmem
  | cons p pairs ih =>
      obtain ⟨a', b'⟩ := p
      rw [List.lookup_cons]
      cases ha : a == a' with
      | true =>
        obtain rfl := beq_iff_eq.mp ha
        rw [hall b' List.mem_cons_self]
      | false =>
        refine ih ?_ fun b'' hb'' => hall b'' (List.mem_cons_of_mem _ hb'')
        rcases List.mem_cons.mp hmem with heq | hmem
        · exact absurd (congrArg Prod.fst heq) (beq_eq_false_iff_ne.mp ha)
        · exact hmem

/-- Where no key is met twice, every value is found. -/
lemma lookup_of_mem {β : Type} {entries : List (κ × β)} (hnodup : (entries.map Prod.fst).Nodup)
    {e : κ × β} (he : e ∈ entries) : entries.lookup e.1 = some e.2 := by
  refine lookup_of_forall he fun value hvalue => ?_
  have hsame := List.inj_on_of_nodup_map hnodup hvalue he rfl
  exact congrArg Prod.snd hsame

/-- `d[k] = value`, and then `d[k']`. -/
lemma lookup_put {β : Type} {entries : List (κ × β)} {k k' : κ} {value : β} :
    (put Prod.fst entries (k, value)).lookup k' = if k' = k then some value else entries.lookup k' := by
  have hmap : ∀ entries : List (κ × β),
      (entries.map fun e => if e.1 = k then (k, value) else e).lookup k' =
        if k' = k ∧ k ∈ entries.map Prod.fst then some value else entries.lookup k' := by
    intro entries
    induction entries with
    | nil => simp
    | cons e es ih =>
        obtain ⟨l, w⟩ := e
        rw [List.map_cons, lookup_cons_ite]
        by_cases hl : l = k
        · subst hl
          rw [if_pos rfl, lookup_cons_ite, ih]
          by_cases hk : k' = l <;> simp [hk]
        · rw [if_neg hl, lookup_cons_ite, ih]
          by_cases hk : k' = k
          · have hkl : ¬ k' = l := fun h => hl (h.symm.trans hk)
            have hmem : k ∈ ((l, w) :: es).map Prod.fst ↔ k ∈ es.map Prod.fst := by
              rw [List.map_cons, List.mem_cons]
              exact or_iff_right (Ne.symm hl)
            rw [if_neg hkl, if_neg hkl]
            simp only [hmem]
          · simp [hk]
  unfold put
  split
  · next hany =>
    have hmem : k ∈ entries.map Prod.fst := by simpa using hany
    rw [hmap]
    simp [hmem]
  · next hany =>
    rw [List.lookup_append, lookup_cons_ite, List.lookup_nil]
    by_cases hk : k' = k
    · subst hk
      have hnone : entries.lookup k' = none := by
        rw [List.lookup_eq_none_iff]
        intro e he
        simp only [List.any_eq_true, decide_eq_true_eq, not_exists, not_and] at hany
        exact bne_iff_ne.mpr fun h => hany e he h.symm
      simp [hnone]
    · simp [hk]

/-- `{key(x): value(x) for x in xs}[key(x)]`, where no key is met twice. -/
lemma lookup_of_unique {β : Type} {key : α → κ} {value : α → β} {xs : List α} {x : α}
    (hx : x ∈ xs) (hunique : ∀ y ∈ xs, key y = key x → y = x) :
    (xs.map fun y => (key y, value y)).lookup (key x) = some (value x) := by
  induction xs with
  | nil => cases hx
  | cons y ys ih =>
      rw [List.map_cons, List.lookup_cons]
      by_cases hkey : key x = key y
      · rw [hunique y (by simp) hkey.symm]
        simp
      · have hne : (key x == key y) = false := by simpa using hkey
        rw [hne]
        refine ih ?_ fun z hz => hunique z (by simp [hz])
        rcases List.mem_cons.mp hx with rfl | hx
        · exact absurd rfl hkey
        · exact hx

/-! ## Groups -/

/-- `groups[key].append(value)` -/
def append (groups : List (κ × List α)) (k : κ) (a : α) : List (κ × List α) :=
  if groups.any fun g => g.1 = k then
    groups.map fun g => if g.1 = k then (g.1, g.2 ++ [a]) else g
  else groups ++ [(k, [a])]

/-- The groups of a list by a key, in the order in which the keys were met. -/
def groupBy (key : α → κ) (xs : List α) : List (κ × List α) :=
  xs.foldl (fun groups x => append groups (key x) x) []

/-- The keys are those that were met, each once, and each group holds what has its key. -/
structure Groups (key : α → κ) (xs : List α) (groups : List (κ × List α)) : Prop where
  nodup : (groups.map (·.1)).Nodup
  mem_keys : ∀ k, k ∈ groups.map (·.1) ↔ ∃ x ∈ xs, key x = k
  group : ∀ g ∈ groups, g.2 = xs.filter (key · = g.1)

lemma Groups.append {key : α → κ} {xs : List α} {groups : List (κ × List α)}
    (h : Groups key xs groups) (x : α) :
    Groups key (xs ++ [x]) (append groups (key x) x) := by
  have hany : (groups.any fun g => g.1 = key x) = true ↔ ∃ y ∈ xs, key y = key x := by
    rw [← h.mem_keys, List.any_eq_true, List.mem_map]
    simp
  rw [Dict.append]
  split
  case isTrue hmet =>
    have hkeys : (groups.map fun g => if g.1 = key x then (g.1, g.2 ++ [x]) else g).map (·.1) =
        groups.map (·.1) := by
      rw [List.map_map]
      refine List.map_congr_left fun g _ => ?_
      by_cases hg : g.1 = key x <;> simp [hg]
    refine ⟨hkeys ▸ h.nodup, fun k => ?_, fun g hg => ?_⟩
    · obtain ⟨y, hy, hkey⟩ := hany.mp hmet
      rw [hkeys, h.mem_keys]
      constructor
      · rintro ⟨z, hz, rfl⟩
        exact ⟨z, by simp [hz], rfl⟩
      · rintro ⟨z, hz, rfl⟩
        rcases List.mem_append.mp hz with hz | hz
        · exact ⟨z, hz, rfl⟩
        · exact ⟨y, hy, by rw [hkey, List.mem_singleton.mp hz]⟩
    · obtain ⟨old, hold, rfl⟩ := List.mem_map.mp hg
      by_cases hkey : old.1 = key x
      · simp [hkey, h.group old hold]
      · simp [hkey, h.group old hold, Ne.symm hkey]
  case isFalse hnew =>
    rw [hany] at hnew
    refine ⟨?_, fun k => ?_, fun g hg => ?_⟩
    · rw [List.map_append, List.nodup_append]
      refine ⟨h.nodup, by simp, fun k hk k' hk' heq => hnew ?_⟩
      simp only [List.map_cons, List.map_nil, List.mem_singleton] at hk'
      exact (h.mem_keys _).mp (hk' ▸ heq ▸ hk)
    · rw [List.map_append, List.mem_append, h.mem_keys]
      constructor
      · rintro (⟨z, hz, rfl⟩ | hk)
        · exact ⟨z, by simp [hz], rfl⟩
        · exact ⟨x, by simp, by simpa [eq_comm] using hk⟩
      · rintro ⟨z, hz, rfl⟩
        rcases List.mem_append.mp hz with hz | hz
        · exact .inl ⟨z, hz, rfl⟩
        · exact .inr (by simp [List.mem_singleton.mp hz])
    · rcases List.mem_append.mp hg with hg | hg
      · have hne : key x ≠ g.1 := by
          intro heq
          exact hnew ((h.mem_keys _).mp (List.mem_map.mpr ⟨g, hg, heq.symm⟩))
        simp [h.group g hg, hne]
      · obtain rfl := List.mem_singleton.mp hg
        have hnone : xs.filter (key · = key x) = [] := by
          rw [List.filter_eq_nil_iff]
          exact fun y hy hkey => hnew ⟨y, hy, by simpa using hkey⟩
        simp [hnone]

lemma groups_groupBy (key : α → κ) (xs : List α) : Groups key xs (groupBy key xs) := by
  have hfold : ∀ (ys zs : List α) (groups : List (κ × List α)), Groups key zs groups →
      Groups key (zs ++ ys) (ys.foldl (fun groups x => append groups (key x) x) groups) := by
    intro ys
    induction ys with
    | nil => simp
    | cons y ys ih =>
        intro zs groups h
        have hrest := ih (zs ++ [y]) _ (h.append y)
        rwa [List.append_assoc] at hrest
  exact hfold xs [] [] ⟨by simp, by simp, by simp⟩

/-- **A group holds the values with its key.** -/
lemma lookup_groupBy {key : α → κ} {xs : List α} {k : κ} :
    ((groupBy key xs).lookup k).getD [] = xs.filter (key · = k) := by
  have h := groups_groupBy key xs
  cases hlookup : (groupBy key xs).lookup k with
  | some g =>
      have hmem : (k, g) ∈ groupBy key xs := by
        obtain ⟨l₁, l₂, hsplit, -⟩ := List.lookup_eq_some_iff.mp hlookup
        rw [hsplit]
        simp
      exact h.group _ hmem
  | none =>
      symm
      rw [Option.getD_none, List.filter_eq_nil_iff]
      intro x hx hkey
      have hmem := (h.mem_keys k).mpr ⟨x, hx, by simpa using hkey⟩
      obtain ⟨g, hg, hgk⟩ := List.mem_map.mp hmem
      have hnone := List.lookup_eq_none_iff.mp hlookup g hg
      simp [hgk] at hnone

end Dict
