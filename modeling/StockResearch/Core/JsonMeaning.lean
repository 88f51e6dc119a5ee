import StockResearch.Core.Canonical
import Mathlib.Data.List.Perm.Basic

/-!
# What a canonical text says

A canonical text says the members of every object in key order.  `Alike` relates values that say the
same: objects may list their members in different orders, and texts and keys need only be the same
for a given relation.

* `mapTexts` changes the texts and the keys of a value, as a normal form of texts does.
* **`sortKeys_mapTexts_iff`**: two values whose texts are mapped have one canonical form exactly when
  they are alike, texts being the same when they are mapped to one text.
* `sortKeys_eq_iff` is the case in which no text is changed.
-/

namespace PyJson

/-! ## Values that say the same -/

mutual

/-- Equal up to the order of members and up to sameness of texts and keys. -/
inductive Alike (same : String → String → Prop) : Value → Value → Prop where
  | null : Alike same .null .null
  | bool (b : Bool) : Alike same (.bool b) (.bool b)
  | int (n : Int) : Alike same (.int n) (.int n)
  | real (literal : List Char) : Alike same (.real literal) (.real literal)
  | str {s t : String} (h : same s t) : Alike same (.str s) (.str t)
  | arr {vs ws : List Value} (h : AlikeItems same vs ws) : Alike same (.arr vs) (.arr ws)
  | obj {fs fs' gs : List (String × Value)} (hperm : fs.Perm fs') (h : AlikeFields same fs' gs) :
      Alike same (.obj fs) (.obj gs)

inductive AlikeItems (same : String → String → Prop) : List Value → List Value → Prop where
  | nil : AlikeItems same [] []
  | cons {v w : Value} {vs ws : List Value} (h : Alike same v w) (hs : AlikeItems same vs ws) :
      AlikeItems same (v :: vs) (w :: ws)

inductive AlikeFields (same : String → String → Prop) :
    List (String × Value) → List (String × Value) → Prop where
  | nil : AlikeFields same [] []
  | cons {f g : String × Value} {fs gs : List (String × Value)} (hkey : same f.1 g.1)
      (h : Alike same f.2 g.2) (hs : AlikeFields same fs gs) :
      AlikeFields same (f :: fs) (g :: gs)

end

/-! ## Mapped texts -/

section MapTexts

variable (g : String → String)

mutual

/-- Every text and every key is mapped. -/
def mapTexts : Value → Value
  | .str s => .str (g s)
  | .arr items => .arr (mapItems items)
  | .obj fields => .obj (mapFields fields)
  | v => v

def mapItems : List Value → List Value
  | [] => []
  | v :: vs => mapTexts v :: mapItems vs

def mapFields : List (String × Value) → List (String × Value)
  | [] => []
  | (k, v) :: fs => (g k, mapTexts v) :: mapFields fs

end

end MapTexts

variable {g : String → String}

lemma mapItems_eq_map (items : List Value) : mapItems g items = items.map (mapTexts g) := by
  induction items with
  | nil => rfl
  | cons v vs ih => rw [mapItems, ih, List.map_cons]

lemma mapFields_eq_map (fields : List (String × Value)) :
    mapFields g fields = fields.map fun f => (g f.1, mapTexts g f.2) := by
  induction fields with
  | nil => rfl
  | cons f fs ih => rw [mapFields, ih, List.map_cons]

def canonicalMember (g : String → String) (f : String × Value) : String × Value :=
  (g f.1, sortKeys (mapTexts g f.2))

lemma sortKeys_mapTexts_arr (items : List Value) : sortKeys (mapTexts g (.arr items)) =
    .arr (items.map fun v => sortKeys (mapTexts g v)) := by
  rw [mapTexts, sortKeys, mapItems_eq_map, sortItems_eq_map, List.map_map]
  rfl

lemma sortKeys_mapTexts_obj (fields : List (String × Value)) :
    sortKeys (mapTexts g (.obj fields)) =
      .obj ((fields.map (canonicalMember g)).insertionSort keyLE) := by
  rw [mapTexts, sortKeys_obj, mapFields_eq_map, List.map_map]
  rfl

/-- Members over distinct keys have one order by key. -/
lemma insertionSort_keyLE_congr {fs gs : List (String × Value)} (hperm : fs.Perm gs)
    (hnodup : (fs.map Prod.fst).Nodup) : fs.insertionSort keyLE = gs.insertionSort keyLE := by
  have hsorted : (fs.insertionSort keyLE).Perm (gs.insertionSort keyLE) :=
    (List.perm_insertionSort _ fs).trans (hperm.trans (List.perm_insertionSort _ gs).symm)
  have hkeys := ((List.perm_insertionSort keyLE fs).map Prod.fst).nodup_iff.mpr hnodup
  refine hsorted.eq_of_pairwise ?_ (List.pairwise_insertionSort _ _)
    (List.pairwise_insertionSort _ _)
  intro a b ha hb hab hba
  exact List.inj_on_of_nodup_map hkeys ha (hsorted.mem_iff.mpr hb) (le_antisymm hab hba)

/-- Two lists of members with one canonical form, in order. -/
lemma alikeFields_of_map_eq {fs gs : List (String × Value)}
    (ih : ∀ f ∈ fs, ∀ w, sortKeys (mapTexts g f.2) = sortKeys (mapTexts g w) →
      Alike (fun s t => g s = g t) f.2 w)
    (h : fs.map (canonicalMember g) = gs.map (canonicalMember g)) :
    AlikeFields (fun s t => g s = g t) fs gs := by
  induction fs generalizing gs with
  | nil =>
      obtain rfl := List.map_eq_nil_iff.mp h.symm
      exact .nil
  | cons f fs ihs =>
      cases gs with
      | nil => simp at h
      | cons k gs =>
          obtain ⟨hhead, htail⟩ := List.cons.inj h
          have hkey : g f.1 = g k.1 := congrArg Prod.fst hhead
          have hvalue : sortKeys (mapTexts g f.2) = sortKeys (mapTexts g k.2) :=
            congrArg Prod.snd hhead
          exact .cons hkey (ih f List.mem_cons_self _ hvalue)
            (ihs (fun f' hf' => ih f' (List.mem_cons_of_mem _ hf')) htail)

mutual

/-- Values with one canonical form are alike. -/
lemma alike_of_sortKeys (v : Value) : ∀ w, sortKeys (mapTexts g v) = sortKeys (mapTexts g w) →
    Alike (fun s t => g s = g t) v w := by
  intro w h
  match v with
  | .null =>
      cases w <;> simp [mapTexts, sortKeys] at h
      exact .null
  | .bool b =>
      cases w <;> simp [mapTexts, sortKeys] at h
      subst h
      exact .bool b
  | .int n =>
      cases w <;> simp [mapTexts, sortKeys] at h
      subst h
      exact .int n
  | .real literal =>
      cases w <;> simp [mapTexts, sortKeys] at h
      subst h
      exact .real literal
  | .str s =>
      cases w <;> simp [mapTexts, sortKeys] at h
      exact .str h
  | .arr items =>
      cases w with
      | arr ws =>
          rw [sortKeys_mapTexts_arr, sortKeys_mapTexts_arr, Value.arr.injEq] at h
          exact .arr (alikeItems_of_map_eq items ws h)
      | null => simp [mapTexts, sortKeys] at h
      | bool b => simp [mapTexts, sortKeys] at h
      | int n => simp [mapTexts, sortKeys] at h
      | real literal => simp [mapTexts, sortKeys] at h
      | str s => simp [mapTexts, sortKeys] at h
      | obj fields => simp [mapTexts, sortKeys] at h
  | .obj fields =>
      cases w with
      | obj gs =>
          rw [sortKeys_mapTexts_obj, sortKeys_mapTexts_obj, Value.obj.injEq] at h
          have hperm : (gs.map (canonicalMember g)).Perm (fields.map (canonicalMember g)) :=
            (List.perm_insertionSort keyLE _).symm.trans
              (h ▸ List.perm_insertionSort keyLE (fields.map (canonicalMember g)))
          have hcomp := congrFun₂ (List.eq_map_comp_perm (canonicalMember g))
            (gs.map (canonicalMember g)) fields
          obtain ⟨fs, hmap, hfs⟩ := hcomp.mpr hperm
          exact .obj hfs.symm (alikeFields_of_map_eq
            (fun f hf => alike_of_mem fields f (hfs.mem_iff.mp hf)) hmap.symm)
      | null => simp [mapTexts, sortKeys] at h
      | bool b => simp [mapTexts, sortKeys] at h
      | int n => simp [mapTexts, sortKeys] at h
      | real literal => simp [mapTexts, sortKeys] at h
      | str s => simp [mapTexts, sortKeys] at h
      | arr items => simp [mapTexts, sortKeys] at h

lemma alikeItems_of_map_eq (vs ws : List Value)
    (h : vs.map (fun v => sortKeys (mapTexts g v)) = ws.map fun v => sortKeys (mapTexts g v)) :
    AlikeItems (fun s t => g s = g t) vs ws := by
  match vs, ws with
  | [], [] => exact .nil
  | [], _ :: _ => simp at h
  | _ :: _, [] => simp at h
  | v :: vs, w :: ws =>
      obtain ⟨hhead, htail⟩ := List.cons.inj h
      exact .cons (alike_of_sortKeys v w hhead) (alikeItems_of_map_eq vs ws htail)

lemma alike_of_mem (fields : List (String × Value)) : ∀ f ∈ fields, ∀ w,
    sortKeys (mapTexts g f.2) = sortKeys (mapTexts g w) →
      Alike (fun s t => g s = g t) f.2 w := by
  match fields with
  | [] => simp
  | (k, v) :: fs =>
      intro f hf
      rcases List.mem_cons.mp hf with rfl | hf
      · exact alike_of_sortKeys v
      · exact alike_of_mem fs f hf

end

mutual

/-- Alike values over distinct keys have one canonical form. -/
lemma sortKeys_of_alike {v w : Value} (h : Alike (fun s t => g s = g t) v w)
    (hv : Plain (mapTexts g v)) : sortKeys (mapTexts g v) = sortKeys (mapTexts g w) := by
  match h with
  | .null => rfl
  | .bool _ => rfl
  | .int _ => rfl
  | .real _ => rfl
  | .str h => rw [mapTexts, mapTexts, h]
  | .arr h =>
      rw [sortKeys_mapTexts_arr, sortKeys_mapTexts_arr, map_eq_of_alikeItems h]
      intro v hmem
      rw [mapTexts, Plain, mapItems_eq_map, plainItems_iff] at hv
      exact hv _ (List.mem_map_of_mem hmem)
  | .obj hperm h =>
      rw [mapTexts, Plain, mapFields_eq_map, plainFields_iff] at hv
      rw [sortKeys_mapTexts_obj, sortKeys_mapTexts_obj,
        ← map_eq_of_alikeFields h fun f hf => hv.2 _ (List.mem_map_of_mem (hperm.mem_iff.mpr hf))]
      refine congrArg Value.obj (insertionSort_keyLE_congr (hperm.map _) ?_)
      simpa [canonicalMember, Function.comp_def] using hv.1

lemma map_eq_of_alikeItems {vs ws : List Value} (h : AlikeItems (fun s t => g s = g t) vs ws)
    (hvs : ∀ v ∈ vs, Plain (mapTexts g v)) :
    vs.map (fun v => sortKeys (mapTexts g v)) = ws.map fun v => sortKeys (mapTexts g v) := by
  match h with
  | .nil => rfl
  | .cons h hs =>
      rw [List.map_cons, List.map_cons, sortKeys_of_alike h (hvs _ List.mem_cons_self),
        map_eq_of_alikeItems hs fun v hv => hvs v (List.mem_cons_of_mem _ hv)]

lemma map_eq_of_alikeFields {fs gs : List (String × Value)}
    (h : AlikeFields (fun s t => g s = g t) fs gs) (hfs : ∀ f ∈ fs, Plain (mapTexts g f.2)) :
    fs.map (canonicalMember g) = gs.map (canonicalMember g) := by
  match h with
  | .nil => rfl
  | .cons hkey h hs =>
      rw [List.map_cons, List.map_cons, canonicalMember, canonicalMember, hkey,
        sortKeys_of_alike h (hfs _ List.mem_cons_self),
        map_eq_of_alikeFields hs fun f hf => hfs f (List.mem_cons_of_mem _ hf)]

end

/-- **Values whose texts are mapped have one canonical form exactly when they are alike.** -/
theorem sortKeys_mapTexts_iff {v w : Value} (hv : Plain (mapTexts g v)) :
    sortKeys (mapTexts g v) = sortKeys (mapTexts g w) ↔ Alike (fun s t => g s = g t) v w :=
  ⟨alike_of_sortKeys v w, fun h => sortKeys_of_alike h hv⟩

/-- Two values have one canonical text exactly when they are alike. -/
theorem canonicalText_mapTexts_iff {v w : Value} (hv : Plain (mapTexts g v))
    (hw : Plain (mapTexts g w)) : canonicalText (mapTexts g v) = canonicalText (mapTexts g w) ↔
      Alike (fun s t => g s = g t) v w := by
  rw [← sortKeys_mapTexts_iff hv]
  constructor
  · exact canonicalText_inj hv hw
  · intro h
    rw [canonicalText, h, canonicalText]

lemma keys_of_alike {fs gs : List (String × Value)} (h : AlikeFields Eq fs gs) :
    fs.map Prod.fst = gs.map Prod.fst := by
  induction fs generalizing gs with
  | nil =>
      cases h
      rfl
  | cons f fs ih =>
      cases h with
      | cons hkey h hs => rw [List.map_cons, List.map_cons, hkey, ih hs]

mutual

lemma mapTexts_id (v : Value) : mapTexts id v = v := by
  match v with
  | .null | .bool _ | .int _ | .real _ | .str _ => rfl
  | .arr items => rw [mapTexts, mapItems_id items]
  | .obj fields => rw [mapTexts, mapFields_id fields]

lemma mapItems_id (items : List Value) : mapItems id items = items := by
  match items with
  | [] => rfl
  | v :: vs => rw [mapItems, mapTexts_id v, mapItems_id vs]

lemma mapFields_id (fields : List (String × Value)) : mapFields id fields = fields := by
  match fields with
  | [] => rfl
  | (k, v) :: fs => rw [mapFields, mapTexts_id v, mapFields_id fs, id]

end

/-- Two values have one canonical form exactly when they differ in the order of members only. -/
theorem sortKeys_eq_iff {v w : Value} (hv : Plain v) : sortKeys v = sortKeys w ↔ Alike Eq v w := by
  have h := @sortKeys_mapTexts_iff id v w (by rwa [mapTexts_id])
  rw [mapTexts_id, mapTexts_id] at h
  exact h

mutual

lemma plain_of_alike {v w : Value} (h : Alike Eq v w) (hv : Plain v) : Plain w := by
  match h with
  | .null | .bool _ | .int _ | .str _ => trivial
  | .real _ => exact hv
  | .arr h => exact plainItems_of_alike h hv
  | .obj hperm h =>
      have hfields := plainFields_iff.mp hv.2
      have hkeys := keys_of_alike h
      refine ⟨hkeys ▸ (hperm.map Prod.fst).nodup_iff.mp hv.1, plainFields_of_alike h ?_⟩
      exact plainFields_iff.mpr fun f hf => hfields f (hperm.mem_iff.mpr hf)

lemma plainItems_of_alike {vs ws : List Value} (h : AlikeItems Eq vs ws) (hvs : PlainItems vs) :
    PlainItems ws := by
  match h with
  | .nil => trivial
  | .cons h hs => exact ⟨plain_of_alike h hvs.1, plainItems_of_alike hs hvs.2⟩

lemma plainFields_of_alike {fs gs : List (String × Value)} (h : AlikeFields Eq fs gs)
    (hfs : PlainFields fs) : PlainFields gs := by
  match h with
  | .nil => trivial
  | .cons _ h hs => exact ⟨plain_of_alike h hfs.1, plainFields_of_alike hs hfs.2⟩

end

/-! ## Dictionaries -/

lemma plain_putField {fields : List (String × Value)} {k : String} {v : Value}
    (hfields : Plain (.obj fields)) (hv : Plain v) : Plain (.obj (putField fields k v)) := by
  have hmembers := plainFields_iff.mp hfields.2
  unfold putField
  split
  · refine ⟨?_, plainFields_iff.mpr fun f hf => ?_⟩
    · have hkeys : (fields.map fun f => if f.1 == k then (k, v) else f).map Prod.fst =
          fields.map Prod.fst := by
        rw [List.map_map]
        refine List.map_congr_left fun f _ => ?_
        by_cases h : f.1 = k <;> simp [h]
      rw [hkeys]
      exact hfields.1
    · obtain ⟨g, hg, rfl⟩ := List.mem_map.mp hf
      split
      · exact hv
      · exact hmembers g hg
  · next hfresh =>
    refine ⟨?_, plainFields_iff.mpr fun f hf => ?_⟩
    · rw [List.map_append, List.nodup_append]
      refine ⟨hfields.1, by simp, ?_⟩
      intro a ha b hb heq
      obtain ⟨f, hf, rfl⟩ := List.mem_map.mp ha
      simp only [List.map_cons, List.map_nil, List.mem_singleton] at hb
      exact hfresh (List.any_eq_true.mpr ⟨f, hf, beq_iff_eq.mpr (heq.trans hb)⟩)
    · rcases List.mem_append.mp hf with hf | hf
      · exact hmembers f hf
      · rw [List.mem_singleton.mp hf]
        exact hv

/-- A dictionary of plain values is plain. -/
theorem plain_dictOf {fields : List (String × Value)} (h : ∀ f ∈ fields, Plain f.2) :
    Plain (.obj (dictOf fields)) := by
  have hfold : ∀ done, Plain (.obj done) →
      Plain (.obj (fields.foldl (fun acc f => putField acc f.1 f.2) done)) := by
    induction fields with
    | nil => exact fun done hdone => hdone
    | cons f fs ih =>
        intro done hdone
        rw [List.forall_mem_cons] at h
        exact ih h.2 _ (plain_putField hdone h.1)
  exact hfold [] ⟨.nil, trivial⟩

/-! ## Lists and objects with fixed keys -/

lemma alikeItems_iff {same : String → String → Prop} {vs ws : List Value} :
    AlikeItems same vs ws ↔ List.Forall₂ (Alike same) vs ws := by
  constructor
  · intro h
    induction vs generalizing ws with
    | nil =>
        cases h
        exact .nil
    | cons v vs ih =>
        cases h with
        | cons h hs => exact .cons h (ih hs)
  · intro h
    induction h with
    | nil => exact .nil
    | cons h hs ih => exact .cons h ih

lemma alikeFields_cons {same : String → String → Prop} {f g : String × Value}
    {fs gs : List (String × Value)} : AlikeFields same (f :: fs) (g :: gs) ↔
      same f.1 g.1 ∧ Alike same f.2 g.2 ∧ AlikeFields same fs gs := by
  constructor
  · intro h
    cases h with
    | cons hkey h hs => exact ⟨hkey, h, hs⟩
  · rintro ⟨hkey, h, hs⟩
    exact .cons hkey h hs

/-- Objects over the same keys are alike exactly when their members are, one by one. -/
theorem alike_obj_iff {fs gs : List (String × Value)} (hkeys : fs.map Prod.fst = gs.map Prod.fst)
    (hplain : Plain (mapTexts g (.obj fs))) :
    Alike (fun s t => g s = g t) (.obj fs) (.obj gs) ↔
      AlikeFields (fun s t => g s = g t) fs gs := by
  constructor
  · intro h
    have hsort := (sortKeys_mapTexts_iff hplain).mpr h
    have hmapped : (mapFields g fs).map Prod.fst = (mapFields g gs).map Prod.fst := by
      have hg := congrArg (List.map g) hkeys
      simpa only [mapFields_eq_map, List.map_map, Function.comp_def] using hg
    have hmembers := fields_eq_of_sortKeys hplain hmapped hsort
    rw [mapFields_eq_map, mapFields_eq_map, List.map_map, List.map_map] at hmembers
    exact alikeFields_of_map_eq (fun f _ => alike_of_sortKeys f.2) hmembers
  · exact .obj (.refl _)

end PyJson
