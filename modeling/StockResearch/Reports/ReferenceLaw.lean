import StockResearch.Reports.References

/-!
# What an allocation of references does

**Targets.**  `collectTargets_rewrite`: rewriting a content renames the labels of its targets and
leaves their kinds and records alone; `bodyLabels_rewrite` says the same of the labels it shows.

**Entries.**  `Numbered` is the invariant of the numbering: one entry for each record, and no label
twice.

**Both together.**  `allocate_ok`: what an allocation that returned has found; `Allocated.again`: a
second allocation gives the same entries.
-/

namespace StockResearch.Reports

open PyText PyJson PyTime Checked ResearchAgent

variable {lib : ReportLibrary} {r : Text → Text}

/-! ## Rewritten values -/

lemma rewriteFields_eq_map (fields : List (String × Value)) :
    rewriteFields r fields = fields.map fun f => (f.1, rewriteJson r f.2) := by
  induction fields with
  | nil => rfl
  | cons f fs ih => rw [rewriteFields, ih, List.map_cons]

lemma rewriteItems_eq_map (items : List Value) :
    rewriteItems r items = items.map (rewriteJson r) := by
  induction items with
  | nil => rfl
  | cons v vs ih => rw [rewriteItems, ih, List.map_cons]

lemma get_map_of_keys (payload : Payload) {g : String × Value → String × Value}
    (hg : ∀ f, (g f).1 = f.1) (key : String) :
    Payload.get (payload.map g) key =
      (payload.find? fun f => f.1 == key).map fun f => (g f).2 := by
  simp only [Payload.get, Value.get?, List.find?_map, Option.map_map, Function.comp_def, hg]

lemma get_rewriteFields (payload : Payload) (key : String) :
    Payload.get (rewriteFields r payload) key = (payload.get key).map (rewriteJson r) := by
  rw [rewriteFields_eq_map, get_map_of_keys payload (g := fun f => (f.1, rewriteJson r f.2))
    fun _ => rfl]
  simp [Payload.get, Value.get?, Option.map_map, Function.comp_def]

lemma relabel_fst (f : String × Value) : (relabel r f).1 = f.1 := by
  unfold relabel
  split <;> [split; skip] <;> rfl

/-- A member of a rewritten object, except for its label. -/
lemma get_rewriteObject (fields : List (String × Value)) {key : String} (hkey : key ≠ "label") :
    Payload.get ((rewriteFields r fields).map (relabel r)) key =
      (Payload.get fields key).map (rewriteJson r) := by
  rw [rewriteFields_eq_map, List.map_map,
    get_map_of_keys fields (g := relabel r ∘ fun f => (f.1, rewriteJson r f.2))
      fun f => relabel_fst _]
  simp only [Payload.get, Value.get?, Option.map_map]
  cases hfound : fields.find? fun f => f.1 == key with
  | none => rfl
  | some f =>
      have hf : f.1 = key := by simpa using List.find?_some hfound
      have hne : f.1 ≠ "label" := by rwa [hf]
      simp [relabel, hne]

lemma text_eq_some {payload : Payload} {key s : String} :
    payload.text key = some s ↔ payload.get key = some (.str s) := by
  unfold Payload.text
  cases payload.get key with
  | none => simp
  | some v => cases v <;> simp

lemma rewriteJson_of_plain {s : String} (h : '[' ∉ s.toList) :
    rewriteJson r (.str s) = .str s := by
  rw [rewriteJson, replaceReferenceString, replaceReferenceText, Bracketed.rename_of_not_mem h,
    String.ofList_toList]

/-- A member that is a text without brackets stays what it is. -/
lemma text_rewriteObject {fields : Payload} {key s : String} (hkey : key ≠ "label")
    (h : Payload.text fields key = some s) (hs : '[' ∉ s.toList) :
    Payload.text ((rewriteFields r fields).map (relabel r)) key = some s := by
  rw [text_eq_some] at h ⊢
  rw [get_rewriteObject fields hkey, h, Option.map_some, rewriteJson_of_plain hs]

lemma label_rewriteObject {fields : Payload} {s : String}
    (h : Payload.text fields "label" = some s) (hs : '[' ∉ s.toList) :
    Payload.text ((rewriteFields r fields).map (relabel r)) "label" =
      some (String.ofList (r s.toList)) := by
  rw [text_eq_some] at h ⊢
  rw [rewriteFields_eq_map, List.map_map,
    get_map_of_keys fields (g := relabel r ∘ fun f => (f.1, rewriteJson r f.2))
      fun f => relabel_fst _]
  simp only [Payload.get, Value.get?, Option.map_eq_some_iff] at h
  obtain ⟨f, hfound, hvalue⟩ := h
  have hf : f.1 = "label" := by simpa using List.find?_some hfound
  rw [hfound, Option.map_some, Function.comp_apply, hvalue, rewriteJson_of_plain hs]
  simp [relabel, hf]

/-! ## Rewritten targets -/

/-- The same target under its new label. -/
structure Relabelled (r : Text → Text) (t t' : ReferenceTarget) : Prop where
  kind : t'.kind = t.kind
  recordId : t'.recordId = t.recordId
  label : t'.label = r t.label

lemma Relabelled.key {t t' : ReferenceTarget} (h : Relabelled r t t') : t'.key = t.key := by
  rw [ReferenceTarget.key, ReferenceTarget.key, h.kind, h.recordId]

/-- What an item that is a target holds. -/
lemma readTarget_ok {item : Value} {t : ReferenceTarget} (h : readTarget lib item = .ok t) :
    ∃ fields kind recordId, item = .obj fields ∧ Payload.text fields "kind" = some kind ∧
      ReferenceKind.ofValue kind = some t.kind ∧
      Payload.get fields "record_id" = some recordId ∧ readId lib recordId = some t.recordId ∧
      Payload.text fields "label" = some (String.ofList t.label) := by
  unfold readTarget at h
  split at h
  · next fields =>
    split at h
    · next kind recordId label hkind hrecord hlabel =>
      split at h
      · cases h
        simp only [Option.bind_eq_bind, Option.bind_eq_some_iff] at hkind hrecord
        obtain ⟨kindText, htext, hkind⟩ := hkind
        obtain ⟨value, hvalue, hrecord⟩ := hrecord
        exact ⟨fields, kindText, value, rfl, htext, hkind, hvalue, hrecord, by
          rw [String.ofList_toList, hlabel]⟩
      · cases h
    · cases h
  · cases h

lemma readTarget_of {fields : Payload} {kind label : String} {recordId : Value}
    {k : ReferenceKind} {i : Uuid} (hkind : Payload.text fields "kind" = some kind)
    (hk : ReferenceKind.ofValue kind = some k)
    (hrecord : Payload.get fields "record_id" = some recordId) (hi : readId lib recordId = some i)
    (hlabel : Payload.text fields "label" = some label)
    (hok : isLabelOf k label.toList = true) :
    readTarget lib (.obj fields) = .ok ⟨k, i, label.toList, hok⟩ := by
  simp only [readTarget, hkind, hrecord, hlabel, Option.bind_eq_bind, Option.bind_some, hk, hi]
  exact dif_pos hok

lemma ofValue_plain {s : String} {k : ReferenceKind} (h : ReferenceKind.ofValue s = some k) :
    '[' ∉ s.toList := by
  have hs : k.value = s := by simpa using List.find?_some h
  subst hs
  cases k <;> decide

lemma readId_rewriteJson {v : Value} {i : Uuid} (h : readId lib v = some i) :
    readId lib (rewriteJson r v) = some i := by
  cases v with
  | str s => rwa [rewriteJson_of_plain (lib.read_plain _ _ h)]
  | int n => exact h
  | null => cases h
  | bool b => cases h
  | real literal => cases h
  | arr items => cases h
  | obj fields => cases h

/-- **A rewritten item is the same target under its new label.** -/
theorem readTarget_rewrite {item : Value} {t : ReferenceTarget} (h : readTarget lib item = .ok t)
    (hr : isLabelOf t.kind (r t.label) = true) :
    ∃ t', readTarget lib (rewriteJson r item) = .ok t' ∧ Relabelled r t t' := by
  obtain ⟨fields, kind, recordId, rfl, hkind, hk, hrecord, hi, hlabel⟩ := readTarget_ok h
  have hplain : '[' ∉ (String.ofList t.label).toList := by
    rw [String.toList_ofList]
    exact (isLabel_plain _ (isLabel_iff.mpr ⟨_, t.label_ok⟩)).1
  have hrecord' := @get_rewriteObject r fields "record_id" (by decide)
  rw [hrecord, Option.map_some] at hrecord'
  have hlabel' := label_rewriteObject (r := r) hlabel hplain
  rw [String.toList_ofList] at hlabel'
  refine ⟨_, readTarget_of (text_rewriteObject (by decide) hkind (ofValue_plain hk)) hk hrecord'
    (readId_rewriteJson hi) hlabel' (by rwa [String.toList_ofList]), rfl, rfl, ?_⟩
  exact String.toList_ofList

lemma blockTargets_rewrite {payload : Payload} {ts : List ReferenceTarget}
    (h : blockTargets lib payload = .ok ts)
    (hr : ∀ t ∈ ts, isLabelOf t.kind (r t.label) = true) :
    ∃ ts', blockTargets lib (rewriteFields r payload) = .ok ts' ∧
      List.Forall₂ (Relabelled r) ts ts' := by
  unfold blockTargets at h ⊢
  rw [get_rewriteFields]
  cases hget : payload.get "reference_targets" with
  | none =>
      rw [hget] at h
      cases h
      exact ⟨[], rfl, .nil⟩
  | some v =>
      rw [hget] at h
      cases v with
      | arr items =>
          dsimp only at h
          rw [Option.map_some, rewriteJson, rewriteItems_eq_map]
          clear hget
          dsimp only
          induction items generalizing ts with
          | nil =>
              cases h
              exact ⟨[], rfl, .nil⟩
          | cons item items ih =>
              rw [List.mapM_cons] at h
              obtain ⟨t, ht, h⟩ := bind_ok.mp h
              obtain ⟨rest, hrest, h⟩ := bind_ok.mp h
              cases h
              obtain ⟨t', ht', hrelabelled⟩ := readTarget_rewrite ht (hr t List.mem_cons_self)
              obtain ⟨rest', hrest', hall⟩ := ih (fun s hs => hr s (List.mem_cons_of_mem _ hs)) hrest
              refine ⟨t' :: rest', ?_, .cons hrelabelled hall⟩
              rw [List.map_cons, List.mapM_cons, ht', hrest']
              rfl
      | null => cases h
      | bool b => cases h
      | int n => cases h
      | real literal => cases h
      | str s => cases h
      | obj fields => cases h

lemma blocks_rewriteContent (content : ContentFields) :
    (rewriteContent r content).blocks = content.blocks.map (rewriteBlock r) := by
  simp [ContentFields.blocks, rewriteContent, rewriteSection, List.flatMap_map, List.map_flatMap]

/-- **Rewriting a content renames the labels of its targets and nothing else about them.** -/
theorem collectTargets_rewrite {content : ContentFields} {targets : List ReferenceTarget}
    (h : collectTargets lib content = .ok targets)
    (hr : ∀ t ∈ targets, isLabelOf t.kind (r t.label) = true) :
    ∃ targets', collectTargets lib (rewriteContent r content) = .ok targets' ∧
      List.Forall₂ (Relabelled r) targets targets' := by
  unfold collectTargets at h ⊢
  rw [blocks_rewriteContent]
  generalize content.blocks = blocks at h ⊢
  induction blocks generalizing targets with
  | nil =>
      cases h
      exact ⟨[], rfl, .nil⟩
  | cons b blocks ih =>
      obtain ⟨lists, hlists, rfl⟩ := map_ok.mp h
      rw [List.mapM_cons] at hlists
      obtain ⟨ts, hts, hlists⟩ := bind_ok.mp hlists
      obtain ⟨rest, hrest, hlists⟩ := bind_ok.mp hlists
      cases hlists
      rw [List.flatten_cons] at hr ⊢
      obtain ⟨ts', hts', hall⟩ := blockTargets_rewrite hts fun t ht => hr t (by simp [ht])
      obtain ⟨rest', hrest', hallRest⟩ := ih (fun t ht => hr t (List.mem_append_right _ ht))
        (map_ok.mpr ⟨rest, hrest, rfl⟩)
      obtain ⟨lists', hlists', rfl⟩ := map_ok.mp hrest'
      refine ⟨ts' ++ lists'.flatten, map_ok.mpr ⟨ts' :: lists', ?_, by simp⟩,
        List.rel_append hall hallRest⟩
      rw [List.map_cons, List.mapM_cons]
      change blockTargets lib (rewriteFields r b.payload) >>= _ = _
      rw [hts', ok_bind, hlists']
      rfl

/-- **Rewriting a content renames the labels it shows.** -/
theorem bodyLabels_rewrite (hr : ∀ l, isLabel l = true → isLabel (r l) = true)
    (content : ContentFields) :
    bodyLabels (rewriteContent r content) = (bodyLabels content).map r := by
  unfold bodyLabels
  rw [blocks_rewriteContent, List.flatMap_map, List.map_flatMap]
  refine List.flatMap_congr fun b _ => ?_
  have htext : labelsInText ((rewriteBlock r b).text.getD []) =
      (labelsInText (b.text.getD [])).map r := by
    cases hb : b.text with
    | none => simp [rewriteBlock, hb, labelsInText, Bracketed.labels]
    | some t =>
        rw [rewriteBlock, hb, Option.map_some, Option.getD_some, Option.getD_some]
        exact Bracketed.labels_rename isLabel_plain hr
  have hreference : Payload.text (rewriteBlock r b).payload "reference" =
      (b.payload.text "reference").map (replaceReferenceString r) := by
    unfold Payload.text
    rw [rewriteBlock, get_rewriteFields]
    cases b.payload.get "reference" with
    | none => rfl
    | some v => cases v <;> rfl
  rw [blockLabels, blockLabels, List.map_append, htext, hreference]
  cases b.payload.text "reference" with
  | none => rfl
  | some s =>
      dsimp only [Option.map_some]
      rw [replaceReferenceString, String.toList_ofList]
      congr 1
      exact Bracketed.labels_rename isLabel_plain hr

/-! ## The graph of labels and records -/

/-- Labels and records correspond. -/
def Bijective (targets : List ReferenceTarget) : Prop :=
  ∀ s ∈ targets, ∀ t ∈ targets, s.label = t.label ↔ s.key = t.key

lemma bijective_concat {seen : List ReferenceTarget} {t : ReferenceTarget}
    (hseen : Bijective seen) : Bijective (seen ++ [t]) ↔
      (¬ ∃ s ∈ seen, s.label = t.label ∧ s.key ≠ t.key) ∧
      ¬ ∃ s ∈ seen, s.key = t.key ∧ s.label ≠ t.label := by
  constructor
  · intro h
    constructor
    · rintro ⟨s, hs, hlabel, hkey⟩
      exact hkey ((h s (by simp [hs]) t (by simp)).mp hlabel)
    · rintro ⟨s, hs, hkey, hlabel⟩
      exact hlabel ((h s (by simp [hs]) t (by simp)).mpr hkey)
  · rintro ⟨hlabels, hkeys⟩
    push Not at hlabels hkeys
    have hnew : ∀ s ∈ seen, s.label = t.label ↔ s.key = t.key :=
      fun s hs => ⟨hlabels s hs, hkeys s hs⟩
    simp only [Bijective, List.forall_mem_append, List.forall_mem_singleton]
    refine ⟨fun a ha => ⟨hseen a ha, hnew a ha⟩, fun b hb => ?_, by simp⟩
    rw [eq_comm, hnew b hb, eq_comm]

lemma checkTarget_ok {seen result : List ReferenceTarget} {t : ReferenceTarget}
    (hseen : Bijective seen) :
    checkTarget seen t = .ok result ↔ Bijective (seen ++ [t]) ∧ result = seen ++ [t] := by
  rw [checkTarget, check_bind_ok, check_bind_ok, bijective_concat hseen, and_assoc]
  simp [pure, Except.pure, eq_comm]

/-- The loop over the targets accepts exactly the one-to-one graphs. -/
lemma foldlM_checkTarget {seen targets : List ReferenceTarget} (hseen : Bijective seen) :
    (∃ result, targets.foldlM checkTarget seen = .ok result) ↔ Bijective (seen ++ targets) := by
  induction targets generalizing seen with
  | nil => simpa [pure, Except.pure] using hseen
  | cons t ts ih =>
      rw [List.append_cons]
      constructor
      · rintro ⟨result, h⟩
        rw [List.foldlM_cons] at h
        obtain ⟨next, hnext, h⟩ := bind_ok.mp h
        obtain ⟨hbij, rfl⟩ := (checkTarget_ok hseen).mp hnext
        exact (ih hbij).mp ⟨result, h⟩
      · intro h
        have hbij : Bijective (seen ++ [t]) :=
          fun a ha b hb => h a (List.mem_append_left _ ha) b (List.mem_append_left _ hb)
        obtain ⟨result, hrest⟩ := (ih hbij).mpr h
        refine ⟨result, ?_⟩
        rw [List.foldlM_cons, (checkTarget_ok hseen).mpr ⟨hbij, rfl⟩]
        exact hrest

/-- What `_validate_existing_graph` requires. -/
structure GraphValid (content : ContentFields) (targets : List ReferenceTarget) : Prop where
  bijective : Bijective targets
  bound : bodyLabels content ⊆ targets.map (·.label)
  used : targets.map (·.label) ⊆ bodyLabels content

lemma validateExistingGraph_ok {content : ContentFields} {targets : List ReferenceTarget} :
    validateExistingGraph content targets = .ok () ↔ GraphValid content targets := by
  have hloop := @foldlM_checkTarget [] targets (by simp [Bijective])
  rw [List.nil_append] at hloop
  unfold validateExistingGraph
  rw [bind_ok]
  simp only [check_bind_ok, check_ok, not_not]
  constructor
  · rintro ⟨result, hresult, hbound, hused⟩
    exact ⟨hloop.mp ⟨result, hresult⟩, hbound, hused⟩
  · intro h
    obtain ⟨result, hresult⟩ := hloop.mpr h.bijective
    exact ⟨result, hresult, h.bound, h.used⟩

/-! ## Numbered entries -/

/-- The number of entries of a kind. -/
def countOf (entries : List ReferenceEntry) (kind : ReferenceKind) : Nat :=
  (entries.filter fun e => e.kind = kind).length

/-- One entry for each record, and no label twice. -/
structure Numbered (keys : List (ReferenceKind × Uuid)) (entries : List ReferenceEntry) : Prop where
  covered : ∀ key, key ∈ entries.map (·.key) ↔ key ∈ keys
  unique : (entries.map (·.key)).Nodup
  numbered : ∀ e ∈ entries, ∃ n, n ≤ countOf entries e.kind ∧ e.label = labelText e.kind n
  labels : (entries.map (·.label)).Nodup

lemma isLabelOf_labelText {kind : ReferenceKind} {n : Nat} (h : isLabel (labelText kind n) = true) :
    isLabelOf kind (labelText kind n) = true := by
  obtain ⟨kind', hkind⟩ := isLabel_iff.mp h
  obtain ⟨digits, heq, hdigits⟩ := isLabelOf_iff.mp hkind
  have hsame : kind = kind' := by
    cases kind <;> cases kind' <;> simp [labelText, ReferenceKind.letters] at heq ⊢
  subst hsame
  exact hkind

lemma labelText_inj {kind : ReferenceKind} {m n : Nat} (h : labelText kind m = labelText kind n) :
    m = n := by
  simp only [labelText, List.append_cancel_left_eq, List.cons.injEq, true_and] at h
  exact padded_inj h

lemma Numbered.kind_of_label {keys : List (ReferenceKind × Uuid)} {entries : List ReferenceEntry}
    (h : Numbered keys entries) {e : ReferenceEntry} (he : e ∈ entries) :
    isLabelOf e.kind e.label = true := by
  obtain ⟨n, -, hlabel⟩ := h.numbered e he
  have hok := e.label_ok
  rw [hlabel] at hok ⊢
  exact isLabelOf_labelText hok

lemma Numbered.step {keys : List (ReferenceKind × Uuid)} {entries result : List ReferenceEntry}
    {key : ReferenceKind × Uuid} (h : Numbered keys entries)
    (hturn : allocateEntry entries key = .ok result) : Numbered (keys ++ [key]) result := by
  unfold allocateEntry at hturn
  split at hturn
  · next hseen =>
    cases hturn
    have hmem : key ∈ entries.map (·.key) := by
      obtain ⟨e, he, hkey⟩ := List.any_eq_true.mp hseen
      exact List.mem_map.mpr ⟨e, he, by simpa using hkey⟩
    refine ⟨?_, h.unique, h.numbered, h.labels⟩
    intro k
    rw [h.covered, List.mem_append, List.mem_singleton]
    constructor
    · exact Or.inl
    · rintro (hk | rfl)
      · exact hk
      · exact (h.covered k).mp hmem
  · next hnew =>
    have hfresh : key ∉ entries.map (·.key) := by
      rintro hmem
      obtain ⟨e, he, hkey⟩ := List.mem_map.mp hmem
      exact hnew (List.any_eq_true.mpr ⟨e, he, by simpa using hkey⟩)
    dsimp only at hturn
    split at hturn
    · next hlabel =>
      cases hturn
      have hcount : ∀ kind, countOf entries kind ≤
          countOf (entries ++ [⟨key.1, key.2, _, hlabel⟩]) kind := by
        intro kind
        simp [countOf, List.filter_append]
      refine ⟨?_, ?_, ?_, ?_⟩
      · intro k
        rw [List.map_append, List.mem_append, List.mem_append, h.covered]
        simp [ReferenceEntry.key]
      · rw [List.map_append, List.nodup_append]
        refine ⟨h.unique, by simp, ?_⟩
        rintro k hk k' hk' rfl
        obtain rfl := List.mem_singleton.mp hk'
        exact hfresh hk
      · intro e he
        rcases List.mem_append.mp he with he | he
        · obtain ⟨n, hn, hlabel⟩ := h.numbered e he
          exact ⟨n, hn.trans (hcount e.kind), hlabel⟩
        · obtain rfl := List.mem_singleton.mp he
          refine ⟨countOf entries key.1 + 1, ?_, rfl⟩
          simp [countOf, List.filter_append]
      · rw [List.map_append, List.nodup_append]
        refine ⟨h.labels, by simp, ?_⟩
        rintro l hl l' hl' rfl
        obtain ⟨e, he, rfl⟩ := List.mem_map.mp hl
        have hnew : e.label = labelText key.1 (countOf entries key.1 + 1) := by
          simpa [countOf] using hl'
        have hkind : e.kind = key.1 := by
          refine isLabelOf_inj (h.kind_of_label he) ?_
          rw [hnew]
          exact isLabelOf_labelText hlabel
        obtain ⟨n, hn, hlabel⟩ := h.numbered e he
        rw [hkind, hnew] at hlabel
        have hnumber := labelText_inj hlabel
        rw [hkind] at hn
        omega
    · cases hturn

/-- **The numbering gives one entry to each record, and no label twice.** -/
theorem numbered_allocateEntries {keys : List (ReferenceKind × Uuid)}
    {entries : List ReferenceEntry} (h : allocateEntries keys = .ok entries) :
    Numbered keys entries := by
  have hstart : Numbered [] [] := ⟨by simp, by simp, by simp, by simp⟩
  exact foldlM_start (P := Numbered) (fun done key s s' hs hturn => hs.step hturn) hstart h

lemma labelOf_eq_some {keys : List (ReferenceKind × Uuid)} {entries : List ReferenceEntry}
    (h : Numbered keys entries) {key : ReferenceKind × Uuid} {l : Text} :
    labelOf entries key = some l ↔ ∃ e ∈ entries, e.key = key ∧ e.label = l := by
  unfold labelOf
  rw [Option.map_eq_some_iff]
  constructor
  · rintro ⟨e, he, rfl⟩
    exact ⟨e, List.mem_of_find?_eq_some he, by simpa using List.find?_some he, rfl⟩
  · rintro ⟨e, he, rfl, rfl⟩
    refine ⟨e, Dict.find?_of_unique he (by simp) ?_, rfl⟩
    intro e' he' hkey
    exact List.inj_on_of_nodup_map h.unique he' he (by simpa using hkey)

/-! ## Renaming -/

section Renamed

variable {targets : List ReferenceTarget} {entries : List ReferenceEntry}

lemma mem_replacements {old new : Text} : (old, new) ∈ replacements targets entries ↔
    ∃ t ∈ targets, t.label = old ∧ labelOf entries t.key = some new := by
  simp only [replacements, List.mem_filterMap, Option.map_eq_some_iff, Prod.mk.injEq]
  constructor
  · rintro ⟨t, ht, l, hl, rfl, rfl⟩
    exact ⟨t, ht, rfl, hl⟩
  · rintro ⟨t, ht, rfl, hl⟩
    exact ⟨t, ht, new, hl, rfl, rfl⟩

variable (hbij : Bijective targets) (hnumbered : Numbered (targets.map (·.key)) entries)
include hbij hnumbered

/-- A target gets the label of its record's entry. -/
lemma renamed_target {t : ReferenceTarget} (ht : t ∈ targets) :
    labelOf entries t.key = some (renamed (replacements targets entries) t.label) := by
  obtain ⟨e, he, hkey⟩ := List.mem_map.mp ((hnumbered.covered t.key).mpr (List.mem_map_of_mem ht))
  have hlabel := (labelOf_eq_some hnumbered).mpr ⟨e, he, hkey, rfl⟩
  have hlookup := Dict.lookup_of_forall (mem_replacements.mpr ⟨t, ht, rfl, hlabel⟩) <| by
    intro new hnew
    obtain ⟨t', ht', hsame, hnew⟩ := mem_replacements.mp hnew
    rw [(hbij t' ht' t ht).mp hsame, hlabel] at hnew
    exact (Option.some.inj hnew).symm
  rw [renamed, hlookup, hlabel, Option.getD_some]

lemma isLabelOf_renamed {t : ReferenceTarget} (ht : t ∈ targets) :
    isLabelOf t.kind (renamed (replacements targets entries) t.label) = true := by
  obtain ⟨e, he, hkey, hlabel⟩ := (labelOf_eq_some hnumbered).mp (renamed_target hbij hnumbered ht)
  have hkind := hnumbered.kind_of_label he
  rw [hlabel] at hkind
  have hsame : e.kind = t.kind := congrArg Prod.fst hkey
  rwa [hsame] at hkind

omit hbij hnumbered

lemma isLabel_renamed {l : Text} (h : isLabel l = true) :
    isLabel (renamed (replacements targets entries) l) = true := by
  unfold renamed
  cases hlookup : (replacements targets entries).lookup l with
  | none => exact h
  | some new =>
      obtain ⟨t, -, -, hlabel⟩ := mem_replacements.mp (Dict.mem_of_lookup hlookup)
      obtain ⟨e, -, rfl⟩ := Option.map_eq_some_iff.mp hlabel
      exact e.label_ok

end Renamed

mutual

/-- A renaming that changes no label changes nothing. -/
lemma rewriteJson_of_fixed (h : ∀ l, r l = l) (v : Value) : rewriteJson r v = v := by
  match v with
  | .null => rfl
  | .bool _ => rfl
  | .int _ => rfl
  | .real _ => rfl
  | .str s =>
      rw [rewriteJson, replaceReferenceString, replaceReferenceText,
        Bracketed.rename_eq_self fun l _ => h l, String.ofList_toList]
  | .arr items => rw [rewriteJson, rewriteItems_of_fixed h items]
  | .obj fields =>
      rw [rewriteJson, rewriteFields_of_fixed h fields]
      have hfixed : ∀ f : String × Value, relabel r f = f := by
        rintro ⟨key, value⟩
        unfold relabel
        split
        · cases value <;> simp [h]
        · rfl
      rw [List.map_congr_left fun f _ => hfixed f, List.map_id']

lemma rewriteItems_of_fixed (h : ∀ l, r l = l) (items : List Value) :
    rewriteItems r items = items := by
  match items with
  | [] => rfl
  | v :: vs => rw [rewriteItems, rewriteJson_of_fixed h v, rewriteItems_of_fixed h vs]

lemma rewriteFields_of_fixed (h : ∀ l, r l = l) (fields : List (String × Value)) :
    rewriteFields r fields = fields := by
  match fields with
  | [] => rfl
  | (k, v) :: fs => rw [rewriteFields, rewriteJson_of_fixed h v, rewriteFields_of_fixed h fs]

end

lemma rewriteContent_of_fixed (h : ∀ l, r l = l) (content : ContentFields) :
    rewriteContent r content = content := by
  have hblock : ∀ b, rewriteBlock r b = b := by
    intro b
    have htext : b.text.map (replaceReferenceText r) = b.text := by
      cases b.text with
      | none => rfl
      | some t =>
          rw [Option.map_some, replaceReferenceText, Bracketed.rename_eq_self fun l _ => h l]
    rw [rewriteBlock, htext, rewriteFields_of_fixed h]
  have hsection : ∀ s, rewriteSection r s = s := by
    intro s
    rw [rewriteSection, List.map_congr_left fun b _ => hblock b, List.map_id']
  rw [rewriteContent, List.map_congr_left fun s _ => hsection s, List.map_id']

/-! ## Allocations -/

/-- What an allocation has found and done. -/
structure Allocated (lib : ReportLibrary) (content : ContentFields)
    (targets : List ReferenceTarget) (a : ReferenceAllocation) : Prop where
  collected : collectTargets lib content = .ok targets
  graph : GraphValid content targets
  entries : allocateEntries (targets.map (·.key)) = .ok a.references
  content : a.content.fields = rewriteContent (renamed (replacements targets a.references)) content
  few : a.references.length ≤ 5000

lemma allocate_ok {content : ContentFields} {a : ReferenceAllocation} :
    allocate lib content = .ok a ↔ ∃ targets, Allocated lib content targets a := by
  unfold allocate
  rw [bind_ok]
  constructor
  · rintro ⟨targets, htargets, h⟩
    obtain ⟨hgraph, h⟩ := unit_bind_ok.mp h
    obtain ⟨entries, hentries, h⟩ := bind_ok.mp h
    obtain ⟨rewritten, hrewritten, h⟩ := bind_ok.mp h
    obtain ⟨hfew, h⟩ := check_bind_ok.mp h
    cases h
    exact ⟨targets, htargets, validateExistingGraph_ok.mp hgraph, hentries,
      ContentFields.checked_ok.mp hrewritten, not_lt.mp hfew⟩
  · rintro ⟨targets, h⟩
    refine ⟨targets, h.collected, ?_⟩
    rw [validateExistingGraph_ok.mpr h.graph, ok_bind, h.entries, ok_bind,
      ContentFields.checked_ok.mpr h.content, ok_bind, check_bind_ok]
    exact ⟨not_lt.mpr h.few, rfl⟩

namespace Allocated

variable {content : ContentFields} {targets : List ReferenceTarget} {a : ReferenceAllocation}

lemma numbered (h : Allocated lib content targets a) :
    Numbered (targets.map (·.key)) a.references :=
  numbered_allocateEntries h.entries

/-- The targets of the new content: the same records, under the labels of their entries. -/
lemma targets_again (h : Allocated lib content targets a) :
    ∃ targets', collectTargets lib a.content.fields = .ok targets' ∧
      List.Forall₂ (Relabelled (renamed (replacements targets a.references))) targets targets' := by
  rw [h.content]
  exact collectTargets_rewrite h.collected
    fun t ht => isLabelOf_renamed h.graph.bijective h.numbered ht

/-- A target of the new content shows the label of its entry. -/
lemma label_again (h : Allocated lib content targets a) {targets' : List ReferenceTarget}
    (hall : List.Forall₂ (Relabelled (renamed (replacements targets a.references))) targets targets')
    {t' : ReferenceTarget} (ht' : t' ∈ targets') :
    labelOf a.references t'.key = some t'.label := by
  obtain ⟨t, ht, hrelabelled⟩ := exists_of_forall₂ hall.flip ht'
  rw [hrelabelled.key, hrelabelled.label]
  exact renamed_target h.graph.bijective h.numbered ht

/-- **A second allocation changes nothing.** -/
theorem again (h : Allocated lib content targets a) :
    ∃ targets', Allocated lib a.content.fields targets' a := by
  obtain ⟨targets', hcollected, hall⟩ := h.targets_again
  have hkeys : targets.map (·.key) = targets'.map (·.key) :=
    map_eq_of_forall₂ hall fun t t' hrelabelled => hrelabelled.key.symm
  have hlabels : targets'.map (·.label) =
      (targets.map (·.label)).map (renamed (replacements targets a.references)) := by
    rw [List.map_map]
    exact (map_eq_of_forall₂ hall fun t t' hrelabelled => hrelabelled.label.symm).symm
  have hbody := bodyLabels_rewrite (r := renamed (replacements targets a.references))
    (fun l hl => isLabel_renamed hl) content
  rw [← h.content] at hbody
  have hsame : ∀ l, renamed (replacements targets' a.references) l = l := by
    intro l
    unfold renamed
    cases hlookup : (replacements targets' a.references).lookup l with
    | none => rfl
    | some new =>
        obtain ⟨t', ht', rfl, hnew⟩ := mem_replacements.mp (Dict.mem_of_lookup hlookup)
        rw [h.label_again hall ht'] at hnew
        exact (Option.some.inj hnew).symm
  refine ⟨targets', hcollected, ⟨?_, ?_, ?_⟩, ?_, ?_, h.few⟩
  · intro s hs t ht
    have hs' := (labelOf_eq_some h.numbered).mp (h.label_again hall hs)
    have ht' := (labelOf_eq_some h.numbered).mp (h.label_again hall ht)
    obtain ⟨e, he, hekey, helabel⟩ := hs'
    obtain ⟨e', he', hekey', helabel'⟩ := ht'
    rw [← hekey, ← helabel, ← hekey', ← helabel']
    constructor
    · intro hlabel
      rw [List.inj_on_of_nodup_map h.numbered.labels he he' hlabel]
    · intro hkey
      rw [List.inj_on_of_nodup_map h.numbered.unique he he' hkey]
  · rw [hbody, hlabels]
    exact List.map_subset _ h.graph.bound
  · rw [hbody, hlabels]
    exact List.map_subset _ h.graph.used
  · rw [← hkeys]
    exact h.entries
  · rw [rewriteContent_of_fixed hsame]

end Allocated

end StockResearch.Reports
