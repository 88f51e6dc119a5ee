import StockResearch.ResearchAgent.RedactionLaw

/-!
# Secrets in models and enumerations

**Blanks.**  `blank` puts a zero under every sensitive key that the encoder comes to.  No text is
shorter, so the payload has not grown (`normalize_blank`), and a zero is no marker: what is hidden
shows in the result (`unsealed_blank`).

**`redacted_iff`**: a payload is redacted exactly when nothing is hidden in it.  Where something is,
either it stands in the result as it was, or it was the marker itself; then the blank payload, which
differs under sensitive keys only, has another result.

**The result.**  `redactToolPayload_ok_iff`: the redacted payload in key order, if the payload is not
too large.
-/

namespace StockResearch.ResearchAgent

open PyObject PyJson PyText Checked

variable {folding : CaseFolding}

/-! ## Blanks -/

section Blank

variable (folding : CaseFolding)

mutual

/-- Zero under every sensitive key, also inside of models and members of enumerations. -/
def blank : Object → Object
  | .enum member value => .enum member (blank value)
  | .model className dump => .model className (blank dump)
  | .mapping fields => .mapping (blankFields fields)
  | .sequence kind items => .sequence kind (blankItems items)
  | v => v

def blankItems : List Object → List Object
  | [] => []
  | v :: vs => blank v :: blankItems vs

def blankFields : List (Key × Object) → List (Key × Object)
  | [] => []
  | (k, v) :: fs => (k, if isSensitive folding k.text then .int 0 else blank v) :: blankFields fs

end

end Blank

lemma keys_blankFields (fields : List (Key × Object)) :
    (blankFields folding fields).map Prod.fst = fields.map Prod.fst := by
  induction fields with
  | nil => rfl
  | cons f fs ih => rw [blankFields, List.map_cons, List.map_cons, ih]

lemma isStr_blankFields {fields : List (Key × Object)} (hstr : ∀ f ∈ fields, f.1.isStr = true) :
    ∀ f ∈ blankFields folding fields, f.1.isStr = true := by
  intro f hf
  have hmem : f.1 ∈ fields.map Prod.fst :=
    @keys_blankFields folding fields ▸ List.mem_map_of_mem hf
  obtain ⟨g, hg, hgf⟩ := List.mem_map.mp hmem
  exact hgf ▸ hstr g hg

mutual

lemma distinct_blank (v : Object) (h : Distinct v) : Distinct (blank folding v) := by
  match v with
  | .none | .bool _ | .str _ | .int _ | .float _ | .decimal _ | .notFinite _ | .uuid _ | .datetime _
  | .date _ | .foreign _ _ => trivial
  | .enum _ value => exact distinct_blank value h
  | .model _ dump => exact distinct_blank dump h
  | .mapping fields =>
      refine ⟨?_, distinctFields_blank fields h.2⟩
      rw [keys_blankFields]
      exact h.1
  | .sequence _ items => exact distinctItems_blank items h

lemma distinctItems_blank (items : List Object) (h : DistinctItems items) :
    DistinctItems (blankItems folding items) := by
  match items with
  | [] => trivial
  | v :: vs => exact ⟨distinct_blank v h.1, distinctItems_blank vs h.2⟩

lemma distinctFields_blank (fields : List (Key × Object)) (h : DistinctFields fields) :
    DistinctFields (blankFields folding fields) := by
  match fields with
  | [] => trivial
  | (k, v) :: fs =>
      refine ⟨?_, distinctFields_blank fs h.2⟩
      split
      · trivial
      · exact distinct_blank v h.1

end

mutual

/-- Blanks stand under sensitive keys only. -/
theorem sameOutside_blank (v : Object) : SameOutside folding v (blank folding v) := by
  match v with
  | .none | .bool _ | .str _ | .int _ | .float _ | .decimal _ | .notFinite _ | .uuid _ | .datetime _
  | .date _ | .foreign _ _ => exact .refl _
  | .enum member value => exact .enum member (sameOutside_blank value)
  | .model className dump => exact .model className (sameOutside_blank dump)
  | .mapping fields => exact .mapping (.refl fields) (sameFields_blank fields)
  | .sequence kind items => exact .sequence kind (sameItems_blank items)

lemma sameItems_blank (items : List Object) : SameItems folding items (blankItems folding items) := by
  match items with
  | [] => exact .nil
  | v :: vs => exact .cons (sameOutside_blank v) (sameItems_blank vs)

lemma sameFields_blank (fields : List (Key × Object)) :
    SameFields folding fields (blankFields folding fields) := by
  match fields with
  | [] => exact .nil
  | (k, v) :: fs =>
      rw [blankFields]
      by_cases hk : isSensitive folding k.text = true
      · rw [if_pos hk]
        exact .secret hk v (.int 0) (sameFields_blank fs)
      · rw [if_neg hk]
        exact .cons k (sameOutside_blank v) (sameFields_blank fs)

end

mutual

/-- **A blanked object can be encoded, has not grown, and shows its blanks.** -/
theorem normalize_blank (v : Object) (hdistinct : Distinct v) {a : Value}
    (ha : normalize v = .ok a) : ∃ b, normalize (blank folding v) = .ok b ∧
      textSize b ≤ textSize a ∧
      (HasSensitive folding v → ¬ Sealed (isSensitive folding) redactionMarker b) := by
  match v with
  | .none | .bool _ | .str _ | .int _ | .float _ | .decimal _ | .notFinite _ | .uuid _ | .datetime _
  | .date _ | .foreign _ _ => exact ⟨a, ha, le_rfl, False.elim⟩
  | .enum _ value => exact normalize_blank value hdistinct ha
  | .model _ dump => exact normalize_blank dump hdistinct ha
  | .mapping fields =>
      obtain ⟨hstr, as, has, rfl⟩ := (normalize_mapping hdistinct.1).mp ha
      obtain ⟨bs, hbs, hlength, hsize, hshown⟩ := normalizeFields_blank fields hdistinct.2 has
      have hkeys : ((blankFields folding fields).map Prod.fst).Nodup := by
        rw [keys_blankFields]
        exact hdistinct.1
      refine ⟨.obj bs, ?_, ?_, hshown⟩
      · exact (normalize_mapping hkeys).mpr ⟨isStr_blankFields hstr, bs, hbs, rfl⟩
      · rw [textSize_obj, textSize_obj, hlength]
        omega
  | .sequence _ items =>
      obtain ⟨hkind, as, has, rfl⟩ := normalize_sequence.mp ha
      obtain ⟨bs, hbs, hlength, hsize, hshown⟩ := normalizeItems_blank items hdistinct has
      refine ⟨.arr bs, normalize_sequence.mpr ⟨hkind, bs, hbs, rfl⟩, ?_, hshown⟩
      rw [textSize_arr, textSize_arr, hlength]
      omega

lemma normalizeItems_blank (items : List Object) (hdistinct : DistinctItems items)
    {as : List Value} (has : normalizeItems items = .ok as) :
    ∃ bs, normalizeItems (blankItems folding items) = .ok bs ∧ bs.length = as.length ∧
      (bs.map textSize).sum ≤ (as.map textSize).sum ∧
      (HasSensitiveItems folding items → ¬ SealedItems (isSensitive folding) redactionMarker bs) := by
  match items with
  | [] =>
      cases has
      exact ⟨[], rfl, rfl, le_rfl, False.elim⟩
  | v :: vs =>
      obtain ⟨a, ha, as, has', rfl⟩ := normalizeItems_cons.mp has
      obtain ⟨b, hb, hsize, hshown⟩ := normalize_blank v hdistinct.1 ha
      obtain ⟨bs, hbs, hlength, hsize', hshown'⟩ := normalizeItems_blank vs hdistinct.2 has'
      refine ⟨b :: bs, normalizeItems_cons.mpr ⟨b, hb, bs, hbs, rfl⟩, ?_, ?_, ?_⟩
      · rw [List.length_cons, List.length_cons, hlength]
      · rw [List.map_cons, List.map_cons, List.sum_cons, List.sum_cons]
        exact add_le_add hsize hsize'
      · exact fun h hsealed =>
          h.elim (fun h => hshown h hsealed.1) fun h => hshown' h hsealed.2

lemma normalizeFields_blank (fields : List (Key × Object)) (hdistinct : DistinctFields fields)
    {as : List (String × Value)} (has : normalizeFields fields = .ok as) :
    ∃ bs, normalizeFields (blankFields folding fields) = .ok bs ∧ bs.length = as.length ∧
      (bs.map memberSize).sum ≤ (as.map memberSize).sum ∧
      (HasSensitiveFields folding fields →
        ¬ SealedFields (isSensitive folding) redactionMarker bs) := by
  match fields with
  | [] =>
      cases has
      exact ⟨[], rfl, rfl, le_rfl, False.elim⟩
  | (k, v) :: fs =>
      obtain ⟨a, ha, as, has', rfl⟩ := normalizeFields_cons.mp has
      obtain ⟨b, hb, hsize, hshown⟩ := normalize_blank v hdistinct.1 ha
      obtain ⟨bs, hbs, hlength, hsize', hshown'⟩ := normalizeFields_blank fs hdistinct.2 has'
      rw [blankFields]
      by_cases hk : isSensitive folding k.text = true
      · rw [if_pos hk]
        refine ⟨(k.text, .int 0) :: bs, normalizeFields_cons.mpr ⟨_, rfl, bs, hbs, rfl⟩, ?_, ?_, ?_⟩
        · rw [List.length_cons, List.length_cons, hlength]
        · have hzero : textSize (.int 0) ≤ textSize a := textSize_pos (plain_normalize v ha)
          rw [List.map_cons, List.map_cons, List.sum_cons, List.sum_cons]
          exact add_le_add (Nat.add_le_add_left hzero _) hsize'
        · exact fun _ hsealed => by cases hsealed.1.1 hk
      · rw [if_neg hk]
        refine ⟨(k.text, b) :: bs, normalizeFields_cons.mpr ⟨b, hb, bs, hbs, rfl⟩, ?_, ?_, ?_⟩
        · rw [List.length_cons, List.length_cons, hlength]
        · rw [List.map_cons, List.map_cons, List.sum_cons, List.sum_cons]
          exact add_le_add (Nat.add_le_add_left hsize _) hsize'
        · rintro ((h | h) | h) hsealed
          · exact hk h
          · exact hshown h hsealed.1.2
          · exact hshown' h hsealed.2

end

mutual

/-- **The redaction of a blanked object shows what is hidden.** -/
theorem unsealed_blank (v : Object) (hdistinct : Distinct v) {a b : Value}
    (ha : normalize v = .ok a) (hb : normalize (redact folding (blank folding v)) = .ok b)
    (hhidden : Hidden folding v) : ¬ Sealed (isSensitive folding) redactionMarker b := by
  match v with
  | .none | .bool _ | .str _ | .int _ | .float _ | .decimal _ | .notFinite _ | .uuid _ | .datetime _
  | .date _ | .foreign _ _ => exact hhidden.elim
  | .enum _ value =>
      obtain ⟨b', hb', -, hshown⟩ := @normalize_blank folding value hdistinct a ha
      obtain rfl := Except.ok.inj (hb'.symm.trans hb)
      exact hshown hhidden
  | .model _ dump =>
      obtain ⟨b', hb', -, hshown⟩ := @normalize_blank folding dump hdistinct a ha
      obtain rfl := Except.ok.inj (hb'.symm.trans hb)
      exact hshown hhidden
  | .mapping fields =>
      obtain ⟨hstr, as, has, rfl⟩ := (normalize_mapping hdistinct.1).mp ha
      have hkeys : ((blankFields folding fields).map Prod.fst).Nodup := by
        rw [keys_blankFields]
        exact hdistinct.1
      have hredacted := @redact_mapping folding _ hkeys (isStr_blankFields hstr)
      obtain ⟨hredact, hkeys', -⟩ := hredacted
      rw [blank, hredact] at hb
      obtain ⟨-, bs, hbs, rfl⟩ := (normalize_mapping hkeys').mp hb
      exact unsealedFields_blank fields hdistinct.2 has hbs hhidden
  | .sequence _ items =>
      obtain ⟨-, as, has, rfl⟩ := normalize_sequence.mp ha
      obtain ⟨-, bs, hbs, rfl⟩ := normalize_sequence.mp hb
      exact unsealedItems_blank items hdistinct has hbs hhidden

lemma unsealedItems_blank (items : List Object) (hdistinct : DistinctItems items)
    {as bs : List Value} (has : normalizeItems items = .ok as)
    (hbs : normalizeItems (redactItems folding (blankItems folding items)) = .ok bs)
    (hhidden : HiddenItems folding items) :
    ¬ SealedItems (isSensitive folding) redactionMarker bs := by
  match items with
  | [] => exact hhidden.elim
  | v :: vs =>
      obtain ⟨a, ha, as, has', rfl⟩ := normalizeItems_cons.mp has
      obtain ⟨b, hb, bs, hbs', rfl⟩ := normalizeItems_cons.mp hbs
      intro hsealed
      rcases hhidden with h | h
      · exact unsealed_blank v hdistinct.1 ha hb h hsealed.1
      · exact unsealedItems_blank vs hdistinct.2 has' hbs' h hsealed.2

lemma unsealedFields_blank (fields : List (Key × Object)) (hdistinct : DistinctFields fields)
    {as bs : List (String × Value)} (has : normalizeFields fields = .ok as)
    (hbs : normalizeFields (redactFields folding (blankFields folding fields)) = .ok bs)
    (hhidden : HiddenFields folding fields) :
    ¬ SealedFields (isSensitive folding) redactionMarker bs := by
  match fields with
  | [] => exact hhidden.elim
  | (k, v) :: fs =>
      obtain ⟨a, ha, as, has', rfl⟩ := normalizeFields_cons.mp has
      obtain ⟨b, hb, bs, hbs', rfl⟩ := normalizeFields_cons.mp hbs
      intro hsealed
      rcases hhidden with ⟨hk, h⟩ | h
      · rw [hk, if_neg Bool.false_ne_true, if_neg Bool.false_ne_true] at hb
        exact unsealed_blank v hdistinct.1 ha hb h hsealed.1.2
      · exact unsealedFields_blank fs hdistinct.2 has' hbs' h hsealed.2

end

/-! ## The result -/

def ToolPayload.blank (payload : ToolPayload) (folding : CaseFolding) : ToolPayload where
  fields := blankFields folding payload.fields
  distinct := distinct_blank (.mapping payload.fields) payload.distinct

lemma canonicalJson_ok {v : Object} {text : List Char} :
    canonicalJson v = .ok text ↔ ∃ a, normalize v = .ok a ∧ canonicalText a = text := map_ok

lemma raised_ok {v : Object} {text : List Char} :
    (canonicalJson v).mapError RedactionFailure.raised = .ok text ↔
      ∃ a, normalize v = .ok a ∧ canonicalText a = text := by
  rw [← canonicalJson_ok]
  cases canonicalJson v <;> simp [Except.mapError]

/-- What the redaction returns. -/
theorem redactToolPayload_ok_iff {payload : ToolPayload} {result : List (String × Value)} :
    redactToolPayload folding payload = .ok result ↔
      (∃ a, normalize payload.object = .ok a ∧ textSize a ≤ maxInputBytes) ∧
        ∃ b, normalize (redact folding payload.object) = .ok b ∧ sortKeys b = .obj result := by
  constructor
  · intro h
    obtain ⟨_, hencoded, h⟩ := bind_ok.mp h
    obtain ⟨hsize, h⟩ := check_bind_ok.mp h
    obtain ⟨_, hredacted, h⟩ := bind_ok.mp h
    obtain ⟨a, ha, rfl⟩ := raised_ok.mp hencoded
    obtain ⟨b, hb, rfl⟩ := raised_ok.mp hredacted
    refine ⟨⟨a, ha, not_lt.mp hsize⟩, b, hb, ?_⟩
    rw [loads_canonicalText (plain_normalize _ hb)] at h
    split at h
    · next fields heq =>
        cases h
        exact Option.some.inj heq
    · cases h
  · rintro ⟨⟨a, ha, hsize⟩, b, hb, hresult⟩
    refine bind_ok.mpr ⟨_, raised_ok.mpr ⟨a, ha, rfl⟩, ?_⟩
    refine check_bind_ok.mpr ⟨not_lt.mpr hsize, ?_⟩
    refine bind_ok.mpr ⟨_, raised_ok.mpr ⟨b, hb, rfl⟩, ?_⟩
    rw [loads_canonicalText (plain_normalize _ hb), hresult]
    rfl

lemma accepted_blank {payload : ToolPayload} {result : List (String × Value)}
    (h : redactToolPayload folding payload = .ok result) :
    ∃ result', redactToolPayload folding (payload.blank folding) = .ok result' := by
  obtain ⟨⟨a, ha, hsize⟩, -⟩ := redactToolPayload_ok_iff.mp h
  obtain ⟨a', ha', hsize', -⟩ := @normalize_blank folding payload.object payload.distinct a ha
  obtain ⟨b', hb', -⟩ :=
    @normalize_redact folding (payload.blank folding).object (payload.blank folding).distinct a' ha'
  -- What a mapping is normalized to is an object.
  have hredact : ∃ members, b' = .obj members := by
    have hb := hb'
    rw [ToolPayload.object, redact, normalize, check_bind_ok] at hb
    obtain ⟨members, -, h⟩ := bind_ok.mp hb.2
    exact ⟨_, (Except.ok.inj h).symm⟩
  obtain ⟨members, rfl⟩ := hredact
  exact ⟨_, redactToolPayload_ok_iff.mpr ⟨⟨a', ha', hsize'.trans hsize⟩, .obj members, hb', rfl⟩⟩

/-- **A payload is redacted exactly when no sensitive key is hidden in it.** -/
theorem redacted_iff {payload : ToolPayload} {text : List Char} {canonical : Value}
    {result : List (String × Value)} (htext : canonicalJson payload.object = .ok text)
    (hcanonical : loads text = some canonical)
    (h : redactToolPayload folding payload = .ok result) :
    Redacted folding payload canonical result ↔ ¬ Hidden folding payload.object := by
  obtain ⟨a, ha, rfl⟩ := canonicalJson_ok.mp htext
  rw [loads_canonicalText (plain_normalize _ ha)] at hcanonical
  obtain rfl := Option.some.inj hcanonical
  have houtcome := h
  obtain ⟨-, b, hb, hresult⟩ := redactToolPayload_ok_iff.mp houtcome
  obtain ⟨b', hb', hmasked, hsealed⟩ := @normalize_redact folding _ payload.distinct a ha
  obtain rfl := Except.ok.inj (hb.symm.trans hb')
  constructor
  · rintro ⟨hmarked, -, hindependent⟩ hhidden
    obtain ⟨result', h'⟩ := accepted_blank h
    obtain ⟨-, c, hc, hresult'⟩ := redactToolPayload_ok_iff.mp h'
    -- The blanked payload has the same result by independence, and the result is sealed.
    obtain rfl := hindependent _ result' (sameOutside_blank _) h'
    refine unsealed_blank payload.object payload.distinct ha hc hhidden ?_
    rw [← sealed_sortKeys, hresult']
    exact hmarked
  · intro hplain
    have hmask : mask (isSensitive folding) redactionMarker b = b := mask_of_sealed b (hsealed hplain)
    refine ⟨?_, ?_, ?_⟩
    · rw [← hresult, sealed_sortKeys]
      exact hsealed hplain
    · rw [← hresult, mask_sortKeys, hmasked, mask_sortKeys]
    · intro other result' hsame h'
      obtain ⟨⟨a', ha', -⟩, c, hc, hresult'⟩ := redactToolPayload_ok_iff.mp h'
      obtain ⟨c', hc', hmasked', hsealed'⟩ := @normalize_redact folding _ other.distinct a' ha'
      obtain rfl := Except.ok.inj (hc.symm.trans hc')
      have hplain' : ¬ Hidden folding other.object := by rwa [← hidden_of_sameOutside hsame]
      have hmask' := mask_of_sealed c (hsealed' hplain')
      have halike := alike_of_sameOutside hsame payload.distinct other.distinct ha ha'
      have hobjects : Value.obj result' = .obj result := calc
        Value.obj result' = sortKeys c := hresult'.symm
        _ = sortKeys (mask (isSensitive folding) redactionMarker a') := by rw [← hmasked', hmask']
        _ = sortKeys (mask (isSensitive folding) redactionMarker a) :=
          ((sortKeys_eq_iff (plain_mask a (plain_normalize _ ha))).mpr halike).symm
        _ = sortKeys b := by rw [← hmasked, hmask]
        _ = .obj result := hresult
      exact Value.obj.inj hobjects

/-- `{"token": "s3cret"}` -/
def tokenPayload : ToolPayload where
  fields := [(.str "token", .str "s3cret")]
  distinct := ⟨List.nodup_singleton _, trivial, trivial⟩

/-- The marker is all that the redaction of a token leaves. -/
theorem token_redacted :
    Redacted asciiCaseFolding tokenPayload (.obj [("token", .str "s3cret")])
        [("token", .str redactionMarker)] ↔ ¬ Hidden asciiCaseFolding tokenPayload.object := by
  have hnormal : normalize tokenPayload.object = .ok (.obj [("token", .str "s3cret")]) := rfl
  have hredacted : normalize (redact asciiCaseFolding tokenPayload.object) =
      .ok (.obj [("token", .str redactionMarker)]) := by
    have hsensitive : isSensitive asciiCaseFolding "token" = true := by decide +kernel
    simp only [ToolPayload.object, tokenPayload, redact, redactFields, Key.text, hsensitive]
    rfl
  refine redacted_iff (canonicalJson_ok.mpr ⟨_, hnormal, rfl⟩)
    (loads_canonicalText (plain_normalize _ hnormal)) (redactToolPayload_ok_iff.mpr ⟨⟨_, hnormal, ?_⟩, _, hredacted, rfl⟩)
  decide +kernel

/-- `{"request": LoginRequest(api_key="s3cret")}` -/
def loginPayload : ToolPayload where
  fields := [(.str "request", .model "LoginRequest" (.mapping [(.str "api_key", .str "s3cret")]))]
  distinct := ⟨List.nodup_singleton _, ⟨List.nodup_singleton _, trivial, trivial⟩, trivial⟩

/-- The key of the model is stored as it is. -/
theorem modelKey_stored :
    redactToolPayload asciiCaseFolding loginPayload =
      .ok [("request", .obj [("api_key", .str "s3cret")])] ∧
    ∀ canonical, ¬ Redacted asciiCaseFolding loginPayload canonical
      [("request", .obj [("api_key", .str "s3cret")])] := by
  have hnormal : normalize loginPayload.object =
      .ok (.obj [("request", .obj [("api_key", .str "s3cret")])]) := rfl
  have hredacted : normalize (redact asciiCaseFolding loginPayload.object) =
      .ok (.obj [("request", .obj [("api_key", .str "s3cret")])]) := by
    have hplain : isSensitive asciiCaseFolding "request" = false := by decide +kernel
    simp only [ToolPayload.object, loginPayload, redact, redactFields, Key.text, hplain]
    rfl
  refine ⟨redactToolPayload_ok_iff.mpr ⟨⟨_, hnormal, ?_⟩, _, hredacted, rfl⟩, ?_⟩
  · decide +kernel
  · rintro canonical ⟨hmarked, -, -⟩
    have hsensitive : isSensitive asciiCaseFolding "api_key" = true := by decide +kernel
    have hvalue := hmarked.1.2.1.1 hsensitive
    simp [redactionMarker] at hvalue

end StockResearch.ResearchAgent
