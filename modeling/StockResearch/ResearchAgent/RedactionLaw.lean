import StockResearch.ResearchAgent.Redaction

/-!
# What the redaction of a payload does

**Against the canonical form.**  `normalize_redact`: masked, the redacted payload is the payload; and
it is sealed unless something is hidden.

**Two payloads.**  `alike_of_sameOutside`: the masked canonical forms of payloads that differ only
under sensitive keys are the same.  `hidden_of_sameOutside`: so is what is hidden in them.
-/

namespace StockResearch.ResearchAgent

open PyObject PyJson PyText Checked

variable {folding : CaseFolding}

/-! ## Fields and items -/

lemma distinctFields_iff {fields : List (Key × Object)} :
    DistinctFields fields ↔ ∀ f ∈ fields, Distinct f.2 := by
  induction fields with
  | nil => simp [DistinctFields]
  | cons f fs ih => rw [DistinctFields, ih, List.forall_mem_cons]

lemma hasSensitiveFields_iff {fields : List (Key × Object)} : HasSensitiveFields folding fields ↔
    ∃ f ∈ fields, isSensitive folding f.1.text = true ∨ HasSensitive folding f.2 := by
  induction fields with
  | nil => simp [HasSensitiveFields]
  | cons f fs ih => simp only [HasSensitiveFields, ih, List.mem_cons, exists_eq_or_imp]

lemma hiddenFields_iff {fields : List (Key × Object)} : HiddenFields folding fields ↔
    ∃ f ∈ fields, isSensitive folding f.1.text = false ∧ Hidden folding f.2 := by
  induction fields with
  | nil => simp [HiddenFields]
  | cons f fs ih => simp only [HiddenFields, ih, List.mem_cons, exists_eq_or_imp]

lemma ok_eq_iff {α : Type} {a b : α} : (Except.ok a : Except CanonicalError α) = .ok b ↔ b = a :=
  ⟨fun h => (Except.ok.inj h).symm, fun h => congrArg Except.ok h.symm⟩

lemma normalize_mapping {fields : List (Key × Object)} (hkeys : (fields.map Prod.fst).Nodup)
    {a : Value} : normalize (.mapping fields) = .ok a ↔ (∀ f ∈ fields, f.1.isStr = true) ∧
      ∃ members, normalizeFields fields = .ok members ∧ a = .obj members := by
  rw [normalize, check_bind_ok, not_not]
  refine and_congr_right fun hstr => ?_
  rw [bind_ok]
  refine exists_congr fun members => and_congr_right fun hmembers => ?_
  have hdistinct : (members.map Prod.fst).Nodup := by
    rw [keys_normalizeFields hmembers]
    exact nodup_text hstr hkeys
  rw [dictOf_nodup hdistinct]
  exact ok_eq_iff

/-- What a list or a tuple is normalized to. -/
lemma normalize_sequence {kind : SequenceKind} {items : List Object} {a : Value} :
    normalize (.sequence kind items) = .ok a ↔ (∀ name, kind ≠ .other name) ∧
      ∃ values, normalizeItems items = .ok values ∧ a = .arr values := by
  have hitems : (normalizeItems items >>= fun values => .ok (.arr values)) = .ok a ↔
      ∃ values, normalizeItems items = .ok values ∧ a = .arr values :=
    bind_ok.trans (exists_congr fun values => and_congr_right fun _ => ok_eq_iff)
  cases kind with
  | list => exact hitems.trans (by simp)
  | tuple => exact hitems.trans (by simp)
  | other name =>
      refine iff_of_false (fun h => ?_) fun h => h.1 name rfl
      cases h

lemma normalizeItems_cons {v : Object} {vs : List Object} {values : List Value} :
    normalizeItems (v :: vs) = .ok values ↔ ∃ a, normalize v = .ok a ∧
      ∃ as, normalizeItems vs = .ok as ∧ values = a :: as := by
  rw [normalizeItems, bind_ok]
  refine exists_congr fun a => and_congr_right fun _ => bind_ok.trans ?_
  exact exists_congr fun as => and_congr_right fun _ => ok_eq_iff

lemma normalizeFields_cons {k : Key} {v : Object} {fs : List (Key × Object)}
    {members : List (String × Value)} :
    normalizeFields ((k, v) :: fs) = .ok members ↔ ∃ a, normalize v = .ok a ∧
      ∃ as, normalizeFields fs = .ok as ∧ members = (k.text, a) :: as := by
  rw [normalizeFields, bind_ok]
  refine exists_congr fun a => and_congr_right fun _ => bind_ok.trans ?_
  exact exists_congr fun as => and_congr_right fun _ => ok_eq_iff

/-! ## Against the canonical form -/

mutual

/-- What has no sensitive key is sealed. -/
lemma sealed_normalize (v : Object) (hdistinct : Distinct v) (hplain : ¬ HasSensitive folding v)
    {a : Value} (ha : normalize v = .ok a) : Sealed (isSensitive folding) redactionMarker a := by
  match v with
  | .none | .bool _ | .str _ | .int _ | .decimal _ | .uuid _ | .date _ =>
      cases ha
      trivial
  | .float _ | .notFinite _ | .foreign _ _ => cases ha
  | .datetime d =>
      rw [normalize, normalizeTime, require_bind_ok] at ha
      obtain ⟨offset, -, ha⟩ := ha
      obtain ⟨t, -, ha⟩ := require_bind_ok.mp ha
      cases ha
      trivial
  | .enum _ value => exact sealed_normalize value hdistinct hplain ha
  | .model _ dump => exact sealed_normalize dump hdistinct hplain ha
  | .mapping fields =>
      obtain ⟨-, members, hmembers, rfl⟩ := (normalize_mapping hdistinct.1).mp ha
      exact sealed_normalizeFields fields hdistinct.2 hplain hmembers
  | .sequence _ items =>
      obtain ⟨-, values, hvalues, rfl⟩ := normalize_sequence.mp ha
      exact sealed_normalizeItems items hdistinct hplain hvalues

lemma sealed_normalizeItems (items : List Object) (hdistinct : DistinctItems items)
    (hplain : ¬ HasSensitiveItems folding items) {values : List Value}
    (h : normalizeItems items = .ok values) :
    SealedItems (isSensitive folding) redactionMarker values := by
  match items with
  | [] =>
      cases h
      trivial
  | v :: vs =>
      obtain ⟨a, ha, as, has, rfl⟩ := normalizeItems_cons.mp h
      rw [HasSensitiveItems, not_or] at hplain
      exact ⟨sealed_normalize v hdistinct.1 hplain.1 ha,
        sealed_normalizeItems vs hdistinct.2 hplain.2 has⟩

lemma sealed_normalizeFields (fields : List (Key × Object)) (hdistinct : DistinctFields fields)
    (hplain : ¬ HasSensitiveFields folding fields) {members : List (String × Value)}
    (h : normalizeFields fields = .ok members) :
    SealedFields (isSensitive folding) redactionMarker members := by
  match fields with
  | [] =>
      cases h
      trivial
  | (k, v) :: fs =>
      obtain ⟨a, ha, as, has, rfl⟩ := normalizeFields_cons.mp h
      rw [HasSensitiveFields, not_or, not_or] at hplain
      exact ⟨⟨fun hk => absurd hk hplain.1.1, sealed_normalize v hdistinct.1 hplain.1.2 ha⟩,
        sealed_normalizeFields fs hdistinct.2 hplain.2 has⟩

end

lemma keys_redactFields (fields : List (Key × Object)) :
    (redactFields folding fields).map Prod.fst = fields.map fun f => .str f.1.text := by
  induction fields with
  | nil => rfl
  | cons f fs ih =>
      obtain ⟨k, v⟩ := f
      rw [redactFields, List.map_cons, ih]
      rfl

/-- The keys of a redacted mapping stay distinct, so no assignment replaces another. -/
lemma redact_mapping {fields : List (Key × Object)} (hkeys : (fields.map Prod.fst).Nodup)
    (hstr : ∀ f ∈ fields, f.1.isStr = true) :
    redact folding (.mapping fields) = .mapping (redactFields folding fields) ∧
      ((redactFields folding fields).map Prod.fst).Nodup ∧
      ∀ f ∈ redactFields folding fields, f.1.isStr = true := by
  have hdistinct : ((redactFields folding fields).map Prod.fst).Nodup := by
    rw [keys_redactFields]
    have htexts := (nodup_text hstr hkeys).map fun s t (h : Key.str s = Key.str t) => Key.str.inj h
    rwa [List.map_map] at htexts
  refine ⟨?_, hdistinct, ?_⟩
  · rw [redact]
    exact congrArg Object.mapping (Dict.valuesBy_of_nodup hdistinct)
  · intro f hf
    have hmem : f.1 ∈ (redactFields folding fields).map Prod.fst := List.mem_map_of_mem hf
    rw [keys_redactFields] at hmem
    obtain ⟨g, -, hg⟩ := List.mem_map.mp hmem
    rw [← hg]
    rfl

/-- One value is another one redacted: they have one mask, and it is sealed unless something is
hidden. -/
structure RedactsTo (folding : CaseFolding) (hidden : Prop) (a b : Value) : Prop where
  masked : mask (isSensitive folding) redactionMarker b =
    mask (isSensitive folding) redactionMarker a
  sealed_of_not : ¬ hidden → Sealed (isSensitive folding) redactionMarker b

mutual

/-- **The redacted payload can be encoded, and redacts the payload.** -/
theorem normalize_redact (v : Object) (hdistinct : Distinct v) {a : Value}
    (ha : normalize v = .ok a) : ∃ b, normalize (redact folding v) = .ok b ∧
      RedactsTo folding (Hidden folding v) a b := by
  match v with
  | .none | .bool _ | .str _ | .int _ | .decimal _ | .uuid _ | .date _ =>
      cases ha
      exact ⟨_, rfl, rfl, fun _ => trivial⟩
  | .float _ | .notFinite _ | .foreign _ _ => cases ha
  | .datetime d =>
      refine ⟨a, ha, rfl, fun _ => ?_⟩
      exact sealed_normalize (.datetime d) trivial (fun h => h) ha
  | .enum _ value => exact ⟨a, ha, rfl, fun h => sealed_normalize value hdistinct h ha⟩
  | .model _ dump => exact ⟨a, ha, rfl, fun h => sealed_normalize dump hdistinct h ha⟩
  | .mapping fields =>
      obtain ⟨hstr, members, hmembers, rfl⟩ := (normalize_mapping hdistinct.1).mp ha
      obtain ⟨members', hmembers', hmasked, hsealed⟩ :=
        normalizeFields_redact fields hdistinct.2 hmembers
      obtain ⟨hredact, hkeys, hstr'⟩ := @redact_mapping folding _ hdistinct.1 hstr
      refine ⟨.obj members', ?_, ?_, hsealed⟩
      · rw [hredact]
        exact (normalize_mapping hkeys).mpr ⟨hstr', members', hmembers', rfl⟩
      · rw [mask, mask, hmasked]
  | .sequence _ items =>
      obtain ⟨-, values, hvalues, rfl⟩ := normalize_sequence.mp ha
      obtain ⟨values', hvalues', hmasked, hsealed⟩ := normalizeItems_redact items hdistinct hvalues
      refine ⟨.arr values', ?_, ?_, hsealed⟩
      · exact normalize_sequence.mpr ⟨by simp, values', hvalues', rfl⟩
      · rw [mask, mask, hmasked]

lemma normalizeItems_redact (items : List Object) (hdistinct : DistinctItems items)
    {values : List Value} (h : normalizeItems items = .ok values) :
    ∃ values', normalizeItems (redactItems folding items) = .ok values' ∧
      maskItems (isSensitive folding) redactionMarker values' =
        maskItems (isSensitive folding) redactionMarker values ∧
      (¬ HiddenItems folding items →
        SealedItems (isSensitive folding) redactionMarker values') := by
  match items with
  | [] =>
      cases h
      exact ⟨[], rfl, rfl, fun _ => trivial⟩
  | v :: vs =>
      obtain ⟨a, ha, as, has, rfl⟩ := normalizeItems_cons.mp h
      obtain ⟨b, hb, hmasked, hsealed⟩ := normalize_redact v hdistinct.1 ha
      obtain ⟨bs, hbs, hmasked', hsealed'⟩ := normalizeItems_redact vs hdistinct.2 has
      refine ⟨b :: bs, normalizeItems_cons.mpr ⟨b, hb, bs, hbs, rfl⟩, ?_, fun h => ?_⟩
      · rw [maskItems, maskItems, hmasked, hmasked']
      · rw [HiddenItems, not_or] at h
        exact ⟨hsealed h.1, hsealed' h.2⟩

lemma normalizeFields_redact (fields : List (Key × Object)) (hdistinct : DistinctFields fields)
    {members : List (String × Value)} (h : normalizeFields fields = .ok members) :
    ∃ members', normalizeFields (redactFields folding fields) = .ok members' ∧
      maskFields (isSensitive folding) redactionMarker members' =
        maskFields (isSensitive folding) redactionMarker members ∧
      (¬ HiddenFields folding fields →
        SealedFields (isSensitive folding) redactionMarker members') := by
  match fields with
  | [] =>
      cases h
      exact ⟨[], rfl, rfl, fun _ => trivial⟩
  | (k, v) :: fs =>
      obtain ⟨a, ha, as, has, rfl⟩ := normalizeFields_cons.mp h
      obtain ⟨b, hb, hmasked, hsealed⟩ := normalize_redact v hdistinct.1 ha
      obtain ⟨bs, hbs, hmasked', hsealed'⟩ := normalizeFields_redact fs hdistinct.2 has
      rw [redactFields]
      by_cases hk : isSensitive folding k.text = true
      · rw [if_pos hk]
        refine ⟨(k.text, .str redactionMarker) :: bs,
          normalizeFields_cons.mpr ⟨_, rfl, bs, hbs, rfl⟩, ?_, fun h => ?_⟩
        · rw [maskFields, maskFields, hmasked', if_pos hk, if_pos hk]
        · rw [HiddenFields, not_or] at h
          exact ⟨⟨fun _ => rfl, trivial⟩, hsealed' h.2⟩
      · rw [if_neg hk]
        refine ⟨(k.text, b) :: bs, normalizeFields_cons.mpr ⟨b, hb, bs, hbs, rfl⟩, ?_, fun h => ?_⟩
        · rw [maskFields, maskFields, hmasked', if_neg hk, if_neg hk, hmasked]
        · rw [HiddenFields, not_or, not_and] at h
          exact ⟨⟨fun hk' => absurd hk' hk, hsealed (h.1 (Bool.eq_false_of_not_eq_true hk))⟩,
            hsealed' h.2⟩

end

/-! ## Two payloads -/

mutual

/-- **Masked, what differs under sensitive keys only says the same.** -/
theorem alike_of_sameOutside {v w : Object} (h : SameOutside folding v w) (hv : Distinct v)
    (hw : Distinct w) {a b : Value} (ha : normalize v = .ok a) (hb : normalize w = .ok b) :
    Alike Eq (mask (isSensitive folding) redactionMarker a)
      (mask (isSensitive folding) redactionMarker b) := by
  match h with
  | .refl v =>
      obtain rfl := Except.ok.inj (ha.symm.trans hb)
      exact (sortKeys_eq_iff (plain_mask a (plain_normalize v ha))).mp rfl
  | .enum _ h => exact alike_of_sameOutside h hv hw ha hb
  | .model _ h => exact alike_of_sameOutside h hv hw ha hb
  | .sequence _ h =>
      obtain ⟨-, as, has, rfl⟩ := normalize_sequence.mp ha
      obtain ⟨-, bs, hbs, rfl⟩ := normalize_sequence.mp hb
      exact .arr (alikeItems_of_sameItems h hv hw has hbs)
  | @SameOutside.mapping _ fs fs' gs hperm h =>
      obtain ⟨-, as, has, rfl⟩ := (normalize_mapping hv.1).mp ha
      obtain ⟨-, bs, hbs, rfl⟩ := (normalize_mapping hw.1).mp hb
      rw [normalizeFields_eq_mapM] at has
      obtain ⟨as', has', hperm'⟩ := mapM_perm hperm has
      rw [← normalizeFields_eq_mapM] at has'
      have hdistinct : DistinctFields fs' := distinctFields_iff.mpr fun f hf =>
        distinctFields_iff.mp hv.2 f (hperm.mem_iff.mpr hf)
      have halike := alikeFields_of_sameFields h hdistinct hw.2 has' hbs
      rw [mask, mask, maskFields_eq_map as]
      rw [maskFields_eq_map as'] at halike
      exact .obj (hperm'.map _) halike

lemma alikeItems_of_sameItems {vs ws : List Object} (h : SameItems folding vs ws)
    (hvs : DistinctItems vs) (hws : DistinctItems ws) {as bs : List Value}
    (has : normalizeItems vs = .ok as) (hbs : normalizeItems ws = .ok bs) :
    AlikeItems Eq (maskItems (isSensitive folding) redactionMarker as)
      (maskItems (isSensitive folding) redactionMarker bs) := by
  match h with
  | .nil =>
      cases has
      cases hbs
      exact .nil
  | .cons h hs =>
      obtain ⟨a, ha, as, has', rfl⟩ := normalizeItems_cons.mp has
      obtain ⟨b, hb, bs, hbs', rfl⟩ := normalizeItems_cons.mp hbs
      exact .cons (alike_of_sameOutside h hvs.1 hws.1 ha hb)
        (alikeItems_of_sameItems hs hvs.2 hws.2 has' hbs')

lemma alikeFields_of_sameFields {fs gs : List (Key × Object)} (h : SameFields folding fs gs)
    (hfs : DistinctFields fs) (hgs : DistinctFields gs) {as bs : List (String × Value)}
    (has : normalizeFields fs = .ok as) (hbs : normalizeFields gs = .ok bs) :
    AlikeFields Eq (maskFields (isSensitive folding) redactionMarker as)
      (maskFields (isSensitive folding) redactionMarker bs) := by
  match h with
  | .nil =>
      cases has
      cases hbs
      exact .nil
  | .secret hk v w hs =>
      obtain ⟨a, -, as, has', rfl⟩ := normalizeFields_cons.mp has
      obtain ⟨b, -, bs, hbs', rfl⟩ := normalizeFields_cons.mp hbs
      rw [maskFields, maskFields, if_pos hk, if_pos hk]
      exact .cons rfl (.str rfl) (alikeFields_of_sameFields hs hfs.2 hgs.2 has' hbs')
  | .cons k h hs =>
      obtain ⟨a, ha, as, has', rfl⟩ := normalizeFields_cons.mp has
      obtain ⟨b, hb, bs, hbs', rfl⟩ := normalizeFields_cons.mp hbs
      refine .cons rfl ?_ (alikeFields_of_sameFields hs hfs.2 hgs.2 has' hbs')
      have halike := alike_of_sameOutside h hfs.1 hgs.1 ha hb
      split
      · exact .str rfl
      · exact halike

end

mutual

lemma hasSensitive_of_sameOutside {v w : Object} (h : SameOutside folding v w) :
    HasSensitive folding v ↔ HasSensitive folding w := by
  match h with
  | .refl _ => exact Iff.rfl
  | .enum _ h =>
      rw [HasSensitive, HasSensitive]
      exact hasSensitive_of_sameOutside h
  | .model _ h =>
      rw [HasSensitive, HasSensitive]
      exact hasSensitive_of_sameOutside h
  | .sequence _ h => exact hasSensitiveItems_of_sameItems h
  | @SameOutside.mapping _ fs fs' gs hperm h =>
      rw [HasSensitive, HasSensitive, ← hasSensitiveFields_of_sameFields h, hasSensitiveFields_iff,
        hasSensitiveFields_iff]
      exact exists_congr fun f => and_congr_left fun _ => hperm.mem_iff

lemma hasSensitiveItems_of_sameItems {vs ws : List Object} (h : SameItems folding vs ws) :
    HasSensitiveItems folding vs ↔ HasSensitiveItems folding ws := by
  match h with
  | .nil => exact Iff.rfl
  | .cons h hs =>
      exact or_congr (hasSensitive_of_sameOutside h) (hasSensitiveItems_of_sameItems hs)

lemma hasSensitiveFields_of_sameFields {fs gs : List (Key × Object)}
    (h : SameFields folding fs gs) :
    HasSensitiveFields folding fs ↔ HasSensitiveFields folding gs := by
  match h with
  | .nil => exact Iff.rfl
  | .secret hk _ _ _ => exact iff_of_true (.inl (.inl hk)) (.inl (.inl hk))
  | .cons _ h hs =>
      exact or_congr (or_congr_right (hasSensitive_of_sameOutside h))
        (hasSensitiveFields_of_sameFields hs)

end

mutual

/-- What stands under sensitive keys hides nothing, and unhides nothing. -/
theorem hidden_of_sameOutside {v w : Object} (h : SameOutside folding v w) :
    Hidden folding v ↔ Hidden folding w := by
  match h with
  | .refl _ => exact Iff.rfl
  | .enum _ h => exact hasSensitive_of_sameOutside h
  | .model _ h => exact hasSensitive_of_sameOutside h
  | .sequence _ h => exact hiddenItems_of_sameItems h
  | @SameOutside.mapping _ fs fs' gs hperm h =>
      rw [Hidden, Hidden, ← hiddenFields_of_sameFields h, hiddenFields_iff, hiddenFields_iff]
      exact exists_congr fun f => and_congr_left fun _ => hperm.mem_iff

lemma hiddenItems_of_sameItems {vs ws : List Object} (h : SameItems folding vs ws) :
    HiddenItems folding vs ↔ HiddenItems folding ws := by
  match h with
  | .nil => exact Iff.rfl
  | .cons h hs => exact or_congr (hidden_of_sameOutside h) (hiddenItems_of_sameItems hs)

lemma hiddenFields_of_sameFields {fs gs : List (Key × Object)} (h : SameFields folding fs gs) :
    HiddenFields folding fs ↔ HiddenFields folding gs := by
  match h with
  | .nil => exact Iff.rfl
  | .secret hk _ _ hs =>
      refine or_congr ?_ (hiddenFields_of_sameFields hs)
      exact iff_of_false (fun h => by simp [hk] at h) fun h => by simp [hk] at h
  | .cons _ h hs =>
      exact or_congr (and_congr_right fun _ => hidden_of_sameOutside h)
        (hiddenFields_of_sameFields hs)

end

end StockResearch.ResearchAgent
