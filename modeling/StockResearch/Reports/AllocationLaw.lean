import StockResearch.Reports.ReferenceLaw

/-!
# What an allocation of references promises

`AllocationLaw` says what holds of every allocation that returned.

**Numbering.**  The entries stand for the records that the content refers to, in the order of their
first appearance (`records_allocateEntries`), and the labels of a kind count from 1
(`labels_allocateEntries`).

**Rewriting.**  `contentLabels` reads every label off a content, in its texts and at every depth of
its payloads, and `blanked` is the content with its labels left out.  Rewriting renames the first in
place, each label once (`contentLabels_rewrite`), and keeps the second (`blanked_rewrite`),
whichever labels are exchanged for which.

**Both together.**  `allocation_renumbers`, with `Allocated.again` for the second allocation.
-/

namespace StockResearch.Reports

open PyText PyJson PyTime Checked ResearchAgent

variable {lib : ReportLibrary} {r s : Text → Text}

/-! ## Numbers -/

def labelsOfKind (entries : List ReferenceEntry) (kind : ReferenceKind) : List Text :=
  (entries.filter fun e => e.kind = kind).map (·.label)

/-- The first `n` labels of a kind. -/
def firstLabels (kind : ReferenceKind) (n : Nat) : List Text :=
  (List.range n).map fun i => labelText kind (i + 1)

/-- Numbered in the order of first appearance. -/
structure InOrder (keys : List (ReferenceKind × Uuid)) (entries : List ReferenceEntry) : Prop where
  records : entries.map (·.key) = keys.eraseDups
  labels : ∀ kind, labelsOfKind entries kind = firstLabels kind (countOf entries kind)

lemma eraseDups_concat {α : Type} [BEq α] [LawfulBEq α] (as : List α) (a : α) :
    (as ++ [a]).eraseDups = if a ∈ as then as.eraseDups else as.eraseDups ++ [a] := by
  rw [List.eraseDups_append]
  by_cases h : a ∈ as
  · simp [h, List.removeAll]
  · simp [h, List.removeAll, List.eraseDups_cons]

/-- One turn of the numbering. -/
lemma InOrder.step {keys : List (ReferenceKind × Uuid)} {entries result : List ReferenceEntry}
    {key : ReferenceKind × Uuid} (h : InOrder keys entries)
    (hturn : allocateEntry entries key = .ok result) : InOrder (keys ++ [key]) result := by
  have hmem : (entries.any fun e => e.key = key) = true ↔ key ∈ keys := by
    rw [← List.mem_eraseDups, ← h.records]
    simp [List.any_eq_true]
  unfold allocateEntry at hturn
  split at hturn
  · next hseen =>
    cases hturn
    exact ⟨by rw [eraseDups_concat, if_pos (hmem.mp hseen), h.records], h.labels⟩
  · next hnew =>
    dsimp only at hturn
    split at hturn
    · next hlabel =>
      cases hturn
      constructor
      · rw [eraseDups_concat, if_neg fun hkey => hnew (hmem.mpr hkey), ← h.records]
        simp [ReferenceEntry.key]
      · intro kind
        by_cases hkind : key.1 = kind
        · subst hkind
          have hold : labelsOfKind entries key.1 = firstLabels key.1 (countOf entries key.1) :=
            h.labels key.1
          simp only [labelsOfKind, firstLabels] at hold
          simp [labelsOfKind, firstLabels, countOf, List.filter_append, List.range_succ, hold]
        · have hold : labelsOfKind entries kind = firstLabels kind (countOf entries kind) :=
            h.labels kind
          simp only [labelsOfKind, firstLabels] at hold
          simp [labelsOfKind, firstLabels, countOf, List.filter_append, hkind, hold]
    · cases hturn

/-- **The numbering goes by first appearance.** -/
theorem inOrder_allocateEntries {keys : List (ReferenceKind × Uuid)}
    {entries : List ReferenceEntry} (h : allocateEntries keys = .ok entries) :
    InOrder keys entries := by
  have hstart : InOrder [] [] := ⟨rfl, fun kind => rfl⟩
  exact foldlM_start (P := InOrder) (fun done key s s' hs hturn => hs.step hturn) hstart h

/-! ## Labels of values and contents -/

def wholeLabel (t : Text) : List Text := if isLabel t = true then [t] else []

def labelMember (field : String × Value) : List Text :=
  if field.1 = "label" then
    match field.2 with
    | .str t => wholeLabel t.toList
    | _ => []
  else []

mutual

/-- The labels of a value, at every depth: those in the brackets of a text, and the labels of
objects. -/
def valueLabels : Value → List Text
  | .str t => labelsInText t.toList
  | .arr items => itemLabels items
  | .obj fields => fieldLabels fields
  | _ => []

def itemLabels : List Value → List Text
  | [] => []
  | v :: vs => valueLabels v ++ itemLabels vs

def fieldLabels : List (String × Value) → List Text
  | [] => []
  | (k, v) :: fs => valueLabels v ++ labelMember (k, v) ++ fieldLabels fs

end

/-- The labels of a payload: its own members are no labels of objects. -/
def payloadLabels (payload : Payload) : List Text := payload.flatMap fun f => valueLabels f.2

/-- The labels of a content, in its texts and in its payloads. -/
def contentLabels (content : ContentFields) : List Text :=
  content.blocks.flatMap fun b => labelsInText (b.text.getD []) ++ payloadLabels b.payload

/-- A label is left out. -/
def blank (l : Text) : Text := if isLabel l = true then [] else l

/-- A content without its labels. -/
def blanked (content : ContentFields) : ContentFields := rewriteContent blank content

/-! ## Renamings of labels -/

/-- A renaming of labels: no other text is renamed. -/
structure OnLabels (r : Text → Text) : Prop where
  label : ∀ l, isLabel l = true → isLabel (r l) = true
  other : ∀ l, isLabel l = false → r l = l

lemma isLabel_of_bracket {t : Text} (h : '[' ∈ t) : isLabel t = false := by
  by_contra hlabel
  exact (isLabel_plain t (by simpa using hlabel)).1 h

lemma rename_plain {t : Text} (h : '[' ∉ t) : replaceReferenceText r t = t :=
  Bracketed.rename_of_not_mem h

/-- A text with a bracket is no label, before and after. -/
lemma rename_open (hr : ∀ l, isLabel l = false → r l = l) {t : Text} (h : '[' ∈ t) :
    r (replaceReferenceText s t) = replaceReferenceText s t :=
  hr _ (isLabel_of_bracket (Bracketed.mem_rename h))

namespace OnLabels

variable (hr : OnLabels r)
include hr

lemma isLabel_eq (l : Text) : isLabel (r l) = isLabel l := by
  cases h : isLabel l with
  | true => exact hr.label l h
  | false => rw [hr.other l h, h]

lemma wholeLabel_rename (t : Text) : wholeLabel (r t) = (wholeLabel t).map r := by
  unfold wholeLabel
  rw [hr.isLabel_eq]
  split <;> rfl

lemma blank_comp (l : Text) : blank (r l) = blank l := by
  unfold blank
  rw [hr.isLabel_eq]
  cases h : isLabel l with
  | true => rfl
  | false => simp [hr.other l h]

lemma rename_text (t : Text) :
    replaceReferenceText s (replaceReferenceText r t) =
      replaceReferenceText (fun l => s (r l)) t :=
  Bracketed.rename_rename isLabel_plain hr.label

/-- A text with a bracket is no label, and one without stays without. -/
lemma plain {t : Text} (h : '[' ∉ t) : '[' ∉ r t := by
  cases hlabel : isLabel t with
  | true => exact (isLabel_plain _ (hr.label t hlabel)).1
  | false => rwa [hr.other t hlabel]

end OnLabels

/-! ## Rewritten values -/

lemma relabel_of_ne {k : String} (h : k ≠ "label") (v : Value) : relabel r (k, v) = (k, v) :=
  if_neg h

lemma relabel_of_not_text {v : Value} (h : ∀ t, v ≠ .str t) (k : String) :
    relabel r (k, v) = (k, v) := by
  unfold relabel
  cases v with
  | str t => exact absurd rfl (h t)
  | null => simp
  | bool b => simp
  | int n => simp
  | real literal => simp
  | arr items => simp
  | obj fields => simp

lemma rewriteJson_not_text {v : Value} (h : ∀ t, v ≠ .str t) (t : String) :
    rewriteJson r v ≠ .str t := by
  cases v with
  | str t => exact absurd rfl (h t)
  | null => simp [rewriteJson]
  | bool b => simp [rewriteJson]
  | int n => simp [rewriteJson]
  | real literal => simp [rewriteJson]
  | arr items => simp [rewriteJson]
  | obj fields => simp [rewriteJson]

def rewriteMember (r : Text → Text) (field : String × Value) : String × Value :=
  relabel r (field.1, rewriteJson r field.2)

lemma rewriteJson_obj (fields : List (String × Value)) :
    rewriteJson r (.obj fields) = .obj (fields.map (rewriteMember r)) := by
  rw [rewriteJson, rewriteFields_eq_map, List.map_map]
  rfl

/-- What becomes of a label of an object. -/
lemma rewriteMember_label (t : String) : rewriteMember r ("label", .str t) =
    ("label", .str (String.ofList (r (replaceReferenceText r t.toList)))) := by
  simp [rewriteMember, rewriteJson, relabel, replaceReferenceString]

lemma rewriteMember_comp (hr : OnLabels r) {field : String × Value}
    (ih : rewriteJson s (rewriteJson r field.2) = rewriteJson (fun l => s (r l)) field.2) :
    rewriteMember s (rewriteMember r field) = rewriteMember (fun l => s (r l)) field := by
  obtain ⟨k, v⟩ := field
  by_cases htext : ∃ t, v = .str t
  · obtain ⟨t, rfl⟩ := htext
    by_cases hk : k = "label"
    · subst hk
      rw [rewriteMember_label, rewriteMember_label, rewriteMember_label, String.toList_ofList]
      by_cases hopen : '[' ∈ t.toList
      · rw [rename_open hr.other hopen, hr.rename_text, rename_open hr.other hopen]
      · rw [rename_plain hopen, rename_plain hopen, rename_plain (hr.plain hopen)]
    · rw [rewriteMember, rewriteMember, rewriteMember, relabel_of_ne hk, relabel_of_ne hk,
        relabel_of_ne hk, ih]
  · push Not at htext
    rw [rewriteMember, rewriteMember, rewriteMember,
      relabel_of_not_text (rewriteJson_not_text htext), relabel_of_not_text (rewriteJson_not_text htext), ih,
      relabel_of_not_text (rewriteJson_not_text htext)]

mutual

/-- Two renamings of a value, one after the other. -/
lemma rewriteJson_comp (hr : OnLabels r) (v : Value) :
    rewriteJson s (rewriteJson r v) = rewriteJson (fun l => s (r l)) v := by
  match v with
  | .null => rfl
  | .bool _ => rfl
  | .int _ => rfl
  | .real _ => rfl
  | .str t =>
      simp only [rewriteJson, replaceReferenceString, String.toList_ofList, hr.rename_text]
  | .arr items =>
      rw [rewriteJson, rewriteJson, rewriteJson, rewriteItems_comp hr items]
  | .obj fields =>
      rw [rewriteJson_obj, rewriteJson_obj, rewriteJson_obj, rewriteMembers_comp hr fields]

lemma rewriteItems_comp (hr : OnLabels r) (items : List Value) :
    rewriteItems s (rewriteItems r items) = rewriteItems (fun l => s (r l)) items := by
  match items with
  | [] => rfl
  | v :: vs =>
      rw [rewriteItems, rewriteItems, rewriteItems, rewriteJson_comp hr v, rewriteItems_comp hr vs]

lemma rewriteMembers_comp (hr : OnLabels r) (fields : List (String × Value)) :
    (fields.map (rewriteMember r)).map (rewriteMember s) =
      fields.map (rewriteMember fun l => s (r l)) := by
  match fields with
  | [] => rfl
  | (k, v) :: fs =>
      rw [List.map_cons, List.map_cons, List.map_cons, rewriteMembers_comp hr fs,
        rewriteMember_comp hr (rewriteJson_comp hr v)]

end

lemma labelsInText_rename (hr : OnLabels r) (t : Text) :
    labelsInText (replaceReferenceText r t) = (labelsInText t).map r :=
  Bracketed.labels_rename isLabel_plain hr.label

lemma memberLabels_rewrite (hr : OnLabels r) (field : String × Value)
    (ih : valueLabels (rewriteJson r field.2) = (valueLabels field.2).map r) :
    valueLabels (rewriteMember r field).2 ++ labelMember (rewriteMember r field) =
      (valueLabels field.2 ++ labelMember field).map r := by
  obtain ⟨k, v⟩ := field
  by_cases htext : ∃ t, v = .str t
  · obtain ⟨t, rfl⟩ := htext
    by_cases hk : k = "label"
    · subst hk
      rw [rewriteMember_label, List.map_append]
      simp only [valueLabels, labelMember, String.toList_ofList, if_true]
      by_cases hopen : '[' ∈ t.toList
      · have hwhole : ∀ {u : Text}, '[' ∈ u → wholeLabel u = [] := by
          intro u hu
          rw [wholeLabel, isLabel_of_bracket hu]
          rfl
        rw [rename_open hr.other hopen, labelsInText_rename hr, hwhole hopen,
          hwhole (u := replaceReferenceText r t.toList) (Bracketed.mem_rename hopen), List.map_nil]
      · have hnone : ∀ {u : Text}, '[' ∉ u → labelsInText u = [] :=
          fun hu => Bracketed.labels_of_not_mem hu
        rw [rename_plain hopen, hnone hopen, hnone (hr.plain hopen), hr.wholeLabel_rename,
          List.map_nil]
    · rw [rewriteMember, relabel_of_ne hk, ih]
      simp [labelMember, hk]
  · push Not at htext
    have hnone : ∀ {w : Value}, (∀ t, w ≠ .str t) → labelMember (k, w) = [] := by
      intro w hw
      unfold labelMember
      cases w with
      | str t => exact absurd rfl (hw t)
      | null => simp
      | bool b => simp
      | int n => simp
      | real literal => simp
      | arr items => simp
      | obj fields => simp
    rw [rewriteMember, relabel_of_not_text (rewriteJson_not_text htext), ih,
      hnone (rewriteJson_not_text htext), hnone htext, List.append_nil, List.append_nil]

mutual

/-- **Renaming the labels of a value renames the list of its labels**, at every depth. -/
theorem valueLabels_rewrite (hr : OnLabels r) (v : Value) :
    valueLabels (rewriteJson r v) = (valueLabels v).map r := by
  match v with
  | .null => rfl
  | .bool _ => rfl
  | .int _ => rfl
  | .real _ => rfl
  | .str t =>
      rw [rewriteJson, valueLabels, valueLabels, replaceReferenceString, String.toList_ofList,
        labelsInText_rename hr]
  | .arr items => rw [rewriteJson, valueLabels, valueLabels, itemLabels_rewrite hr items]
  | .obj fields => rw [rewriteJson_obj, valueLabels, valueLabels, fieldLabels_rewrite hr fields]

lemma itemLabels_rewrite (hr : OnLabels r) (items : List Value) :
    itemLabels (rewriteItems r items) = (itemLabels items).map r := by
  match items with
  | [] => rfl
  | v :: vs =>
      rw [rewriteItems, itemLabels, itemLabels, valueLabels_rewrite hr v, itemLabels_rewrite hr vs,
        List.map_append]

lemma fieldLabels_rewrite (hr : OnLabels r) (fields : List (String × Value)) :
    fieldLabels (fields.map (rewriteMember r)) = (fieldLabels fields).map r := by
  match fields with
  | [] => rfl
  | (k, v) :: fs =>
      have hmember := memberLabels_rewrite hr (k, v) (valueLabels_rewrite hr v)
      rw [List.map_cons, fieldLabels, fieldLabels_rewrite hr fs, hmember, fieldLabels,
        ← List.map_append]

end

/-! ## Rewritten contents -/

lemma rewriteBlock_comp (hr : OnLabels r) (b : BlockFields) :
    rewriteBlock s (rewriteBlock r b) = rewriteBlock (fun l => s (r l)) b := by
  have htext : (b.text.map (replaceReferenceText r)).map (replaceReferenceText s) =
      b.text.map (replaceReferenceText fun l => s (r l)) := by
    rw [Option.map_map]
    exact congrArg (Option.map · b.text) (funext fun t => hr.rename_text t)
  have hpayload : rewriteFields s (rewriteFields r b.payload) =
      rewriteFields (fun l => s (r l)) b.payload := by
    simp only [rewriteFields_eq_map, List.map_map]
    exact List.map_congr_left fun f _ => by rw [Function.comp_apply, rewriteJson_comp hr]
  rw [rewriteBlock, rewriteBlock, htext, hpayload, rewriteBlock]

lemma rewriteContent_comp (hr : OnLabels r) (content : ContentFields) :
    rewriteContent s (rewriteContent r content) = rewriteContent (fun l => s (r l)) content := by
  have hsection : ∀ sec, rewriteSection s (rewriteSection r sec) =
      rewriteSection (fun l => s (r l)) sec := by
    intro sec
    simp only [rewriteSection, List.map_map, Function.comp_def, rewriteBlock_comp hr]
  simp only [rewriteContent, List.map_map, Function.comp_def, hsection]

/-- **Renaming the labels of a content renames the list of its labels**: each label once, whatever
the others become. -/
theorem contentLabels_rewrite (hr : OnLabels r) (content : ContentFields) :
    contentLabels (rewriteContent r content) = (contentLabels content).map r := by
  unfold contentLabels
  rw [blocks_rewriteContent, List.flatMap_map, List.map_flatMap]
  refine List.flatMap_congr fun b _ => ?_
  have htext : labelsInText ((rewriteBlock r b).text.getD []) =
      (labelsInText (b.text.getD [])).map r := by
    cases hb : b.text with
    | none => simp [rewriteBlock, hb, labelsInText, Bracketed.labels]
    | some t =>
        rw [rewriteBlock, hb, Option.map_some, Option.getD_some, Option.getD_some]
        exact labelsInText_rename hr t
  have hpayload : payloadLabels (rewriteBlock r b).payload = (payloadLabels b.payload).map r := by
    rw [rewriteBlock, rewriteFields_eq_map, payloadLabels, payloadLabels, List.flatMap_map,
      List.map_flatMap]
    exact List.flatMap_congr fun f _ => valueLabels_rewrite hr f.2
  rw [htext, hpayload, List.map_append]

/-- **A renaming of labels changes nothing else.** -/
theorem blanked_rewrite (hr : OnLabels r) (content : ContentFields) :
    blanked (rewriteContent r content) = blanked content := by
  rw [blanked, rewriteContent_comp hr, blanked]
  exact congrArg (rewriteContent · content) (funext fun l => hr.blank_comp l)

/-! ## Allocations -/

/-- What an allocation makes of a content with the given targets. -/
structure Renumbered (content : ContentFields) (targets : List ReferenceTarget)
    (r : Text → Text) (a : ReferenceAllocation) : Prop where
  /-- One entry for each record, in the order of first appearance. -/
  records : a.references.map (·.key) = (targets.map (·.key)).eraseDups
  /-- No label twice. -/
  distinct : (a.references.map (·.label)).Nodup
  /-- The labels of a kind count from 1. -/
  counted : ∀ kind, labelsOfKind a.references kind =
    firstLabels kind (countOf a.references kind)
  /-- The label of a target becomes the label of its record's entry. -/
  renames : ∀ t ∈ targets, labelOf a.references t.key = some (r t.label)
  /-- No other text is renamed. -/
  keeps : ∀ l, l ∉ targets.map (·.label) → r l = l
  /-- Every label of the content is renamed once, in its place. -/
  labels : contentLabels a.content.fields = (contentLabels content).map r
  /-- Nothing else is changed. -/
  rest : blanked a.content.fields = blanked content
  /-- The new content shows the labels of the entries. -/
  shown : ∀ l, l ∈ bodyLabels a.content.fields ↔ l ∈ a.references.map (·.label)

namespace Allocated

variable {content : ContentFields} {targets : List ReferenceTarget} {a : ReferenceAllocation}

lemma onLabels (targets : List ReferenceTarget) (entries : List ReferenceEntry) :
    OnLabels (renamed (replacements targets entries)) where
  label _ hl := isLabel_renamed hl
  other l hl := by
    unfold renamed
    cases hlookup : (replacements targets entries).lookup l with
    | none => rfl
    | some new =>
        obtain ⟨t, -, rfl, -⟩ := mem_replacements.mp (Dict.mem_of_lookup hlookup)
        rw [isLabel_iff.mpr ⟨_, t.label_ok⟩] at hl
        cases hl

lemma renamed_other {l : Text} (hl : l ∉ targets.map (·.label)) :
    renamed (replacements targets a.references) l = l := by
  unfold renamed
  cases hlookup : (replacements targets a.references).lookup l with
  | none => rfl
  | some new =>
      obtain ⟨t, ht, rfl, -⟩ := mem_replacements.mp (Dict.mem_of_lookup hlookup)
      exact absurd (List.mem_map_of_mem ht) hl

/-- The labels that the new content shows are those of the entries. -/
lemma shown (h : Allocated lib content targets a) (l : Text) :
    l ∈ bodyLabels a.content.fields ↔ l ∈ a.references.map (·.label) := by
  rw [h.content, bodyLabels_rewrite (fun l hl => isLabel_renamed hl) content]
  constructor
  · intro hl
    obtain ⟨old, hold, rfl⟩ := List.mem_map.mp hl
    obtain ⟨t, ht, rfl⟩ := List.mem_map.mp (h.graph.bound hold)
    obtain ⟨e, he, -, hlabel⟩ := (labelOf_eq_some h.numbered).mp
      (renamed_target h.graph.bijective h.numbered ht)
    rw [← hlabel]
    exact List.mem_map_of_mem he
  · intro hl
    obtain ⟨e, he, rfl⟩ := List.mem_map.mp hl
    obtain ⟨t, ht, hkey⟩ :=
      List.mem_map.mp ((h.numbered.covered e.key).mp (List.mem_map_of_mem he))
    have hlabel := renamed_target h.graph.bijective h.numbered ht
    rw [hkey, (labelOf_eq_some h.numbered).mpr ⟨e, he, rfl, rfl⟩] at hlabel
    rw [Option.some.inj hlabel]
    exact List.mem_map_of_mem (h.graph.used (List.mem_map_of_mem ht))

lemma renumbered (h : Allocated lib content targets a) :
    Renumbered content targets (renamed (replacements targets a.references)) a where
  records := (inOrder_allocateEntries h.entries).records
  distinct := h.numbered.labels
  counted := (inOrder_allocateEntries h.entries).labels
  renames _ ht := renamed_target h.graph.bijective h.numbered ht
  keeps _ hl := renamed_other hl
  labels := by rw [h.content, contentLabels_rewrite (onLabels targets a.references)]
  rest := by rw [h.content, blanked_rewrite (onLabels targets a.references)]
  shown := h.shown

end Allocated

/-- **An allocation numbers the records by first appearance, renames every label once and changes
nothing else, and a second allocation changes nothing.** -/
theorem allocation_renumbers (lib : ReportLibrary) (content : ContentFields)
    (a : ReferenceAllocation) (h : allocate lib content = .ok a) :
    (∃ targets r, collectTargets lib content = .ok targets ∧ Renumbered content targets r a) ∧
      allocate lib a.content.fields = .ok a := by
  obtain ⟨targets, ha⟩ := allocate_ok.mp h
  obtain ⟨targets', hagain⟩ := ha.again
  exact ⟨⟨targets, _, ha.collected, ha.renumbered⟩, allocate_ok.mpr ⟨targets', hagain⟩⟩

/-- Two pieces of evidence whose labels are exchanged. -/
def exchangedTargets : Value :=
  .arr [
    .obj [("kind", .str "EVIDENCE"), ("record_id", .str (Uuid.str 1)), ("label", .str "EV-002")],
    .obj [("kind", .str "EVIDENCE"), ("record_id", .str (Uuid.str 2)), ("label", .str "EV-001")]]

def exchangedContent : ContentFields where
  schemaVersion := "research-report-v1".toList
  locale := .enUS
  sections := [{
    reportSection := .documentEvidence
    sectionIndex := 0
    title := "Evidence".toList
    status := .complete
    blocks := [{
      blockKey := "evidence".toList
      blockIndex := 0
      blockType := .paragraph
      status := .complete
      text := some "[EV-002] and [EV-001]".toList
      payload := [("reference_targets", exchangedTargets)] }] }]

/-- The two labels are exchanged back. -/
theorem exchange_renumbered : ∃ a, allocate asciiLibrary exchangedContent = .ok a ∧
    a.content.fields.blocks.map (·.text) = [some "[EV-001] and [EV-002]".toList] ∧
    ∃ targets r, Renumbered exchangedContent targets r a := by
  obtain ⟨a, ha⟩ : ∃ a, allocate asciiLibrary exchangedContent = .ok a :=
    Checked.exists_of_isOk (by decide +kernel)
  obtain ⟨⟨targets, r, -, hrenumbered⟩, -⟩ :=
    allocation_renumbers asciiLibrary exchangedContent a ha
  have htext : (allocate asciiLibrary exchangedContent).map
      (fun a => a.content.fields.blocks.map (·.text)) =
        .ok [some "[EV-001] and [EV-002]".toList] := by
    decide +kernel
  rw [ha] at htext
  exact ⟨a, ha, Except.ok.inj htext, targets, r, hrenumbered⟩

end StockResearch.Reports
