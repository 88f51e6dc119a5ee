import StockResearch.Reports.ReferenceLaw
import StockResearch.Reports.Revision

/-!
# What becomes of the findings of a revision

**Handlers.**  `handler_refuses_iff` says when a handler refuses: its finding names no block of the
content, or a block to be qualified has no text.  `mem_keys_of_handler`: only a disclosure brings a
block key in, and a deletion takes one out.

**Runs.**  A run of the loop is a chain of turns, one for each finding (`chain_of_loop`).  A block
that was deleted stays away until a disclosure is added under its key (`unresolved_after_deletion`).

**Both together.**  `revise_partition`.
-/

namespace StockResearch.Reports

open PyText PyJson PyTime Checked ResearchAgent

variable {lib : ReportLibrary} {policy : ReportPolicyRecord} {content content' : ContentFields}
  {finding : ReportReflectionFindingRecord} {key : Text} {b : BlockFields}

/-! ## Block keys -/

def ContentFields.keys (content : ContentFields) : List Text := content.blocks.map (·.blockKey)

lemma containsBlock_iff : containsBlock content key = true ↔ key ∈ content.keys := by
  simp [containsBlock, ContentFields.keys]

lemma presentKey_ok {blockKey : Option Text} : presentKey content blockKey = .ok key ↔
    blockKey = some key ∧ key ∈ content.keys := by
  cases blockKey with
  | none => simp [presentKey]
  | some k =>
      rw [presentKey]
      split
      · next h =>
        rw [containsBlock_iff] at h
        constructor
        · rintro ⟨⟩
          exact ⟨rfl, h⟩
        · rintro ⟨⟨⟩, -⟩
          rfl
      · next h =>
        rw [containsBlock_iff] at h
        constructor
        · rintro ⟨⟩
        · rintro ⟨⟨⟩, hmem⟩
          exact absurd hmem h

lemma blocks_without (content : ContentFields) (key : Text) :
    (content.without key).blocks = content.blocks.filter fun b => b.blockKey != key := by
  simp [ContentFields.blocks, ContentFields.without, List.flatMap_map, List.filter_flatMap]

lemma keys_without (content : ContentFields) (key : Text) :
    (content.without key).keys = content.keys.filter (· != key) := by
  rw [ContentFields.keys, blocks_without, ContentFields.keys, List.filter_map]
  rfl

/-- A transformation of blocks that keeps their keys keeps the keys of the content. -/
lemma keys_transformBlock {blockKey : Option Text}
    {transform : BlockFields → Except RevisionFailure BlockFields}
    (htransform : ∀ b b', transform b = .ok b' → b'.blockKey = b.blockKey)
    (h : transformBlock content blockKey transform = .ok content') :
    content'.keys = content.keys := by
  obtain ⟨key, -, h⟩ := bind_ok.mp h
  obtain ⟨sections, hsections, h⟩ := bind_ok.mp h
  cases h
  have hblock : ∀ b b', transformIf key transform b = .ok b' → b.blockKey = b'.blockKey := by
    intro b b' hb
    unfold transformIf at hb
    split at hb
    · exact (htransform b b' hb).symm
    · cases hb
      rfl
  have hsection : ∀ s s', transformSection key transform s = .ok s' →
      s.blocks.map (·.blockKey) = s'.blocks.map (·.blockKey) := by
    intro s s' hs
    obtain ⟨blocks, hblocks, rfl⟩ := map_ok.mp hs
    exact map_eq_of_forall₂ (forall₂_mapM hblock hblocks) fun b b' hb => hb
  have hkeys := map_eq_of_forall₂ (forall₂_mapM hsection hsections) fun s s' hs => hs
  simp only [ContentFields.keys, ContentFields.blocks, List.flatMap, List.map_flatten,
    List.map_map, Function.comp_def]
  rw [hkeys]

lemma mem_modify {α : Type} {f : α → α} {l : List α} {i : Nat} {a : α} (h : a ∈ l.modify i f) :
    a ∈ l ∨ ∃ a' ∈ l, a = f a' := by
  obtain ⟨j, hj⟩ := List.mem_iff_getElem?.mp h
  rw [List.getElem?_modify, Option.map_eq_map, Option.map_eq_some_iff] at hj
  obtain ⟨a', ha', rfl⟩ := hj
  have hmem := List.mem_of_getElem? ha'
  split
  · exact .inr ⟨a', hmem, rfl⟩
  · exact .inl hmem

lemma mem_keys_of_appendBlock {target : ReportSection} {status : ReportSectionStatus}
    (h : appendBlock content target status b = .ok content') (hkey : key ∈ content'.keys) :
    key ∈ content.keys ∨ key = b.blockKey := by
  unfold appendBlock at h
  obtain ⟨b', hb', rfl⟩ := List.mem_map.mp hkey
  obtain ⟨s, hs, hmem⟩ := List.mem_flatMap.mp hb'
  have hold : ∀ s ∈ content.sections, ∀ b' ∈ s.blocks, b'.blockKey ∈ content.keys :=
    fun s hs b' hb' => List.mem_map_of_mem (List.mem_flatMap.mpr ⟨s, hs, hb'⟩)
  split at h
  · next index hindex =>
    cases h
    rcases mem_modify hs with hs | ⟨s', hs', rfl⟩
    · exact .inl (hold s hs b' hmem)
    · rcases List.mem_append.mp hmem with hmem | hmem
      · exact .inl (hold s' hs' b' hmem)
      · exact .inr (by rw [List.mem_singleton.mp hmem])
  · obtain ⟨created, hcreated, h⟩ := bind_ok.mp h
    cases h
    obtain ⟨-, hcreated⟩ := check_bind_ok.mp hcreated
    cases hcreated
    rcases List.mem_append.mp hs with hs | hs
    · exact .inl (hold s hs b' hmem)
    · rw [List.mem_singleton.mp hs, List.mem_singleton] at hmem
      exact .inr (by rw [hmem])

/-- A moved block was there before. -/
lemma mem_keys_of_moveBlock {blockKey : Option Text} {target : ReportSection}
    (h : moveBlock content blockKey target = .ok content') (hkey : key ∈ content'.keys) :
    key ∈ content.keys := by
  cases blockKey with
  | none => cases h
  | some k =>
      rw [moveBlock] at h
      split at h
      · cases h
      · next selected hselected =>
        have hmem : selected ∈ content.blocks :=
          List.mem_of_mem_filter (List.mem_of_getLast? hselected)
        rcases mem_keys_of_appendBlock h hkey with hkey | rfl
        · rw [keys_without] at hkey
          exact List.mem_of_mem_filter hkey
        · exact List.mem_map_of_mem hmem

lemma keys_canonicalize (h : canonicalize content = .ok content') : content'.keys = content.keys := by
  obtain ⟨sections, hsections, h⟩ := bind_ok.mp h
  obtain ⟨-, h⟩ := check_bind_ok.mp h
  cases h
  have hsection : ∀ (s : SectionFields × Nat) s', canonicalSection s = .ok s' →
      s.1.blocks.map (·.blockKey) = s'.blocks.map (·.blockKey) := by
    intro s s' hs
    obtain ⟨-, hs⟩ := check_bind_ok.mp hs
    cases hs
    rw [List.map_map]
    conv_lhs => rw [← List.zipIdx_map_fst 0 s.1.blocks, List.map_map]
    rfl
  have hkeys := map_eq_of_forall₂ (forall₂_mapM hsection hsections) fun s s' hs => hs
  have hfirst : content.sections.zipIdx.map (fun s => s.1.blocks.map (·.blockKey)) =
      content.sections.map fun s => s.blocks.map (·.blockKey) := by
    conv_rhs => rw [← List.zipIdx_map_fst 0 content.sections, List.map_map]
    rfl
  simp only [ContentFields.keys, ContentFields.blocks, List.flatMap, List.map_flatten,
    List.map_map, Function.comp_def]
  rw [← hkeys, hfirst]

lemma keys_renumberHandler (h : renumberHandler lib content finding policy = .ok content') :
    content'.keys = content.keys := by
  obtain ⟨allocation, hallocation, rfl⟩ := map_ok.mp h
  cases hallocate : allocate lib content with
  | error e =>
      rw [hallocate] at hallocation
      cases hallocation
  | ok a =>
      rw [hallocate] at hallocation
      cases hallocation
      obtain ⟨targets, ha⟩ := allocate_ok.mp hallocate
      rw [ha.content, ContentFields.keys, blocks_rewriteContent, List.map_map]
      rfl

/-! ## Refusals -/

/-- An exception that the loop catches. -/
def Caught : RevisionFailure → Prop
  | .revision _ => True
  | .other _ => False

/-- The computation raises nothing that the loop catches. -/
abbrev Uncaught {α : Type} (x : Except RevisionFailure α) : Prop := Raises (¬ Caught ·) x

lemma uncaught_orOther {α : Type} (x : Except String α) : Uncaught (orOther x) := by
  intro e h
  cases x with
  | ok a => cases h
  | error text =>
      cases h
      exact id

lemma uncaught_constructSection (s : SectionFields) : Uncaught (constructSection s) :=
  raises_bind (raises_check id) fun _ => raises_ok s

lemma uncaught_appendBlock (content : ContentFields) (target : ReportSection)
    (status : ReportSectionStatus) (b : BlockFields) :
    Uncaught (appendBlock content target status b) := by
  unfold appendBlock
  split
  · exact raises_ok _
  · exact raises_bind (uncaught_constructSection _) fun _ => raises_ok _

lemma uncaught_appendDisclosure {sectionKey : ReportSection} {blockType : ReportBlockType}
    {blockStatus : ReportBlockStatus} :
    Uncaught (appendDisclosure lib content finding sectionKey blockType blockStatus) :=
  raises_bind (uncaught_orOther _) fun _ => uncaught_appendBlock _ _ _ _

lemma uncaught_canonicalize (content : ContentFields) : Uncaught (canonicalize content) :=
  raises_bind (raises_mapM fun _ => uncaught_constructSection _) fun _ =>
    raises_bind (raises_check id) fun _ => raises_ok _

/-- The computation is refused: it raises what the loop catches. -/
def Refuses {α : Type} (x : Except RevisionFailure α) : Prop := ∃ code, x = .error (.revision code)

lemma not_refuses_of_uncaught {α : Type} {x : Except RevisionFailure α} (h : Uncaught x) :
    ¬ Refuses x := by
  rintro ⟨code, hcode⟩
  exact h _ hcode trivial

/-- Where every error is caught, a computation is refused exactly when it does not return. -/
lemma refuses_iff_of_caught {α : Type} {x : Except RevisionFailure α} (h : Raises Caught x) :
    Refuses x ↔ ¬ ∃ a, x = .ok a := by
  cases x with
  | ok a =>
      refine ⟨?_, fun hno => absurd ⟨a, rfl⟩ hno⟩
      rintro ⟨code, hcode⟩
      cases hcode
  | error e =>
      refine ⟨fun _ => by simp, fun _ => ?_⟩
      cases e with
      | revision code => exact ⟨code, rfl⟩
      | other text => exact absurd (h _ rfl) id

lemma caught_presentKey (blockKey : Option Text) : Raises Caught (presentKey content blockKey) := by
  cases blockKey with
  | none => exact raises_error trivial
  | some key => exact raises_ite (fun _ => raises_ok key) fun _ => raises_error trivial

/-- The finding names a block of the content. -/
def Names (content : ContentFields) (blockKey : Option Text) : Prop :=
  ∃ key, blockKey = some key ∧ key ∈ content.keys

lemma exists_presentKey {blockKey : Option Text} :
    (∃ key, presentKey content blockKey = .ok key) ↔ Names content blockKey := by
  simp only [presentKey_ok, Names]

lemma refuses_deleteBlock {blockKey : Option Text} :
    Refuses (deleteBlock content blockKey) ↔ ¬ Names content blockKey := by
  have hcaught : Raises Caught (deleteBlock content blockKey) :=
    raises_bind (caught_presentKey blockKey) fun _ => raises_ok _
  rw [refuses_iff_of_caught hcaught, ← exists_presentKey, not_iff_not]
  simp only [deleteBlock, bind_ok]
  constructor
  · rintro ⟨_, key, hkey, -⟩
    exact ⟨key, hkey⟩
  · rintro ⟨key, hkey⟩
    exact ⟨_, key, hkey, rfl⟩

/-- A transformation of the block is refused when there is no such block, or one of them cannot be
transformed. -/
lemma refuses_transformBlock {blockKey : Option Text}
    {transform : BlockFields → Except RevisionFailure BlockFields}
    (htransform : ∀ b, Raises Caught (transform b)) :
    Refuses (transformBlock content blockKey transform) ↔ ¬ Names content blockKey ∨
      ∃ b ∈ content.blocks, some b.blockKey = blockKey ∧ ¬ ∃ b', transform b = .ok b' := by
  have hblock : ∀ key b, Raises Caught (transformIf key transform b) := by
    intro key b
    unfold transformIf
    exact raises_ite (fun _ => htransform b) fun _ => raises_ok b
  have hcaught : Raises Caught (transformBlock content blockKey transform) :=
    raises_bind (caught_presentKey blockKey) fun key =>
      raises_bind (raises_mapM fun s => raises_map (raises_mapM (hblock key))) fun _ => raises_ok _
  have hif : ∀ key b, (∃ b', transformIf key transform b = .ok b') ↔
      (b.blockKey = key → ∃ b', transform b = .ok b') := by
    intro key b
    unfold transformIf
    split
    · next h => simp [h]
    · next h => simp [h]
  have hsections : ∀ key, (∃ sections,
      content.sections.mapM (transformSection key transform) = .ok sections) ↔
        ∀ b ∈ content.blocks, b.blockKey = key → ∃ b', transform b = .ok b' := by
    intro key
    rw [exists_mapM_ok]
    simp only [transformSection, exists_map_ok, exists_mapM_ok, hif, ContentFields.blocks,
      List.mem_flatMap]
    constructor
    · rintro h b ⟨s, hs, hb⟩
      exact h s hs b hb
    · exact fun h s hs b hb => h b ⟨s, hs, hb⟩
  rw [refuses_iff_of_caught hcaught]
  constructor
  · intro hno
    by_cases hnames : Names content blockKey
    · right
      obtain ⟨key, hkey⟩ := exists_presentKey.mpr hnames
      obtain ⟨rfl, -⟩ := presentKey_ok.mp hkey
      by_contra hall
      push Not at hall
      obtain ⟨sections, hall⟩ := (hsections key).mpr fun b hb hbkey =>
        hall b hb (by rw [hbkey])
      exact hno ⟨_, bind_ok.mpr ⟨key, hkey, bind_ok.mpr ⟨sections, hall, rfl⟩⟩⟩
    · exact .inl hnames
  · rintro hor ⟨content', hok⟩
    obtain ⟨key, hkey, hok⟩ := bind_ok.mp hok
    obtain ⟨sections, hall, -⟩ := bind_ok.mp hok
    rcases hor with hnames | ⟨b, hb, hbkey, hno⟩
    · exact hnames (exists_presentKey.mp ⟨key, hkey⟩)
    · obtain ⟨rfl, -⟩ := presentKey_ok.mp hkey
      exact hno ((hsections key).mp ⟨sections, hall⟩ b hb (Option.some.inj hbkey))

lemma refuses_moveBlock {blockKey : Option Text} {target : ReportSection} :
    Refuses (moveBlock content blockKey target) ↔ ¬ Names content blockKey := by
  have hfilter : ∀ key, (content.blocks.filter fun b => b.blockKey == key).getLast? = none ↔
      key ∉ content.keys := by
    intro key
    rw [List.getLast?_eq_none_iff, List.filter_eq_nil_iff]
    simp [ContentFields.keys]
  cases blockKey with
  | none => exact ⟨fun _ => by simp [Names], fun _ => ⟨_, rfl⟩⟩
  | some key =>
      rw [moveBlock]
      split
      · next hnone =>
        refine ⟨fun _ => ?_, fun _ => ⟨_, rfl⟩⟩
        rintro ⟨k, ⟨⟩, hk⟩
        exact (hfilter key).mp hnone hk
      · next selected hselected =>
        refine ⟨fun h => absurd h (not_refuses_of_uncaught (uncaught_appendBlock _ _ _ _)), ?_⟩
        intro hno
        have hmem : key ∉ content.keys := fun hk => hno ⟨key, rfl, hk⟩
        rw [(hfilter key).mpr hmem] at hselected
        cases hselected

/-! ## Actions -/

def ReportRevisionActionCode.needsBlock : ReportRevisionActionCode → Bool
  | .addDataQualityFromExistingState | .addLimitationsFromExistingState
  | .renumberExistingReferences | .fixDeterministicFormat => false
  | _ => true

def ReportRevisionActionCode.deletes : ReportRevisionActionCode → Bool
  | .deleteUnboundFactBlock | .deleteUnsupportedFactBlock | .removeInvalidCitationBlock
  | .removeForbiddenAdviceText => true
  | _ => false

def ReportRevisionActionCode.discloses : ReportRevisionActionCode → Bool
  | .addDataQualityFromExistingState | .addLimitationsFromExistingState => true
  | _ => false

/-- What keeps a remediation from taking effect: the block that it works on is not there, or has no
text to qualify. -/
def Ineffective (content : ContentFields) (finding : ReportReflectionFindingRecord)
    (code : ReportRevisionActionCode) : Prop :=
  code.needsBlock = true ∧ (¬ Names content finding.blockKey ∨
    code = .downgradePartialLanguage ∧
      ∃ b ∈ content.blocks, some b.blockKey = finding.blockKey ∧ b.text = none)

lemma ineffective_of_block {code : ReportRevisionActionCode} (h : code.needsBlock = true)
    (hne : code ≠ .downgradePartialLanguage) :
    Ineffective content finding code ↔ ¬ Names content finding.blockKey := by
  simp [Ineffective, h, hne]

lemma not_ineffective {code : ReportRevisionActionCode} (h : code.needsBlock = false) :
    ¬ Ineffective content finding code := by
  simp [Ineffective, h]

/-- **A handler refuses exactly the remediations that cannot take effect.** -/
theorem handler_refuses_iff {code : ReportRevisionActionCode} :
    Refuses (revisionActionHandlers lib code content finding policy) ↔
      Ineffective content finding code := by
  have hqualify : ∀ b, Raises Caught (qualifyPartial lib b) := by
    intro b
    unfold qualifyPartial
    split
    · exact raises_error trivial
    · exact raises_ite (fun _ => raises_ok _) fun _ => raises_ok _
  have htext : ∀ b : BlockFields, (¬ ∃ b', qualifyPartial lib b = .ok b') ↔ b.text = none := by
    intro b
    unfold qualifyPartial
    split
    · next h => simp [h]
    · next t h => split <;> simp [h]
  have hdelete : Refuses (deleteBlock content finding.blockKey) ↔ ¬ Names content finding.blockKey :=
    refuses_deleteBlock
  have hmove : ∀ target, Refuses (moveBlock content finding.blockKey target) ↔
      ¬ Names content finding.blockKey := fun target => refuses_moveBlock
  cases code with
  | deleteUnboundFactBlock => exact hdelete.trans (ineffective_of_block rfl (by decide)).symm
  | deleteUnsupportedFactBlock => exact hdelete.trans (ineffective_of_block rfl (by decide)).symm
  | removeInvalidCitationBlock => exact hdelete.trans (ineffective_of_block rfl (by decide)).symm
  | removeForbiddenAdviceText => exact hdelete.trans (ineffective_of_block rfl (by decide)).symm
  | downgradePartialLanguage =>
      have hrefuses := @refuses_transformBlock content finding.blockKey _ hqualify
      simp only [htext] at hrefuses
      refine hrefuses.trans ?_
      simp [Ineffective, ReportRevisionActionCode.needsBlock]
  | moveConflictToConflicts =>
      exact (hmove _).trans (ineffective_of_block rfl (by decide)).symm
  | moveUnsupportedToAppendix =>
      exact (hmove _).trans (ineffective_of_block rfl (by decide)).symm
  | moveBlockedToLimitations =>
      exact (hmove _).trans (ineffective_of_block rfl (by decide)).symm
  | truncateExistingExcerpt =>
      have hrefuses := @refuses_transformBlock content finding.blockKey
        (fun b => .ok { b with payload := truncateFields policy.maxExcerptLength b.payload })
        fun b => raises_ok _
      refine hrefuses.trans (Iff.trans ?_ (ineffective_of_block rfl (by decide)).symm)
      simp
  | addDataQualityFromExistingState =>
      exact iff_of_false (not_refuses_of_uncaught uncaught_appendDisclosure) (not_ineffective rfl)
  | addLimitationsFromExistingState =>
      exact iff_of_false (not_refuses_of_uncaught uncaught_appendDisclosure) (not_ineffective rfl)
  | renumberExistingReferences =>
      exact iff_of_false (not_refuses_of_uncaught (raises_map (uncaught_orOther _)))
        (not_ineffective rfl)
  | fixDeterministicFormat =>
      exact iff_of_false (not_refuses_of_uncaught (uncaught_canonicalize content))
        (not_ineffective rfl)

/-- **Only a disclosure brings a block key in.** -/
theorem mem_keys_of_handler {code : ReportRevisionActionCode}
    (h : revisionActionHandlers lib code content finding policy = .ok content')
    (hkey : key ∈ content'.keys) :
    key ∈ content.keys ∨ code.discloses = true ∧ key = disclosureKey lib finding := by
  have hdelete : deleteBlock content finding.blockKey = .ok content' → key ∈ content.keys := by
    intro h
    obtain ⟨k, -, h⟩ := bind_ok.mp h
    cases h
    rw [keys_without] at hkey
    exact List.mem_of_mem_filter hkey
  have hdisclose : ∀ {sectionKey blockType blockStatus},
      appendDisclosure lib content finding sectionKey blockType blockStatus = .ok content' →
        key ∈ content.keys ∨ key = disclosureKey lib finding := by
    intro sectionKey blockType blockStatus h
    obtain ⟨block, hblock, h⟩ := bind_ok.mp h
    refine (mem_keys_of_appendBlock h hkey).imp id fun hkey => ?_
    rw [hkey]
    unfold orOther Except.mapError at hblock
    split at hblock
    · cases hblock
    · next block' hblock' =>
      cases hblock
      rw [BlockFields.checked_ok.mp hblock']
  cases code with
  | deleteUnboundFactBlock => exact .inl (hdelete h)
  | deleteUnsupportedFactBlock => exact .inl (hdelete h)
  | removeInvalidCitationBlock => exact .inl (hdelete h)
  | removeForbiddenAdviceText => exact .inl (hdelete h)
  | downgradePartialLanguage =>
      left
      rw [← @keys_transformBlock content content' _ (qualifyPartial lib) ?_ h]
      · exact hkey
      · intro b b' hb
        unfold qualifyPartial at hb
        split at hb
        · cases hb
        · split at hb <;> cases hb <;> rfl
  | moveConflictToConflicts => exact .inl (mem_keys_of_moveBlock h hkey)
  | moveUnsupportedToAppendix => exact .inl (mem_keys_of_moveBlock h hkey)
  | moveBlockedToLimitations => exact .inl (mem_keys_of_moveBlock h hkey)
  | truncateExistingExcerpt =>
      left
      rw [← keys_transformBlock ?_ h]
      · exact hkey
      · rintro b b' ⟨⟩
        rfl
  | addDataQualityFromExistingState => exact (hdisclose h).imp id fun hkey => ⟨rfl, hkey⟩
  | addLimitationsFromExistingState => exact (hdisclose h).imp id fun hkey => ⟨rfl, hkey⟩
  | renumberExistingReferences =>
      exact .inl (@keys_renumberHandler lib policy content content' finding h ▸ hkey)
  | fixDeterministicFormat => exact .inl (keys_canonicalize h ▸ hkey)

/-- A deletion takes the block key out. -/
lemma not_mem_keys_of_deletion {code : ReportRevisionActionCode} (hcode : code.deletes = true)
    (h : revisionActionHandlers lib code content finding policy = .ok content')
    (hkey : finding.blockKey = some key) : key ∉ content'.keys := by
  have hdelete : deleteBlock content finding.blockKey = .ok content' := by
    cases code <;> first | exact h | cases hcode
  obtain ⟨k, hk, hdelete⟩ := bind_ok.mp hdelete
  cases hdelete
  rw [hkey] at hk
  obtain ⟨heq, -⟩ := presentKey_ok.mp hk
  obtain rfl := Option.some.inj heq
  rw [keys_without]
  simp

/-! ## Turns -/

/-- What becomes of one finding: the action that was applied, if one was. -/
structure Turn where
  before : ContentFields
  finding : ReportReflectionFindingRecord
  action : Option ReportRevisionActionCode
  after : ContentFields

/-- The action that the remediation of the finding names. -/
def Turn.code (t : Turn) : Option ReportRevisionActionCode :=
  ReportRevisionActionCode.ofValue t.finding.remediationCode

/-- The turn is taken as the loop takes it: the finding stays unresolved exactly when its remediation
names no action or cannot take effect, and then the content stays as it is. -/
structure Turn.Taken (lib : ReportLibrary) (policy : ReportPolicyRecord) (t : Turn) : Prop where
  unresolved : t.action = none ↔
    t.code = none ∨ ∃ code, t.code = some code ∧ Ineffective t.before t.finding code
  kept : t.action = none → t.after = t.before
  applied : ∀ code, t.action = some code → t.code = some code ∧
    revisionActionHandlers lib code t.before t.finding policy = .ok t.after

/-- Turns that follow one another, from one content to the next. -/
def Chain (lib : ReportLibrary) (policy : ReportPolicyRecord) :
    ContentFields → List Turn → ContentFields → Prop
  | first, [], last => last = first
  | first, t :: ts, last => t.before = first ∧ t.Taken lib policy ∧ Chain lib policy t.after ts last

/-- The findings that were applied. -/
def appliedIds (turns : List Turn) : List Uuid :=
  (turns.filter fun t => t.action.isSome).map (·.finding.id)

/-- The findings that stay unresolved. -/
def unresolvedIds (turns : List Turn) : List Uuid :=
  (turns.filter fun t => t.action.isNone).map (·.finding.id)

lemma turn_of_reviseFinding {state next : RevisionState}
    (h : reviseFinding lib policy state finding = .ok next) :
    ∃ t : Turn, t.before = state.content ∧ t.finding = finding ∧ t.after = next.content ∧
      t.Taken lib policy ∧ next.applied = state.applied ++ appliedIds [t] ∧
      next.unresolved = state.unresolved ++ unresolvedIds [t] := by
  unfold reviseFinding at h
  split at h
  · next hcode =>
    cases h
    refine ⟨⟨state.content, finding, none, state.content⟩, rfl, rfl, rfl, ?_, ?_, ?_⟩
    · exact ⟨iff_of_true rfl (.inl hcode), fun _ => rfl, fun code hnone => by cases hnone⟩
    · simp [appliedIds]
    · simp [unresolvedIds]
  · next code hcode =>
    have hrefuses := @handler_refuses_iff lib policy state.content finding code
    split at h
    · next text hrefused =>
      cases h
      refine ⟨⟨state.content, finding, none, state.content⟩, rfl, rfl, rfl, ?_, ?_, ?_⟩
      · exact ⟨iff_of_true rfl (.inr ⟨code, hcode, hrefuses.mp ⟨text, hrefused⟩⟩), fun _ => rfl,
          fun code hnone => by cases hnone⟩
      · simp [appliedIds]
      · simp [unresolvedIds]
    · cases h
    · next content hcontent =>
      cases h
      refine ⟨⟨state.content, finding, some code, content⟩, rfl, rfl, rfl, ?_, ?_, ?_⟩
      · refine ⟨iff_of_false (by simp) ?_, fun hnone => (by cases hnone), ?_⟩
        · rintro (hnone | ⟨code', hcode', hineffective⟩)
          · rw [Turn.code, hcode] at hnone
            cases hnone
          · rw [Turn.code, hcode] at hcode'
            obtain rfl := Option.some.inj hcode'
            obtain ⟨text, hrefused⟩ := hrefuses.mpr hineffective
            rw [hcontent] at hrefused
            cases hrefused
        · rintro code' ⟨⟩
          exact ⟨hcode, hcontent⟩
      · simp [appliedIds]
      · simp [unresolvedIds]

/-- **A run of the loop is a chain of turns, one for each finding.** -/
theorem chain_of_loop {findings : List ReportReflectionFindingRecord} {state last : RevisionState}
    (h : findings.foldlM (reviseFinding lib policy) state = .ok last) :
    ∃ turns, Chain lib policy state.content turns last.content ∧
      turns.map (·.finding) = findings ∧ last.applied = state.applied ++ appliedIds turns ∧
      last.unresolved = state.unresolved ++ unresolvedIds turns := by
  induction findings generalizing state with
  | nil =>
      cases h
      exact ⟨[], rfl, rfl, by simp [appliedIds], by simp [unresolvedIds]⟩
  | cons finding findings ih =>
      rw [List.foldlM_cons] at h
      obtain ⟨next, hnext, h⟩ := bind_ok.mp h
      obtain ⟨t, hbefore, hfinding, hafter, htaken, happlied, hunresolved⟩ :=
        turn_of_reviseFinding hnext
      obtain ⟨turns, hchain, hfindings, happlied', hunresolved'⟩ := ih h
      refine ⟨t :: turns, ⟨hbefore, htaken, hafter ▸ hchain⟩, ?_, ?_, ?_⟩
      · rw [List.map_cons, hfinding, hfindings]
      · rw [happlied', happlied, List.append_assoc, appliedIds, appliedIds, appliedIds,
          ← List.map_append, ← List.filter_append, List.singleton_append]
      · rw [hunresolved', hunresolved, List.append_assoc, unresolvedIds, unresolvedIds,
          unresolvedIds, ← List.map_append, ← List.filter_append, List.singleton_append]

/-! ## Deleted blocks -/

/-- The turn has deleted the block under a key. -/
def Turn.Deletes (t : Turn) (key : Text) : Prop :=
  ∃ code, t.action = some code ∧ code.deletes = true ∧ t.finding.blockKey = some key

/-- The turn has added a disclosure under a key. -/
def Turn.Discloses (lib : ReportLibrary) (t : Turn) (key : Text) : Prop :=
  ∃ code, t.action = some code ∧ code.discloses = true ∧ disclosureKey lib t.finding = key

/-- The turn is about the block under a key. -/
def Turn.NeedsBlock (t : Turn) (key : Text) : Prop :=
  ∃ code, t.code = some code ∧ code.needsBlock = true ∧ t.finding.blockKey = some key

/-- A block that is not there stays away. -/
lemma Turn.Taken.not_mem {t : Turn} (ht : t.Taken lib policy) (hno : ¬ t.Discloses lib key)
    (h : key ∉ t.before.keys) : key ∉ t.after.keys := by
  intro hkey
  cases haction : t.action with
  | none =>
      rw [ht.kept haction] at hkey
      exact h hkey
  | some code =>
      obtain ⟨-, hhandler⟩ := ht.applied code haction
      rcases mem_keys_of_handler hhandler hkey with hkey | ⟨hdiscloses, hkey⟩
      · exact h hkey
      · exact hno ⟨code, haction, hdiscloses, hkey.symm⟩

lemma chain_append {first last : ContentFields} {ts us : List Turn} :
    Chain lib policy first (ts ++ us) last ↔
      ∃ middle, Chain lib policy first ts middle ∧ Chain lib policy middle us last := by
  induction ts generalizing first with
  | nil => simp [Chain]
  | cons t ts ih => simp [Chain, ih, and_assoc]

lemma chain_not_mem {first last : ContentFields} {ts : List Turn}
    (hchain : Chain lib policy first ts last) (hno : ∀ t ∈ ts, ¬ t.Discloses lib key)
    (h : key ∉ first.keys) : key ∉ last.keys := by
  induction ts generalizing first with
  | nil =>
      obtain rfl := hchain
      exact h
  | cons t ts ih =>
      obtain ⟨rfl, ht, hchain⟩ := hchain
      exact ih hchain (fun u hu => hno u (List.mem_cons_of_mem _ hu))
        (ht.not_mem (hno t List.mem_cons_self) h)

/-- **After a deletion, a finding on the deleted block stays unresolved**, unless a disclosure was
added under its key in between. -/
theorem unresolved_after_deletion {first last : ContentFields} {before between after : List Turn}
    {d t : Turn} (hchain : Chain lib policy first (before ++ d :: (between ++ t :: after)) last)
    (hd : d.Deletes key) (hno : ∀ u ∈ between, ¬ u.Discloses lib key) (ht : t.NeedsBlock key) :
    t.action = none := by
  obtain ⟨_, -, -, hdtaken, hchain⟩ := chain_append.mp hchain
  obtain ⟨middle, hbetween, hbefore, httaken, -⟩ := chain_append.mp hchain
  obtain ⟨code, haction, hdeletes, hkey⟩ := hd
  obtain ⟨-, hhandler⟩ := hdtaken.applied code haction
  have habsent : key ∉ t.before.keys := by
    rw [hbefore]
    exact chain_not_mem hbetween hno (not_mem_keys_of_deletion hdeletes hhandler hkey)
  obtain ⟨code', hcode', hneeds, hkey'⟩ := ht
  refine httaken.unresolved.mpr (.inr ⟨code', hcode', hneeds, .inl ?_⟩)
  rintro ⟨k, hk, hmem⟩
  rw [hkey'] at hk
  obtain rfl := Option.some.inj hk
  exact habsent hmem

/-! ## The draft -/

/-- What became of the findings of a draft. -/
structure Accounted (lib : ReportLibrary) (policy : ReportPolicyRecord) (first : ContentFields)
    (findings : List ReportReflectionFindingRecord) (draft : ReportRevisionDraft lib)
    (turns : List Turn) : Prop where
  /-- The turns follow one another, and every one is taken as `Turn.Taken` says. -/
  chain : ∃ last, Chain lib policy first turns last
  findings : turns.map (·.finding) = findings
  /-- The two lists are the applied and the unresolved findings, in order. -/
  applied : draft.appliedFindingIds = appliedIds turns
  unresolved : draft.unresolvedFindingIds = unresolvedIds turns
  /-- The draft is partial exactly when a finding stays unresolved. -/
  status : draft.status = .partly ↔ ∃ t ∈ turns, t.action = none
  /-- A later finding on a deleted block stays unresolved. -/
  deleted : ∀ before d between t after key, turns = before ++ d :: (between ++ t :: after) →
    d.Deletes key → (∀ u ∈ between, ¬ u.Discloses lib key) → t.NeedsBlock key → t.action = none

/-- **What becomes of the findings of a revision.** -/
theorem revise_partition (lib : ReportLibrary) (source : ResearchReportAggregate lib.uuid5)
    (reflection : ReportReflectionResult) (policy : ReportPolicyRecord)
    (draft : ReportRevisionDraft lib) (h : revise lib source reflection policy = .ok draft) :
    ∃ turns, Accounted lib policy source.report.structuredContent.fields reflection.findings draft
      turns := by
  obtain ⟨-, h⟩ := unit_bind_ok.mp h
  obtain ⟨state, hstate, h⟩ := bind_ok.mp h
  obtain ⟨content, -, h⟩ := bind_ok.mp h
  obtain ⟨target, -, h⟩ := bind_ok.mp h
  obtain ⟨aggregate, -, h⟩ := bind_ok.mp h
  obtain ⟨-, h⟩ := check_bind_ok.mp h
  cases h
  obtain ⟨turns, hchain, hfindings, happlied, hunresolved⟩ := chain_of_loop hstate
  rw [List.nil_append] at happlied hunresolved
  refine ⟨turns, ⟨_, hchain⟩, hfindings, happlied, hunresolved, ?_, ?_⟩
  · have hnil : state.unresolved = [] ↔ ∀ t ∈ turns, ¬ t.action = none := by
      rw [hunresolved, unresolvedIds, List.map_eq_nil_iff, List.filter_eq_nil_iff]
      simp
    unfold ReportRevisionDraft.status
    split
    · next hempty =>
      refine iff_of_false (by decide) ?_
      rintro ⟨t, ht, hnone⟩
      exact hnil.mp hempty t ht hnone
    · next hsome =>
      refine iff_of_true rfl ?_
      by_contra hno
      push Not at hno
      exact hsome (hnil.mpr hno)
  · rintro before d between t after key rfl hd hno ht
    exact unresolved_after_deletion hchain hd hno ht

/-! ## Two findings on one block -/

/-- Advice in one block, and a remark in another. -/
def adviceContent : StructuredReportContent where
  schemaVersion := "research-report-v1".toList
  locale := .enUS
  sections := [{
    reportSection := .limitations
    sectionIndex := 0
    title := "Limits".toList
    status := .complete
    blocks := [
      { blockKey := "advice".toList
        blockIndex := 0
        blockType := .paragraph
        status := .complete
        text := some "Buy.".toList
        payload := []
        key_ok := by decide
        index_le := firstBlock_le
        text_le := by decide },
      { blockKey := "remark".toList
        blockIndex := 1
        blockType := .paragraph
        status := .complete
        text := some "No data.".toList
        payload := []
        key_ok := by decide
        index_le := secondBlock_le
        text_le := by decide }]
    index_le := firstSection_le
    title_ok := by decide
    blocks_le := by decide
    contiguous := by decide
    uniqueKeys := by decide }]
  schema_ok := schema_valid
  sections_ok := by decide
  contiguous := by decide
  uniqueSections := by decide
  bounded := by decide

def newYearsDay : Instant where
  date := ⟨2026, 1, 1, validYear_2026, validMonth_1, by decide⟩
  hour := 0
  minute := 0
  second := 0
  microsecond := 0
  validHour := validHour_0
  validMinute := validMinute_0
  validSecond := validMinute_0
  validMicrosecond := validMicrosecond_0

def adviceReport : ResearchReport where
  id := 1
  structuredContent := adviceContent
  reportGenerationRunId := 2
  reportVersion := 1
  previousReportId := none
  reportType := .fullResearchDraft
  reportLocale := .enUS
  status := .draft
  securityId := 3
  snapshotId := 4
  researchAsOfTime := newYearsDay
  researchPackageId := 5
  inputManifestChecksum := ""
  packageChecksum := ""
  markdownContent := []
  structuredChecksum := ""
  markdownChecksum := ""
  contentChecksum := ""
  claimSetChecksum := ""
  evidenceSetChecksum := ""
  linkSetChecksum := ""
  citationSetChecksum := ""
  rendererVersion := []
  templateName := []
  templateVersion := []
  createdAt := newYearsDay

def adviceAggregate : ResearchReportAggregate asciiLibrary.uuid5 where
  report := adviceReport
  claimBindings := []
  evidenceBindings := []
  citationBindings := []
  valid := by decide

/-- A finding of one check on the block with the advice. -/
def adviceFinding (id : Uuid) (check : RuntimeReflectionCheck) : ReportReflectionFindingRecord where
  id := id
  findingCode := check.value
  severity := .critical
  description := []
  remediationCode := check.remediationCode
  blockKey := some "advice".toList

def adviceReflection : ReportReflectionResult where
  run :=
    { status := .findings
      totalFindingCount := 2
      criticalCount := 2
      highCount := 0
      mediumCount := 0
      lowCount := 0
      blockedReasonCode := none
      errorCode := none
      safeErrorMessage := none
      completedAt := some newYearsDay
      id := 6
      researchReportId := 1
      roundNumber := 1
      inputReportChecksum := ""
      valid := by constructor <;> decide }
  findingIds := [7, 8]
  findings := [adviceFinding 7 .noRatingLanguage, adviceFinding 8 .noPositionAdvice]

def strictPolicy : ReportPolicyRecord where
  maxExcerptLength := 100
  maxRevisionRounds := 1
  allowModelNarrative := false
  allowModelReflection := false

/-- Its findings are accounted for. -/
theorem advice_accounted : ∃ draft turns,
    revise asciiLibrary adviceAggregate adviceReflection strictPolicy = .ok draft ∧
      Accounted asciiLibrary strictPolicy adviceReport.structuredContent.fields
        adviceReflection.findings draft turns := by
  obtain ⟨draft, hdraft⟩ : ∃ draft,
      revise asciiLibrary adviceAggregate adviceReflection strictPolicy = .ok draft :=
    exists_of_isOk (by decide +kernel)
  obtain ⟨turns, hturns⟩ :=
    revise_partition asciiLibrary adviceAggregate adviceReflection strictPolicy draft hdraft
  exact ⟨draft, turns, hdraft, hturns⟩

/-- The block is deleted for the first finding, the second stays unresolved, and the draft is
partial. -/
theorem advice_partial :
    (revise asciiLibrary adviceAggregate adviceReflection strictPolicy).map (fun draft =>
      (draft.appliedFindingIds, draft.unresolvedFindingIds, draft.status,
        draft.target.report.blocks.map (·.blockKey))) =
      .ok ([7], [8], .partly, ["remark".toList]) := by
  decide +kernel

end StockResearch.Reports
