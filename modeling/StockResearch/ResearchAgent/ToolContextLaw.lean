import StockResearch.ResearchAgent.ToolContext

/-!
# What a tool is given, and what it may return

**Inputs.**  `foldlM_bindArgument`: under every key stands what the caller gives, which equals what
the plan has fixed, and otherwise what the plan has fixed.  **`bindToolInput_bound`** adds what the
run decides and what the two walks keep out.

**Outputs.**  `resultField_ok` is what one field of an accepted output has passed.
**`output_scope_iff`**: an accepted output is in scope exactly when the publication times that the
walk does not look at are in time.
-/

namespace StockResearch.ResearchAgent

open PyObject PyJson PyTime PyText Checked

variable {folding : CaseFolding} {toFloat : List Char → ℚ ⊕ Special}
  {context : ControlledRunContext}

/-! ## Inputs -/

/-- What the caller gives comes first, and equals what the plan has fixed. -/
structure Merged (plan arguments bound : List (Key × Object)) : Prop where
  lookup : ∀ key, bound.lookup key = (arguments.lookup key).or (plan.lookup key)
  equal : ∀ key v planned, arguments.lookup key = some v → plan.lookup key = some planned →
    equal v planned = true

lemma lookup_concat {entries : List (Key × Object)} {f : Key × Object} {key : Key} :
    (entries ++ [f]).lookup key =
      (entries.lookup key).or (if key = f.1 then some f.2 else none) := by
  rw [List.lookup_append, ← Prod.eta f, Dict.lookup_cons_ite, List.lookup_nil]

lemma lookup_eq_none {entries : List (Key × Object)} {key : Key} (h : key ∉ entries.map Prod.fst) :
    entries.lookup key = none := by
  rw [List.lookup_eq_none_iff]
  intro e he
  exact bne_iff_ne.mpr fun heq => h (heq ▸ List.mem_map_of_mem he)

/-- **The loop over the arguments merges them into the plan.** -/
theorem foldlM_bindArgument {plan bound : List (Key × Object)} {arguments : Dictionary}
    (h : arguments.fields.foldlM bindArgument plan = .ok bound) :
    Merged plan arguments.fields bound := by
  have hloop := foldlM_start
    (P := fun done bound => (done.map Prod.fst).Nodup → Merged plan done bound) ?_ ?_ h
  · exact hloop arguments.distinct
  · intro done f bound bound' hdone hf hnodup
    rw [List.map_append, List.nodup_append] at hnodup
    obtain ⟨hlookup, hequal⟩ := hdone hnodup.1
    have hfresh : done.lookup f.1 = none :=
      lookup_eq_none fun hmem => hnodup.2.2 f.1 hmem f.1 (by simp) rfl
    obtain ⟨hplanned, hf⟩ := check_bind_ok.mp hf
    cases hf
    push Not at hplanned
    constructor
    · intro key
      rw [← Prod.eta f, Dict.lookup_put, lookup_concat, hlookup]
      by_cases hkey : key = f.1
      · subst hkey
        simp [hfresh]
      · simp [hkey]
    · intro key v planned hv hplan
      rw [lookup_concat] at hv
      by_cases hkey : key = f.1
      · subst hkey
        rw [hfresh, if_pos rfl] at hv
        obtain rfl := Option.some.inj hv
        refine eq_true_of_ne_false (hplanned planned ?_)
        rw [Option.mem_def, hlookup, hfresh, Option.none_or, hplan]
      · rw [if_neg hkey, Option.or_none] at hv
        exact hequal key v planned hv hplan
  · intro _
    exact ⟨fun key => rfl, by simp⟩

/-- A key that is neither controlled nor forbidden. -/
def Harmless (folding : CaseFolding) (key : Key) : Prop :=
  foldedKey folding key ∉ controlledKeys ∧ foldedKey folding key ∉ forbiddenKeys

lemma harmless_of_validateUntrusted {v : Object}
    (h : validateUntrusted folding context v = .ok ()) {key : Key} {item : Object}
    (hoccurs : Occurs false v key item) : Harmless folding key := by
  obtain ⟨fields, -, hfield⟩ := field_of_walk h hoccurs
  obtain ⟨hcontrolled, hforbidden⟩ := check_bind_ok.mp hfield
  exact ⟨hcontrolled, check_ok.mp hforbidden⟩

/-- A field of a mapping occurs in it. -/
lemma occurs_of_mem {models : Bool} {fields : List (Key × Object)} {f : Key × Object}
    (hf : f ∈ fields) : Occurs models (.mapping fields) f.1 f.2 :=
  ⟨fields, .refl, hf⟩

lemma foldedKey_controlled {name : String} (h : name ∈ controlledKeys) :
    foldedKey folding (.str name) = name := by
  have hlower : ∀ name ∈ controlledKeys, name.toList.all (·.toNat < 128) = true ∧
      name.toList.map Char.toLower = name.toList := by
    decide +kernel
  obtain ⟨hascii, heq⟩ := hlower name h
  have hfold := folding.fold_ascii name.toList fun c hc => by
    simpa using List.all_eq_true.mp hascii c hc
  rw [foldedKey, Key.text, hfold, heq, String.ofList_toList]

/-- A checked mapping has no controlled key. -/
lemma lookup_controlled {fields : List (Key × Object)}
    (h : validateUntrusted folding context (.mapping fields) = .ok ()) {name : String}
    (hname : name ∈ controlledKeys) : fields.lookup (.str name) = none := by
  refine lookup_eq_none fun hmem => ?_
  obtain ⟨f, hf, heq⟩ := List.mem_map.mp hmem
  have hharmless := harmless_of_validateUntrusted h (occurs_of_mem hf)
  rw [heq] at hharmless
  exact hharmless.1 (by rwa [foldedKey_controlled hname])

/-- The input that a tool is given. -/
structure Bound (folding : CaseFolding) (context : ControlledRunContext) (toolName : String)
    (plan arguments bound : List (Key × Object)) : Prop where
  /-- The run decides the security and the snapshot, for the tools that take them. -/
  security : toolName ∈ securityAndSnapshotTools →
    bound.lookup (.str "security_id") = some (.uuid context.securityId)
  snapshot : toolName ∈ securityAndSnapshotTools ∨ toolName ∈ snapshotTools →
    bound.lookup (.str "snapshot_id") = some (.uuid context.snapshotId)
  /-- No other key of the run is given to a tool, whatever the caller supplies. -/
  unscoped : ∀ name ∈ controlledKeys,
    name = "security_id" ∧ toolName ∈ securityAndSnapshotTools ∨
      name = "snapshot_id" ∧ (toolName ∈ securityAndSnapshotTools ∨ toolName ∈ snapshotTools) ∨
      bound.lookup (.str name) = none
  /-- At no depth does a key occur that is controlled or forbidden. -/
  plan_harmless : ∀ key item, Occurs false (.mapping plan) key item → Harmless folding key
  harmless : ∀ key item, Occurs false (.mapping arguments) key item → Harmless folding key
  /-- What the plan has fixed is there: as it was fixed, or as the caller repeats it. -/
  planned : ∀ key planned, plan.lookup key = some planned → ∃ v, bound.lookup key = some v ∧
    (arguments.lookup key = none ∧ v = planned ∨
      arguments.lookup key = some v ∧ equal v planned = true)

lemma lookup_bindScope_of_ne {toolName : String} {bound : List (Key × Object)} {key : Key}
    (hsecurity : key ≠ .str "security_id") (hsnapshot : key ≠ .str "snapshot_id") :
    (bindScope context toolName bound).lookup key = bound.lookup key := by
  unfold bindScope
  split
  · rw [Dict.lookup_put, if_neg hsnapshot, Dict.lookup_put, if_neg hsecurity]
  · split
    · rw [Dict.lookup_put, if_neg hsnapshot]
    · rfl

/-- **What the input of a tool is bound to.** -/
theorem bindToolInput_bound (folding : CaseFolding) (toFloat : List Char → ℚ ⊕ Special)
    (context : ControlledRunContext) (call : AuthorizedToolCall) (arguments : Dictionary)
    (bound : List (Key × Object))
    (h : bindToolInput folding toFloat context call arguments = .ok bound) :
    Bound folding context call.toolName (ofFields toFloat call.payload) arguments.fields bound := by
  obtain ⟨hplan, h⟩ := unit_bind_ok.mp h
  obtain ⟨harguments, h⟩ := unit_bind_ok.mp h
  obtain ⟨merged, hmerged, h⟩ := bind_ok.mp h
  cases h
  obtain ⟨hlookup, hequal⟩ := foldlM_bindArgument hmerged
  have hcontrolled : ∀ name ∈ controlledKeys, merged.lookup (.str name) = none := by
    intro name hname
    rw [hlookup, lookup_controlled harguments hname, lookup_controlled hplan hname, Option.or_none]
  have hdisjoint : ∀ name ∈ snapshotTools, name ∉ securityAndSnapshotTools := by decide
  refine ⟨?_, ?_, ?_, fun key item => harmless_of_validateUntrusted hplan,
    fun key item => harmless_of_validateUntrusted harguments, ?_⟩
  · intro htool
    rw [bindScope, if_pos htool, Dict.lookup_put, if_neg (by decide), Dict.lookup_put, if_pos rfl]
  · rintro (htool | htool)
    · rw [bindScope, if_pos htool, Dict.lookup_put, if_pos rfl]
    · rw [bindScope, if_neg (hdisjoint _ htool), if_pos htool, Dict.lookup_put, if_pos rfl]
  · intro name hname
    have hnone := hcontrolled name hname
    by_cases hsecurity : name = "security_id"
    · by_cases htool : call.toolName ∈ securityAndSnapshotTools
      · exact .inl ⟨hsecurity, htool⟩
      · refine .inr (.inr ?_)
        subst hsecurity
        rw [bindScope, if_neg htool]
        split
        · rw [Dict.lookup_put, if_neg (by decide), hnone]
        · exact hnone
    · by_cases hsnapshot : name = "snapshot_id"
      · by_cases htool : call.toolName ∈ securityAndSnapshotTools ∨ call.toolName ∈ snapshotTools
        · exact .inr (.inl ⟨hsnapshot, htool⟩)
        · push Not at htool
          rw [bindScope, if_neg htool.1, if_neg htool.2]
          exact .inr (.inr hnone)
      · refine .inr (.inr ?_)
        rw [lookup_bindScope_of_ne (by simpa using hsecurity) (by simpa using hsnapshot), hnone]
  · intro key planned hplanned
    have hne : ∀ name ∈ controlledKeys, key ≠ .str name := by
      rintro name hname rfl
      rw [lookup_controlled hplan hname] at hplanned
      cases hplanned
    rw [lookup_bindScope_of_ne (hne _ (by decide)) (hne _ (by decide)), hlookup]
    cases hgiven : arguments.fields.lookup key with
    | none => exact ⟨planned, by simp [hplanned], .inl ⟨rfl, rfl⟩⟩
    | some v => exact ⟨v, rfl, .inr ⟨rfl, hequal key v planned hgiven hplanned⟩⟩

/-- A run of the year's end. -/
def yearEndContext : ControlledRunContext where
  securityId := 1
  snapshotId := 2
  researchAsOfTime := yearEnd
  researchAgentRunId := 3
  researchRequestId := 4
  policyVersion := "controlled-offline-v1"
  toolCatalogVersion := "tool-catalog-v1:" ++ zeroChecksum

/-- A call whose plan fixes a limit. -/
def limitedCall : AuthorizedToolCall where
  toolName := "get_financial_metrics"
  toolVersion := "1.0.0"
  payload := [("limit", .int 1)]
  inputChecksum := zeroChecksum

/-- The caller repeats the limit, in a way of its own. -/
def repeatedLimit : Dictionary where
  fields := [(.str "limit", .bool true)]
  distinct := by decide

theorem limitedCall_bound : ∃ bound,
    bindToolInput asciiCaseFolding (fun _ => .inr .nan) yearEndContext limitedCall repeatedLimit =
      .ok bound ∧
    Bound asciiCaseFolding yearEndContext "get_financial_metrics" [(.str "limit", .int 1)]
      [(.str "limit", .bool true)] bound := by
  obtain ⟨bound, hbound⟩ : ∃ bound, bindToolInput asciiCaseFolding (fun _ => .inr .nan)
      yearEndContext limitedCall repeatedLimit = .ok bound :=
    exists_of_isOk (by decide +kernel)
  exact ⟨bound, hbound, bindToolInput_bound asciiCaseFolding (fun _ => .inr .nan) yearEndContext
    limitedCall repeatedLimit bound hbound⟩

/-- The tool takes security and snapshot, and is not given the time of the run. -/
theorem limitedCall_timeless : limitedCall.toolName ∈ securityAndSnapshotTools ∧
    (bindToolInput asciiCaseFolding (fun _ => .inr .nan) yearEndContext limitedCall
      repeatedLimit).map (fun bound => (bound.lookup (.str "research_as_of_time")).isNone) =
        .ok true := by
  constructor
  · decide
  · decide +kernel

/-! ## Outputs -/

/-- A publication time after the given one: a `datetime`, or a text in the ISO format. -/
def PublishedAfter (asOf : Instant) : Object → Prop
  | .datetime d => DateTime.later asOf d
  | .str s => ∃ d, DateTime.fromIsoformat s = some d ∧ DateTime.later asOf d
  | _ => False

/-- The output is that of the run, and nothing in it was published after the time of the run. -/
structure InScope (context : ControlledRunContext) (result : Object) : Prop where
  security : ∀ key item, Occurs true result key item → key.text = "security_id" →
    item = .uuid context.securityId
  snapshot : ∀ key item, Occurs true result key item → key.text = "snapshot_id" →
    item = .uuid context.snapshotId
  run : ∀ key item, Occurs true result key item → key.text = "research_agent_run_id" →
    item = .uuid context.researchAgentRunId
  request : ∀ key item, Occurs true result key item → key.text = "research_request_id" →
    item = .uuid context.researchRequestId
  published : ∀ key item, Occurs true result key item →
    key.text = "published_at" ∨ key.text = "source_published_at" →
      ¬ PublishedAfter context.researchAsOfTime item

/-- The publication times that the walk does not look at are in time: those of the source, and those
that are texts. -/
structure UncheckedInTime (context : ControlledRunContext) (result : Object) : Prop where
  source : ∀ key item, Occurs true result key item → key.text = "source_published_at" →
    ¬ PublishedAfter context.researchAsOfTime item
  texts : ∀ key s, Occurs true result key (.str s) → key.text = "published_at" →
    ¬ PublishedAfter context.researchAsOfTime (.str s)

lemma rejectFuture_ok {d : DateTime} (h : rejectFuture context d = .ok ()) :
    ¬ DateTime.later context.researchAsOfTime d :=
  check_ok.mp (check_bind_ok.mp h).2

/-- What a field of an accepted output has passed. -/
structure FieldInScope (context : ControlledRunContext) (f : Key × Object) : Prop where
  security : f.1.text = "security_id" → f.2 = .uuid context.securityId
  snapshot : f.1.text = "snapshot_id" → f.2 = .uuid context.snapshotId
  run : f.1.text = "research_agent_run_id" → f.2 = .uuid context.researchAgentRunId
  request : f.1.text = "research_request_id" → f.2 = .uuid context.researchRequestId
  published : f.1.text = "published_at" → ∀ d, f.2 = .datetime d →
    ¬ DateTime.later context.researchAsOfTime d

lemma resultField_ok {fields : List (Key × Object)} {f : Key × Object}
    (h : resultField context fields f = .ok ()) : FieldInScope context f := by
  have hequal : ∀ {name : String} {u : Uuid}, ¬ (f.1.text = name ∧ equal f.2 (.uuid u) = false) →
      f.1.text = name → f.2 = .uuid u := by
    intro name u hno hname
    exact equal_uuid.mp (eq_true_of_ne_false fun hne => hno ⟨hname, hne⟩)
  obtain ⟨hsecurity, h⟩ := check_bind_ok.mp h
  obtain ⟨hsnapshot, h⟩ := check_bind_ok.mp h
  obtain ⟨hrun, h⟩ := check_bind_ok.mp h
  obtain ⟨hrequest, h⟩ := check_bind_ok.mp h
  obtain ⟨-, h⟩ := check_bind_ok.mp h
  refine ⟨hequal hsecurity, hequal hsnapshot, hequal hrun, hequal hrequest, ?_⟩
  intro hname d hd
  rw [if_pos hname, hd] at h
  exact rejectFuture_ok h

/-- **An accepted output is in scope exactly when the publication times that are not looked at are in
time.** -/
theorem output_scope_iff (context : ControlledRunContext) (result : Object)
    (h : validateOutputScope context result = .ok ()) :
    InScope context result ↔ UncheckedInTime context result := by
  have hfield : ∀ key item, Occurs true result key item → FieldInScope context (key, item) := by
    intro key item hoccurs
    obtain ⟨fields, -, hfield⟩ := field_of_walk h hoccurs
    exact resultField_ok hfield
  constructor
  · intro hscope
    exact ⟨fun key item hoccurs hname => hscope.published key item hoccurs (.inr hname),
      fun key s hoccurs hname => hscope.published key _ hoccurs (.inl hname)⟩
  · intro hunchecked
    refine ⟨fun key item hoccurs => (hfield key item hoccurs).security,
      fun key item hoccurs => (hfield key item hoccurs).snapshot,
      fun key item hoccurs => (hfield key item hoccurs).run,
      fun key item hoccurs => (hfield key item hoccurs).request, ?_⟩
    rintro key item hoccurs (hname | hname)
    · cases item with
      | datetime d => exact (hfield key _ hoccurs).published hname d rfl
      | str s => exact hunchecked.texts key s hoccurs hname
      | _ => exact id
    · exact hunchecked.source key item hoccurs hname

/-- An output of the run, with a time under `published_at` and none of the source. -/
def datedOutput : Object :=
  .sequence .list [.model "Record" (.mapping [
    (.str "security_id", .uuid 1), (.str "published_at", .datetime ⟨yearEnd, some 0⟩)])]

theorem datedOutput_scope : validateOutputScope yearEndContext datedOutput = .ok () ∧
    (InScope yearEndContext datedOutput ↔ UncheckedInTime yearEndContext datedOutput) := by
  have haccepted : validateOutputScope yearEndContext datedOutput = .ok () := by decide +kernel
  exact ⟨haccepted, output_scope_iff yearEndContext datedOutput haccepted⟩

/-- A price whose source was published an hour after the time of the run. -/
def futurePrice : Object :=
  .mapping [(.str "source_published_at", .datetime ⟨yearEnd, some (-3600000000)⟩)]

/-- It is accepted, and out of scope. -/
theorem futurePrice_accepted : validateOutputScope yearEndContext futurePrice = .ok () ∧
    ¬ InScope yearEndContext futurePrice := by
  refine ⟨by decide +kernel, fun hscope => ?_⟩
  refine hscope.published (.str "source_published_at") _ (occurs_of_mem (.head _)) (.inr rfl) ?_
  exact (by decide +kernel : DateTime.later yearEnd ⟨yearEnd, some (-3600000000)⟩)

end StockResearch.ResearchAgent
