import StockResearch.DataAccess.AsOfLaw
import Mathlib.Data.List.Induction

/-!
# Snapshots over runs of builds

What holds of the stored snapshots after any sequence of builds, whichever operations of the
repository fail.

`Outcome` lists what a build can do to the store, and `build_outcome` says that there is nothing else.
Every law about runs is a case analysis over it.
-/

namespace StockResearch.DataAccess

open PyTime Txn

variable {platform : Platform} {env : Surroundings} {request : SnapshotBuildRequest} {s s' : Store}

/-! ## One build -/

/-- The snapshot of a request that is being built: it was there, or it has just been created. -/
inductive Opened (env : Surroundings) (request : SnapshotBuildRequest) (s : Store) :
    DataSnapshotRecord → Store → Prop where
  | found (row : DataSnapshotRecord) (mem : row ∈ s.snapshots.rows) (names : request.names row)
      (building : row.status = .building) : Opened env request s row s
  | created (absent : ∀ row ∈ s.snapshots.rows, ¬ request.names row)
      (t : Table DataSnapshotRecord)
      (inserted : s.snapshots.insert (newSnapshot env request) = some t) :
      Opened env request s (newSnapshot env request) { s with snapshots := t }

/-- The update that marks a snapshot as failed. -/
def failedUpdate (failedAt : Instant) : DataSnapshotUpdate :=
  ⟨.failed, failedAt, none, some "Snapshot build failed safely"⟩

def Surroundings.markingFails (env : Surroundings) : Prop :=
  (∃ e, env.failedAt = .error e) ∨ env.fault .markFailed ≠ none

/-- What `build` answers for a terminal snapshot. -/
def replayOutcome (platform : Platform) (env : Surroundings) (request : SnapshotBuildRequest)
    (s : Store) (row : DataSnapshotRecord) : Except Raised SnapshotBuildResult :=
  match plan platform env request with
  | .error e => .error (replayError e)
  | .ok p =>
      if row.status ≠ p.status ∨ row.checksum ≠ some p.checksum then
        .error (.snapshotBuildError .versionConflict)
      else replay env s row p

/-- What a build can do: nothing, replay a terminal snapshot, complete a snapshot, mark it as failed
or leave it as it is being built. -/
inductive Outcome (platform : Platform) (env : Surroundings) (request : SnapshotBuildRequest)
    (s : Store) : Except Raised SnapshotBuildResult → Store → Prop where
  | unavailable (e : Raised) (unopened : getOrCreateSnapshot env request s = .error e) :
      Outcome platform env request s (.error (.snapshotBuildError .persistenceFailed)) s
  | replayed (row : DataSnapshotRecord) (mem : row ∈ s.snapshots.rows) (names : request.names row)
      (terminal : row.status ≠ .building) :
      Outcome platform env request s (replayOutcome platform env request s row) s
  | completed (row : DataSnapshotRecord) (s₁ : Store) (opened : Opened env request s row s₁)
      (p : Plan) (planned : plan platform env request = .ok p) (result : SnapshotBuildResult)
      (s₂ : Store) (attempted : attempt platform env row p s₁ = .ok (result, s₂)) :
      Outcome platform env request s (.ok result) s₂
  | failed (row : DataSnapshotRecord) (s₁ : Store) (opened : Opened env request s row s₁)
      (failedAt : Instant) (row' : DataSnapshotRecord) (s₂ : Store)
      (marked : updateSnapshot row.id (failedUpdate failedAt) s₁ = .ok (row', s₂)) (e : Raised) :
      Outcome platform env request s (.error e) s₂
  | stuck (row : DataSnapshotRecord) (s₁ : Store) (opened : Opened env request s row s₁)
      (unmarked : env.markingFails ∨
        ∃ failedAt e, updateSnapshot row.id (failedUpdate failedAt) s₁ = .error e) (e : Raised) :
      Outcome platform env request s (.error e) s₁

lemma perform_eq_error {op : Operation} {e : Raised} (h : env.perform op = .error e) :
    env.fault op ≠ none := by
  unfold Surroundings.perform at h
  cases hf : env.fault op with
  | none => simp [hf] at h
  | some f => simp

lemma getOrCreateSnapshot_spec {row : DataSnapshotRecord} {created : Bool} {s₁ : Store}
    (h : getOrCreateSnapshot env request s = .ok ((row, created), s₁)) :
    (created = false ∧ row ∈ s.snapshots.rows ∧ request.names row ∧ s₁ = s) ∨
      created = true ∧ Opened env request s row s₁ := by
  unfold getOrCreateSnapshot at h
  obtain ⟨-, -, h⟩ := lift_bind_ok.mp h
  rw [query_bind] at h
  cases hrow : s.snapshots.selectOne fun row => decide (request.names row) with
  | some existing =>
      rw [hrow] at h
      cases h
      obtain ⟨hmem, hnames⟩ := Table.mem_of_selectOne hrow
      exact .inl ⟨rfl, hmem, of_decide_eq_true hnames, rfl⟩
  | none =>
      rw [hrow] at h
      obtain ⟨-, -, h⟩ := lift_bind_ok.mp h
      obtain ⟨t, hinsert, h⟩ := write_map_bind_ok.mp h
      cases h
      refine .inr ⟨rfl, .created ?_ t hinsert⟩
      intro row hmem hnames
      exact Table.selectOne_eq_none.mp hrow row hmem (decide_eq_true hnames)

lemma wp_inTransaction {α : Type} (t : Transaction Raised Store α)
    (Q : Except Raised α → Store → Prop) :
    Program.wp (inTransaction t) Q s ↔ Q (commit t s).1 (commit t s).2 := Iff.rfl

/-- What has to hold where everything is caught. -/
def caught {α : Type} (handler : Raised → Program Raised Store α)
    (Q : Except Raised α → Store → Prop) : Except Raised α → Store → Prop
  | .ok a => Q (.ok a)
  | .error e => Program.wp (handler e) Q

lemma wp_catchAll {α : Type} (x : Program Raised Store α) (handler : Raised → Program Raised Store α)
    (Q : Except Raised α → Store → Prop) :
    Program.wp (catchAll x handler) Q s ↔ Program.wp x (caught handler Q) s := by
  unfold Program.wp catchAll Program.catching
  cases hx : x s with
  | mk r s' => cases r <;> rfl

/-- The end of a build that raised. -/
lemma markFailed_spec {row : DataSnapshotRecord} {s₁ : Store} (opened : Opened env request s row s₁)
    (e : Raised) :
    Program.wp (do markFailed env row.id; throw e : Program Raised Store SnapshotBuildResult)
      (Outcome platform env request s) s₁ := by
  rw [Program.wp_bind]
  unfold markFailed
  rw [wp_catchAll, Program.wp_bind, Program.wp_call]
  cases hat : env.failedAt with
  | error e' => exact .stuck row s₁ opened (.inl (.inl ⟨e', hat⟩)) _
  | ok failedAt =>
      simp only [Program.after]
      rw [Program.wp_bind, Program.wp_call]
      cases hmark : env.perform .markFailed with
      | error e' => exact .stuck row s₁ opened (.inl (.inr (perform_eq_error hmark))) _
      | ok _ =>
          simp only [Program.after]
          rw [Program.wp_bind, wp_inTransaction]
          cases hupdate : updateSnapshot row.id (failedUpdate failedAt) s₁ with
          | error e' =>
              unfold failedUpdate at hupdate
              rw [commit_of_error hupdate]
              exact .stuck row s₁ opened (.inr ⟨failedAt, e', hupdate⟩) _
          | ok written =>
              obtain ⟨row', s₂⟩ := written
              have hmarked := hupdate
              unfold failedUpdate at hupdate
              rw [commit_of_ok hupdate]
              simp only [Program.after]
              rw [Program.wp_call]
              cases env.perform .readFailed with
              | error e' => exact .failed row s₁ opened failedAt row' s₂ hmarked _
              | ok _ => exact .failed row s₁ opened failedAt row' s₂ hmarked _

/-- A build of an opened snapshot completes it, or it ends as one that raised. -/
lemma buildSnapshot_opened {row : DataSnapshotRecord} {s₁ : Store}
    (opened : Opened env request s row s₁) :
    Program.wp (catchAll (buildSnapshot platform env request row false) fun _ => do
        markFailed env row.id
        throw (.snapshotBuildError .buildFailed))
      (Outcome platform env request s) s₁ := by
  rw [wp_catchAll]
  unfold buildSnapshot
  rw [Program.wp_bind, Program.wp_call]
  cases hplan : plan platform env request with
  | error e => exact markFailed_spec opened _
  | ok p =>
      simp only [Program.after, Bool.false_eq_true, if_false]
      rw [wp_inTransaction]
      cases hattempt : attempt platform env row p s₁ with
      | error e =>
          rw [commit_of_error hattempt]
          exact markFailed_spec opened _
      | ok written =>
          rw [commit_of_ok hattempt]
          exact .completed row s₁ opened p hplan _ _ hattempt

/-- A replay raises nothing but a `SnapshotBuildError`. -/
lemma replay_error {row : DataSnapshotRecord} {p : Plan} {e : Raised}
    (h : replay env s row p = .error e) : ∃ code, e = .snapshotBuildError code := by
  unfold replay at h
  split at h
  · exact ⟨_, (Except.error.inj h).symm⟩
  · exact ⟨_, (Except.error.inj h).symm⟩
  · split at h
    · cases h
    · exact ⟨_, (Except.error.inj h).symm⟩

lemma buildSnapshot_terminal {row : DataSnapshotRecord} (mem : row ∈ s.snapshots.rows)
    (names : request.names row) (terminal : row.status ≠ .building) :
    Program.wp (catchAll (buildSnapshot platform env request row true) fun e => throw (replayError e))
      (Outcome platform env request s) s := by
  have houtcome : Outcome platform env request s (replayOutcome platform env request s row) s :=
    .replayed row mem names terminal
  unfold replayOutcome at houtcome
  rw [wp_catchAll]
  unfold buildSnapshot
  rw [Program.wp_bind, Program.wp_call]
  cases hplan : plan platform env request with
  | error e =>
      rw [hplan] at houtcome
      exact houtcome
  | ok p =>
      rw [hplan] at houtcome
      simp only [Program.after, if_true]
      by_cases hconflict : row.status ≠ p.status ∨ row.checksum ≠ some p.checksum
      · simp only [if_pos hconflict] at houtcome ⊢
        exact houtcome
      · simp only [if_neg hconflict] at houtcome ⊢
        rw [wp_inTransaction]
        cases hreplay : replay env s row p with
        | ok result =>
            rw [hreplay] at houtcome
            have hrun : (fun s => (replay env s row p).map fun result => (result, s)) s =
                .ok (result, s) := by
              simp only [hreplay, Except.map]
            rw [commit_of_ok hrun]
            exact houtcome
        | error e =>
            rw [hreplay] at houtcome
            have hrun : (fun s => (replay env s row p).map fun result => (result, s)) s =
                .error e := by
              simp only [hreplay, Except.map]
            rw [commit_of_error hrun]
            obtain ⟨code, rfl⟩ := replay_error hreplay
            exact houtcome

/-- **What a build can do.** -/
theorem build_outcome (platform : Platform) (env : Surroundings) (request : SnapshotBuildRequest)
    (s : Store) : Outcome platform env request s (build platform env request s).1
      (build platform env request s).2 := by
  change Program.wp (build platform env request) (Outcome platform env request s) s
  unfold build
  rw [Program.wp_bind, wp_catchAll, wp_inTransaction]
  cases hopen : getOrCreateSnapshot env request s with
  | error e =>
      rw [commit_of_error hopen]
      exact .unavailable e hopen
  | ok found =>
      obtain ⟨⟨row, created⟩, s₁⟩ := found
      rw [commit_of_ok hopen]
      simp only [caught, Program.after]
      rcases getOrCreateSnapshot_spec hopen with ⟨rfl, hmem, hnames, rfl⟩ | ⟨rfl, hopened⟩
      · by_cases hbuilding : row.status = .building
        · simpa [hbuilding] using buildSnapshot_opened (.found row hmem hnames hbuilding)
        · simpa [hbuilding] using buildSnapshot_terminal hmem hnames hbuilding
      · simpa using buildSnapshot_opened hopened

/-! ## What the operations write -/

lemma Opened.spec {row : DataSnapshotRecord} {s₁ : Store} (h : Opened env request s row s₁) :
    row ∈ s₁.snapshots.rows ∧ request.names row ∧ row.status = .building ∧ s₁.items = s.items ∧
      (∀ r ∈ s.snapshots.rows, r ∈ s₁.snapshots.rows) ∧
      ∀ r ∈ s₁.snapshots.rows, r ∈ s.snapshots.rows ∨ r = row := by
  cases h with
  | found _ mem names building =>
      exact ⟨mem, names, building, rfl, fun r hr => hr, fun r hr => .inl hr⟩
  | created absent t inserted =>
      have hrows := Table.rows_insert inserted
      refine ⟨?_, ⟨rfl, rfl, rfl⟩, rfl, rfl, ?_, ?_⟩ <;> simp only [hrows]
      · simp
      · intro r hr
        simp [hr]
      · intro r hr
        simpa using hr

/-- The rows after an update of one snapshot. -/
structure Updated (s : Store) (row : DataSnapshotRecord) (u : DataSnapshotUpdate) (s' : Store) :
    Prop where
  items : s'.items = s.items
  rows : s'.snapshots.rows = s.snapshots.rows.map fun r => if r.id = row.id then r.updated u else r

lemma updateSnapshot_spec {row row' : DataSnapshotRecord} {u : DataSnapshotUpdate}
    (hrow : row ∈ s.snapshots.rows) (h : updateSnapshot row.id u s = .ok (row', s')) :
    row' = row.updated u ∧ Updated s row u s' := by
  unfold updateSnapshot at h
  rw [query_bind] at h
  obtain ⟨found, hfound, h⟩ := fetch_bind_ok.mp h
  obtain ⟨-, h⟩ := raiseIf_bind_ok.mp h
  obtain ⟨t, ht, h⟩ := write_map_bind_ok.mp h
  cases h
  obtain ⟨hmem, hid⟩ := Table.mem_of_selectOne hfound
  obtain rfl : found = row := s.snapshots.eq_of_clash hmem hrow (.inl (of_decide_eq_true hid))
  refine ⟨rfl, rfl, ?_⟩
  have hrows := Table.rows_update ht
  simpa using hrows

/-- A snapshot that is being built can be updated to a terminal status. -/
lemma updateSnapshot_ok {row : DataSnapshotRecord} {u : DataSnapshotUpdate}
    (hrow : row ∈ s.snapshots.rows) (hbuilding : row.status = .building)
    (hshape : u.status.shape (some u.completedAt) u.checksum) :
    ∃ r, updateSnapshot row.id u s = .ok r := by
  have hfound : s.snapshots.selectOne (fun r => decide (r.id = row.id)) = some row :=
    Table.selectOne_of_mem hrow (by simp) fun r hr => .inl (of_decide_eq_true hr)
  have hupdate : ∃ t, s.snapshots.update (fun r => decide (r.id = row.id)) (·.updated u) = some t := by
    refine Table.update_isSome ?_ ?_
    · intro a ha b hb hclash
      have hkeys : ∀ r : DataSnapshotRecord,
          (if decide (r.id = row.id) = true then r.updated u else r).id = r.id ∧
            (if decide (r.id = row.id) = true then r.updated u else r).securityId = r.securityId ∧
            (if decide (r.id = row.id) = true then r.updated u else r).researchAsOfTime =
              r.researchAsOfTime ∧
            (if decide (r.id = row.id) = true then r.updated u else r).snapshotVersion =
              r.snapshotVersion := by
        intro r
        split <;> exact ⟨rfl, rfl, rfl, rfl⟩
      obtain ⟨ha₁, ha₂, ha₃, ha₄⟩ := hkeys a
      obtain ⟨hb₁, hb₂, hb₃, hb₄⟩ := hkeys b
      unfold Schema.clash instSchemaDataSnapshotRecord at hclash ⊢
      simpa only [ha₁, ha₂, ha₃, ha₄, hb₁, hb₂, hb₃, hb₄] using hclash
    · intro r hr _
      exact ⟨(s.snapshots.checked r hr).1, hshape⟩
  obtain ⟨t, ht⟩ := hupdate
  refine ⟨(row.updated u, { s with snapshots := t }), ?_⟩
  unfold updateSnapshot
  rw [query_bind, hfound, fetch_some_bind, raiseIf_bind_ok]
  refine ⟨by simp [hbuilding], ?_⟩
  rw [write_map_bind_ok]
  exact ⟨t, ht, rfl⟩

/-- What the loop over the items writes. -/
lemma addItems_spec {items : List SnapshotItemWrite} {snapshotId : Uuid} {k : Nat}
    {rows : List SnapshotItemRecord}
    (h : ((items.zipIdx k).mapM fun x : SnapshotItemWrite × Nat =>
      addSnapshotItem env (x.1.under snapshotId) x.2) s = .ok (rows, s')) :
    s'.snapshots = s.snapshots ∧ s'.items.rows = s.items.rows ++ rows ∧
      rows.map (·.toSnapshotItemWrite) = items.map (·.under snapshotId) := by
  induction items generalizing s k rows with
  | nil =>
      cases h
      exact ⟨rfl, by simp, rfl⟩
  | cons item items ih =>
      rw [List.zipIdx_cons, List.mapM_cons] at h
      obtain ⟨row, s₁, hadd, h⟩ := bind_ok.mp h
      obtain ⟨rest, s₂, hrest, h⟩ := bind_ok.mp h
      cases h
      unfold addSnapshotItem at hadd
      obtain ⟨-, -, hadd⟩ := lift_bind_ok.mp hadd
      obtain ⟨t, ht, hadd⟩ := write_map_bind_ok.mp hadd
      cases hadd
      obtain ⟨hsnapshots, hrows, hmap⟩ := ih hrest
      refine ⟨hsnapshots, ?_, ?_⟩
      · rw [hrows, Table.rows_insert ht]
        simp
      · rw [List.map_cons, List.map_cons, hmap]

/-- What an attempt writes and returns. -/
structure Attempted (platform : Platform) (s : Store) (row : DataSnapshotRecord) (p : Plan)
    (result : SnapshotBuildResult) (s' : Store) (rows : List SnapshotItemRecord)
    (completedAt : Instant) : Prop where
  added : s'.items.rows = s.items.rows ++ rows
  written : rows.map (·.toSnapshotItemWrite) = p.items.map (·.under row.id)
  updated : s'.snapshots.rows = s.snapshots.rows.map fun r => if r.id = row.id then
    r.updated ⟨p.status, completedAt, some p.checksum, notes platform p.warnings⟩ else r
  returned : result =
    ⟨row.updated ⟨p.status, completedAt, some p.checksum, notes platform p.warnings⟩,
      rows.map (·.summary), p.status, p.checksum, p.warnings⟩

lemma attempt_spec {row : DataSnapshotRecord} {p : Plan} {result : SnapshotBuildResult}
    (hrow : row ∈ s.snapshots.rows) (h : attempt platform env row p s = .ok (result, s')) :
    ∃ rows completedAt, Attempted platform s row p result s' rows completedAt := by
  unfold attempt at h
  obtain ⟨-, -, h⟩ := lift_bind_ok.mp h
  obtain ⟨rows, s₁, hadd, h⟩ := bind_ok.mp h
  obtain ⟨completedAt, -, h⟩ := lift_bind_ok.mp h
  obtain ⟨-, -, h⟩ := lift_bind_ok.mp h
  obtain ⟨completed, s₂, hupdate, h⟩ := bind_ok.mp h
  obtain ⟨-, -, h⟩ := lift_bind_ok.mp h
  obtain ⟨-, -, h⟩ := lift_bind_ok.mp h
  cases h
  obtain ⟨hsnapshots, hrows, hmap⟩ := addItems_spec hadd
  rw [← hsnapshots] at hrow
  obtain ⟨rfl, hitems, hupdated⟩ := updateSnapshot_spec hrow hupdate
  refine ⟨rows, completedAt, ?_, hmap, ?_, rfl⟩
  · rw [hitems, hrows]
  · rw [hupdated, hsnapshots]

/-! ## Plans -/

def SnapshotItemWrite.key (item : SnapshotItemWrite) : String ×ₗ String ×ₗ String ×ₗ String :=
  toLex (item.category.value, toLex (item.sourceRecordType,
    toLex (item.sourceRecordId.str, item.providerId.str)))

/-- What is planned to be stored. -/
structure Planned (platform : Platform) (request : SnapshotBuildRequest) (p : Plan) : Prop where
  sorted : p.items.Pairwise fun a b => a.key ≤ b.key
  checksum : snapshotChecksum platform request p.items p.warnings = .ok p.checksum
  status : p.status = if p.warnings ≠ [] then .partly else .complete
  items : ∀ item ∈ p.items, item.checksum = platform.sha256 item.checksumInput
  length : p.items.length ≤ 396

lemma selectCategory_length {localDate : Date} {category : DataCategory}
    {round : List (DataCategory × SnapshotSourceRecord) × List String}
    (h : selectCategory env request localDate category = .ok round) : round.1.length ≤ 99 := by
  unfold selectCategory at h
  obtain ⟨⟨candidates, preferredMissing⟩, -, h⟩ := Checked.bind_ok.mp h
  cases h
  have hlimit := request.itemLimit_bounds
  simp only [List.length_map, List.length_take]
  omega

lemma categories_length (request : SnapshotBuildRequest) : request.categories.length ≤ 4 := by
  have hnodup : request.categories.Nodup := by
    refine request.categories_sorted.imp ?_
    rintro a b hlt rfl
    exact lt_irrefl _ hlt
  have hsubset : request.categories ⊆
      [.dailyPrices, .corporateActions, .financialFacts, .filingMetadata] := by
    intro c _
    cases c <;> simp
  exact (List.subperm_of_subset hnodup hsubset).length_le

lemma flatMap_length_le {α β : Type} {f : α → List β} {n : Nat} {xs : List α}
    (h : ∀ x ∈ xs, (f x).length ≤ n) : (xs.flatMap f).length ≤ xs.length * n := by
  induction xs with
  | nil => simp
  | cons x xs ih =>
      have hx := h x (by simp)
      have hxs := ih fun y hy => h y (by simp [hy])
      rw [List.flatMap_cons, List.length_append, List.length_cons, Nat.add_mul, Nat.one_mul]
      omega

lemma plan_spec {p : Plan} (h : plan platform env request = .ok p) : Planned platform request p := by
  unfold plan at h
  obtain ⟨⟨selected, warnings⟩, hselect, h⟩ := Checked.bind_ok.mp h
  obtain ⟨checksum, hchecksum, h⟩ := Checked.bind_ok.mp h
  cases h
  unfold select at hselect
  obtain ⟨localDate, -, hselect⟩ := Checked.bind_ok.mp hselect
  obtain ⟨rounds, hrounds, hselect⟩ := Checked.bind_ok.mp hselect
  cases hselect
  refine ⟨?_, hchecksum, rfl, ?_, ?_⟩
  · rw [List.pairwise_map]
    exact List.pairwise_insertionSort (fun a b => selectionKey a ≤ selectionKey b) _
  · intro item hitem
    obtain ⟨x, -, rfl⟩ := List.mem_map.mp hitem
    rfl
  · have hcalls := Checked.forall₂_mapM (fun _ _ hround => hround) hrounds
    have hlength : ∀ round ∈ rounds, round.1.length ≤ 99 := by
      intro round hround
      obtain ⟨category, -, hcall⟩ := Checked.exists_of_forall₂ hcalls.flip hround
      exact selectCategory_length hcall
    have hcount := hcalls.length_eq
    have hfour := categories_length request
    have htotal : (rounds.flatMap (·.1)).length ≤ rounds.length * 99 := flatMap_length_le hlength
    simp only [List.length_map, List.length_insertionSort]
    omega

/-! ## The items of a snapshot -/

/-- Items of one snapshot that are in the order of selection are in the order of a replay: the texts
of identifiers are ordered as the identifiers are, and no record is stored twice. -/
lemma replayKey_le {a b : SnapshotItemRecord} (hsnapshot : a.snapshotId = b.snapshotId)
    (hclash : ¬ Schema.clash a b) (hkey : a.key ≤ b.key) : replayKey a ≤ replayKey b := by
  unfold SnapshotItemWrite.key at hkey
  unfold replayKey
  rw [Prod.Lex.toLex_le_toLex, Prod.Lex.toLex_le_toLex, Prod.Lex.toLex_le_toLex] at hkey ⊢
  dsimp only at hkey ⊢
  refine hkey.imp id (And.imp id (Or.imp id ?_))
  rintro ⟨htype, hid⟩
  refine ⟨htype, .inl ?_⟩
  have hle : a.sourceRecordId ≤ b.sourceRecordId := by
    rcases hid with hlt | ⟨heq, -⟩
    · exact Uuid.str_le_str.mp hlt.le
    · exact Uuid.str_le_str.mp heq.le
  refine lt_of_le_of_ne hle fun heq => hclash (.inr ⟨hsnapshot, htype, heq⟩)

/-- Items that are added to a snapshot without items are its items, in this order. -/
lemma itemsOf_added {id : Uuid} {rows : List SnapshotItemRecord}
    (hadded : s'.items.rows = s.items.rows ++ rows)
    (hbare : ∀ item ∈ s.items.rows, item.snapshotId ≠ id) (hrows : ∀ item ∈ rows, item.snapshotId = id)
    (hsorted : rows.Pairwise fun a b => a.key ≤ b.key) : s'.itemsOf id = rows := by
  have hselect : s'.items.select (fun item => decide (item.snapshotId = id)) = rows := by
    unfold Table.select
    rw [hadded, List.filter_append, List.filter_eq_nil_iff.mpr, List.filter_eq_self.mpr,
      List.nil_append]
    · intro item hitem
      exact decide_eq_true (hrows item hitem)
    · intro item hitem
      simpa using hbare item hitem
  have hkeyed := s'.items.keyed
  rw [hadded, List.pairwise_append] at hkeyed
  have hreplay : rows.Pairwise fun a b => replayKey a ≤ replayKey b := by
    refine (hsorted.and hkeyed.2.1).imp_of_mem ?_
    rintro a b ha hb ⟨hkey, hclash⟩
    exact replayKey_le ((hrows a ha).trans (hrows b hb).symm) hclash hkey
  unfold Store.itemsOf
  rw [hselect]
  exact hreplay.insertionSort_eq

/-- The items of the other snapshots stay. -/
lemma select_added {id other : Uuid} {rows : List SnapshotItemRecord}
    (hadded : s'.items.rows = s.items.rows ++ rows) (hrows : ∀ item ∈ rows, item.snapshotId = id)
    (hother : other ≠ id) :
    s'.items.select (fun item => decide (item.snapshotId = other)) =
      s.items.select fun item => decide (item.snapshotId = other) := by
  unfold Table.select
  have hnone : rows.filter (fun item => decide (item.snapshotId = other)) = [] := by
    rw [List.filter_eq_nil_iff]
    intro item hitem
    simpa [hrows item hitem] using hother.symm
  rw [hadded, List.filter_append, hnone, List.append_nil]

/-! ## Runs -/

/-- One build of a run. -/
abbrev Call := Surroundings × SnapshotBuildRequest

def step (platform : Platform) (s : Store) (call : Call) :
    Except Raised SnapshotBuildResult × Store :=
  build platform call.1 call.2 s

def SnapshotStatus.done (status : SnapshotStatus) : Prop := status = .complete ∨ status = .partly

/-- The checksum of a snapshot is that of its stored items under the request that built it, and a
replay reads all of them. -/
structure Recomputed (platform : Platform) (calls : List Call) (s : Store) (row : DataSnapshotRecord) :
    Prop where
  checksum : ∃ call ∈ calls, ∃ warnings checksum, call.2.names row ∧
    (row.status = .partly ↔ warnings ≠ []) ∧ row.checksum = some checksum ∧
    snapshotChecksum platform call.2 ((s.itemsOf row.id).map (·.toSnapshotItemWrite)) warnings =
      .ok checksum
  items : ∀ item ∈ s.itemsOf row.id, item.checksum = platform.sha256 item.checksumInput
  count : s.items.count (·.snapshotId = row.id) = (s.itemsOf row.id).length ∧
    (s.itemsOf row.id).length ≤ 396

/-- What holds of a store after the given calls. -/
structure Settled (platform : Platform) (calls : List Call) (s : Store) : Prop where
  attached : ∀ item ∈ s.items.rows, ∃ row ∈ s.snapshots.rows,
    row.id = item.snapshotId ∧ row.status.done
  recomputed : ∀ row ∈ s.snapshots.rows, row.status.done → Recomputed platform calls s row
  building : ∀ row ∈ s.snapshots.rows, row.status = .building →
    ∃ call ∈ calls, call.2.names row ∧ call.1.markingFails

variable {calls : List Call}

lemma not_done_building {status : SnapshotStatus} (h : status = .building) : ¬ status.done := by
  rw [h]
  rintro (h | h) <;> cases h

/-- A snapshot that is not done has no items. -/
lemma Settled.bare (h : Settled platform calls s) {row : DataSnapshotRecord}
    (hrow : row ∈ s.snapshots.rows) (hdone : ¬ row.status.done) :
    ∀ item ∈ s.items.rows, item.snapshotId ≠ row.id := by
  intro item hitem hid
  obtain ⟨row', hrow', hid', hdone'⟩ := h.attached item hitem
  obtain rfl : row' = row := s.snapshots.eq_of_clash hrow' hrow (.inl (hid'.trans hid))
  exact hdone hdone'

/-- Neither has one that has just been opened. -/
lemma Settled.bare_opened (h : Settled platform calls s) {row : DataSnapshotRecord} {s₁ : Store}
    (opened : Opened env request s row s₁) : ∀ item ∈ s.items.rows, item.snapshotId ≠ row.id := by
  intro item hitem hid
  obtain ⟨hrow, -, hbuilding, -, hkept, -⟩ := opened.spec
  obtain ⟨row', hrow', hid', hdone'⟩ := h.attached item hitem
  obtain rfl : row' = row :=
    s₁.snapshots.eq_of_clash (hkept row' hrow') hrow (.inl (hid'.trans hid))
  exact not_done_building hbuilding hdone'

lemma Recomputed.mono {row : DataSnapshotRecord} (h : Recomputed platform calls s row)
    {call : Call} (hitems : s'.items.select (fun item => decide (item.snapshotId = row.id)) =
      s.items.select fun item => decide (item.snapshotId = row.id)) :
    Recomputed platform (calls ++ [call]) s' row := by
  have hsame : s'.itemsOf row.id = s.itemsOf row.id := by
    unfold Store.itemsOf
    rw [hitems]
  obtain ⟨⟨c, hc, hchecksum⟩, hsha, hcount⟩ := h
  refine ⟨⟨c, List.mem_append_left _ hc, ?_⟩, ?_, ?_⟩
  · rwa [hsame]
  · rwa [hsame]
  · unfold Table.count at hcount ⊢
    rwa [hsame, hitems]

/-- The rows after an update of the row that was opened. -/
lemma mem_updated {row : DataSnapshotRecord} {s₁ : Store} (hrow : row ∈ s₁.snapshots.rows)
    {u : DataSnapshotUpdate} {rows : List DataSnapshotRecord}
    (h : rows = s₁.snapshots.rows.map fun r => if r.id = row.id then r.updated u else r)
    {r : DataSnapshotRecord} :
    r ∈ rows ↔ r = row.updated u ∨ r ∈ s₁.snapshots.rows ∧ r.id ≠ row.id := by
  rw [h, List.mem_map]
  constructor
  · rintro ⟨r₀, hr₀, rfl⟩
    by_cases hid : r₀.id = row.id
    · obtain rfl : r₀ = row := s₁.snapshots.eq_of_clash hr₀ hrow (.inl hid)
      exact .inl (if_pos rfl)
    · rw [if_neg hid]
      exact .inr ⟨hr₀, hid⟩
  · rintro (rfl | ⟨hr, hid⟩)
    · exact ⟨row, hrow, if_pos rfl⟩
    · exact ⟨r, hr, if_neg hid⟩

/-- A row of another snapshot is an old one. -/
lemma Opened.mem_of_ne {row r : DataSnapshotRecord} {s₁ : Store} (h : Opened env request s row s₁)
    (hr : r ∈ s₁.snapshots.rows) (hid : r.id ≠ row.id) : r ∈ s.snapshots.rows := by
  obtain ⟨-, -, -, -, -, hnew⟩ := h.spec
  rcases hnew r hr with hr | rfl
  · exact hr
  · exact absurd rfl hid

lemma Opened.ne_of_terminal {row r : DataSnapshotRecord} {s₁ : Store}
    (h : Opened env request s row s₁) (hr : r ∈ s.snapshots.rows) (hterminal : r.status ≠ .building) :
    r ∈ s₁.snapshots.rows ∧ r.id ≠ row.id := by
  obtain ⟨hrow, -, hbuilding, -, hkept, -⟩ := h.spec
  refine ⟨hkept r hr, fun hid => ?_⟩
  obtain rfl : r = row := s₁.snapshots.eq_of_clash (hkept r hr) hrow (.inl hid)
  exact hterminal hbuilding

lemma itemsOf_length (s : Store) (id : Uuid) :
    s.items.count (fun item => decide (item.snapshotId = id)) = (s.itemsOf id).length := by
  unfold Table.count Store.itemsOf
  rw [List.length_insertionSort]

lemma snapshotChecksum_under (items : List SnapshotItemWrite) (id : Uuid) (warnings : List String) :
    snapshotChecksum platform request (items.map (·.under id)) warnings =
      snapshotChecksum platform request items warnings := by
  unfold snapshotChecksum
  have hdocuments : (items.map (·.under id)).mapM itemDocument = items.mapM itemDocument := by
    rw [List.mapM_map]
    rfl
  rw [hdocuments]

/-- The rows that an attempt adds belong to its snapshot. -/
lemma Attempted.snapshotId {row : DataSnapshotRecord} {p : Plan} {result : SnapshotBuildResult}
    {rows : List SnapshotItemRecord} {completedAt : Instant}
    (h : Attempted platform s row p result s' rows completedAt) :
    ∀ item ∈ rows, item.snapshotId = row.id := by
  intro item hitem
  have hmem : item.toSnapshotItemWrite ∈ p.items.map (·.under row.id) := by
    rw [← h.written]
    exact List.mem_map_of_mem hitem
  obtain ⟨write, -, hwrite⟩ := List.mem_map.mp hmem
  rw [← hwrite]
  rfl

/-- They are all its items afterwards. -/
lemma Attempted.itemsOf {row : DataSnapshotRecord} {p : Plan} {result : SnapshotBuildResult}
    {rows : List SnapshotItemRecord} {completedAt : Instant}
    (h : Attempted platform s row p result s' rows completedAt)
    (hplanned : Planned platform request p)
    (hbare : ∀ item ∈ s.items.rows, item.snapshotId ≠ row.id) : s'.itemsOf row.id = rows := by
  refine itemsOf_added h.added hbare h.snapshotId ?_
  have hsorted : (rows.map (·.toSnapshotItemWrite)).Pairwise fun a b => a.key ≤ b.key := by
    rw [h.written, List.pairwise_map]
    exact hplanned.sorted
  rwa [List.pairwise_map] at hsorted

lemma Attempted.recomputed {row : DataSnapshotRecord} {p : Plan} {result : SnapshotBuildResult}
    {rows : List SnapshotItemRecord} {completedAt : Instant}
    (h : Attempted platform s row p result s' rows completedAt)
    (hplanned : Planned platform request p) (hnames : request.names row)
    (hbare : ∀ item ∈ s.items.rows, item.snapshotId ≠ row.id) :
    Recomputed platform (calls ++ [(env, request)]) s'
      (row.updated ⟨p.status, completedAt, some p.checksum, notes platform p.warnings⟩) := by
  have hitems : s'.itemsOf row.id = rows := h.itemsOf hplanned hbare
  refine ⟨⟨(env, request), by simp, p.warnings, p.checksum, hnames, ?_, rfl, ?_⟩, ?_, ?_, ?_⟩
  · change p.status = .partly ↔ p.warnings ≠ []
    rw [hplanned.status]
    split_ifs with hwarnings <;> simp [hwarnings]
  · change snapshotChecksum platform request ((s'.itemsOf row.id).map (·.toSnapshotItemWrite)) _ = _
    rw [hitems, h.written, snapshotChecksum_under]
    exact hplanned.checksum
  · change ∀ item ∈ s'.itemsOf row.id, _
    rw [hitems]
    intro item hitem
    have hmem : item.toSnapshotItemWrite ∈ p.items.map (·.under row.id) := by
      rw [← h.written]
      exact List.mem_map_of_mem hitem
    obtain ⟨write, hwrite, hunder⟩ := List.mem_map.mp hmem
    rw [← hunder]
    exact hplanned.items write hwrite
  · exact itemsOf_length s' row.id
  · change (s'.itemsOf row.id).length ≤ 396
    rw [hitems, ← List.length_map (f := (·.toSnapshotItemWrite)), h.written, List.length_map]
    exact hplanned.length

/-- A call that writes nothing. -/
lemma Settled.append (h : Settled platform calls s) (call : Call) :
    Settled platform (calls ++ [call]) s := by
  refine ⟨h.attached, fun row hrow hdone => (h.recomputed row hrow hdone).mono rfl, ?_⟩
  intro row hrow hbuilding
  obtain ⟨c, hc, hrow⟩ := h.building row hrow hbuilding
  exact ⟨c, List.mem_append_left _ hc, hrow⟩

/-- Updating the snapshot that was opened to a terminal status, with all the new items under it. -/
lemma Settled.updated (h : Settled platform calls s) {call : Call} {row : DataSnapshotRecord}
    {s₁ : Store} (opened : Opened call.1 call.2 s row s₁) {u : DataSnapshotUpdate}
    (hrows : s'.snapshots.rows =
      s₁.snapshots.rows.map fun r => if r.id = row.id then r.updated u else r)
    (hitems : ∀ item ∈ s'.items.rows, item ∈ s.items.rows ∨
      item.snapshotId = row.id ∧ u.status.done)
    (hother : ∀ id ≠ row.id, s'.items.select (fun item => decide (item.snapshotId = id)) =
      s.items.select fun item => decide (item.snapshotId = id))
    (hterminal : u.status ≠ .building)
    (hrecomputed : u.status.done → Recomputed platform (calls ++ [call]) s' (row.updated u)) :
    Settled platform (calls ++ [call]) s' := by
  obtain ⟨hrow, -, -, -, hkept, -⟩ := opened.spec
  have hbare := h.bare_opened opened
  have hmem := fun r => mem_updated hrow hrows (r := r)
  refine ⟨?_, ?_, ?_⟩
  · intro item hitem
    rcases hitems item hitem with hitem | ⟨hid, hdone⟩
    · obtain ⟨r, hr, hid, hdone⟩ := h.attached item hitem
      have hne : r.id ≠ row.id := hid ▸ hbare item hitem
      exact ⟨r, (hmem r).mpr (.inr ⟨hkept r hr, hne⟩), hid, hdone⟩
    · exact ⟨row.updated u, (hmem _).mpr (.inl rfl), hid.symm, hdone⟩
  · intro r hr hdone
    rcases (hmem r).mp hr with rfl | ⟨hr, hid⟩
    · exact hrecomputed hdone
    · exact (h.recomputed r (opened.mem_of_ne hr hid) hdone).mono (hother r.id hid)
  · intro r hr hbuilding
    rcases (hmem r).mp hr with rfl | ⟨hr, hid⟩
    · exact absurd hbuilding hterminal
    · exact (h.append call).building r (opened.mem_of_ne hr hid) hbuilding

/-- Marking a snapshot that is being built fails in the surroundings, not in the store. -/
lemma Opened.markingFails {row : DataSnapshotRecord} {s₁ : Store} (h : Opened env request s row s₁)
    (unmarked : env.markingFails ∨
      ∃ failedAt e, updateSnapshot row.id (failedUpdate failedAt) s₁ = .error e) :
    env.markingFails := by
  obtain ⟨hrow, -, hbuilding, -⟩ := h.spec
  rcases unmarked with hfails | ⟨failedAt, e, herror⟩
  · exact hfails
  · have hshape : (failedUpdate failedAt).status.shape (some (failedUpdate failedAt).completedAt)
        (failedUpdate failedAt).checksum := ⟨by simp, rfl⟩
    obtain ⟨r, hr⟩ := updateSnapshot_ok hrow hbuilding hshape
    rw [hr] at herror
    cases herror

/-- A build keeps what is settled. -/
lemma Settled.outcome (h : Settled platform calls s) {call : Call}
    {r : Except Raised SnapshotBuildResult} (ho : Outcome platform call.1 call.2 s r s') :
    Settled platform (calls ++ [call]) s' := by
  cases ho with
  | unavailable => exact h.append call
  | replayed => exact h.append call
  | completed row s₁ opened p planned result s₂ attempted =>
      obtain ⟨hrow, hnames, -, hitems, -, -⟩ := opened.spec
      obtain ⟨rows, completedAt, hattempt⟩ := attempt_spec hrow attempted
      have hplanned := plan_spec planned
      have hbare : ∀ item ∈ s₁.items.rows, item.snapshotId ≠ row.id := by
        rw [hitems]
        exact h.bare_opened opened
      have hdone : p.status.done := by
        rw [hplanned.status]
        split_ifs
        · exact .inr rfl
        · exact .inl rfl
      refine h.updated opened hattempt.updated ?_ ?_ (fun hb => not_done_building hb hdone)
        fun _ => hattempt.recomputed hplanned hnames hbare
      · intro item hitem
        rw [hattempt.added, List.mem_append, hitems] at hitem
        exact hitem.imp id fun hitem => ⟨hattempt.snapshotId item hitem, hdone⟩
      · intro id hid
        rw [select_added hattempt.added hattempt.snapshotId hid, hitems]
  | failed row s₁ opened failedAt row' s₂ marked e =>
      obtain ⟨hrow, -, -, hitems, -, -⟩ := opened.spec
      obtain ⟨-, hitems', hupdated⟩ := updateSnapshot_spec hrow marked
      refine h.updated opened hupdated ?_ ?_ (by simp [failedUpdate]) ?_
      · intro item hitem
        rw [hitems', hitems] at hitem
        exact .inl hitem
      · intro id _
        rw [hitems', hitems]
      · rintro (hdone | hdone) <;> cases hdone
  | stuck row s₁ opened unmarked e =>
      obtain ⟨-, hnames, hbuilding, hitems, hkept, hnew⟩ := opened.spec
      refine ⟨?_, ?_, ?_⟩
      · intro item hitem
        rw [hitems] at hitem
        obtain ⟨r, hr, hid, hdone⟩ := h.attached item hitem
        exact ⟨r, hkept r hr, hid, hdone⟩
      · intro r hr hdone
        rcases hnew r hr with hr | rfl
        · refine (h.recomputed r hr hdone).mono ?_
          rw [hitems]
        · exact absurd hdone (not_done_building hbuilding)
      · intro r hr hrbuilding
        rcases hnew r hr with hr | rfl
        · exact (h.append call).building r hr hrbuilding
        · exact ⟨call, by simp, hnames, opened.markingFails unmarked⟩

/-- The store before any build. -/
def Store.empty : Store := ⟨∅, ∅⟩

/-- **The run lemma.** -/
lemma settled_finish (platform : Platform) (calls : List Call) :
    Settled platform calls (finish (step platform) Store.empty calls) := by
  induction calls using List.reverseRecOn with
  | nil =>
      refine ⟨?_, ?_, ?_⟩
      · intro item hitem
        cases hitem
      · intro row hrow
        cases hrow
      · intro row hrow
        cases hrow
  | append_singleton calls call ih =>
      unfold finish at ih ⊢
      rw [List.foldl_append]
      exact ih.outcome (build_outcome platform call.1 call.2 _)

/-! ## Replays -/

/-- Nothing is in the way of a build: no operation fails, the stored rows validate, and the cutoff has
a date in the zone of the exchange. -/
structure Surroundings.Calm (platform : Platform) (env : Surroundings)
    (request : SnapshotBuildRequest) : Prop where
  fault : ∀ op, env.fault op = none
  prices : ∀ r ∈ env.evidence.dailyPriceBars.rows, r.readable = true
  actions : ∀ r ∈ env.evidence.corporateActions.rows, r.readable = true
  facts : ∀ r ∈ env.evidence.financialFacts.rows, r.readable = true
  documents : ∀ r ∈ env.evidence.sourceDocuments.rows, r.readable = true
  localDate : platform.localDate request.exchangeTimezone request.researchAsOfTime ≠ none

lemma perform_calm (h : env.Calm platform request) (op : Operation) : env.perform op = .ok () := by
  unfold Surroundings.perform
  rw [h.fault op]

lemma listRows_ok {ρ κ : Type} [Schema ρ] [LinearOrder κ] {source : ρ → SourceRow} {rank : ρ → κ}
    {t : Table ρ} {also : ρ → Bool} {q : EvidenceQuery} (hlimit : 1 ≤ q.limit ∧ q.limit ≤ 100)
    (h : ∀ r ∈ t.rows, (source r).readable = true) :
    ∃ rows, listRows source rank t also q = .ok rows := by
  unfold listRows
  obtain ⟨rows, hrows⟩ : ∃ rows, (((t.select fun r => decide (q.admits (source r)) && also r).insertionSort
      fun a b => orderKey source rank a ≤ orderKey source rank b).take q.limit).mapM
        (safeRecord source) = .ok rows := by
    rw [Checked.exists_mapM_ok]
    intro r hr
    have hmem : r ∈ t.rows :=
      (Table.mem_select.mp ((List.mem_insertionSort _).mp (List.mem_of_mem_take hr))).1
    exact ⟨r, if_pos (h r hmem)⟩
  exact ⟨rows, Checked.check_bind_ok.mpr ⟨not_not.mpr hlimit, hrows⟩⟩

lemma mapped_ok {ρ : Type} {x : Except Failure (List ρ)} {f : ρ → SnapshotSourceRecord}
    (h : ∃ rows, x = .ok rows) :
    ∃ records, (x.map (List.map f)).mapError Raised.failure = .ok records := by
  obtain ⟨rows, rfl⟩ := h
  exact ⟨_, rfl⟩

lemma queryCategory_ok (h : env.Calm platform request) (category : DataCategory) (localDate : Date)
    (providerId : Option Uuid) :
    ∃ records, queryCategory env request category localDate providerId = .ok records := by
  have hbounds := request.itemLimit_bounds
  have hlimit : 1 ≤ request.itemLimit + 1 ∧ request.itemLimit + 1 ≤ 100 := by omega
  unfold queryCategory
  rw [perform_calm h, Checked.ok_bind]
  cases category with
  | dailyPrices => exact mapped_ok (listRows_ok hlimit h.prices)
  | corporateActions => exact mapped_ok (listRows_ok hlimit h.actions)
  | financialFacts => exact mapped_ok (listRows_ok hlimit h.facts)
  | filingMetadata => exact mapped_ok (listRows_ok hlimit h.documents)

lemma preferredCandidates_ok (h : env.Calm platform request) (category : DataCategory)
    (localDate : Date) (providers : List Uuid) :
    ∃ r, preferredCandidates env request category localDate providers = .ok r := by
  induction providers with
  | nil => exact ⟨_, rfl⟩
  | cons providerId rest ih =>
      obtain ⟨records, hrecords⟩ := queryCategory_ok h category localDate (some providerId)
      unfold preferredCandidates
      rw [hrecords, Checked.ok_bind]
      dsimp only
      split
      · exact ⟨_, rfl⟩
      · exact ih

lemma selectCategory_ok (h : env.Calm platform request) (localDate : Date)
    (category : DataCategory) : ∃ r, selectCategory env request localDate category = .ok r := by
  obtain ⟨r, hr⟩ : ∃ r, categoryCandidates env request category localDate = .ok r := by
    unfold categoryCandidates
    split
    · exact preferredCandidates_ok h category localDate _
    · obtain ⟨records, hrecords⟩ := queryCategory_ok h category localDate none
      rw [hrecords]
      exact ⟨_, rfl⟩
  unfold selectCategory
  rw [hr]
  exact ⟨_, rfl⟩

/-- The descriptor of an item can be read back. -/
lemma itemDocument_ok (x : DataCategory × SnapshotSourceRecord) :
    ∃ document, itemDocument (itemWrite platform x) = .ok document := by
  have hplain : PyJson.Plain (descriptor x.2 x.1) := by
    unfold descriptor
    refine ⟨by simp, ?_⟩
    cases x.2.source.publishedAt <;>
      simp [PyJson.PlainFields, PyJson.Plain, optionalTime]
  have hloads := PyJson.loads_canonicalText hplain
  refine ⟨_, Checked.require_bind_ok.mpr ⟨_, hloads, rfl⟩⟩

/-- Where nothing is in the way, a build has a plan. -/
lemma plan_ok (h : env.Calm platform request) : ∃ p, plan platform env request = .ok p := by
  obtain ⟨localDate, hdate⟩ := Option.ne_none_iff_exists'.mp h.localDate
  obtain ⟨rounds, hrounds⟩ : ∃ rounds,
      request.categories.mapM (selectCategory env request localDate) = .ok rounds :=
    Checked.exists_mapM_ok.mpr fun category _ => selectCategory_ok h localDate category
  obtain ⟨selected, hselected⟩ : ∃ selected, select platform env request = .ok selected := by
    unfold select
    rw [hdate]
    exact ⟨_, Checked.bind_ok.mpr ⟨localDate, rfl, Checked.bind_ok.mpr ⟨rounds, hrounds, rfl⟩⟩⟩
  obtain ⟨documents, hdocuments⟩ : ∃ documents,
      (selected.1.map (itemWrite platform)).mapM itemDocument = .ok documents := by
    rw [Checked.exists_mapM_ok]
    intro item hitem
    obtain ⟨x, -, rfl⟩ := List.mem_map.mp hitem
    exact itemDocument_ok x
  obtain ⟨checksum, hchecksum⟩ : ∃ checksum, snapshotChecksum platform request
      (selected.1.map (itemWrite platform)) selected.2 = .ok checksum :=
    ⟨_, Checked.bind_ok.mpr ⟨documents, hdocuments, rfl⟩⟩
  exact ⟨_, Checked.bind_ok.mpr ⟨selected, hselected, Checked.bind_ok.mpr ⟨checksum, hchecksum, rfl⟩⟩⟩

/-- The answer is the stored snapshot with its stored items. -/
def StoredResult (s : Store) (row : DataSnapshotRecord) (r : Except Raised SnapshotBuildResult) :
    Prop :=
  ∃ result, r = .ok result ∧ result.snapshot = row ∧
    result.items = (s.itemsOf row.id).map (·.summary) ∧ result.status = row.status ∧
    row.checksum = some result.checksum

/-- A replay answers with the stored snapshot or with a conflict, or something is in the way. -/
lemma replayOutcome_spec (row : DataSnapshotRecord) :
    StoredResult s row (replayOutcome platform env request s row) ∨
      replayOutcome platform env request s row = .error (.snapshotBuildError .versionConflict) ∨
      ¬ env.Calm platform request ∧
        ∃ code, replayOutcome platform env request s row = .error (.snapshotBuildError code) := by
  unfold replayOutcome
  cases hplan : plan platform env request with
  | error e =>
      refine .inr (.inr ⟨?_, ?_⟩)
      · intro hcalm
        obtain ⟨p, hp⟩ := plan_ok hcalm
        rw [hp] at hplan
        cases hplan
      · cases e <;> exact ⟨_, rfl⟩
  | ok p =>
      dsimp only
      split_ifs with hconflict
      · exact .inr (.inl rfl)
      · push Not at hconflict
        unfold replay
        unfold listSnapshotItemsForReplay
        cases hlist : env.perform .listItems with
        | error e =>
            have hcalm : ¬ env.Calm platform request := fun hcalm =>
              perform_eq_error hlist (hcalm.fault _)
            simp only [bind, Except.bind]
            split
            · exact .inr (.inl rfl)
            · exact .inr (.inr ⟨hcalm, _, rfl⟩)
            · next heq => cases heq
        | ok _ =>
            rw [Checked.ok_bind]
            unfold Checked.check
            split_ifs with hmany
            · exact .inr (.inl rfl)
            · rw [Checked.ok_bind]
              simp only [pure, Except.pure]
              split_ifs
              · exact .inl ⟨_, rfl, rfl, rfl, hconflict.1.symm, hconflict.2⟩
              · exact .inr (.inl rfl)

/-! ## The law -/

/-- What a build does to the snapshots of a run. -/
structure BuildLaw (platform : Platform) (calls : List Call) (call : Call) (s : Store)
    (r : Except Raised SnapshotBuildResult) (s' : Store) : Prop where
  /-- A terminal snapshot stays as it is, and so do its items. -/
  frozen : ∀ row ∈ s.snapshots.rows, row.status ≠ .building → row ∈ s'.snapshots.rows ∧
    s'.items.select (·.snapshotId = row.id) = s.items.select (·.snapshotId = row.id)
  recomputed : ∀ row ∈ s'.snapshots.rows, row.status.done →
    Recomputed platform (calls ++ [call]) s' row
  /-- A build that raised, unless it was the replay of a terminal snapshot. -/
  raised : ∀ e, r = .error e →
    (∀ row ∈ s.snapshots.rows, call.2.names row → row.status = .building) →
    ∀ row ∈ s'.snapshots.rows, call.2.names row →
      (∀ item ∈ s'.items.rows, item.snapshotId ≠ row.id) ∧
        (row.status = .failed ∨ row.status = .building ∧
          ∃ c ∈ calls ++ [call], c.2.names row ∧ c.1.markingFails)
  replayed : ∀ row ∈ s.snapshots.rows, call.2.names row → row.status ≠ .building → s' = s ∧
    (StoredResult s row r ∨ r = .error (.snapshotBuildError .versionConflict) ∨
      ¬ call.1.Calm platform call.2 ∧ ∃ code, r = .error (.snapshotBuildError code))

lemma Outcome.frozen {r : Except Raised SnapshotBuildResult}
    (ho : Outcome platform env request s r s') {row : DataSnapshotRecord}
    (hrow : row ∈ s.snapshots.rows) (hterminal : row.status ≠ .building) :
    row ∈ s'.snapshots.rows ∧ s'.items.select (fun item => decide (item.snapshotId = row.id)) =
      s.items.select fun item => decide (item.snapshotId = row.id) := by
  cases ho with
  | unavailable => exact ⟨hrow, rfl⟩
  | replayed => exact ⟨hrow, rfl⟩
  | completed row₁ s₁ opened p planned result s₂ attempted =>
      obtain ⟨hrow₁, -, -, hitems, -, -⟩ := opened.spec
      obtain ⟨rows, completedAt, hattempt⟩ := attempt_spec hrow₁ attempted
      obtain ⟨hmem, hid⟩ := opened.ne_of_terminal hrow hterminal
      refine ⟨(mem_updated hrow₁ hattempt.updated).mpr (.inr ⟨hmem, hid⟩), ?_⟩
      rw [select_added hattempt.added hattempt.snapshotId hid, hitems]
  | failed row₁ s₁ opened failedAt row' s₂ marked e =>
      obtain ⟨hrow₁, -, -, hitems, -, -⟩ := opened.spec
      obtain ⟨-, hitems', hupdated⟩ := updateSnapshot_spec hrow₁ marked
      obtain ⟨hmem, hid⟩ := opened.ne_of_terminal hrow hterminal
      refine ⟨(mem_updated hrow₁ hupdated).mpr (.inr ⟨hmem, hid⟩), ?_⟩
      rw [hitems', hitems]
  | stuck row₁ s₁ opened unmarked e =>
      obtain ⟨hmem, -⟩ := opened.ne_of_terminal hrow hterminal
      obtain ⟨-, -, -, hitems, -, -⟩ := opened.spec
      exact ⟨hmem, by rw [hitems]⟩

/-- Two rows of one request are one row. -/
lemma eq_of_names {row row' : DataSnapshotRecord} (hrow : row ∈ s.snapshots.rows)
    (hrow' : row' ∈ s.snapshots.rows) (h : request.names row) (h' : request.names row') :
    row = row' := by
  refine s.snapshots.eq_of_clash hrow hrow' (.inr ⟨?_, ?_, ?_⟩)
  · exact h.1.trans h'.1.symm
  · exact h.2.1.trans h'.2.1.symm
  · exact h.2.2.trans h'.2.2.symm

/-- A build that raised leaves a snapshot that is failed or being built. -/
lemma Outcome.raised {r : Except Raised SnapshotBuildResult}
    (ho : Outcome platform env request s r s') {e : Raised} (hr : r = .error e)
    (hnew : ∀ row ∈ s.snapshots.rows, request.names row → row.status = .building)
    {row : DataSnapshotRecord} (hrow : row ∈ s'.snapshots.rows) (hnames : request.names row) :
    row.status = .failed ∨ row.status = .building := by
  cases ho with
  | unavailable => exact .inr (hnew row hrow hnames)
  | replayed row₁ mem names terminal => exact absurd (hnew row₁ mem names) terminal
  | completed => cases hr
  | failed row₁ s₁ opened failedAt row' s₂ marked _ =>
      obtain ⟨hrow₁, hnames₁, -, -, -, -⟩ := opened.spec
      obtain ⟨-, -, hupdated⟩ := updateSnapshot_spec hrow₁ marked
      have hmarked := (mem_updated hrow₁ hupdated).mpr (.inl rfl)
      obtain rfl := eq_of_names hrow hmarked hnames hnames₁
      exact .inl rfl
  | stuck row₁ s₁ opened unmarked _ =>
      obtain ⟨hrow₁, hnames₁, hbuilding, -, -, -⟩ := opened.spec
      obtain rfl := eq_of_names hrow hrow₁ hnames hnames₁
      exact .inr hbuilding

/-- A snapshot that is there cannot be looked up only if the operation fails. -/
lemma lookup_calm {row : DataSnapshotRecord} (hrow : row ∈ s.snapshots.rows)
    (hnames : request.names row) {e : Raised} (h : getOrCreateSnapshot env request s = .error e) :
    ¬ env.Calm platform request := by
  intro hcalm
  have hfound : ∃ r, s.snapshots.selectOne (fun row => decide (request.names row)) = some r := by
    rw [← Option.ne_none_iff_exists']
    intro hnone
    exact Table.selectOne_eq_none.mp hnone row hrow (decide_eq_true hnames)
  obtain ⟨r, hr⟩ := hfound
  have hok : getOrCreateSnapshot env request s = .ok ((r, false), s) := by
    unfold getOrCreateSnapshot
    rw [perform_calm hcalm, lift_bind_ok]
    refine ⟨(), rfl, ?_⟩
    rw [query_bind, hr]
    rfl
  rw [hok] at h
  cases h

/-- The build of a terminal snapshot writes nothing. -/
lemma Outcome.replay {r : Except Raised SnapshotBuildResult}
    (ho : Outcome platform env request s r s') {row : DataSnapshotRecord}
    (hrow : row ∈ s.snapshots.rows) (hnames : request.names row) (hterminal : row.status ≠ .building) :
    s' = s ∧ (StoredResult s row r ∨ r = .error (.snapshotBuildError .versionConflict) ∨
      ¬ env.Calm platform request ∧ ∃ code, r = .error (.snapshotBuildError code)) := by
  -- a snapshot that was opened would be this one, which is terminal
  have hopened : ∀ {row₁ s₁}, ¬ Opened env request s row₁ s₁ := by
    intro row₁ s₁ opened
    obtain ⟨hrow₁, hnames₁, -⟩ := opened.spec
    obtain ⟨hmem, hid⟩ := opened.ne_of_terminal hrow hterminal
    exact hid (congrArg (·.id) (eq_of_names hmem hrow₁ hnames hnames₁))
  cases ho with
  | unavailable e unopened =>
      exact ⟨rfl, .inr (.inr ⟨lookup_calm hrow hnames unopened, _, rfl⟩)⟩
  | replayed row₁ mem names terminal =>
      obtain rfl := eq_of_names hrow mem hnames names
      exact ⟨rfl, replayOutcome_spec row⟩
  | completed row₁ s₁ opened => exact absurd opened hopened
  | failed row₁ s₁ opened => exact absurd opened hopened
  | stuck row₁ s₁ opened => exact absurd opened hopened

/-- **Snapshots over runs**: after any sequence of builds, with any operations of the repository
failing, the next build leaves terminal snapshots and their items alone, every snapshot that is done
can be recomputed from its items, a build that raised leaves its snapshot failed and without items
(or still being built, if marking it failed), and a replay changes nothing. -/
theorem snapshots_settled (platform : Platform) (calls : List Call) (call : Call) :
    BuildLaw platform calls call (finish (step platform) Store.empty calls)
      (step platform (finish (step platform) Store.empty calls) call).1
      (step platform (finish (step platform) Store.empty calls) call).2 := by
  have hsettled := settled_finish platform calls
  generalize finish (step platform) Store.empty calls = s at hsettled ⊢
  have ho := build_outcome platform call.1 call.2 s
  have hafter := hsettled.outcome ho
  unfold step
  refine ⟨fun row hrow hterminal => ho.frozen hrow hterminal, hafter.recomputed, ?_, ?_⟩
  · intro e hr hnew row hrow hnames
    have hstatus := ho.raised hr hnew hrow hnames
    refine ⟨hafter.bare hrow ?_, ?_⟩
    · rintro (hdone | hdone) <;> rw [hdone] at hstatus <;> simp at hstatus
    · exact hstatus.imp id fun hbuilding => ⟨hbuilding, hafter.building row hrow hbuilding⟩
  · intro row hrow hnames hterminal
    exact ho.replay hrow hnames hterminal

/-! ## A replay that cannot read the evidence -/

/-- One document is known, and it can be read. -/
def filingsCall : Call := (calmSurroundings (documentEvidence knownDocuments), filingsRequest)

/-- The same, but the query for filings fails. -/
def failingCall : Call :=
  ({ filingsCall.1 with
      fault := fun op => if op = .query .filingMetadata none then some .other else none },
    filingsRequest)

/-- A build completes a snapshot.  Its replay raises `BUILD_FAILED`, neither the stored result nor a
conflict, and the snapshot stays complete with its item. -/
theorem replay_unreadable :
    let s := finish (step plainPlatform) Store.empty [filingsCall]
    (step plainPlatform s failingCall).1 = .error (.snapshotBuildError .buildFailed) ∧
      ∃ row ∈ (step plainPlatform s failingCall).2.snapshots.rows, filingsRequest.names row ∧
        row.status = .complete ∧
        ∃ item ∈ (step plainPlatform s failingCall).2.items.rows, item.snapshotId = row.id := by
  decide +kernel

end StockResearch.DataAccess
