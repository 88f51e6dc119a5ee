import StockResearch.Providers.CircuitBreaker

/-!
# What the circuit breaker guarantees

Three laws over every run of a breaker from no stored state: any operations, late outcomes of
earlier calls among them.

**The window.**  While no success is recorded, an open breaker stays open or half open, and the
moment at which it was opened only moves forward (`Guarded`).  So no call is admitted before the
window is over.

**The counts.**  `Counted`: a closed breaker is below its threshold, any other has reached it.

**The probe.**  A half-open breaker denies every call until an outcome is recorded.

* **`breaker_law`**: the three of them.
-/

namespace StockResearch.Providers

open Txn

/-- The time of an operation. -/
def BreakerCall.time : BreakerCall → Nat
  | .before now | .record _ now => now

/-- A success was recorded. -/
def BreakerEvent.succeeds (e : BreakerEvent) : Bool :=
  match e.call with
  | .record .success _ => true
  | _ => false

/-- A transient failure left the breaker open. -/
def BreakerEvent.opens (e : BreakerEvent) : Bool :=
  match e.call with
  | .record .transientFailure _ => e.after.any fun snapshot => snapshot.status == .opened
  | _ => false

/-- A call was admitted from the half-open state. -/
def BreakerEvent.admitsHalfOpen (e : BreakerEvent) : Bool :=
  e.outcome.any fun decision => decision.allowed && decision.status == .halfOpen

namespace CircuitBreakerService

variable {service : CircuitBreakerService} {stored : Option CircuitBreakerSnapshot}

/-! ## The counts -/

/-- A closed breaker is below the threshold and was opened at no time; any other has reached it. -/
def Counted (service : CircuitBreakerService) (stored : Option CircuitBreakerSnapshot) : Prop :=
  ∀ snapshot ∈ stored,
    (snapshot.status = .closed →
      snapshot.failureCount < service.failureThreshold ∧ snapshot.openedAt = none) ∧
    (snapshot.status ≠ .closed → service.failureThreshold ≤ snapshot.failureCount)

lemma counted_closed (now : Nat) : service.Counted (some (closedSnapshot now)) := by
  intro snapshot hsnapshot
  cases Option.mem_some.mp hsnapshot
  have hthreshold := service.threshold_ok.1
  exact ⟨fun _ => ⟨hthreshold, rfl⟩, fun hne => absurd rfl hne⟩

lemma counted_getD (now : Nat) (h : service.Counted stored) :
    service.Counted (some (stored.getD (closedSnapshot now))) := by
  cases stored with
  | none => exact counted_closed now
  | some snapshot => exact h

lemma counted_operate (call : BreakerCall) (h : service.Counted stored) :
    service.Counted (service.operate stored call).2 := by
  cases call with
  | before now =>
      have hsnapshot := counted_getD now h
      simp only [operate, beforeCall]
      generalize stored.getD (closedSnapshot now) = snapshot at hsnapshot
      split
      · exact hsnapshot
      · exact hsnapshot
      · rename_i hopened
        split_ifs
        · intro s hs
          cases Option.mem_some.mp hs
          have hcount := (hsnapshot snapshot rfl).2 (by rw [hopened]; decide)
          exact ⟨fun hclosed => ProviderCircuitStatus.noConfusion hclosed, fun _ => hcount⟩
        · exact hsnapshot
  | record outcome now =>
      have hsnapshot := counted_getD now h
      simp only [operate, recordOutcome]
      generalize stored.getD (closedSnapshot now) = snapshot at hsnapshot
      cases outcome with
      | success => exact counted_closed now
      | permanentFailure =>
          intro s hs
          cases Option.mem_some.mp hs
          exact hsnapshot snapshot rfl
      | transientFailure =>
          obtain ⟨hclosed, hother⟩ := hsnapshot snapshot rfl
          dsimp only
          split_ifs with hopen
          · intro s hs
            cases Option.mem_some.mp hs
            refine ⟨fun hclosed => ProviderCircuitStatus.noConfusion hclosed, fun _ => ?_⟩
            rcases hopen with hhalf | hreached
            · have hcount := hother (by rw [hhalf]; decide)
              exact hcount.trans (Nat.le_succ _)
            · exact hreached
          · intro s hs
            cases Option.mem_some.mp hs
            push Not at hopen
            exact ⟨fun _ => ⟨hopen.2, rfl⟩, fun hne => absurd rfl hne⟩

/-! ## The window -/

/-- The breaker was opened at `t` or later, and nothing has closed it. -/
def Guarded (service : CircuitBreakerService) (t : Nat) (stored : Option CircuitBreakerSnapshot) :
    Prop :=
  ∃ snapshot, stored = some snapshot ∧ snapshot.status ≠ .closed ∧
    service.failureThreshold ≤ snapshot.failureCount ∧ ∀ since ∈ snapshot.openedAt, t ≤ since

/-- The transient failure that opens a breaker guards it from then on. -/
lemma guarded_of_opens {e : BreakerEvent} {t : Nat} (hcounted : service.Counted e.after)
    (hstep : service.operate e.before e.call = (e.outcome, e.after)) (hopens : e.opens = true)
    (htime : e.call.time = t) : service.Guarded t e.after := by
  unfold BreakerEvent.opens at hopens
  split at hopens
  · rename_i now hcall
    rw [hcall] at hstep htime
    obtain rfl : now = t := htime
    obtain ⟨snapshot, hafter, hopened⟩ : ∃ snapshot, e.after = some snapshot ∧
        snapshot.status = .opened := by
      cases hafter : e.after with
      | none => simp [hafter] at hopens
      | some snapshot => exact ⟨snapshot, rfl, by simpa [hafter] using hopens⟩
    refine ⟨snapshot, hafter, by rw [hopened]; decide, ?_, ?_⟩
    · exact (hcounted snapshot hafter).2 (by rw [hopened]; decide)
    · intro since hsince
      have hstored : some (service.recordOutcome e.before .transientFailure now) = e.after :=
        (Prod.mk.inj hstep).2
      rw [hafter, Option.some.injEq] at hstored
      rw [← hstored] at hopened hsince
      simp only [recordOutcome] at hopened hsince
      split_ifs at hopened hsince
      exact (Option.some.inj hsince).le
  · cases hopens

/-- Nothing but a success ends the guard. -/
lemma guarded_operate {t : Nat} {call : BreakerCall} (h : service.Guarded t stored)
    (htime : t ≤ call.time) (hsuccess : ∀ now, call ≠ .record .success now) :
    service.Guarded t (service.operate stored call).2 := by
  obtain ⟨snapshot, rfl, hstatus, hcount, hsince⟩ := h
  cases call with
  | before now =>
      simp only [operate, beforeCall, Option.getD_some]
      split
      · exact ⟨snapshot, rfl, hstatus, hcount, hsince⟩
      · exact ⟨snapshot, rfl, hstatus, hcount, hsince⟩
      · split_ifs
        · exact ⟨_, rfl, by simp, hcount, hsince⟩
        · exact ⟨snapshot, rfl, hstatus, hcount, hsince⟩
  | record outcome now =>
      simp only [operate, recordOutcome, Option.getD_some]
      cases outcome with
      | success => exact absurd rfl (hsuccess now)
      | permanentFailure => exact ⟨_, rfl, hstatus, hcount, hsince⟩
      | transientFailure =>
          dsimp only
          rw [if_pos (.inr (hcount.trans (Nat.le_succ _)))]
          refine ⟨_, rfl, by simp, hcount.trans (Nat.le_succ _), ?_⟩
          rintro _ ⟨⟩
          exact htime

/-- A guarded breaker admits no call before its window is over. -/
lemma not_admitted_of_guarded {t now : Nat} (h : service.Guarded t stored)
    (hearly : now < t + service.resetAfter) :
    (service.beforeCall stored now).1.allowed = false := by
  obtain ⟨snapshot, rfl, hstatus, -, hsince⟩ := h
  simp only [beforeCall, Option.getD_some]
  split
  · rename_i hclosed
    exact absurd hclosed hstatus
  · rfl
  · rw [if_neg]
    rintro ⟨since, hmem, hover⟩
    have := hsince since hmem
    omega

/-- From a guarded breaker on, a call that is admitted before the window is over comes after a
success. -/
lemma success_of_admitted {t : Nat} {calls : List BreakerCall} :
    ∀ {stored : Option CircuitBreakerSnapshot}, service.Guarded t stored →
      (∀ call ∈ calls, t ≤ call.time) → ∀ mid e rest,
        trace service.operate stored calls = mid ++ e :: rest → BreakerEvent.admits e = true →
        e.call.time < t + service.resetAfter → ∃ s ∈ mid, BreakerEvent.succeeds s = true := by
  induction calls with
  | nil => intro stored _ _ mid e rest htrace; simp [trace] at htrace
  | cons call calls ih =>
      intro stored hguarded htimes mid e rest htrace hadmits hearly
      rw [trace] at htrace
      cases mid with
      | nil =>
          -- The call comes to the guarded breaker itself.
          obtain ⟨rfl, -⟩ := List.cons.inj htrace
          cases call with
          | before now =>
              have hdenied : (service.beforeCall stored now).1.allowed = false :=
                not_admitted_of_guarded hguarded hearly
              have hallowed : (service.beforeCall stored now).1.allowed = true := by
                simpa [BreakerEvent.admits, operate] using hadmits
              rw [hdenied] at hallowed
              cases hallowed
          | record outcome now => simp [BreakerEvent.admits, operate] at hadmits
      | cons first mid =>
          obtain ⟨rfl, htail⟩ := List.cons.inj htrace
          by_cases hsuccess : ∃ now, call = .record .success now
          · obtain ⟨now, rfl⟩ := hsuccess
            exact ⟨_, List.mem_cons_self, rfl⟩
          · push Not at hsuccess
            have hnext := guarded_operate hguarded (htimes call List.mem_cons_self) hsuccess
            obtain ⟨s, hs, hsucceeds⟩ := ih hnext
              (fun c hc => htimes c (List.mem_cons_of_mem _ hc)) mid e rest htail hadmits hearly
            exact ⟨s, List.mem_cons_of_mem _ hs, hsucceeds⟩

/-- The window is kept along every run at non-decreasing times. -/
lemma window_kept {calls : List BreakerCall} :
    ∀ {stored : Option CircuitBreakerSnapshot}, service.Counted stored →
      (calls.map BreakerCall.time).Pairwise (· ≤ ·) → ∀ earlier o mid e rest,
        trace service.operate stored calls = earlier ++ o :: (mid ++ e :: rest) →
        BreakerEvent.opens o = true → BreakerEvent.admits e = true →
        e.call.time < o.call.time + service.resetAfter →
        ∃ s ∈ mid, BreakerEvent.succeeds s = true := by
  induction calls with
  | nil => intro stored _ _ earlier o mid e rest htrace; simp [trace] at htrace
  | cons call calls ih =>
      intro stored hcounted htimes earlier o mid e rest htrace hopens hadmits hearly
      rw [List.map_cons, List.pairwise_cons] at htimes
      rw [trace] at htrace
      have hnext := counted_operate call hcounted
      cases earlier with
      | nil =>
          obtain ⟨rfl, htail⟩ := List.cons.inj htrace
          have hguarded := guarded_of_opens hnext rfl hopens rfl
          refine success_of_admitted hguarded (fun c hc => ?_) mid e rest htail hadmits hearly
          exact htimes.1 _ (List.mem_map_of_mem hc)
      | cons first earlier =>
          obtain ⟨-, htrace⟩ := List.cons.inj htrace
          exact ih hnext htimes.2 earlier o mid e rest htrace hopens hadmits hearly

/-! ## The probe -/

/-- A half-open breaker stays half open until an outcome is recorded, and admits nothing. -/
lemma no_probe_while_halfOpen {calls : List BreakerCall} :
    ∀ {stored : Option CircuitBreakerSnapshot}, isHalfOpen stored = true → ∀ mid rest,
      trace service.operate stored calls = mid ++ rest →
      (∀ e ∈ mid, BreakerEvent.records e = false) →
      mid.countP BreakerEvent.admitsHalfOpen = 0 := by
  induction calls with
  | nil =>
      intro stored _ mid rest htrace _
      rw [(List.append_eq_nil_iff.mp htrace.symm).1]
      rfl
  | cons call calls ih =>
      intro stored hhalf mid rest htrace hrecords
      cases mid with
      | nil => rfl
      | cons first mid =>
          rw [trace] at htrace
          obtain ⟨rfl, htail⟩ := List.cons.inj htrace
          rw [List.countP_cons]
          cases call with
          | record outcome now => exact absurd (hrecords _ List.mem_cons_self) (by simp [BreakerEvent.records])
          | before now =>
              cases stored with
              | none => cases hhalf
              | some snapshot =>
                  have hstatus : snapshot.status = .halfOpen := by simpa [isHalfOpen] using hhalf
                  have hoperate : service.operate (some snapshot) (.before now) =
                      (some ⟨false, .halfOpen, "PROVIDER_CIRCUIT_PROBE_IN_PROGRESS"⟩,
                        some snapshot) := by
                    simp [operate, beforeCall, hstatus]
                  rw [hoperate] at htail ⊢
                  rw [ih hhalf mid rest htail fun e he => hrecords e (List.mem_cons_of_mem _ he)]
                  rfl

lemma isHalfOpen_of_admits {call : BreakerCall}
    (h : (service.operate stored call).1.any
      (fun decision => decision.allowed && decision.status == .halfOpen) = true) :
    isHalfOpen (service.operate stored call).2 = true := by
  cases call with
  | record outcome now => simp [operate] at h
  | before now =>
      simp only [operate, beforeCall] at h ⊢
      generalize stored.getD (closedSnapshot now) = snapshot at h
      cases hstatus : snapshot.status with
      | closed => simp [hstatus] at h
      | halfOpen => simp [hstatus] at h
      | opened =>
          simp only [hstatus] at h ⊢
          split_ifs at h ⊢ with hwindow
          · rfl
          · simp at h

/-- Between two recorded outcomes there is one probe at most. -/
lemma one_probe {calls : List BreakerCall} :
    ∀ {stored : Option CircuitBreakerSnapshot} {earlier mid rest : List BreakerEvent},
      trace service.operate stored calls = earlier ++ (mid ++ rest) →
      (∀ e ∈ mid, BreakerEvent.records e = false) →
      mid.countP BreakerEvent.admitsHalfOpen ≤ 1 := by
  induction calls with
  | nil =>
      intro stored earlier mid rest htrace _
      rw [(List.append_eq_nil_iff.mp (List.append_eq_nil_iff.mp htrace.symm).2).1]
      exact Nat.zero_le 1
  | cons call calls ih =>
      intro stored earlier mid rest htrace hrecords
      rw [trace] at htrace
      cases earlier with
      | cons first earlier =>
          obtain ⟨-, htrace⟩ := List.cons.inj htrace
          exact ih htrace hrecords
      | nil =>
          cases mid with
          | nil => exact Nat.zero_le 1
          | cons first mid =>
              obtain ⟨rfl, htail⟩ := List.cons.inj htrace
              have hrest : ∀ e ∈ mid, BreakerEvent.records e = false :=
                fun e he => hrecords e (List.mem_cons_of_mem _ he)
              rw [List.countP_cons]
              split_ifs with hadmits
              · rw [no_probe_while_halfOpen (isHalfOpen_of_admits hadmits) mid rest htail hrest]
              · have hnil : trace service.operate (service.operate stored call).2 calls =
                    [] ++ (mid ++ rest) := htail
                exact ih hnil hrest

/-- **The law of the breaker**, over every run from no stored state at non-decreasing times.  After
a transient failure has opened it, no call is admitted before the window is over unless a success
comes first; while it is closed it is below its threshold and was opened at no time; and between
two recorded outcomes one call at most is admitted from the half-open state. -/
theorem breaker_law (service : CircuitBreakerService) (calls : List BreakerCall)
    (htimes : (calls.map BreakerCall.time).Pairwise (· ≤ ·)) :
    (∀ earlier o mid e rest,
      trace service.operate none calls = earlier ++ o :: (mid ++ e :: rest) →
      BreakerEvent.opens o = true → BreakerEvent.admits e = true →
      e.call.time < o.call.time + service.resetAfter →
      ∃ s ∈ mid, BreakerEvent.succeeds s = true) ∧
    (∀ e ∈ trace service.operate none calls, ∀ snapshot ∈ e.after, snapshot.status = .closed →
      snapshot.failureCount < service.failureThreshold ∧ snapshot.openedAt = none) ∧
    ∀ earlier mid rest, trace service.operate none calls = earlier ++ (mid ++ rest) →
      (∀ e ∈ mid, BreakerEvent.records e = false) →
      mid.countP BreakerEvent.admitsHalfOpen ≤ 1 := by
  have hempty : service.Counted none := by simp [Counted]
  refine ⟨fun earlier o mid e rest => window_kept hempty htimes earlier o mid e rest,
    fun e he => ?_, fun earlier mid rest => one_probe⟩
  have hcounted := trace_invariant (C := fun _ _ => True)
    (fun _ call hs _ => counted_operate call hs) hempty (fun _ _ => trivial) e he
  exact fun snapshot hsnapshot => (hcounted.2 snapshot hsnapshot).1

/-- A run with an opening, a late transient failure, a denied call, the probe and a success. -/
theorem breaker_law_probe_run :
    ([BreakerCall.before 0, .record .transientFailure 0, .record .transientFailure 500000,
      .before 1000000, .before 1500000, .before 1500001, .record .success 1600000,
      .before 1600000].map BreakerCall.time).Pairwise (· ≤ ·) ∧
    ∀ earlier mid rest,
      trace oneSecond.operate none [BreakerCall.before 0, .record .transientFailure 0,
        .record .transientFailure 500000, .before 1000000, .before 1500000, .before 1500001,
        .record .success 1600000, .before 1600000] = earlier ++ (mid ++ rest) →
      (∀ e ∈ mid, BreakerEvent.records e = false) →
      mid.countP BreakerEvent.admitsHalfOpen ≤ 1 :=
  ⟨by decide, (breaker_law oneSecond _ (by decide)).2.2⟩

end CircuitBreakerService

end StockResearch.Providers
