import Mathlib.Data.List.Basic
import Mathlib.Tactic.Common

/-!
# Transactions over a store, and runs of them

A transaction reads and writes a store and may raise.  The store it leaves behind on a raise is
never looked at: `commit` hands back the store the transaction started from, which is what a
rolled-back database transaction does.

Two groups of facts are needed by anything built on top.

* **Peeling.**  A transaction is a `do` block of queries, checks and writes.  The `…_bind_ok`
  equivalences turn the acceptance of such a block, statement by statement, into the conjunction
  of everything it has checked and written.
* **Runs.**  `trace` records every call of a run with the store before and after it.  A law over
  all runs is then one lemma about a single call, pushed through `trace_invariant`.

Nothing here mentions a particular store.
-/

namespace Txn

/-- A transaction: from a store, either an error or a value and the store it writes. -/
abbrev Transaction (ε σ α : Type) := StateT σ (Except ε) α

variable {ε σ α β : Type}

/-! ## The vocabulary of a transaction body -/

/-- Read the store. -/
def query (f : σ → α) : Transaction ε σ α := fun s => .ok (f s, s)

/-- Raise `e` when `p` holds. -/
def raiseIf (p : Prop) [Decidable p] (e : ε) : Transaction ε σ Unit :=
  if p then throw e else pure ()

/-- The row that was looked up, or a raise when there is none. -/
def fetch (row : Option α) (e : ε) : Transaction ε σ α :=
  match row with
  | some a => pure a
  | none => throw e

/-- Write the store, or raise when the write is refused. -/
def write (f : σ → Option σ) (e : ε) : Transaction ε σ Unit := fun s =>
  match f s with
  | some s' => .ok ((), s')
  | none => .error e

/-- A pure check inside a transaction. -/
def lift (x : Except ε α) : Transaction ε σ α := fun s => x.map fun a => (a, s)

/-! ## Peeling a transaction body -/

@[simp] lemma pure_apply (a : α) (s : σ) :
    (pure a : Transaction ε σ α) s = .ok (a, s) := rfl

@[simp] lemma throw_apply (e : ε) (s : σ) :
    (throw e : Transaction ε σ α) s = .error e := rfl

@[simp] lemma query_apply (f : σ → α) (s : σ) :
    (query f : Transaction ε σ α) s = .ok (f s, s) := rfl

@[simp] lemma query_bind (f : σ → α) (k : α → Transaction ε σ β) (s : σ) :
    (query f >>= k) s = k (f s) s := rfl

lemma raiseIf_apply (p : Prop) [Decidable p] (e : ε) (s : σ) :
    (raiseIf p e : Transaction ε σ Unit) s = if p then .error e else .ok ((), s) := by
  unfold raiseIf
  split <;> rfl

@[simp] lemma raiseIf_bind (p : Prop) [Decidable p] (e : ε) (k : Unit → Transaction ε σ β)
    (s : σ) :
    (raiseIf p e >>= k) s = if p then .error e else k () s := by
  unfold raiseIf
  split <;> rfl

@[simp] lemma fetch_some_bind (a : α) (e : ε) (k : α → Transaction ε σ β) (s : σ) :
    (fetch (some a) e >>= k) s = k a s := rfl

@[simp] lemma fetch_none_bind (e : ε) (k : α → Transaction ε σ β) (s : σ) :
    (fetch none e >>= k) s = .error e := rfl

/-- **A sequence is accepted exactly when both halves are.**  The rule that takes a transaction
body apart, one statement at a time. -/
lemma bind_ok {x : Transaction ε σ α} {f : α → Transaction ε σ β} {s : σ} {r : β × σ} :
    (x >>= f) s = .ok r ↔ ∃ a s₁, x s = .ok (a, s₁) ∧ f a s₁ = .ok r := by
  change (x s >>= fun p => f p.1 p.2) = .ok r ↔ _
  cases hx : x s with
  | error e => simp [Bind.bind, Except.bind]
  | ok p =>
      obtain ⟨a, s₁⟩ := p
      simp [Bind.bind, Except.bind]

lemma raiseIf_bind_ok {p : Prop} [Decidable p] {e : ε} {k : Unit → Transaction ε σ β} {s : σ}
    {r : β × σ} : (raiseIf p e >>= k) s = .ok r ↔ ¬ p ∧ k () s = .ok r := by
  rw [raiseIf_bind]
  split <;> simp_all

lemma fetch_bind_ok {row : Option α} {e : ε} {k : α → Transaction ε σ β} {s : σ} {r : β × σ} :
    (fetch row e >>= k) s = .ok r ↔ ∃ a, row = some a ∧ k a s = .ok r := by
  cases row <;> simp

lemma write_bind_ok {f : σ → Option σ} {e : ε} {k : Unit → Transaction ε σ β} {s : σ}
    {r : β × σ} : (write f e >>= k) s = .ok r ↔ ∃ s', f s = some s' ∧ k () s' = .ok r := by
  rw [bind_ok]
  unfold write
  cases f s with
  | none => simp
  | some s' => simp [show ∀ u : Unit, u = () from fun _ => rfl]

/-- A write of one component of the store. -/
lemma write_map_bind {τ : Type} (f : σ → Option τ) (g : σ → τ → σ) (e : ε)
    (k : Unit → Transaction ε σ β) (s : σ) :
    (write (fun s => (f s).map (g s)) e >>= k) s =
      match f s with
      | some t => k () (g s t)
      | none => .error e := by
  change (write (fun s => (f s).map (g s)) e s >>= fun p => k p.1 p.2) = _
  unfold write
  cases hf : f s <;> simp [hf, Bind.bind, Except.bind]

lemma write_map_bind_ok {τ : Type} {f : σ → Option τ} {g : σ → τ → σ} {e : ε}
    {k : Unit → Transaction ε σ β} {s : σ} {r : β × σ} :
    (write (fun s => (f s).map (g s)) e >>= k) s = .ok r ↔
      ∃ t, f s = some t ∧ k () (g s t) = .ok r := by
  rw [write_map_bind]
  cases f s <;> simp

lemma write_map_ok {τ : Type} {f : σ → Option τ} {g : σ → τ → σ} {e : ε} {s : σ}
    {r : Unit × σ} :
    write (fun s => (f s).map (g s)) e s = .ok r ↔ ∃ t, f s = some t ∧ r.2 = g s t := by
  unfold write
  cases hf : f s with
  | none => simp [hf]
  | some t => simp [hf, Prod.ext_iff, eq_comm]

lemma lift_bind_ok {x : Except ε α} {k : α → Transaction ε σ β} {s : σ} {r : β × σ} :
    (lift x >>= k) s = .ok r ↔ ∃ a, x = .ok a ∧ k a s = .ok r := by
  rw [bind_ok]
  cases x <;> simp [lift, Except.map]

lemma lift_ok {x : Except ε α} {s : σ} {r : α × σ} :
    (lift x) s = .ok r ↔ x = .ok r.1 ∧ r.2 = s := by
  obtain ⟨a, s'⟩ := r
  cases x with
  | error e => simp [lift, Except.map]
  | ok b => simp [lift, Except.map, eq_comm]

/-! ## Committing and rolling back -/

/-- Run a transaction to its end: what the caller gets, and the store afterwards.  A raise rolls
the store back. -/
def commit (t : Transaction ε σ α) (s : σ) : Except ε α × σ :=
  match t s with
  | .ok (a, s') => (.ok a, s')
  | .error e => (.error e, s)

lemma commit_of_ok {t : Transaction ε σ α} {s s' : σ} {a : α} (h : t s = .ok (a, s')) :
    commit t s = (.ok a, s') := by
  simp [commit, h]

lemma commit_of_error {t : Transaction ε σ α} {s : σ} {e : ε} (h : t s = .error e) :
    commit t s = (.error e, s) := by
  simp [commit, h]

/-- A caller is answered only by a transaction that went through. -/
lemma commit_ok_iff {t : Transaction ε σ α} {s : σ} {a : α} :
    (commit t s).1 = .ok a ↔ t s = .ok (a, (commit t s).2) := by
  unfold commit
  cases ht : t s with
  | error e => simp
  | ok p => obtain ⟨b, s'⟩ := p; simp

/-- **A raising transaction changes nothing.** -/
lemma commit_rejected {t : Transaction ε σ α} {s : σ} {e : ε} (h : (commit t s).1 = .error e) :
    (commit t s).2 = s := by
  unfold commit at h ⊢
  cases ht : t s with
  | error e' => rfl
  | ok p => obtain ⟨b, s'⟩ := p; simp [ht] at h

/-- Whatever holds of the store before and of every store an accepting transaction writes holds
after the commit. -/
lemma commit_cases {P : σ → Prop} {t : Transaction ε σ α} {s : σ} (hs : P s)
    (hok : ∀ a s', t s = .ok (a, s') → P s') : P (commit t s).2 := by
  unfold commit
  cases ht : t s with
  | error e => exact hs
  | ok p => exact hok p.1 p.2 ht

/-! ## Runs -/

/-- One call of a run: the store it met, the call, its answer and the store it left. -/
structure Event (σ op out : Type) where
  before : σ
  call : op
  outcome : out
  after : σ

variable {op out : Type} (step : σ → op → out × σ)

/-- Every call of a run, in order. -/
def trace : σ → List op → List (Event σ op out)
  | _, [] => []
  | s, o :: os => ⟨s, o, (step s o).1, (step s o).2⟩ :: trace (step s o).2 os

/-- The store a run ends in. -/
def finish (s : σ) (ops : List op) : σ := ops.foldl (fun s o => (step s o).2) s

@[simp] lemma finish_nil (s : σ) : finish step s [] = s := rfl

@[simp] lemma finish_cons (s : σ) (o : op) (os : List op) :
    finish step s (o :: os) = finish step (step s o).2 os := rfl

variable {step}

lemma finish_append (s : σ) (os os' : List op) :
    finish step s (os ++ os') = finish step (finish step s os) os' :=
  List.foldl_append ..

/-- A run goes on from the store in which its first part ends. -/
lemma trace_append (s : σ) (os os' : List op) :
    trace step s (os ++ os') = trace step s os ++ trace step (finish step s os) os' := by
  induction os generalizing s with
  | nil => rfl
  | cons o os ih => exact congrArg _ (ih _)

/-- An event of a run really is a step of the machine. -/
lemma step_of_mem_trace {s : σ} {ops : List op} {e : Event σ op out}
    (h : e ∈ trace step s ops) : step e.before e.call = (e.outcome, e.after) := by
  induction ops generalizing s with
  | nil => simp [trace] at h
  | cons o os ih =>
      rcases List.mem_cons.mp h with rfl | h
      · rfl
      · exact ih h

lemma call_of_mem_trace {s : σ} {ops : List op} {e : Event σ op out}
    (h : e ∈ trace step s ops) : e.call ∈ ops := by
  induction ops generalizing s with
  | nil => simp [trace] at h
  | cons o os ih =>
      rcases List.mem_cons.mp h with rfl | h
      · exact List.mem_cons_self ..
      · exact List.mem_cons_of_mem _ (ih h)

/-- **The run rule.**  If every call that meets the condition `C` preserves `I`, then along a run
all of whose calls meet `C` the invariant holds before and after every call. -/
lemma trace_invariant {I : σ → Prop} {C : σ → op → Prop}
    (hstep : ∀ s o, I s → C s o → I (step s o).2) {s : σ} {ops : List op} (hs : I s)
    (hC : ∀ e ∈ trace step s ops, C e.before e.call) :
    ∀ e ∈ trace step s ops, I e.before ∧ I e.after := by
  induction ops generalizing s with
  | nil => intro e he; simp [trace] at he
  | cons o os ih =>
      have hnext : I (step s o).2 := hstep s o hs (hC _ (List.mem_cons_self ..))
      intro e he
      rcases List.mem_cons.mp he with rfl | he
      · exact ⟨hs, hnext⟩
      · exact ih hnext (fun e' he' => hC e' (List.mem_cons_of_mem _ he')) e he

/-- The run rule, read off at the end of the run. -/
lemma finish_invariant {I : σ → Prop} {C : σ → op → Prop}
    (hstep : ∀ s o, I s → C s o → I (step s o).2) {s : σ} {ops : List op} (hs : I s)
    (hC : ∀ e ∈ trace step s ops, C e.before e.call) : I (finish step s ops) := by
  induction ops generalizing s with
  | nil => exact hs
  | cons o os ih =>
      exact ih (hstep s o hs (hC _ (List.mem_cons_self ..)))
        (fun e he => hC e (List.mem_cons_of_mem _ he))

/-- A condition that no call can undo, along the runs that keep `I`, is entered at most once. -/
lemma countP_enter_le_one {I Q : σ → Prop} [DecidablePred Q]
    (hI : ∀ s o, I s → I (step s o).2) (habs : ∀ s o, I s → Q s → Q (step s o).2) {s : σ}
    (hs : I s) (ops : List op) :
    (trace step s ops).countP (fun e => !decide (Q e.before) && decide (Q e.after)) ≤ 1 := by
  have hzero : ∀ (ops : List op) (s : σ), I s → Q s →
      (trace step s ops).countP (fun e => !decide (Q e.before) && decide (Q e.after)) = 0 := by
    intro ops
    induction ops with
    | nil => intro s _ _; rfl
    | cons o os ih =>
        intro s hs hq
        simp [trace, hq, ih _ (hI s o hs) (habs s o hs hq)]
  induction ops generalizing s with
  | nil => simp [trace]
  | cons o os ih =>
      by_cases hq : Q (step s o).2
      · simp only [trace, List.countP_cons, hzero os _ (hI s o hs) hq]
        split <;> omega
      · simpa [trace, List.countP_cons, hq] using ih (hI s o hs)

end Txn
