import StockResearch.Core.Transaction

/-!
# Programs that call transactions

A program runs one transaction after another.  Each of them commits or rolls back on its own, so
what an earlier one wrote stays when a later one raises: unlike a transaction, a program that
raises leaves a store behind.

`wp x Q s` says that running `x` from `s` ends, returning or raising, in an outcome and a store
that satisfy `Q`.  The rules are equivalences, so they turn a statement about a program into one
about its inputs without losing anything in either direction.
-/

namespace Txn

/-- A program over a store: it returns or raises, and leaves a store behind either way. -/
abbrev Program (ε σ α : Type) := ExceptT ε (StateM σ) α

namespace Program

variable {ε σ τ α β : Type}

/-- Run a transaction on the component of the store seen by `get` and written by `set`. -/
def transact (get : σ → τ) (set : σ → τ → σ) (t : Transaction ε τ α) : Program ε σ α := fun s =>
  ((commit t (get s)).1, set s (commit t (get s)).2)

/-- Write the store. -/
def update (f : σ → σ) : Program ε σ Unit := fun s => (.ok (), f s)

/-- The value of a collaborator that may raise. -/
def call (x : Except ε α) : Program ε σ α := fun s => (x, s)

/-- `try … except` on the errors that `p` selects: what they are turned into. -/
def catching (p : ε → Bool) (x : Program ε σ α) (handler : ε → Program ε σ α) : Program ε σ α :=
  fun s => match x s with
    | (.error e, s') => if p e then handler e s' else (.error e, s')
    | r => r

/-- `try … except Exception` with the handler written after it: the exception becomes a value. -/
def attempt (x : Program ε σ α) : Program ε σ (Except ε α) := fun s => (.ok (x s).1, (x s).2)

/-- `try … except` whose handlers only raise errors of their own. -/
def translate {ε' : Type} (f : ε → ε') (x : Program ε σ α) : Program ε' σ α :=
  fun s => ((x s).1.mapError f, (x s).2)

/-- The program ends in an outcome and a store that satisfy `Q`. -/
def wp (x : Program ε σ α) (Q : Except ε α → σ → Prop) (s : σ) : Prop := Q (x s).1 (x s).2

variable {Q : Except ε α → σ → Prop} {s : σ}

/-- What has to hold after the first of two programs for the second to end in `Q`. -/
def after (f : α → Program ε σ β) (Q : Except ε β → σ → Prop) : Except ε α → σ → Prop
  | .ok a => wp (f a) Q
  | .error e => Q (.error e)

@[simp] lemma wp_pure (a : α) : wp (pure a : Program ε σ α) Q s ↔ Q (.ok a) s := Iff.rfl

@[simp] lemma wp_throw (e : ε) : wp (throw e : Program ε σ α) Q s ↔ Q (.error e) s := Iff.rfl

@[simp] lemma wp_call (x : Except ε α) : wp (call x : Program ε σ α) Q s ↔ Q x s := Iff.rfl

@[simp] lemma wp_get {Q : Except ε σ → σ → Prop} :
    wp (get : Program ε σ σ) Q s ↔ Q (.ok s) s := Iff.rfl

@[simp] lemma wp_update (f : σ → σ) {Q : Except ε Unit → σ → Prop} :
    wp (update f : Program ε σ Unit) Q s ↔ Q (.ok ()) (f s) := Iff.rfl

@[simp] lemma wp_attempt (x : Program ε σ α) {Q : Except ε (Except ε α) → σ → Prop} :
    wp (attempt x) Q s ↔ wp x (fun r s' => Q (.ok r) s') s := Iff.rfl

/-- **The rule of sequence.** -/
@[simp] lemma wp_bind (x : Program ε σ α) (f : α → Program ε σ β) {Q : Except ε β → σ → Prop} :
    wp (x >>= f) Q s ↔ wp x (after f Q) s := by
  change Q ((ExceptT.bind x f) s).1 ((ExceptT.bind x f) s).2 ↔ after f Q (x s).1 (x s).2
  have hbind : (ExceptT.bind x f) s = ExceptT.bindCont f (x s).1 (x s).2 := rfl
  rw [hbind]
  cases (x s).1 with
  | error e => rfl
  | ok a => rfl

/-- A sequence that returns: both programs return, one after the other. -/
lemma bind_eq_ok {x : Program ε σ α} {f : α → Program ε σ β} {b : β} {s s' : σ} :
    (x >>= f) s = (.ok b, s') ↔ ∃ a s₁, x s = (.ok a, s₁) ∧ f a s₁ = (.ok b, s') := by
  have hbind : (x >>= f) s = ExceptT.bindCont f (x s).1 (x s).2 := rfl
  rw [hbind]
  rcases hx : x s with ⟨r, s₁⟩
  cases r with
  | error e =>
      constructor
      · intro h
        cases h
      · rintro ⟨_, _, ⟨⟩, _⟩
  | ok a =>
      constructor
      · exact fun h => ⟨a, s₁, rfl, h⟩
      · rintro ⟨_, _, ⟨⟩, h⟩
        exact h

lemma wp_transact (get : σ → τ) (set : σ → τ → σ) (t : Transaction ε τ α) :
    wp (transact get set t) Q s ↔
      Q (commit t (get s)).1 (set s (commit t (get s)).2) := Iff.rfl

lemma wp_catching (p : ε → Bool) (x : Program ε σ α) (handler : ε → Program ε σ α) :
    wp (catching p x handler) Q s ↔
      wp x (fun r s' => match r with
        | .ok a => Q (.ok a) s'
        | .error e => if p e then wp (handler e) Q s' else Q (.error e) s') s := by
  unfold wp catching
  cases hx : x s with
  | mk r s' =>
      cases r with
      | ok a => rfl
      | error e =>
          simp only
          split <;> rfl

lemma wp_translate {ε' : Type} (f : ε → ε') (x : Program ε σ α) {Q : Except ε' α → σ → Prop} :
    wp (translate f x) Q s ↔ wp x (fun r s' => Q (r.mapError f) s') s := Iff.rfl

/-! ## Known ends -/

/-- **The rule of consequence.** -/
lemma wp_mono {P : Except ε α → σ → Prop} {x : Program ε σ α} (h : wp x P s)
    (hPQ : ∀ r s', P r s' → Q r s') : wp x Q s := hPQ _ _ h

/-- A sequence whose first program is known to end in `P`. -/
lemma wp_seq {P : Except ε α → σ → Prop} {x : Program ε σ α} {f : α → Program ε σ β}
    {Q : Except ε β → σ → Prop} (h : wp x P s) (hok : ∀ a s', P (.ok a) s' → wp (f a) Q s')
    (herror : ∀ e s', P (.error e) s' → Q (.error e) s') : wp (x >>= f) Q s := by
  refine (wp_bind x f).mpr (wp_mono h fun r s' hr => ?_)
  cases r with
  | ok a => exact hok a s' hr
  | error e => exact herror e s' hr

/-- A handler behind a program that is known to end in `P`. -/
lemma wp_attempt_seq {P : Except ε α → σ → Prop} {x : Program ε σ α}
    {f : Except ε α → Program ε σ β} {Q : Except ε β → σ → Prop} (h : wp x P s)
    (hf : ∀ r s', P r s' → wp (f r) Q s') : wp (attempt x >>= f) Q s :=
  (wp_bind _ f).mpr ((wp_attempt x).mpr (wp_mono h hf))

/-! ## Frames -/

/-- The program leaves what `f` reads of the store as it is, whether it returns or raises. -/
def Keeps (f : σ → τ) (x : Program ε σ α) : Prop := ∀ s, f (x s).2 = f s

lemma Keeps.bind {f : σ → τ} {x : Program ε σ α} {k : α → Program ε σ β} (hx : Keeps f x)
    (hk : ∀ a, Keeps f (k a)) : Keeps f (x >>= k) := by
  intro s
  have h : wp (x >>= k) (fun _ s' => f s' = f s) s := by
    rw [wp_bind]
    unfold wp
    cases hr : (x s).1 with
    | error e => exact hx s
    | ok a => exact (hk a _).trans (hx s)
  exact h

lemma Keeps.call {f : σ → τ} (x : Except ε α) : Keeps f (call x : Program ε σ α) := fun _ => rfl

lemma Keeps.get {f : σ → τ} : Keeps f (get : Program ε σ σ) := fun _ => rfl

lemma Keeps.pure {f : σ → τ} (a : α) : Keeps f (pure a : Program ε σ α) := fun _ => rfl

/-- After a program that keeps what `f` reads, the store still has it. -/
lemma Keeps.wp {f : σ → τ} {x : Program ε σ α} (hx : Keeps f x) (s : σ) :
    wp x (fun _ s' => f s' = f s) s := hx s

end Program

end Txn
