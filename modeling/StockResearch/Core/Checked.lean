import Mathlib.Data.List.Forall2
import Mathlib.Data.List.Flatten
import Mathlib.Tactic.Common

/-!
# Computations that raise

`Except` as the target of code that raises, and loops that collect what their bodies return.

* `bind_ok` and `check_bind_ok` take a computation that returned apart, step by step.
* **`forall₂_mapM`** and **`forall₂_collect`**: when a loop returns, its results stand in the given
  relation to what it ran over, element by element and in the same order.
* `Raises P`, `Returns Q`: every error, and every result, is of a kind.
-/

namespace Checked

variable {ε α β γ δ : Type}

/-- `if p: raise e` -/
def check (p : Prop) [Decidable p] (e : ε) : Except ε Unit := if p then .error e else .ok ()

/-- `if x is None: raise e` -/
def require (x : Option α) (e : ε) : Except ε α :=
  match x with
  | some a => .ok a
  | none => .error e

/-- A value that passes its checks, with the proof that it does. -/
def validated (validate : α → Except ε Unit) (a : α) : Except ε { a // validate a = .ok () } :=
  match h : validate a with
  | .ok () => .ok ⟨a, h⟩
  | .error e => .error e

/-- A loop whose body returns a list, with the lists appended. -/
def collect (f : α → Except ε (List β)) (xs : List α) : Except ε (List β) :=
  (xs.mapM f).map List.flatten

lemma bind_ok {x : Except ε α} {f : α → Except ε β} {r : β} :
    x >>= f = .ok r ↔ ∃ a, x = .ok a ∧ f a = .ok r := by
  cases x <;> simp [bind, Except.bind]

lemma bind_error {x : Except ε α} {f : α → Except ε β} {e : ε} :
    x >>= f = .error e ↔ x = .error e ∨ ∃ a, x = .ok a ∧ f a = .error e := by
  cases x <;> simp [bind, Except.bind]

lemma ok_bind (a : α) (f : α → Except ε β) : (Except.ok a >>= f) = f a := rfl

/-- Two ways to go on from a computation, equal wherever it returns. -/
lemma bind_congr_ok {x : Except ε α} {f g : α → Except ε β} (h : ∀ a, x = .ok a → f a = g a) :
    x >>= f = x >>= g := by
  cases x with
  | error e => rfl
  | ok a => exact h a rfl

/-- A sequence that starts with a check. -/
lemma unit_bind_ok {x : Except ε Unit} {f : Unit → Except ε β} {r : β} :
    x >>= f = .ok r ↔ x = .ok () ∧ f () = .ok r := by
  rw [bind_ok]
  constructor
  · rintro ⟨⟨⟩, hx, hf⟩
    exact ⟨hx, hf⟩
  · rintro ⟨hx, hf⟩
    exact ⟨(), hx, hf⟩

lemma check_congr {p q : Prop} [Decidable p] [Decidable q] {e : ε} (h : p ↔ q) :
    check p e = check q e := by
  simp only [check, h]

lemma check_ok {p : Prop} [Decidable p] {e : ε} : check p e = .ok () ↔ ¬ p := by
  unfold check
  split_ifs with h <;> simp [h]

lemma check_bind_ok {p : Prop} [Decidable p] {e : ε} {f : Unit → Except ε β} {r : β} :
    check p e >>= f = .ok r ↔ ¬ p ∧ f () = .ok r := by
  rw [unit_bind_ok, check_ok]

lemma check_error {p : Prop} [Decidable p] {e r : ε} : check p e = .error r ↔ p ∧ e = r := by
  unfold check
  split <;> simp_all

lemma check_bind_error {p : Prop} [Decidable p] {e r : ε} {f : Unit → Except ε β} :
    check p e >>= f = .error r ↔ p ∧ e = r ∨ ¬ p ∧ f () = .error r := by
  unfold check
  split <;> simp_all [bind, Except.bind]

lemma require_ok {x : Option α} {e : ε} {a : α} : require x e = .ok a ↔ x = some a := by
  cases x <;> simp [require]

lemma require_bind_ok {x : Option α} {e : ε} {f : α → Except ε β} {r : β} :
    require x e >>= f = .ok r ↔ ∃ a, x = some a ∧ f a = .ok r := by
  simp only [bind_ok, require_ok]

lemma validated_ok {validate : α → Except ε Unit} {a : α} {b : { a // validate a = .ok () }} :
    validated validate a = .ok b ↔ b.1 = a := by
  unfold validated
  split
  · simp [Subtype.ext_iff, eq_comm]
  · next e he =>
      simp only [reduceCtorEq, false_iff]
      rintro rfl
      rw [b.2] at he
      cases he

lemma exists_validated {validate : α → Except ε Unit} {a : α} :
    (∃ b, validated validate a = .ok b) ↔ validate a = .ok () := by
  constructor
  · rintro ⟨b, hb⟩
    rw [← validated_ok.mp hb]
    exact b.2
  · intro h
    exact ⟨⟨a, h⟩, validated_ok.mpr rfl⟩

lemma map_ok {x : Except ε α} {f : α → β} {r : β} :
    x.map f = .ok r ↔ ∃ a, x = .ok a ∧ f a = r := by
  cases x <;> simp [Except.map]

lemma exists_of_isOk {x : Except ε α} (h : x.isOk = true) : ∃ a, x = .ok a := by
  cases x with
  | error e => cases h
  | ok a => exact ⟨a, rfl⟩

/-- A loop none of whose rounds raises. -/
lemma mapM_ok {f : α → Except ε β} {g : α → β} {xs : List α} (h : ∀ x ∈ xs, f x = .ok (g x)) :
    xs.mapM f = .ok (xs.map g) := by
  induction xs with
  | nil => rfl
  | cons x xs ih =>
      rw [List.mapM_cons, h x (by simp), ih fun y hy => h y (by simp [hy])]
      rfl

/-- A loop returns if and only if every round does. -/
lemma exists_mapM_ok {f : α → Except ε β} {xs : List α} :
    (∃ ys, xs.mapM f = .ok ys) ↔ ∀ x ∈ xs, ∃ y, f x = .ok y := by
  induction xs with
  | nil => simp [pure, Except.pure]
  | cons x xs ih =>
      simp only [List.mapM_cons, bind_ok, List.forall_mem_cons, ← ih]
      constructor
      · rintro ⟨_, y, hy, ys, hys, -⟩
        exact ⟨⟨y, hy⟩, ys, hys⟩
      · rintro ⟨⟨y, hy⟩, ys, hys⟩
        exact ⟨y :: ys, y, hy, ys, hys, rfl⟩

lemma exists_map_ok {x : Except ε α} {f : α → β} :
    (∃ b, x.map f = .ok b) ↔ ∃ a, x = .ok a := by
  simp [map_ok]

lemma exists_collect_ok {f : α → Except ε (List β)} {xs : List α} :
    (∃ ys, collect f xs = .ok ys) ↔ ∀ x ∈ xs, ∃ ys, f x = .ok ys := by
  rw [collect, exists_map_ok, exists_mapM_ok]

/-- A loop that only checks returns if and only if every round does. -/
lemma forM_ok {f : α → Except ε Unit} {xs : List α} :
    xs.forM f = .ok () ↔ ∀ x ∈ xs, f x = .ok () := by
  induction xs with
  | nil => simp [pure, Except.pure]
  | cons x xs ih =>
      change (f x >>= fun _ => xs.forM f) = .ok () ↔ _
      rw [unit_bind_ok, ih, List.forall_mem_cons]

/-- A loop raises what the first round that does not return raises. -/
lemma mapM_error_iff {f : α → Except ε β} {xs : List α} {e : ε} :
    xs.mapM f = .error e ↔ ∃ before x after, xs = before ++ x :: after ∧
      (∀ y ∈ before, ∃ b, f y = .ok b) ∧ f x = .error e := by
  induction xs with
  | nil => simp [pure, Except.pure]
  | cons x xs ih =>
      rw [List.mapM_cons]
      constructor
      · intro h
        cases hx : f x with
        | error r =>
            rw [hx] at h
            cases h
            exact ⟨[], x, xs, rfl, by simp, hx⟩
        | ok b =>
            rw [hx, ok_bind] at h
            cases hxs : xs.mapM f with
            | ok ys =>
                rw [hxs] at h
                cases h
            | error r =>
                rw [hxs] at h
                cases h
                obtain ⟨before, y, after, rfl, hbefore, hy⟩ := ih.mp hxs
                refine ⟨x :: before, y, after, rfl, ?_, hy⟩
                intro z hz
                rcases List.mem_cons.mp hz with rfl | hz
                · exact ⟨b, hx⟩
                · exact hbefore z hz
      · rintro ⟨before, y, after, hsplit, hbefore, hy⟩
        cases before with
        | nil =>
            obtain ⟨rfl, rfl⟩ := List.cons.inj hsplit
            rw [hy]
            rfl
        | cons z before =>
            obtain ⟨rfl, rfl⟩ := List.cons.inj hsplit
            obtain ⟨b, hb⟩ := hbefore x List.mem_cons_self
            have hrest := ih.mpr ⟨before, y, after, rfl,
              fun w hw => hbefore w (List.mem_cons_of_mem _ hw), hy⟩
            rw [hb, ok_bind, hrest]
            rfl

/-- A loop over renamed elements renames its results, when every round does. -/
lemma mapM_map_of_comm {f : β → Except ε δ} {f' : α → Except ε γ} {g : α → β} {h : γ → δ}
    {xs : List α} (hf : ∀ x ∈ xs, f (g x) = (f' x).map h) :
    (xs.map g).mapM f = (xs.mapM f').map (List.map h) := by
  induction xs with
  | nil => rfl
  | cons x xs ih =>
      rw [List.map_cons, List.mapM_cons, List.mapM_cons, hf x List.mem_cons_self,
        ih fun y hy => hf y (List.mem_cons_of_mem _ hy)]
      cases f' x <;> cases xs.mapM f' <;> rfl

/-- What a loop returns is related to what it ran over. -/
theorem forall₂_mapM {f : α → Except ε β} {R : α → β → Prop} (hf : ∀ x y, f x = .ok y → R x y)
    {xs : List α} {ys : List β} (h : xs.mapM f = .ok ys) : List.Forall₂ R xs ys := by
  induction xs generalizing ys with
  | nil =>
      cases h
      exact .nil
  | cons x xs ih =>
      rw [List.mapM_cons, bind_ok] at h
      obtain ⟨y, hy, h⟩ := h
      rw [bind_ok] at h
      obtain ⟨zs, hzs, h⟩ := h
      cases h
      exact .cons (hf x y hy) (ih hzs)

lemma mapM_of_forall₂ {f : α → Except ε β} {xs : List α} {ys : List β}
    (h : List.Forall₂ (fun x y => f x = .ok y) xs ys) : xs.mapM f = .ok ys := by
  induction h with
  | nil => rfl
  | cons hxy _ ih =>
      rw [List.mapM_cons, hxy, ih]
      rfl

/-- A loop over the same elements in another order returns the same in another order. -/
theorem mapM_perm {f : α → Except ε β} {xs xs' : List α} (hperm : xs.Perm xs') {ys : List β}
    (h : xs.mapM f = .ok ys) : ∃ ys', xs'.mapM f = .ok ys' ∧ ys.Perm ys' := by
  induction hperm generalizing ys with
  | nil => exact ⟨ys, h, .refl _⟩
  | cons x _ ih =>
      rw [List.mapM_cons, bind_ok] at h
      rcases h with ⟨y, hy, h⟩
      rcases bind_ok.mp h with ⟨zs, hzs, h⟩
      cases h
      rcases ih hzs with ⟨zs', hzs', hperm⟩
      refine ⟨y :: zs', ?_, hperm.cons y⟩
      rw [List.mapM_cons, hy, hzs']
      rfl
  | swap x x' xs =>
      rw [List.mapM_cons, bind_ok] at h
      rcases h with ⟨y', hy', h⟩
      rcases bind_ok.mp h with ⟨zs, hzs, h⟩
      cases h
      rw [List.mapM_cons, bind_ok] at hzs
      rcases hzs with ⟨y, hy, h⟩
      rcases bind_ok.mp h with ⟨zs, hzs, h⟩
      cases h
      refine ⟨y :: y' :: zs, ?_, .swap ..⟩
      rw [List.mapM_cons, List.mapM_cons, hy, hy', hzs]
      rfl
  | trans _ _ ih ih' =>
      rcases ih h with ⟨ys', hys', hperm⟩
      rcases ih' hys' with ⟨ys'', hys'', hperm'⟩
      exact ⟨ys'', hys'', hperm.trans hperm'⟩

/-- A nested loop returns what its rounds return, one after the other. -/
theorem forall₂_collect {f : α → Except ε (List β)} {g : α → List γ} {R : γ → β → Prop}
    (hf : ∀ x ys, f x = .ok ys → List.Forall₂ R (g x) ys) {xs : List α} {ys : List β}
    (h : collect f xs = .ok ys) : List.Forall₂ R (xs.flatMap g) ys := by
  obtain ⟨yss, hyss, rfl⟩ := map_ok.mp h
  have hrounds := forall₂_mapM hf hyss
  clear h hyss
  induction hrounds with
  | nil => exact .nil
  | cons hround _ ih =>
      rw [List.flatMap_cons, List.flatten_cons]
      exact List.rel_append hround ih

/-- A property of every result is one of everything that was looped over. -/
lemma forall_iff_of_forall₂ {R : α → β → Prop} {P : α → Prop} {Q : β → Prop} {xs : List α}
    {ys : List β} (h : List.Forall₂ R xs ys) (hR : ∀ x y, R x y → (P x ↔ Q y)) :
    (∀ x ∈ xs, P x) ↔ ∀ y ∈ ys, Q y := by
  induction h with
  | nil => simp
  | cons hxy _ ih => simp [hR _ _ hxy, ih]

/-- **A loop keeps an invariant of what it has run over.** -/
theorem foldlM_induction {σ : Type} {f : σ → α → Except ε σ} {P : List α → σ → Prop}
    (hstep : ∀ done x s s', P done s → f s x = .ok s' → P (done ++ [x]) s') {xs : List α} {s s' : σ}
    {done : List α} (h : P done s) (hloop : xs.foldlM f s = .ok s') : P (done ++ xs) s' := by
  induction xs generalizing done s with
  | nil =>
      cases hloop
      rwa [List.append_nil]
  | cons x xs ih =>
      rw [List.foldlM_cons] at hloop
      obtain ⟨s₁, hx, hrest⟩ := bind_ok.mp hloop
      have := ih (hstep done x s s₁ h hx) hrest
      rwa [List.append_assoc] at this

/-- The invariant of a loop that starts with nothing run over. -/
lemma foldlM_start {σ : Type} {f : σ → α → Except ε σ} {P : List α → σ → Prop}
    (hstep : ∀ done x s s', P done s → f s x = .ok s' → P (done ++ [x]) s') {xs : List α} {s s' : σ}
    (h : P [] s) (hloop : xs.foldlM f s = .ok s') : P xs s' :=
  foldlM_induction hstep h hloop

/-- A loop whose turns return from every state of an invariant returns. -/
lemma exists_foldlM_ok {σ : Type} {f : σ → α → Except ε σ} {I : σ → Prop} {xs : List α}
    (hstep : ∀ x ∈ xs, ∀ s, I s → ∃ s', f s x = .ok s' ∧ I s') {s : σ} (h : I s) :
    ∃ s', xs.foldlM f s = .ok s' ∧ I s' := by
  induction xs generalizing s with
  | nil => exact ⟨s, rfl, h⟩
  | cons x xs ih =>
      obtain ⟨s₁, hx, hs₁⟩ := hstep x (List.mem_cons_self ..) s h
      obtain ⟨s', hrest, hs'⟩ := ih (fun y hy => hstep y (List.mem_cons_of_mem _ hy)) hs₁
      refine ⟨s', ?_, hs'⟩
      rw [List.foldlM_cons, hx]
      exact hrest

/-- Everything that was looped over has its result. -/
lemma exists_of_forall₂ {R : α → β → Prop} {xs : List α} {ys : List β} (h : List.Forall₂ R xs ys)
    {x : α} (hx : x ∈ xs) : ∃ y ∈ ys, R x y := by
  induction h with
  | nil => cases hx
  | cons hxy _ ih =>
      rcases List.mem_cons.mp hx with rfl | hx
      · exact ⟨_, List.mem_cons_self, hxy⟩
      · obtain ⟨y, hy, hxy⟩ := ih hx
        exact ⟨y, List.mem_cons_of_mem _ hy, hxy⟩

/-- Observations that agree along related elements give equal lists. -/
lemma map_eq_of_forall₂ {R : α → β → Prop} {p : α → γ} {q : β → γ} {xs : List α} {ys : List β}
    (h : List.Forall₂ R xs ys) (hR : ∀ x y, R x y → p x = q y) : xs.map p = ys.map q := by
  induction h with
  | nil => rfl
  | cons hxy _ ih => simp [hR _ _ hxy, ih]

/-- Results are ordered as what was looped over, when they have the same keys. -/
lemma pairwise_of_mapM {f : α → Except ε β} {p : α → γ} {q : β → γ}
    (hf : ∀ x y, f x = .ok y → p x = q y) {r : γ → γ → Prop} {xs : List α} {ys : List β}
    (h : xs.mapM f = .ok ys) (hxs : xs.Pairwise fun a b => r (p a) (p b)) :
    ys.Pairwise fun a b => r (q a) (q b) := by
  have hkeys : xs.map p = ys.map q := map_eq_of_forall₂ (forall₂_mapM (fun _ _ hxy => hxy) h) hf
  have hmap : (ys.map q).Pairwise r := by
    rw [← hkeys, List.pairwise_map]
    exact hxs
  exact List.pairwise_map.mp hmap

/-! ## Errors of a kind -/

section Raises

variable {P : ε → Prop}

/-- Every error of a computation is of a kind. -/
def Raises (P : ε → Prop) (x : Except ε α) : Prop := ∀ e, x = .error e → P e

lemma raises_ok (a : α) : Raises P (.ok a) := by
  rintro e ⟨⟩

lemma raises_bind {x : Except ε α} {f : α → Except ε β} (hx : Raises P x)
    (hf : ∀ a, Raises P (f a)) : Raises P (x >>= f) := by
  intro e h
  rcases bind_error.mp h with h | ⟨a, -, h⟩
  · exact hx e h
  · exact hf a e h

lemma raises_map {x : Except ε α} {f : α → β} (hx : Raises P x) : Raises P (x.map f) := by
  intro e h
  cases x with
  | error raised =>
      cases h
      exact hx _ rfl
  | ok a => cases h

lemma raises_ite {p : Prop} [Decidable p] {x y : Except ε α} (hx : p → Raises P x)
    (hy : ¬ p → Raises P y) : Raises P (if p then x else y) := by
  split_ifs with h
  · exact hx h
  · exact hy h

lemma raises_error {e : ε} (he : P e) : Raises P (.error e : Except ε α) := by
  rintro raised ⟨⟩
  exact he

lemma raises_check {p : Prop} [Decidable p] {e : ε} (he : P e) : Raises P (check p e) :=
  raises_ite (fun _ => raises_error he) fun _ => raises_ok ()

lemma raises_require {x : Option α} {e : ε} (he : P e) : Raises P (require x e) := by
  cases x with
  | none => exact raises_error he
  | some a => exact raises_ok a

lemma raises_forM {f : α → Except ε Unit} {xs : List α} (hf : ∀ x, Raises P (f x)) :
    Raises P (xs.forM f) := by
  induction xs with
  | nil => exact raises_ok ()
  | cons x xs ih => exact raises_bind (hf x) fun _ => ih

lemma raises_mapM {f : α → Except ε β} {xs : List α} (hf : ∀ x, Raises P (f x)) :
    Raises P (xs.mapM f) := by
  induction xs with
  | nil => exact raises_ok []
  | cons x xs ih =>
      rw [List.mapM_cons]
      exact raises_bind (hf x) fun _ => raises_bind ih fun _ => raises_ok _

end Raises

/-! ## Results of a kind -/

section Returns

variable {Q : α → Prop} {x y : Except ε α}

/-- Every result of a computation is of a kind. -/
def Returns (Q : α → Prop) (x : Except ε α) : Prop := ∀ a, x = .ok a → Q a

lemma returns_ok {a : α} (h : Q a) : Returns Q (.ok a : Except ε α) := by
  rintro b ⟨⟩
  exact h

lemma returns_bind {z : Except ε β} {f : β → Except ε α} (h : ∀ b, Returns Q (f b)) :
    Returns Q (z >>= f) := by
  intro a ha
  obtain ⟨b, -, hb⟩ := bind_ok.mp ha
  exact h b a hb

lemma returns_ite {p : Prop} [Decidable p] (hx : Returns Q x) (hy : Returns Q y) :
    Returns Q (if p then x else y) := by
  split_ifs
  · exact hx
  · exact hy

lemma returns_map {z : Except ε β} {f : β → α} (h : ∀ b, Q (f b)) : Returns Q (z.map f) := by
  intro a ha
  obtain ⟨b, -, rfl⟩ := map_ok.mp ha
  exact h b

end Returns

end Checked
