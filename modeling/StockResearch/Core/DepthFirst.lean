import StockResearch.Core.Checked
import Mathlib.Data.List.Perm.Subperm

/-!
# Depth-first search with marks

Two recursive searches over a graph given by its successor lists, as they are written with sets
that the recursion shares:

* `visit`: the search that raises when it comes back to a node it is still visiting;
* `search`: the search that stops at the first node with a property.

The recursion is bounded by fuel.  **`visit_not_exhausted`** and **`search_not_exhausted`**: on a
finite graph, fuel for one node more than there are is never used up, so the bound cannot be seen
in a result.
-/

namespace DepthFirst

open Checked

variable {κ : Type} [DecidableEq κ]

/-- Why a search stops without an answer. -/
inductive Stop where
  | cycle
  | exhausted
deriving DecidableEq, Repr

/-- The sets `visiting` and `visited`. -/
structure Marks (κ : Type) where
  visiting : List κ
  visited : List κ
deriving DecidableEq

/-- Visit a node and what it leads to. -/
def visit (next : κ → List κ) : Nat → Marks κ → κ → Except Stop (Marks κ)
  | 0, _, _ => .error .exhausted
  | fuel + 1, marks, key =>
      if key ∈ marks.visiting then .error .cycle
      else if key ∈ marks.visited then .ok marks
      else do
        let marks' ← (next key).foldlM (visit next fuel)
          { marks with visiting := key :: marks.visiting }
        return { visiting := marks'.visiting.erase key, visited := key :: marks'.visited }

/-- `for key in keys: visit(key)` -/
def visitAll (next : κ → List κ) (fuel : Nat) (keys : List κ) : Except Stop (Marks κ) :=
  keys.foldlM (visit next fuel) ⟨[], []⟩

/-- Look through the given nodes, and then through what each of them leads to, for one with the
property.  The second component is the shared set of nodes already looked through. -/
def search (next : κ → List κ) (goal : κ → Bool) :
    Nat → List κ → List κ → Except Stop (Bool × List κ)
  | 0, _, _ => .error .exhausted
  | fuel + 1, visited, keys =>
      keys.foldlM (fun found key =>
        if found.1 then .ok found
        else if goal key then .ok (true, found.2)
        else if key ∈ found.2 then .ok found
        else search next goal fuel (key :: found.2) (next key)) (false, visited)

/-! ## Fuel -/

section Fuel

variable {next : κ → List κ} {nodes : List κ}

omit [DecidableEq κ] in
/-- A loop whose body keeps an invariant and is never exhausted is never exhausted. -/
lemma foldlM_not_exhausted {σ : Type} {I : σ → Prop} {f : σ → κ → Except Stop σ} {keys : List κ}
    (hf : ∀ s, I s → ∀ key ∈ keys, f s key ≠ .error .exhausted ∧ ∀ s', f s key = .ok s' → I s') :
    ∀ s, I s → keys.foldlM f s ≠ .error .exhausted ∧ ∀ s', keys.foldlM f s = .ok s' → I s' := by
  induction keys with
  | nil =>
      intro s hs
      refine ⟨by simp [pure, Except.pure], ?_⟩
      rintro s' h
      cases h
      exact hs
  | cons key keys ih =>
      intro s hs
      obtain ⟨hne, hok⟩ := hf s hs key (by simp)
      rw [List.foldlM_cons]
      cases hstep : f s key with
      | error e =>
          refine ⟨fun h => hne ?_, by rintro s' ⟨⟩⟩
          rw [hstep]
          exact h
      | ok s₁ =>
          exact ih (fun t ht k hk => hf t ht k (List.mem_cons_of_mem _ hk)) s₁ (hok s₁ hstep)

omit [DecidableEq κ] in
lemma length_le_of_subset {keys : List κ} (hnodup : keys.Nodup) (hsub : keys ⊆ nodes) :
    keys.length ≤ nodes.length :=
  (List.subperm_of_subset hnodup hsub).length_le

/-- **The search for cycles does not run out of fuel**, and it leaves the nodes that are being
visited as they were. -/
theorem visit_not_exhausted (hclosed : ∀ key ∈ nodes, next key ⊆ nodes) :
    ∀ (fuel : Nat) (marks : Marks κ) (key : κ), marks.visiting.Nodup → marks.visiting ⊆ nodes →
      key ∈ nodes → nodes.length < fuel + marks.visiting.length →
      visit next fuel marks key ≠ .error .exhausted ∧
        ∀ marks', visit next fuel marks key = .ok marks' → marks'.visiting = marks.visiting := by
  intro fuel
  induction fuel with
  | zero =>
      intro marks key hnodup hsub _ hfuel
      have := length_le_of_subset hnodup hsub
      omega
  | succ fuel ih =>
      intro marks key hnodup hsub hkey hfuel
      rw [visit]
      split
      · exact ⟨by simp, by rintro _ ⟨⟩⟩
      rename_i hfresh
      split
      · exact ⟨by simp, by rintro _ ⟨⟩; rfl⟩
      have hbody : ∀ s : Marks κ, s.visiting = key :: marks.visiting → ∀ k ∈ next key,
          visit next fuel s k ≠ .error .exhausted ∧
            ∀ s', visit next fuel s k = .ok s' → s'.visiting = key :: marks.visiting := by
        intro s hs k hk
        have hstep := ih s k (by rw [hs]; exact List.nodup_cons.mpr ⟨hfresh, hnodup⟩)
          (by rw [hs]; exact List.cons_subset.mpr ⟨hkey, hsub⟩) (hclosed key hkey hk)
          (by rw [hs, List.length_cons]; omega)
        exact ⟨hstep.1, fun s' h' => (hstep.2 s' h').trans hs⟩
      have hloop := foldlM_not_exhausted hbody
        { marks with visiting := key :: marks.visiting } rfl
      refine ⟨?_, ?_⟩
      · intro h
        cases hrun : (next key).foldlM (visit next fuel)
            { marks with visiting := key :: marks.visiting } with
        | error e =>
            rw [hrun] at h
            exact hloop.1 (hrun.trans h)
        | ok marks' =>
            rw [hrun] at h
            cases h
      · intro marks' h
        obtain ⟨marks₁, hrun, hret⟩ := bind_ok.mp h
        cases hret
        simp [hloop.2 _ hrun]

/-- **The search for a property does not run out of fuel**, and it looks only through nodes. -/
theorem search_not_exhausted {goal : κ → Bool} (hclosed : ∀ key ∈ nodes, next key ⊆ nodes) :
    ∀ (fuel : Nat) (visited keys : List κ), visited.Nodup → visited ⊆ nodes → keys ⊆ nodes →
      nodes.length < fuel + visited.length →
      search next goal fuel visited keys ≠ .error .exhausted ∧
        ∀ found, search next goal fuel visited keys = .ok found →
          found.2.Nodup ∧ found.2 ⊆ nodes ∧ visited.length ≤ found.2.length := by
  intro fuel
  induction fuel with
  | zero =>
      intro visited keys hnodup hsub _ hfuel
      have := length_le_of_subset hnodup hsub
      omega
  | succ fuel ih =>
      intro visited keys hnodup hsub hkeys hfuel
      rw [search]
      refine foldlM_not_exhausted
        (I := fun found => found.2.Nodup ∧ found.2 ⊆ nodes ∧ visited.length ≤ found.2.length)
        (fun s hs key hkey => ?_) (false, visited) ⟨hnodup, hsub, Nat.le_refl _⟩
      obtain ⟨found, seen⟩ := s
      obtain ⟨hseen, hin, hlen⟩ : seen.Nodup ∧ seen ⊆ nodes ∧ visited.length ≤ seen.length := hs
      have hsame : (Except.ok (found, seen) : Except Stop (Bool × List κ)) ≠ .error .exhausted ∧
          ∀ s', (Except.ok (found, seen) : Except Stop (Bool × List κ)) = .ok s' →
            s'.2.Nodup ∧ s'.2 ⊆ nodes ∧ visited.length ≤ s'.2.length := by
        refine ⟨by simp, ?_⟩
        rintro s' ⟨⟩
        exact ⟨hseen, hin, hlen⟩
      dsimp only
      split
      · exact hsame
      split
      · refine ⟨by simp, ?_⟩
        rintro s' ⟨⟩
        exact ⟨hseen, hin, hlen⟩
      split
      · exact hsame
      rename_i hfresh
      have hdeep := ih (key :: seen) (next key) (List.nodup_cons.mpr ⟨hfresh, hseen⟩)
        (List.cons_subset.mpr ⟨hkeys hkey, hin⟩) (hclosed key (hkeys hkey))
        (by rw [List.length_cons]; omega)
      refine ⟨hdeep.1, fun s' h' => ?_⟩
      obtain ⟨h₁, h₂, h₃⟩ := hdeep.2 s' h'
      exact ⟨h₁, h₂, by rw [List.length_cons] at h₃; omega⟩

end Fuel

end DepthFirst
