import StockResearch.Core.DepthFirst
import Mathlib.Logic.Relation

/-!
# What a depth-first search finds

The two searches of `DepthFirst`, compared with the reachability relation of the graph.

**Cycles.**  A search that comes back to a node it is visiting has followed a cycle
(`visit_cycle`).  One that returns has left the visited nodes in an order in which every node comes
after its successors (`Finished`), and such nodes lie on no cycle (`Finished.acyclic`).
`visitAll_cycle_iff` puts the two together.

**Goals.**  A search that answers yes has a goal that it reached (`search_true`), and one that
answers no leaves a set of nodes that is closed and has no goal in it (`search_false`).
`search_iff` puts the two together.
-/

namespace DepthFirst

open Checked Relation

variable {κ : Type} [DecidableEq κ] {next : κ → List κ}

/-- The edges of a graph that is given by its successor lists. -/
def Edge (next : κ → List κ) (a b : κ) : Prop := b ∈ next a

/-! ## Cycles -/

section Cycles

omit [DecidableEq κ] in
/-- A loop that stops with an error stops at one of its turns, in a state that the turns before it
led to. -/
lemma foldlM_error {σ ε : Type} {f : σ → κ → Except ε σ} {I : σ → Prop} {keys : List κ} {e : ε}
    (hstep : ∀ s s', ∀ key ∈ keys, I s → f s key = .ok s' → I s') {s : σ} (hs : I s)
    (h : keys.foldlM f s = .error e) : ∃ s', I s' ∧ ∃ key ∈ keys, f s' key = .error e := by
  induction keys generalizing s with
  | nil => cases h
  | cons key keys ih =>
      rw [List.foldlM_cons] at h
      cases hturn : f s key with
      | error e' =>
          rw [hturn] at h
          cases h
          exact ⟨s, hs, key, List.mem_cons_self .., hturn⟩
      | ok s₁ =>
          rw [hturn] at h
          have hs₁ := hstep s s₁ key (List.mem_cons_self ..) hs hturn
          obtain ⟨s', hs', key', hkey', herror⟩ :=
            ih (fun s s' k hk => hstep s s' k (List.mem_cons_of_mem _ hk)) hs₁ h
          exact ⟨s', hs', key', List.mem_cons_of_mem _ hkey', herror⟩

/-- A node that has been visited leaves the nodes that are being visited as they were. -/
lemma visiting_visit {fuel : Nat} {marks marks' : Marks κ} {key : κ}
    (h : visit next fuel marks key = .ok marks') : marks'.visiting = marks.visiting := by
  induction fuel generalizing marks marks' key with
  | zero => cases h
  | succ fuel ih =>
      rw [visit] at h
      split at h
      · cases h
      split at h
      · cases h
        rfl
      obtain ⟨marks₁, hloop, hret⟩ := bind_ok.mp h
      cases hret
      have hvisiting : marks₁.visiting = key :: marks.visiting :=
        foldlM_start (P := fun _ s => s.visiting = key :: marks.visiting)
          (fun _ k s s' hs hturn => (ih hturn).trans hs) rfl hloop
      simp [hvisiting]

/-- **A search that comes back has followed a cycle**, if the nodes that are being visited lead to
the node it starts from. -/
lemma visit_cycle {fuel : Nat} {marks : Marks κ} {key : κ}
    (hpath : ∀ v ∈ marks.visiting, TransGen (Edge next) v key)
    (h : visit next fuel marks key = .error .cycle) :
    ∃ k, ReflTransGen (Edge next) key k ∧ TransGen (Edge next) k k := by
  induction fuel generalizing marks key with
  | zero => cases h
  | succ fuel ih =>
      rw [visit] at h
      split at h
      · rename_i hback
        exact ⟨key, .refl, hpath key hback⟩
      split at h
      · cases h
      rcases bind_error.mp h with hloop | ⟨marks₁, -, hret⟩
      · obtain ⟨s, hs, k, hk, herror⟩ :=
          foldlM_error (I := fun s : Marks κ => s.visiting = key :: marks.visiting)
            (fun s s' k _ hs hturn => (visiting_visit hturn).trans hs) rfl hloop
        have hdeeper : ∀ v ∈ s.visiting, TransGen (Edge next) v k := by
          intro v hv
          rw [hs] at hv
          rcases List.mem_cons.mp hv with rfl | hv
          · exact .single hk
          · exact (hpath v hv).tail hk
        obtain ⟨l, hreach, hcycle⟩ := ih hdeeper herror
        exact ⟨l, .head hk hreach, hcycle⟩
      · cases hret

/-- Nodes in an order in which every one comes in front of its successors, and none twice. -/
def Finished (next : κ → List κ) : List κ → Prop
  | [] => True
  | key :: rest => next key ⊆ rest ∧ key ∉ rest ∧ Finished next rest

omit [DecidableEq κ] in
lemma Finished.closed {keys : List κ} (h : Finished next keys) {v w : κ} (hv : v ∈ keys)
    (hreach : ReflTransGen (Edge next) v w) : w ∈ keys := by
  induction hreach with
  | refl => exact hv
  | tail _ hedge ih =>
      clear hv
      induction keys with
      | nil => cases ih
      | cons key rest ihrest =>
          obtain ⟨hnext, -, hrest⟩ := h
          rcases List.mem_cons.mp ih with rfl | hmem
          · exact List.mem_cons_of_mem _ (hnext hedge)
          · exact List.mem_cons_of_mem _ (ihrest hrest hmem)

omit [DecidableEq κ] in
/-- **A finished node lies on no cycle.** -/
lemma Finished.acyclic {keys : List κ} (h : Finished next keys) {v : κ} (hv : v ∈ keys) :
    ¬ TransGen (Edge next) v v := by
  induction keys with
  | nil => cases hv
  | cons key rest ih =>
      obtain ⟨hnext, hfresh, hrest⟩ := h
      rcases List.mem_cons.mp hv with rfl | hmem
      · intro hcycle
        obtain ⟨w, hedge, hreach⟩ := TransGen.head'_iff.mp hcycle
        exact hfresh (hrest.closed (hnext hedge) hreach)
      · exact ih hrest hmem

/-- What the marks are between two turns of the search. -/
structure Marks.Sound (next : κ → List κ) (marks : Marks κ) : Prop where
  finished : Finished next marks.visited
  apart : ∀ v ∈ marks.visiting, v ∉ marks.visited

/-- **A visit that returns has finished its node**, and keeps what was finished. -/
lemma visit_ok {fuel : Nat} {marks marks' : Marks κ} {key : κ} (hmarks : marks.Sound next)
    (h : visit next fuel marks key = .ok marks') :
    marks'.Sound next ∧ marks.visited ⊆ marks'.visited ∧ key ∈ marks'.visited := by
  induction fuel generalizing marks marks' key with
  | zero => cases h
  | succ fuel ih =>
      have hsame := visiting_visit h
      rw [visit] at h
      split at h
      · cases h
      rename_i hidle
      split at h
      · rename_i hdone
        cases h
        exact ⟨hmarks, List.Subset.refl _, hdone⟩
      rename_i hfresh
      obtain ⟨marks₁, hloop, hret⟩ := bind_ok.mp h
      cases hret
      have hstart : Marks.Sound next { marks with visiting := key :: marks.visiting } := by
        refine ⟨hmarks.finished, fun v hv => ?_⟩
        rcases List.mem_cons.mp hv with rfl | hv
        · exact hfresh
        · exact hmarks.apart v hv
      -- The successors that the loop has been over are finished.
      obtain ⟨hsound, hvisiting, hkept, hnext⟩ := foldlM_start
        (P := fun done s => Marks.Sound next s ∧ s.visiting = key :: marks.visiting ∧
          marks.visited ⊆ s.visited ∧ done ⊆ s.visited)
        (fun done k s s' hinv hturn => by
          obtain ⟨hs, hvisiting, hkept, hdone⟩ := hinv
          obtain ⟨hs', hgrows, hk⟩ := ih hs hturn
          exact ⟨hs', (visiting_visit hturn).trans hvisiting,
            List.Subset.trans hkept hgrows,
            List.append_subset.mpr ⟨List.Subset.trans hdone hgrows, by simpa using hk⟩⟩)
        ⟨hstart, rfl, List.Subset.refl _, List.nil_subset _⟩ hloop
      have hkey : key ∉ marks₁.visited := hsound.apart key (by simp [hvisiting])
      refine ⟨⟨⟨hnext, hkey, hsound.finished⟩, fun v hv => ?_⟩,
        List.Subset.trans hkept (List.subset_cons_self ..), List.mem_cons_self ..⟩
      rw [hsame] at hv
      have hne : v ≠ key := fun heq => hidle (heq ▸ hv)
      rw [List.mem_cons, not_or]
      exact ⟨hne, hsound.apart v (by simp [hvisiting, hv])⟩

/-- The nodes that a loop of visits has been over are finished. -/
lemma visitAll_ok {fuel : Nat} {keys : List κ} {marks : Marks κ}
    (h : visitAll next fuel keys = .ok marks) :
    Finished next marks.visited ∧ keys ⊆ marks.visited := by
  obtain ⟨hsound, hkeys⟩ := foldlM_start (s := (⟨[], []⟩ : Marks κ))
    (P := fun done s => Marks.Sound next s ∧ done ⊆ s.visited)
    (fun done k s s' ⟨hs, hdone⟩ hturn => by
      obtain ⟨hs', hgrows, hk⟩ := visit_ok hs hturn
      exact ⟨hs', List.append_subset.mpr ⟨List.Subset.trans hdone hgrows, by simpa using hk⟩⟩)
    ⟨⟨trivial, fun _ hv => absurd hv List.not_mem_nil⟩, List.nil_subset _⟩ h
  exact ⟨hsound.finished, hkeys⟩

/-- **The search stops at a cycle exactly when there is one**, on a finite graph. -/
theorem visitAll_cycle_iff {nodes : List κ} (hclosed : ∀ key ∈ nodes, next key ⊆ nodes) {fuel : Nat}
    (hfuel : nodes.length < fuel) :
    visitAll next fuel nodes = .error .cycle ↔ ∃ key, TransGen (Edge next) key key ∧ key ∈ nodes := by
  constructor
  · intro h
    obtain ⟨s, hs, key, hkey, herror⟩ :=
      foldlM_error (I := fun s : Marks κ => s.visiting = [])
        (fun s s' k _ hs hturn => (visiting_visit hturn).trans hs) rfl h
    obtain ⟨k, hreach, hcycle⟩ := visit_cycle (by simp [hs]) herror
    refine ⟨k, hcycle, ?_⟩
    clear hcycle
    induction hreach with
    | refl => exact hkey
    | tail _ hedge ih => exact hclosed _ ih hedge
  · rintro ⟨key, hcycle, hkey⟩
    have hbound : visitAll next fuel nodes ≠ .error .exhausted :=
      (foldlM_not_exhausted (I := fun s : Marks κ => s.visiting = []) (fun s hs k hk => by
        have := visit_not_exhausted hclosed fuel s k (by simp [hs]) (by simp [hs]) hk (by omega)
        exact ⟨this.1, fun s' h' => (this.2 s' h').trans hs⟩) ⟨[], []⟩ rfl).1
    cases h : visitAll next fuel nodes with
    | ok marks =>
        obtain ⟨hfinished, hkeys⟩ := visitAll_ok h
        exact absurd hcycle (hfinished.acyclic (hkeys hkey))
    | error stop =>
        cases stop with
        | cycle => rfl
        | exhausted => exact absurd h hbound

end Cycles

/-! ## Goals -/

section Goals

variable {goal : κ → Bool}

def searchTurn (next : κ → List κ) (goal : κ → Bool) (fuel : Nat) (found : Bool × List κ) (key : κ) :
    Except Stop (Bool × List κ) :=
  if found.1 then .ok found
  else if goal key then .ok (true, found.2)
  else if key ∈ found.2 then .ok found
  else search next goal fuel (key :: found.2) (next key)

lemma search_succ {fuel : Nat} {visited keys : List κ} :
    search next goal (fuel + 1) visited keys =
      keys.foldlM (searchTurn next goal fuel) (false, visited) := rfl

lemma search_ne_cycle {fuel : Nat} {visited keys : List κ} :
    search next goal fuel visited keys ≠ .error .cycle := by
  induction fuel generalizing visited keys with
  | zero => exact fun h => nomatch h
  | succ fuel ih =>
      rw [search_succ]
      intro h
      obtain ⟨s, -, key, -, herror⟩ := foldlM_error (I := fun _ => True)
        (fun _ _ _ _ _ _ => trivial) trivial h
      unfold searchTurn at herror
      split_ifs at herror
      exact ih herror

/-- **A search that answers yes has reached a goal.** -/
lemma search_true {fuel : Nat} {visited keys seen : List κ}
    (h : search next goal fuel visited keys = .ok (true, seen)) :
    ∃ key ∈ keys, ∃ k, ReflTransGen (Edge next) key k ∧ goal k = true := by
  induction fuel generalizing visited keys seen with
  | zero => cases h
  | succ fuel ih =>
      rw [search_succ] at h
      have hreached := foldlM_start
        (P := fun done s => s.1 = true →
          ∃ key ∈ done, ∃ k, ReflTransGen (Edge next) key k ∧ goal k = true)
        (fun done key s s' hs hturn hfound => by
          unfold searchTurn at hturn
          split at hturn
          · rename_i hbefore
            obtain ⟨k, hk, hreach⟩ := hs hbefore
            exact ⟨k, List.mem_append_left _ hk, hreach⟩
          have hlast : key ∈ done ++ [key] := by simp
          split at hturn
          · rename_i hgoal
            exact ⟨key, hlast, key, .refl, hgoal⟩
          split at hturn
          · rename_i hbefore _ _
            cases hturn
            exact absurd hfound hbefore
          · obtain ⟨found, seen⟩ := s'
            obtain rfl : found = true := hfound
            obtain ⟨k, hedge, l, hreach, hgoal⟩ := ih hturn
            exact ⟨key, hlast, l, .head hedge hreach, hgoal⟩)
        (by simp) h
      exact hreached rfl

/-- **A search that answers no leaves nodes without a goal**, closed but for those it was given. -/
lemma search_false {fuel : Nat} {visited keys seen : List κ}
    (h : search next goal fuel visited keys = .ok (false, seen)) :
    visited ⊆ seen ∧ (∀ key ∈ keys, goal key = false ∧ key ∈ seen) ∧
      ∀ v ∈ seen, v ∈ visited ∨ ∀ w ∈ next v, goal w = false ∧ w ∈ seen := by
  induction fuel generalizing visited keys seen with
  | zero => cases h
  | succ fuel ih =>
      rw [search_succ] at h
      have hclosed := foldlM_start
        (P := fun done s => s.1 = false → visited ⊆ s.2 ∧
          (∀ key ∈ done, goal key = false ∧ key ∈ s.2) ∧
          ∀ v ∈ s.2, v ∈ visited ∨ ∀ w ∈ next v, goal w = false ∧ w ∈ s.2)
        (fun done key s s' hs hturn hnot => by
          unfold searchTurn at hturn
          split at hturn
          · rename_i hbefore
            cases hturn
            rw [hbefore] at hnot
            cases hnot
          rename_i hbefore
          obtain ⟨hkept, hdone, hnext⟩ := hs (by simpa using hbefore)
          split at hturn
          · cases hturn
            cases hnot
          rename_i hgoal
          split at hturn
          · rename_i hmem
            cases hturn
            refine ⟨hkept, fun k hk => ?_, hnext⟩
            rcases List.mem_append.mp hk with hk | hk
            · exact hdone k hk
            · obtain rfl := List.mem_singleton.mp hk
              exact ⟨by simpa using hgoal, hmem⟩
          · obtain ⟨found, seen⟩ := s'
            obtain rfl : found = false := hnot
            obtain ⟨hkept', hkeys, hnext'⟩ := ih hturn
            have hgrows : s.2 ⊆ seen :=
              List.Subset.trans (List.subset_cons_self ..) hkept'
            refine ⟨List.Subset.trans hkept hgrows, fun k hk => ?_, fun v hv => ?_⟩
            · rcases List.mem_append.mp hk with hk | hk
              · exact ⟨(hdone k hk).1, hgrows (hdone k hk).2⟩
              · obtain rfl := List.mem_singleton.mp hk
                exact ⟨by simpa using hgoal, hkept' (List.mem_cons_self ..)⟩
            · rcases hnext' v hv with hold | hnew
              · rcases List.mem_cons.mp hold with rfl | hold
                · exact Or.inr hkeys
                · rcases hnext v hold with hvisited | hclosed
                  · exact Or.inl hvisited
                  · exact Or.inr fun w hw => ⟨(hclosed w hw).1, hgrows (hclosed w hw).2⟩
              · exact Or.inr hnew)
        (fun _ => ⟨List.Subset.refl _, by simp, fun v hv => Or.inl hv⟩) h
      exact hclosed rfl

/-- **The search answers, and yes exactly when a goal is reached**, on a finite graph. -/
theorem search_iff {nodes keys : List κ} (hclosed : ∀ key ∈ nodes, next key ⊆ nodes)
    (hkeys : keys ⊆ nodes) {fuel : Nat} (hfuel : nodes.length < fuel) :
    ∃ found seen, search next goal fuel [] keys = .ok (found, seen) ∧
      (found = true ↔ ∃ key ∈ keys, ∃ k, ReflTransGen (Edge next) key k ∧ goal k = true) := by
  have hbound : search next goal fuel [] keys ≠ .error .exhausted :=
    (search_not_exhausted hclosed fuel [] keys List.nodup_nil (List.nil_subset _) hkeys
      (by simpa using hfuel)).1
  cases h : search next goal fuel [] keys with
  | error stop =>
      cases stop with
      | cycle => exact absurd h search_ne_cycle
      | exhausted => exact absurd h hbound
  | ok answer =>
      obtain ⟨found, seen⟩ := answer
      refine ⟨found, seen, rfl, fun hfound => ?_, fun ⟨key, hkey, k, hreach, hgoal⟩ => ?_⟩
      · subst hfound
        exact search_true h
      · cases found with
        | true => rfl
        | false =>
            obtain ⟨-, hlooked, hnext⟩ := search_false h
            have hnone : goal k = false ∧ k ∈ seen := by
              clear hgoal
              induction hreach with
              | refl => exact hlooked key hkey
              | tail _ hedge ih =>
                  exact ((hnext _ ih.2).resolve_left List.not_mem_nil) _ hedge
            rw [hnone.1] at hgoal
            cases hgoal

end Goals

end DepthFirst
