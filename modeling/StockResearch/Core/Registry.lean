import StockResearch.Core.LastSeen

/-!
# Registering claims

A registry says who owns a key.  A run goes through claims of keys, remembers for every key the last
claim that it took on, and takes a claim on when neither the registry nor what it remembers gives
the key to the claimant.  An exclusive key has no room for a second owner.

* `Registered`: where a run stands.
* **`Registered.nodup_iff`**: nothing is taken on twice exactly when the claims that the registry
  does not know are grouped by claimant.
* `Registered.settled`: afterwards the registry knows every claim.
-/

namespace Registry

open LastSeen

variable {K V : Type} [DecidableEq K] [DecidableEq V]

inductive Standing where
  | conflict | existing | new
deriving DecidableEq, Repr

/-- How a claim stands, given the owners in the registry and the claimant that is remembered. -/
def standing (exclusive : Bool) (owners : List V) (planned : Option V) (claimant : V) : Standing :=
  if exclusive ∧ ((∃ o ∈ owners, o ≠ claimant) ∨ planned ≠ none ∧ planned ≠ some claimant) then
    .conflict
  else if claimant ∈ owners ∨ planned = some claimant then .existing
  else .new

variable {exclusive : K → Bool} {owners : K → List V} {claims new : List (K × V)}
  {last : K → Option V} {c : K × V}

/-- The claims that the registry does not know. -/
def unknown (owners : K → List V) (claims : List (K × V)) : List (K × V) :=
  claims.filter fun c => c.2 ∉ owners c.1

/-- A run that went through some claims: what it took on and what it remembers. -/
structure Registered (exclusive : K → Bool) (owners : K → List V) (claims : List (K × V))
    (last : K → Option V) (new : List (K × V)) : Prop where
  last_eq : last = after (fun _ => none) (unknown owners claims)
  new_eq : new = fresh (fun _ => none) (unknown owners claims)
  owned : ∀ c ∈ claims, exclusive c.1 = true → ∀ o ∈ owners c.1, o = c.2
  unique : ∀ c ∈ unknown owners claims, ∀ d ∈ unknown owners claims, exclusive c.1 = true →
    c.1 = d.1 → c.2 = d.2

lemma registered_nil : Registered exclusive owners [] (fun _ => none) [] where
  last_eq := rfl
  new_eq := rfl
  owned := by simp
  unique := by simp [unknown]

/-- What is remembered under an exclusive key. -/
lemma Registered.last_of_mem (h : Registered exclusive owners claims last new)
    (hc : c ∈ unknown owners claims) (hexclusive : exclusive c.1 = true) :
    last c.1 = some c.2 := by
  rw [h.last_eq]
  refine after_of_unique hc fun a ha => ?_
  exact (h.unique c hc (c.1, a) ha hexclusive rfl).symm

/-- A claim without a conflict keeps the run going, whether it is taken on or not. -/
lemma Registered.step (h : Registered exclusive owners claims last new)
    (hstanding : standing (exclusive c.1) (owners c.1) (last c.1) c.2 ≠ .conflict) :
    Registered exclusive owners (claims ++ [c])
      (if standing (exclusive c.1) (owners c.1) (last c.1) c.2 = .new then
        Function.update last c.1 (some c.2) else last)
      (new ++ if standing (exclusive c.1) (owners c.1) (last c.1) c.2 = .new then [c] else []) := by
  have hfree : exclusive c.1 = true →
      (∀ o ∈ owners c.1, o = c.2) ∧ (last c.1 = none ∨ last c.1 = some c.2) := by
    intro hexclusive
    unfold standing at hstanding
    split_ifs at hstanding with hconflict
    · exact absurd rfl hstanding
    all_goals
      push Not at hconflict
      obtain ⟨howners, hlast⟩ := hconflict hexclusive
      exact ⟨howners, or_iff_not_imp_left.mpr hlast⟩
  have hnew : standing (exclusive c.1) (owners c.1) (last c.1) c.2 = .new ↔
      c.2 ∉ owners c.1 ∧ last c.1 ≠ some c.2 := by
    unfold standing at hstanding ⊢
    split_ifs at hstanding ⊢ with hconflict hexisting
    · exact absurd rfl hstanding
    · refine iff_of_false (by rintro ⟨⟩) ?_
      rintro ⟨hnot, hne⟩
      exact hexisting.elim hnot hne
    · exact iff_of_true rfl (not_or.mp hexisting)
  have howned : ∀ d ∈ claims ++ [c], exclusive d.1 = true → ∀ o ∈ owners d.1, o = d.2 := by
    intro d hd hexclusive
    rcases List.mem_append.mp hd with hd | hd
    · exact h.owned d hd hexclusive
    · obtain rfl := List.mem_singleton.mp hd
      exact (hfree hexclusive).1
  by_cases hknown : c.2 ∈ owners c.1
  · have hsame : unknown owners (claims ++ [c]) = unknown owners claims := by
      simp [unknown, hknown]
    rw [if_neg (fun hn => (hnew.mp hn).1 hknown), if_neg (fun hn => (hnew.mp hn).1 hknown),
      List.append_nil]
    exact ⟨by rw [hsame, h.last_eq], by rw [hsame, h.new_eq], howned, by rw [hsame]; exact h.unique⟩
  · have hmore : unknown owners (claims ++ [c]) = unknown owners claims ++ [c] := by
      simp [unknown, hknown]
    -- under an exclusive key the run has seen no other claimant
    have hagree : exclusive c.1 = true → ∀ d ∈ unknown owners claims, d.1 = c.1 → d.2 = c.2 := by
      intro hexclusive d hd hkey
      have hlast := h.last_of_mem hd (by rwa [hkey])
      rw [hkey] at hlast
      rcases (hfree hexclusive).2 with hnone | hsome
      · rw [hnone] at hlast
        cases hlast
      · rw [hsome] at hlast
        exact (Option.some.inj hlast).symm
    have hunique : ∀ d ∈ unknown owners (claims ++ [c]), ∀ e ∈ unknown owners (claims ++ [c]),
        exclusive d.1 = true → d.1 = e.1 → d.2 = e.2 := by
      intro d hd e he hexclusive hkey
      rw [hmore] at hd he
      rcases List.mem_append.mp hd with hold | hlast <;>
        rcases List.mem_append.mp he with hold' | hlast'
      · exact h.unique d hold e hold' hexclusive hkey
      · obtain rfl := List.mem_singleton.mp hlast'
        exact hagree (by rwa [← hkey]) d hold hkey
      · obtain rfl := List.mem_singleton.mp hlast
        exact (hagree hexclusive e hold' hkey.symm).symm
      · rw [List.mem_singleton.mp hlast, List.mem_singleton.mp hlast']
    refine ⟨?_, ?_, howned, hunique⟩
    · rw [hmore, after_append, ← h.last_eq]
      split_ifs with hstanding
      · rfl
      · have hsome : last c.1 = some c.2 := by
          by_contra hne
          exact hstanding (hnew.mpr ⟨hknown, hne⟩)
        exact (update_of_eq hsome).symm
    · rw [hmore, fresh_append, ← h.last_eq, ← h.new_eq]
      congr 1
      split_ifs with hstanding
      · rw [fresh, if_neg (hnew.mp hstanding).2, fresh]
      · have hsome : last c.1 = some c.2 := by
          by_contra hne
          exact hstanding (hnew.mpr ⟨hknown, hne⟩)
        rw [fresh, if_pos hsome, fresh]

/-! ## What a run has done -/

section Done

variable (h : Registered exclusive owners claims last new)

include h

/-- What is taken on is a claim that the registry does not know. -/
lemma Registered.mem_new : c ∈ new ↔ c ∈ claims ∧ c.2 ∉ owners c.1 := by
  rw [h.new_eq, mem_fresh (by simp)]
  simp [unknown]

/-- **Nothing is taken on twice exactly when the unknown claims are grouped.** -/
lemma Registered.nodup_iff : new.Nodup ↔ Grouped (unknown owners claims) := by
  rw [h.new_eq, nodup_fresh_iff]

/-- An exclusive key is taken on only if nobody owns it. -/
lemma Registered.owners_eq_nil (hc : c ∈ new) (hexclusive : exclusive c.1 = true) :
    owners c.1 = [] := by
  obtain ⟨hclaim, hnot⟩ := h.mem_new.mp hc
  refine List.eq_nil_iff_forall_not_mem.mpr fun o ho => hnot ?_
  rwa [← h.owned c hclaim hexclusive o ho]

/-- All that is taken on under an exclusive key is for one claimant. -/
lemma Registered.eq_of_key {d : K × V} (hc : c ∈ new) (hd : d ∈ new)
    (hexclusive : exclusive c.1 = true) (hkey : c.1 = d.1) : c.2 = d.2 := by
  have hmem : ∀ e ∈ new, e ∈ unknown owners claims := by
    intro e he
    obtain ⟨hclaim, hnot⟩ := h.mem_new.mp he
    simp [unknown, hclaim, hnot]
  exact h.unique c (hmem c hc) d (hmem d hd) hexclusive hkey

/-- Where every key is exclusive, no key is taken on twice. -/
lemma Registered.nodup_keys (hexclusive : ∀ k, exclusive k = true) : (new.map Prod.fst).Nodup := by
  have hnodup : new.Nodup := by
    rw [h.nodup_iff]
    intro k a b hne hsub
    have ha := hsub.subset (List.mem_cons_self ..)
    have hb := hsub.subset (List.mem_cons_of_mem _ (List.mem_cons_self ..))
    exact hne (h.unique _ ha _ hb (hexclusive k) rfl)
  refine hnodup.map_on fun c hc d hd hkey => ?_
  exact Prod.ext hkey (h.eq_of_key hc hd (hexclusive _) hkey)

/-- The owners of a key after the run. -/
def ownersAfter (owners : K → List V) (new : List (K × V)) (k : K) : List V :=
  owners k ++ (new.filter fun c => c.1 = k).map Prod.snd

omit h [DecidableEq V] in
lemma mem_ownersAfter {k : K} {v : V} :
    v ∈ ownersAfter owners new k ↔ v ∈ owners k ∨ (k, v) ∈ new := by
  rw [ownersAfter, List.mem_append, List.mem_map]
  refine or_congr_right ⟨?_, fun hmem => ⟨(k, v), by simp [hmem], rfl⟩⟩
  rintro ⟨c, hc, rfl⟩
  obtain ⟨hmem, hkey⟩ := List.mem_filter.mp hc
  rwa [← of_decide_eq_true hkey]

/-- **Afterwards the registry knows every claim.** -/
lemma Registered.settled (hc : c ∈ claims) :
    c.2 ∈ ownersAfter owners new c.1 ∧
      (exclusive c.1 = true → ∀ o ∈ ownersAfter owners new c.1, o = c.2) := by
  have hknown : c.2 ∈ owners c.1 ∨ c ∈ new := by
    rw [h.mem_new]
    tauto
  refine ⟨mem_ownersAfter.mpr hknown, fun hexclusive o ho => ?_⟩
  rcases mem_ownersAfter.mp ho with ho | ho
  · exact h.owned c hc hexclusive o ho
  · rcases hknown with hknown | hnew
    · have hnil := h.owners_eq_nil ho hexclusive
      rw [hnil] at hknown
      cases hknown
    · exact h.eq_of_key ho hnew hexclusive rfl

/-- So every claim stands as an existing one. -/
lemma Registered.standing_settled (hc : c ∈ claims) :
    standing (exclusive c.1) (ownersAfter owners new c.1) none c.2 = .existing := by
  obtain ⟨hmem, hall⟩ := h.settled hc
  unfold standing
  rw [if_neg, if_pos (Or.inl hmem)]
  rintro ⟨hexclusive, ⟨o, ho, hne⟩ | ⟨hnone, -⟩⟩
  · exact hne (hall hexclusive o ho)
  · exact hnone rfl

/-- An exclusive key has one owner after the run exactly when it had one at most before. -/
lemma Registered.single_iff {k : K} (hexclusive : exclusive k = true) :
    (∀ a ∈ ownersAfter owners new k, ∀ b ∈ ownersAfter owners new k, a = b) ↔
      ∀ a ∈ owners k, ∀ b ∈ owners k, a = b := by
  constructor
  · intro hsingle a ha b hb
    exact hsingle a (mem_ownersAfter.mpr (Or.inl ha)) b (mem_ownersAfter.mpr (Or.inl hb))
  · intro hsingle a ha b hb
    rcases mem_ownersAfter.mp ha with ha | ha <;> rcases mem_ownersAfter.mp hb with hb | hb
    · exact hsingle a ha b hb
    · rw [h.owners_eq_nil hb hexclusive] at ha
      cases ha
    · rw [h.owners_eq_nil ha hexclusive] at hb
      cases hb
    · exact h.eq_of_key ha hb hexclusive rfl

end Done

end Registry
