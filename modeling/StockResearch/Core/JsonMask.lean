import StockResearch.Core.JsonMeaning

/-!
# Masked JSON

`mask` puts a marker under every key of a kind, at every depth, and leaves everything else.  `Sealed`
says that nothing but the marker stands under such a key: these are the values that `mask` leaves as
they are (`mask_of_sealed`, `sealed_mask`).  Two values with one mask agree wherever no such key
stands above.

The order of keys plays no part: `mask_sortKeys`, `sealed_sortKeys`.

The size of the canonical text is that of its parts: `textSize_arr`, `textSize_obj`.
-/

namespace PyJson

section Mask

variable (sensitive : String → Bool) (marker : String)

mutual

/-- The value with the marker under every sensitive key. -/
def mask : Value → Value
  | .arr items => .arr (maskItems items)
  | .obj fields => .obj (maskFields fields)
  | v => v

def maskItems : List Value → List Value
  | [] => []
  | v :: vs => mask v :: maskItems vs

def maskFields : List (String × Value) → List (String × Value)
  | [] => []
  | (k, v) :: fs => (k, if sensitive k then .str marker else mask v) :: maskFields fs

end

mutual

/-- Under every sensitive key, at every depth, stands the marker. -/
def Sealed : Value → Prop
  | .arr items => SealedItems items
  | .obj fields => SealedFields fields
  | _ => True

def SealedItems : List Value → Prop
  | [] => True
  | v :: vs => Sealed v ∧ SealedItems vs

def SealedFields : List (String × Value) → Prop
  | [] => True
  | (k, v) :: fs => ((sensitive k = true → v = .str marker) ∧ Sealed v) ∧ SealedFields fs

end

variable {sensitive marker}

def maskMember (sensitive : String → Bool) (marker : String) (f : String × Value) : String × Value :=
  (f.1, if sensitive f.1 then .str marker else mask sensitive marker f.2)

lemma maskFields_eq_map (fields : List (String × Value)) :
    maskFields sensitive marker fields = fields.map (maskMember sensitive marker) := by
  induction fields with
  | nil => rfl
  | cons f fs ih =>
      obtain ⟨k, v⟩ := f
      rw [maskFields, ih, List.map_cons]
      rfl

lemma keys_maskFields (fields : List (String × Value)) :
    (maskFields sensitive marker fields).map Prod.fst = fields.map Prod.fst := by
  rw [maskFields_eq_map, List.map_map]
  rfl

lemma sealedFields_iff {fields : List (String × Value)} : SealedFields sensitive marker fields ↔
    ∀ f ∈ fields, (sensitive f.1 = true → f.2 = .str marker) ∧ Sealed sensitive marker f.2 := by
  induction fields with
  | nil => simp [SealedFields]
  | cons f fs ih =>
      obtain ⟨k, v⟩ := f
      rw [SealedFields, ih, List.forall_mem_cons]

mutual

/-- What is sealed is left as it is. -/
theorem mask_of_sealed (v : Value) (h : Sealed sensitive marker v) :
    mask sensitive marker v = v := by
  match v with
  | .null | .bool _ | .int _ | .real _ | .str _ => rfl
  | .arr items => rw [mask, maskItems_of_sealed items h]
  | .obj fields => rw [mask, maskFields_of_sealed fields h]

lemma maskItems_of_sealed (items : List Value) (h : SealedItems sensitive marker items) :
    maskItems sensitive marker items = items := by
  match items with
  | [] => rfl
  | v :: vs => rw [maskItems, mask_of_sealed v h.1, maskItems_of_sealed vs h.2]

lemma maskFields_of_sealed (fields : List (String × Value))
    (h : SealedFields sensitive marker fields) : maskFields sensitive marker fields = fields := by
  match fields with
  | [] => rfl
  | (k, v) :: fs =>
      rw [maskFields, maskFields_of_sealed fs h.2, mask_of_sealed v h.1.2]
      split
      · next hk => rw [h.1.1 hk]
      · rfl

end

mutual

/-- **A masked value is sealed.** -/
theorem sealed_mask (v : Value) : Sealed sensitive marker (mask sensitive marker v) := by
  match v with
  | .null | .bool _ | .int _ | .real _ | .str _ => trivial
  | .arr items => exact sealedItems_mask items
  | .obj fields => exact sealedFields_mask fields

lemma sealedItems_mask (items : List Value) :
    SealedItems sensitive marker (maskItems sensitive marker items) := by
  match items with
  | [] => trivial
  | v :: vs => exact ⟨sealed_mask v, sealedItems_mask vs⟩

lemma sealedFields_mask (fields : List (String × Value)) :
    SealedFields sensitive marker (maskFields sensitive marker fields) := by
  match fields with
  | [] => trivial
  | (k, v) :: fs =>
      refine ⟨?_, sealedFields_mask fs⟩
      split
      · exact ⟨fun _ => rfl, trivial⟩
      · next hk => exact ⟨fun h => absurd h hk, sealed_mask v⟩

end

mutual

lemma plain_mask (v : Value) (h : Plain v) : Plain (mask sensitive marker v) := by
  match v with
  | .null | .bool _ | .int _ | .str _ => trivial
  | .real _ => exact h.elim
  | .arr items => exact plainItems_mask items h
  | .obj fields =>
      refine ⟨?_, plainFields_mask fields h.2⟩
      rw [keys_maskFields]
      exact h.1

lemma plainItems_mask (items : List Value) (h : PlainItems items) :
    PlainItems (maskItems sensitive marker items) := by
  match items with
  | [] => trivial
  | v :: vs => exact ⟨plain_mask v h.1, plainItems_mask vs h.2⟩

lemma plainFields_mask (fields : List (String × Value)) (h : PlainFields fields) :
    PlainFields (maskFields sensitive marker fields) := by
  match fields with
  | [] => trivial
  | (k, v) :: fs =>
      refine ⟨?_, plainFields_mask fs h.2⟩
      split
      · trivial
      · exact plain_mask v h.1

end

/-! ## Key order -/

lemma insertionSort_maskMember (fields : List (String × Value)) :
    (fields.map (maskMember sensitive marker)).insertionSort keyLE =
      (fields.insertionSort keyLE).map (maskMember sensitive marker) :=
  (List.map_insertionSort (r := keyLE) (s := keyLE) (maskMember sensitive marker) fields
    fun _ _ _ _ => Iff.rfl).symm

mutual

/-- Masking and sorting go in either order. -/
theorem mask_sortKeys (v : Value) :
    mask sensitive marker (sortKeys v) = sortKeys (mask sensitive marker v) := by
  match v with
  | .null | .bool _ | .int _ | .real _ | .str _ => rfl
  | .arr items => rw [sortKeys, mask, mask, sortKeys, maskItems_sortItems items]
  | .obj fields =>
      have hfields := maskFields_sortFields fields
      rw [maskFields_eq_map, sortFields_eq_map] at hfields
      rw [sortKeys_obj, mask, maskFields_eq_map, ← insertionSort_maskMember, hfields, mask,
        sortKeys_obj, ← sortFields_eq_map]

lemma maskItems_sortItems (items : List Value) :
    maskItems sensitive marker (sortItems items) = sortItems (maskItems sensitive marker items) := by
  match items with
  | [] => rfl
  | v :: vs => rw [sortItems, maskItems, maskItems, sortItems, mask_sortKeys v, maskItems_sortItems vs]

lemma maskFields_sortFields (fields : List (String × Value)) :
    maskFields sensitive marker (sortFields fields) =
      sortFields (maskFields sensitive marker fields) := by
  match fields with
  | [] => rfl
  | (k, v) :: fs =>
      rw [sortFields, maskFields, maskFields, sortFields, maskFields_sortFields fs, mask_sortKeys v]
      split <;> rfl

end

mutual

/-- Sorting the keys seals nothing, and breaks no seal. -/
theorem sealed_sortKeys (v : Value) :
    Sealed sensitive marker (sortKeys v) ↔ Sealed sensitive marker v := by
  match v with
  | .null | .bool _ | .int _ | .real _ | .str _ => exact Iff.rfl
  | .arr items => exact sealedItems_sortItems items
  | .obj fields =>
      have hperm := List.perm_insertionSort keyLE (sortFields fields)
      rw [sortKeys_obj, ← sortFields_eq_map, Sealed, Sealed, ← sealedFields_sortFields fields,
        sealedFields_iff, sealedFields_iff]
      exact ⟨fun h f hf => h f (hperm.mem_iff.mpr hf), fun h f hf => h f (hperm.mem_iff.mp hf)⟩

lemma sealedItems_sortItems (items : List Value) :
    SealedItems sensitive marker (sortItems items) ↔ SealedItems sensitive marker items := by
  match items with
  | [] => exact Iff.rfl
  | v :: vs => exact and_congr (sealed_sortKeys v) (sealedItems_sortItems vs)

lemma sealedFields_sortFields (fields : List (String × Value)) :
    SealedFields sensitive marker (sortFields fields) ↔ SealedFields sensitive marker fields := by
  match fields with
  | [] => exact Iff.rfl
  | (k, v) :: fs =>
      refine and_congr (and_congr (imp_congr_right fun _ => ?_) (sealed_sortKeys v))
        (sealedFields_sortFields fs)
      -- Sorting neither makes nor loses a text.
      constructor
      · intro h
        cases v <;> first | exact h | cases h
      · rintro rfl
        rfl

end

end Mask

/-! ## Size -/

/-- The number of bytes of a text in UTF-8. -/
def byteSize (cs : List Char) : Nat := (cs.map Char.utf8Size).sum

/-- The number of bytes of a canonical text. -/
def textSize (v : Value) : Nat := byteSize (canonicalText v)

/-- A member of an object with its colon. -/
def memberSize (f : String × Value) : Nat := byteSize (dumpsStr f.1) + 1 + textSize f.2

lemma byteSize_append (cs ds : List Char) : byteSize (cs ++ ds) = byteSize cs + byteSize ds := by
  rw [byteSize, List.map_append, List.sum_append]
  rfl

lemma byteSize_cons (c : Char) (cs : List Char) : byteSize (c :: cs) = c.utf8Size + byteSize cs := by
  rw [byteSize, List.map_cons, List.sum_cons]
  rfl

/-- A comma behind every element but the last, and a bracket behind that. -/
lemma byteSize_dumpsItems (items : List Value) : byteSize (dumpsItems items) =
    (items.map fun v => byteSize (dumps v)).sum + max items.length 1 := by
  induction items with
  | nil => rfl
  | cons v items ih =>
      cases items with
      | nil =>
          rw [dumpsItems, byteSize_append]
          rfl
      | cons w vs =>
          have hcomma : ','.utf8Size = 1 := rfl
          rw [dumpsItems, byteSize_append, byteSize_cons, ih, hcomma]
          simp only [List.map_cons, List.sum_cons, List.length_cons]
          omega

lemma byteSize_dumpsFields (fields : List (String × Value)) : byteSize (dumpsFields fields) =
    (fields.map fun f => byteSize (dumpsStr f.1) + 1 + byteSize (dumps f.2)).sum +
      max fields.length 1 := by
  have hcolon : ':'.utf8Size = 1 := rfl
  induction fields with
  | nil => rfl
  | cons field fields ih =>
      obtain ⟨k, v⟩ := field
      cases fields with
      | nil =>
          have hbrace : byteSize ['}'] = 1 := rfl
          rw [dumpsFields, byteSize_append, byteSize_cons, byteSize_append, hcolon, hbrace]
          simp only [List.map_cons, List.map_nil, List.sum_cons, List.sum_nil, List.length_cons,
            List.length_nil]
          omega
      | cons f fs =>
          have hcomma : ','.utf8Size = 1 := rfl
          rw [dumpsFields, byteSize_append, byteSize_cons, byteSize_append, byteSize_cons, ih, hcolon,
            hcomma]
          simp only [List.map_cons, List.sum_cons, List.length_cons]
          omega

/-- The size of an array. -/
theorem textSize_arr (items : List Value) :
    textSize (.arr items) = 1 + (items.map textSize).sum + max items.length 1 := by
  have hbracket : '['.utf8Size = 1 := rfl
  rw [textSize, canonicalText, sortKeys, dumps, byteSize_cons, byteSize_dumpsItems,
    sortItems_eq_map, List.map_map, List.length_map, hbracket, ← add_assoc]
  rfl

/-- The size of an object, whatever the order of its members. -/
theorem textSize_obj (fields : List (String × Value)) :
    textSize (.obj fields) = 1 + (fields.map memberSize).sum + max fields.length 1 := by
  have hbrace : '{'.utf8Size = 1 := rfl
  have hperm := List.perm_insertionSort keyLE (fields.map fun f => (f.1, sortKeys f.2))
  rw [textSize, canonicalText, sortKeys_obj, dumps, byteSize_cons, byteSize_dumpsFields,
    (hperm.map _).sum_nat, hperm.length_eq, List.map_map, List.length_map, hbrace, ← add_assoc]
  rfl

lemma textSize_pos {v : Value} (hv : Plain v) : 0 < textSize v := by
  cases v with
  | null => exact Nat.zero_lt_succ _
  | bool b => cases b <;> exact Nat.zero_lt_succ _
  | int n =>
      have hdigits : ∀ m, 0 < byteSize (Nat.toDigits 10 m) := by
        intro m
        obtain ⟨c, cs, h⟩ := List.exists_cons_of_ne_nil (Nat.toDigits_ne_nil (n := m) (b := 10))
        rw [h, byteSize_cons]
        exact Nat.add_pos_left c.utf8Size_pos _
      cases n with
      | ofNat n => exact hdigits n
      | negSucc n => exact Nat.add_pos_right _ (hdigits (n + 1))
  | real _ => exact hv.elim
  | str _ => exact Nat.add_pos_left Nat.one_pos _
  | arr items =>
      rw [textSize_arr]
      omega
  | obj fields =>
      rw [textSize_obj]
      omega

end PyJson
