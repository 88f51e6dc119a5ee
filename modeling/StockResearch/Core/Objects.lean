import StockResearch.Core.Checked
import StockResearch.Core.Decimal
import StockResearch.Core.Canonical
import StockResearch.Core.Dict
import StockResearch.Core.Uuid
import StockResearch.Core.Zoned
import Mathlib.Data.Sum.Basic
import Mathlib.Logic.Relation

/-!
# Python objects

What a function of type `object` may be given.  A model stands for what `model_dump(mode="python")`
returns; of an object of any other class only its class and its identity are known.

**Equality.**  `equal` is Python's `==`.  Numbers of different types compare by their values, and
dictionaries without regard to the order of their keys.

**Walks.**  `walk` goes through mappings, sequences and, if it is told to, models.  `walk_ok_iff`: it
accepts an object exactly when its checks accept everything that is reached from it.

**Insertion order.**  `Reordered` relates objects that differ only in the order in which the keys of
their mappings were inserted, at any depth.
-/

namespace PyObject

open PyTime Checked

/-- A key of a mapping.  Of a key that is no string only `str(key)` and its identity are known. -/
inductive Key where
  | str (s : String)
  | other (text : String) (id : Nat)
deriving DecidableEq

/-- `str(key)` -/
def Key.text : Key → String
  | .str s => s
  | .other text _ => text

/-- `isinstance(key, str)` -/
def Key.isStr : Key → Bool
  | .str _ => true
  | .other .. => false

/-- A number that is not finite. -/
inductive Special where
  | infinity (negative : Bool)
  | nan
deriving DecidableEq

/-- What kind of sequence it is; a sequence of another class goes by the name of its class. -/
inductive SequenceKind where
  | list
  | tuple
  | other (className : String)
deriving DecidableEq

/-- An object.  A member of an enumeration that is a string or an integer as well is that. -/
inductive Object where
  | none
  | bool (b : Bool)
  | int (n : Int)
  | float (x : ℚ ⊕ Special)
  | decimal (d : PyDecimal.Decimal)
  | notFinite (x : Special)
  | str (s : String)
  | uuid (u : Uuid)
  | datetime (d : DateTime)
  | date (d : Date)
  | enum (member : String) (value : Object)
  | model (className : String) (dump : Object)
  | mapping (fields : List (Key × Object))
  | sequence (kind : SequenceKind) (items : List Object)
  | foreign (className : String) (id : Nat)

/-! ## Equality -/

/-- The value of a number. -/
def Object.number? : Object → Option (ℚ ⊕ Special)
  | .bool b => some (.inl (if b then 1 else 0))
  | .int n => some (.inl n)
  | .float x => some x
  | .decimal d => some (.inl d.toRat)
  | .notFinite x => some (.inr x)
  | _ => Option.none

/-- Equality of numbers: what is not a number equals nothing. -/
def sameNumber : Option (ℚ ⊕ Special) → Option (ℚ ⊕ Special) → Bool
  | some (.inl p), some (.inl q) => p == q
  | some (.inr (.infinity a)), some (.inr (.infinity b)) => a == b
  | _, _ => false

/-- Equality of times: without offsets they compare as they stand, and otherwise as moments. -/
def sameTime (d e : DateTime) : Bool :=
  if d.offset.isNone && e.offset.isNone then d.wall == e.wall
  else d.microseconds.isSome && d.microseconds == e.microseconds

mutual

/-- `v == w` -/
def equal : Object → Object → Bool
  | .none, .none => true
  | .str s, .str t => s == t
  | .uuid u, .uuid w => u == w
  | .datetime d, .datetime e => sameTime d e
  | .date d, .date e => d == e
  | .enum m _, .enum n _ => m == n
  | .model m v, .model n w => m == n && equal v w
  | .mapping fs, .mapping gs => fs.length == gs.length && equalFields fs gs
  | .sequence k vs, .sequence l ws => k == l && equalItems vs ws
  | .foreign m i, .foreign n j => m == n && i == j
  | v, w => sameNumber v.number? w.number?

def equalItems : List Object → List Object → Bool
  | [], [] => true
  | v :: vs, w :: ws => equal v w && equalItems vs ws
  | _, _ => false

/-- The other mapping has every key, with an equal value. -/
def equalFields : List (Key × Object) → List (Key × Object) → Bool
  | [], _ => true
  | (k, v) :: fs, gs => (match gs.lookup k with
      | some w => equal v w
      | Option.none => false) && equalFields fs gs

end

example : equal (.bool true) (.int 1) = true ∧ equal (.int 1) (.str "1") = false := by
  decide +kernel

/-- Only an identifier equals an identifier. -/
lemma equal_uuid {v : Object} {u : Uuid} : equal v (.uuid u) = true ↔ v = .uuid u := by
  cases v <;> simp [equal, Object.number?, sameNumber]

lemma sameNumber_comm (x y : Option (ℚ ⊕ Special)) : sameNumber x y = sameNumber y x := by
  rcases x with _ | (p | (a | _)) <;> rcases y with _ | (q | (b | _))
  all_goals first | rfl | exact Bool.beq_comm

lemma equalFields_iff {fs gs : List (Key × Object)} : equalFields fs gs = true ↔
    ∀ f ∈ fs, ∃ w, gs.lookup f.1 = some w ∧ equal f.2 w = true := by
  induction fs with
  | nil => simp [equalFields]
  | cons f fs ih =>
      obtain ⟨k, v⟩ := f
      rw [equalFields, Bool.and_eq_true, ih, List.forall_mem_cons]
      refine and_congr_left fun _ => ?_
      cases gs.lookup k <;> simp

lemma equalFields_symm {fs gs : List (Key × Object)} (hfs : (fs.map Prod.fst).Nodup)
    (hgs : (gs.map Prod.fst).Nodup) (hlength : fs.length = gs.length)
    (hcomm : ∀ f ∈ fs, ∀ g ∈ gs, equal f.2 g.2 = equal g.2 f.2) (h : equalFields fs gs = true) :
    equalFields gs fs = true := by
  rw [equalFields_iff] at h ⊢
  have hsubset : fs.map Prod.fst ⊆ gs.map Prod.fst := by
    intro k hk
    obtain ⟨f, hf, rfl⟩ := List.mem_map.mp hk
    obtain ⟨w, hw, -⟩ := h f hf
    exact List.mem_map.mpr ⟨_, Dict.mem_of_lookup hw, rfl⟩
  have hperm : (fs.map Prod.fst).Perm (gs.map Prod.fst) :=
    (List.subperm_of_subset hfs hsubset).perm_of_length_le (by simp [hlength])
  intro g hg
  obtain ⟨f, hf, hkey⟩ := List.mem_map.mp (hperm.mem_iff.mpr (List.mem_map_of_mem hg))
  obtain ⟨w, hw, hequal⟩ := h f hf
  rw [hkey, Dict.lookup_of_mem hgs hg] at hw
  obtain rfl := Option.some.inj hw
  exact ⟨f.2, hkey ▸ Dict.lookup_of_mem hfs hf, hcomm f hf g hg ▸ hequal⟩

/-- Equality of dictionaries is symmetric if that of their values is. -/
lemma equal_mapping_comm {fs gs : List (Key × Object)} (hfs : (fs.map Prod.fst).Nodup)
    (hgs : (gs.map Prod.fst).Nodup)
    (hcomm : ∀ f ∈ fs, ∀ g ∈ gs, equal f.2 g.2 = equal g.2 f.2) :
    equal (.mapping fs) (.mapping gs) = equal (.mapping gs) (.mapping fs) := by
  rw [equal, equal, Bool.eq_iff_iff, Bool.and_eq_true, Bool.and_eq_true, beq_iff_eq, beq_iff_eq]
  constructor
  · rintro ⟨hlength, h⟩
    exact ⟨hlength.symm, equalFields_symm hfs hgs hlength hcomm h⟩
  · rintro ⟨hlength, h⟩
    exact ⟨hlength.symm, equalFields_symm hgs hfs hlength
      (fun g hg f hf => (hcomm f hf g hg).symm) h⟩

/-! ## Walks -/

/-- What a walk goes on to, from one object: the values of a mapping, the items of a sequence, and
the fields of a model if it enters models. -/
inductive Child (models : Bool) : Object → Object → Prop where
  | field {fields : List (Key × Object)} {f : Key × Object} (hf : f ∈ fields) :
      Child models (.mapping fields) f.2
  | item {kind : SequenceKind} {items : List Object} {v : Object} (hv : v ∈ items) :
      Child models (.sequence kind items) v
  | dump {className : String} {dump : Object} (henter : models = true) :
      Child models (.model className dump) dump

/-- What a walk comes to. -/
abbrev Reaches (models : Bool) : Object → Object → Prop := Relation.ReflTransGen (Child models)

/-- A field of a mapping that a walk comes to. -/
def Occurs (models : Bool) (v : Object) (key : Key) (item : Object) : Prop :=
  ∃ fields, Reaches models v (.mapping fields) ∧ (key, item) ∈ fields

section Walk

variable {ε : Type} (models : Bool) (leaf : Object → Except ε Unit)
  (field : List (Key × Object) → Key × Object → Except ε Unit)

mutual

/-- Every field is checked before its value is entered, and what is not entered is checked as a
leaf. -/
def walk : Object → Except ε Unit
  | .mapping fields => walkFields fields fields
  | .sequence _ items => walkItems items
  | .model className dump => if models then walk dump else leaf (.model className dump)
  | v => leaf v

def walkItems : List Object → Except ε Unit
  | [] => .ok ()
  | v :: vs => do
      walk v
      walkItems vs

def walkFields (whole : List (Key × Object)) : List (Key × Object) → Except ε Unit
  | [] => .ok ()
  | (k, v) :: fs => do
      field whole (k, v)
      walk v
      walkFields whole fs

end

/-- What a walk checks where it comes to. -/
def nodeOk : Object → Prop
  | .mapping fields => ∀ f ∈ fields, field fields f = .ok ()
  | .sequence _ _ => True
  | .model className dump => models = true ∨ leaf (.model className dump) = .ok ()
  | v => leaf v = .ok ()

variable {models leaf field}

/-- Everything reached is the object itself or is reached from a child. -/
lemma forall_reaches {P : Object → Prop} {v : Object} : (∀ x, Reaches models v x → P x) ↔
    P v ∧ ∀ w, Child models v w → ∀ x, Reaches models w x → P x := by
  constructor
  · intro h
    exact ⟨h v .refl, fun w hw x hx => h x (.head hw hx)⟩
  · rintro ⟨hv, hchildren⟩ x hx
    rcases Relation.ReflTransGen.cases_head hx with rfl | ⟨w, hw, hx⟩
    · exact hv
    · exact hchildren w hw x hx

/-- An object without children is all that is reached from it. -/
lemma forall_reaches_leaf {P : Object → Prop} {v : Object} (hleaf : ∀ w, ¬ Child models v w) :
    (∀ x, Reaches models v x → P x) ↔ P v := by
  rw [forall_reaches]
  exact and_iff_left fun w hw => absurd hw (hleaf w)

mutual

/-- **A walk accepts an object exactly when its checks accept everything that is reached from it.** -/
theorem walk_ok_iff (v : Object) : walk models leaf field v = .ok () ↔
    ∀ x, Reaches models v x → nodeOk models leaf field x := by
  match v with
  | .mapping fields =>
      rw [forall_reaches, walk, walkFields_ok_iff]
      constructor
      · intro h
        refine ⟨fun f hf => (h f hf).1, fun w hw => ?_⟩
        cases hw with
        | field hf => exact (h _ hf).2
      · rintro ⟨hnode, hchildren⟩ f hf
        exact ⟨hnode f hf, hchildren f.2 (.field hf)⟩
  | .sequence kind items =>
      rw [forall_reaches, walk, walkItems_ok_iff]
      constructor
      · intro h
        refine ⟨trivial, fun w hw => ?_⟩
        cases hw with
        | item hv => exact h _ hv
      · rintro ⟨-, hchildren⟩ v hv
        exact hchildren v (.item hv)
  | .model className dump =>
      rw [walk]
      split
      · next henter =>
        rw [forall_reaches]
        constructor
        · intro h
          refine ⟨.inl henter, fun w hw => ?_⟩
          cases hw with
          | dump _ => exact (walk_ok_iff dump).mp h
        · rintro ⟨-, hchildren⟩
          exact (walk_ok_iff dump).mpr (hchildren dump (.dump henter))
      · next henter =>
        rw [forall_reaches_leaf]
        · simp [nodeOk, henter]
        · intro w hw
          cases hw with
          | dump h => exact henter h
  | .none | .bool _ | .int _ | .float _ | .decimal _ | .notFinite _ | .str _ | .uuid _
  | .datetime _ | .date _ | .enum _ _ | .foreign _ _ =>
      rw [forall_reaches_leaf fun w hw => by cases hw]
      simp [walk, nodeOk]

lemma walkItems_ok_iff (items : List Object) : walkItems models leaf field items = .ok () ↔
    ∀ v ∈ items, ∀ x, Reaches models v x → nodeOk models leaf field x := by
  match items with
  | [] => simp [walkItems]
  | v :: vs =>
      rw [walkItems, unit_bind_ok, walk_ok_iff v, walkItems_ok_iff vs, List.forall_mem_cons]

lemma walkFields_ok_iff (whole fields : List (Key × Object)) :
    walkFields models leaf field whole fields = .ok () ↔
      ∀ f ∈ fields, field whole f = .ok () ∧
        ∀ x, Reaches models f.2 x → nodeOk models leaf field x := by
  match fields with
  | [] => simp [walkFields]
  | (k, v) :: fs =>
      rw [walkFields, unit_bind_ok, unit_bind_ok, walk_ok_iff v, walkFields_ok_iff whole fs,
        List.forall_mem_cons, and_assoc]

end

/-- An accepted object has passed the check of every field that occurs in it. -/
lemma field_of_walk {v : Object} (h : walk models leaf field v = .ok ()) {key : Key}
    {item : Object} (hoccurs : Occurs models v key item) :
    ∃ fields, (key, item) ∈ fields ∧ field fields (key, item) = .ok () := by
  obtain ⟨fields, hreaches, hf⟩ := hoccurs
  exact ⟨fields, hf, (walk_ok_iff v).mp h _ hreaches _ hf⟩

end Walk

/-! ## Insertion order -/

mutual

/-- Equal up to the order in which the keys of mappings were inserted. -/
inductive Reordered : Object → Object → Prop where
  | refl (v : Object) : Reordered v v
  | enum (member : String) {v w : Object} (h : Reordered v w) :
      Reordered (.enum member v) (.enum member w)
  | model (className : String) {v w : Object} (h : Reordered v w) :
      Reordered (.model className v) (.model className w)
  | sequence (kind : SequenceKind) {vs ws : List Object} (h : ReorderedItems vs ws) :
      Reordered (.sequence kind vs) (.sequence kind ws)
  | mapping {fs fs' gs : List (Key × Object)} (hkeys : (fs.map Prod.fst).Nodup)
      (hperm : fs.Perm fs') (h : ReorderedFields fs' gs) : Reordered (.mapping fs) (.mapping gs)

inductive ReorderedItems : List Object → List Object → Prop where
  | nil : ReorderedItems [] []
  | cons {v w : Object} {vs ws : List Object} (h : Reordered v w) (hs : ReorderedItems vs ws) :
      ReorderedItems (v :: vs) (w :: ws)

inductive ReorderedFields : List (Key × Object) → List (Key × Object) → Prop where
  | nil : ReorderedFields [] []
  | cons (k : Key) {v w : Object} {fs gs : List (Key × Object)} (h : Reordered v w)
      (hs : ReorderedFields fs gs) : ReorderedFields ((k, v) :: fs) ((k, w) :: gs)

end

lemma keys_of_reordered {fs gs : List (Key × Object)} (h : ReorderedFields fs gs) :
    fs.map Prod.fst = gs.map Prod.fst := by
  induction fs generalizing gs with
  | nil =>
      cases h
      rfl
  | cons f fs ih =>
      cases h with
      | cons k h hs => rw [List.map_cons, List.map_cons, ih hs]

/-! ## Decoded JSON -/

section Json

open PyJson

-- `float(literal)`
variable (toFloat : List Char → ℚ ⊕ Special)

mutual

/-- What `json.loads` returns, as an object. -/
def ofJson : Value → Object
  | .null => .none
  | .bool b => .bool b
  | .int n => .int n
  | .real literal => .float (toFloat literal)
  | .str s => .str s
  | .arr items => .sequence .list (ofItems items)
  | .obj fields => .mapping (ofFields fields)

def ofItems : List Value → List Object
  | [] => []
  | v :: vs => ofJson v :: ofItems vs

def ofFields : List (String × Value) → List (Key × Object)
  | [] => []
  | (k, v) :: fs => (.str k, ofJson v) :: ofFields fs

end

lemma isStr_ofFields (fields : List (String × Value)) :
    ∀ f ∈ ofFields toFloat fields, f.1.isStr = true := by
  induction fields with
  | nil => simp [ofFields]
  | cons f fs ih => exact List.forall_mem_cons.mpr ⟨rfl, ih⟩

lemma keys_ofFields (fields : List (String × Value)) :
    (ofFields toFloat fields).map Prod.fst = (fields.map Prod.fst).map Key.str := by
  induction fields with
  | nil => rfl
  | cons f fs ih =>
      obtain ⟨k, v⟩ := f
      rw [ofFields, List.map_cons, ih]
      rfl

lemma nodup_ofFields {fields : List (String × Value)} (h : (fields.map Prod.fst).Nodup) :
    ((ofFields toFloat fields).map Prod.fst).Nodup := by
  rw [keys_ofFields]
  exact h.map fun s t hst => Key.str.inj hst

lemma mem_ofFields {fields : List (String × Value)} {g : Key × Object}
    (h : g ∈ ofFields toFloat fields) : ∃ f ∈ fields, g = (.str f.1, ofJson toFloat f.2) := by
  induction fields with
  | nil => cases h
  | cons f fs ih =>
      rcases List.mem_cons.mp h with rfl | h
      · exact ⟨f, List.mem_cons_self, rfl⟩
      · obtain ⟨f', hf', hg⟩ := ih h
        exact ⟨f', List.mem_cons_of_mem _ hf', hg⟩

variable {toFloat}

mutual

/-- Equality of decoded values is symmetric. -/
theorem equal_ofJson_comm (v : Value) (hv : Plain v) (w : Value) (hw : Plain w) :
    equal (ofJson toFloat v) (ofJson toFloat w) = equal (ofJson toFloat w) (ofJson toFloat v) := by
  match v, w with
  | .arr vs, .arr ws =>
      rw [ofJson, ofJson, equal, equal, equalItems_ofItems_comm vs hv ws hw]
  | .obj fs, .obj gs =>
      have hcomm := equal_ofFields_comm fs hv.2
      refine equal_mapping_comm (nodup_ofFields toFloat hv.1) (nodup_ofFields toFloat hw.1) ?_
      intro f' hf' g' hg'
      obtain ⟨f, hf, rfl⟩ := mem_ofFields toFloat hf'
      obtain ⟨g, hg, rfl⟩ := mem_ofFields toFloat hg'
      exact hcomm f hf g.2 (plainFields_iff.mp hw.2 g hg)
  | .str s, .str t => exact Bool.beq_comm
  | .null, .null => rfl
  | .null, .bool _ | .null, .int _ | .null, .str _ | .null, .arr _ | .null, .obj _ => rfl
  | .bool _, w => cases w <;> exact sameNumber_comm _ _
  | .int _, w => cases w <;> exact sameNumber_comm _ _
  | .real _, _ => exact hv.elim
  | .str _, .null | .str _, .bool _ | .str _, .int _ | .str _, .arr _ | .str _, .obj _ =>
      exact sameNumber_comm _ _
  | .arr _, .null | .arr _, .bool _ | .arr _, .int _ | .arr _, .str _ | .arr _, .obj _ =>
      exact sameNumber_comm _ _
  | .obj _, .null | .obj _, .bool _ | .obj _, .int _ | .obj _, .str _ | .obj _, .arr _ =>
      exact sameNumber_comm _ _
  | .null, .real _ | .str _, .real _ | .arr _, .real _ | .obj _, .real _ => exact hw.elim

lemma equalItems_ofItems_comm (vs : List Value) (hvs : PlainItems vs) (ws : List Value)
    (hws : PlainItems ws) : equalItems (ofItems toFloat vs) (ofItems toFloat ws) =
      equalItems (ofItems toFloat ws) (ofItems toFloat vs) := by
  match vs, ws with
  | [], [] => rfl
  | [], _ :: _ => rfl
  | _ :: _, [] => rfl
  | v :: vs, w :: ws =>
      rw [ofItems, ofItems, equalItems, equalItems, equal_ofJson_comm v hvs.1 w hws.1,
        equalItems_ofItems_comm vs hvs.2 ws hws.2]

lemma equal_ofFields_comm (fields : List (String × Value)) (h : PlainFields fields) :
    ∀ f ∈ fields, ∀ w, Plain w →
      equal (ofJson toFloat f.2) (ofJson toFloat w) =
        equal (ofJson toFloat w) (ofJson toFloat f.2) := by
  match fields with
  | [] => simp
  | (k, v) :: fs =>
      intro f hf w hw
      rcases List.mem_cons.mp hf with rfl | hf
      · exact equal_ofJson_comm v h.1 w hw
      · exact equal_ofFields_comm fs h.2 f hf w hw

end

end Json

end PyObject
