import StockResearch.Core.Json

/-!
# Reading JSON with a hook on the members of an object

`json.loads(text, object_pairs_hook=…)` with a hook that refuses a repeated key, as far as a reader
of strings by their place can tell documents apart.  A string is a list of code points: an escape may
name half of a surrogate pair, which is no character.  The hook runs when an object is closed, so
what is wrong first in the text is reported.

The interpreter limits how deep the reader may go and how long an integer may be.
-/

namespace PyJson

/-- Why a text was refused. -/
inductive LoadError where
  | decoding | duplicateKey
  /-- `RecursionError` -/
  | recursion
  /-- `ValueError`: an integer with too many digits. -/
  | digits
deriving DecidableEq, Repr

/-- What the interpreter allows: nested values, and digits of an integer. -/
structure ReaderLimits where
  nesting : Nat
  digits : Nat

/-- A document: strings by their code points, and numbers and constants as leaves. -/
inductive Doc where
  | leaf
  | str (value : List Nat)
  | arr (items : List Doc)
  | obj (fields : List (List Nat × Doc))

/-- What was read, or a decoding error. -/
def decoded {α : Type} : Option α → Except LoadError α
  | some a => .ok a
  | none => .error .decoding

/-- The code point named by the escape after a `\u`: two halves of a pair are one. -/
def pointEscape (cs : List Char) : Option (Nat × List Char) := do
  let (high, r) ← hex4 cs
  if 0xd800 ≤ high ∧ high ≤ 0xdbff then
    match r with
    | '\\' :: 'u' :: r' =>
        let (low, r') ← hex4 r'
        if 0xdc00 ≤ low ∧ low ≤ 0xdfff then
          return (0x10000 + (high - 0xd800) * 0x400 + (low - 0xdc00), r')
        else return (high, r)
    | _ => return (high, r)
  else return (high, r)

/-- A string literal after its opening quote, as code points. -/
def loadsPoints : Nat → List Char → Option (List Nat × List Char)
  | 0, _ => none
  | _ + 1, [] => none
  | n + 1, c :: r =>
      if c = '"' then some ([], r)
      else if c = '\\' then do
        let (e, r) ← match r with
          | 'u' :: r => pointEscape r
          | r => (escape r).map fun e => (e.1.toNat, e.2)
        let (s, r) ← loadsPoints n r
        return (e :: s, r)
      else if c.toNat < 0x20 then none
      else do
        let (s, r) ← loadsPoints n r
        return (c.toNat :: s, r)

/-- A value that is not a string, an array or an object. -/
def strictAtom (limits : ReaderLimits) (cs : List Char) : Except LoadError (Doc × List Char) :=
  match loadsAtom cs with
  | none => .error .decoding
  | some (.int n, r) =>
      if limits.digits < (Nat.toDigits 10 n.natAbs).length then .error .digits else .ok (.leaf, r)
  | some (_, r) => .ok (.leaf, r)

/-- The members of an object as a dictionary, when no key is repeated. -/
def distinctFields (fields : List (List Nat × Doc)) : Except LoadError Doc :=
  if (fields.map Prod.fst).Nodup then .ok (.obj fields) else .error .duplicateKey

mutual

/-- One value, from its first token on, `nesting` levels deep at most. -/
def strictValue (limits : ReaderLimits) (nesting : Nat) :
    Nat → List Char → Except LoadError (Doc × List Char)
  | 0, _ => .error .decoding
  | n + 1, cs =>
      match cs with
      | '"' :: r => (decoded (loadsPoints n r)).map fun p => (.str p.1, p.2)
      | '[' :: r =>
          if nesting = 0 then .error .recursion
          else match skip r with
            | ']' :: r => .ok (.arr [], r)
            | r => (strictItems limits (nesting - 1) n r).map fun p => (.arr p.1, p.2)
      | '{' :: r =>
          if nesting = 0 then .error .recursion
          else match skip r with
            | '}' :: r => .ok (.obj [], r)
            | r => do
                let (fields, r) ← strictFields limits (nesting - 1) n r
                let v ← distinctFields fields
                return (v, r)
      | r => strictAtom limits r

/-- One element or more, and the closing bracket. -/
def strictItems (limits : ReaderLimits) (nesting : Nat) :
    Nat → List Char → Except LoadError (List Doc × List Char)
  | 0, _ => .error .decoding
  | n + 1, cs => do
      let (v, r) ← strictValue limits nesting n cs
      match skip r with
      | ']' :: r => return ([v], r)
      | ',' :: r => (strictItems limits nesting n (skip r)).map fun p => (v :: p.1, p.2)
      | _ => .error .decoding

/-- One member or more, and the closing brace. -/
def strictFields (limits : ReaderLimits) (nesting : Nat) :
    Nat → List Char → Except LoadError (List (List Nat × Doc) × List Char)
  | 0, _ => .error .decoding
  | n + 1, cs =>
      match cs with
      | '"' :: r => do
          let (k, r) ← decoded (loadsPoints n r)
          match skip r with
          | ':' :: r =>
              let (v, r) ← strictValue limits nesting n (skip r)
              match skip r with
              | '}' :: r => return ([(k, v)], r)
              | ',' :: r =>
                  (strictFields limits nesting n (skip r)).map fun p => ((k, v) :: p.1, p.2)
              | _ => .error .decoding
          | _ => .error .decoding
      | _ => .error .decoding

end

/-- `json.loads(text, object_pairs_hook=…)` -/
def strictLoads (limits : ReaderLimits) (text : List Char) : Except LoadError Doc := do
  let (v, r) ← strictValue limits limits.nesting (text.length + 1) (skip text)
  if skip r = [] then return v else .error .decoding

end PyJson
