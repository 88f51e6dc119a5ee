import Mathlib.Data.List.Basic

/-!
# Regular expressions

The part of `re` that the document code uses: characters, sequences, alternatives and counted
repetitions.  Matching lists the texts that can be left over, so that a search or a full match asks
only whether there is a suitable one.
-/

/-- A regular expression. -/
inductive Regex where
  | char (p : Char → Bool)
  | seq (a b : Regex)
  | alt (a b : Regex)
  /-- From `lo` to `hi` times, without a limit when `hi` is missing. -/
  | rep (lo : Nat) (hi : Option Nat) (a : Regex)

namespace Regex

/-- What can be left over after up to so many rounds. -/
def upTo (f : List Char → List (List Char)) : Nat → List Char → List (List Char)
  | 0, t => [t]
  | n + 1, t => t :: (f t).flatMap (upTo f n)

/-- What can be left over after `lo` rounds and up to `more` further ones. -/
def repeated (f : List Char → List (List Char)) (more : Nat) : Nat → List Char → List (List Char)
  | 0, t => upTo f more t
  | lo + 1, t => (f t).flatMap (repeated f more lo)

/-- What can be left over after a match at the start of a text.  A round of an unlimited repetition
takes a character at least, so the length of the text limits it. -/
def ends : Regex → List Char → List (List Char)
  | .char p, t =>
      match t with
      | c :: rest => if p c then [rest] else []
      | [] => []
  | .seq a b, t => (a.ends t).flatMap b.ends
  | .alt a b, t => a.ends t ++ b.ends t
  | .rep lo hi a, t => repeated a.ends (hi.getD t.length - lo) lo t

/-- `pattern.fullmatch(text) is not None` -/
def fullmatch (r : Regex) (t : List Char) : Bool := (r.ends t).any List.isEmpty

/-- `pattern.search(text) is not None` -/
def search (r : Regex) (t : List Char) : Bool := t.tails.any fun s => !(r.ends s).isEmpty

/-- What can be left over after up to so many rounds, the longest matches first. -/
def greedyUpTo (f : List Char → List (List Char)) : Nat → List Char → List (List Char)
  | 0, t => [t]
  | n + 1, t => (f t).flatMap (greedyUpTo f n) ++ [t]

/-- `greedyUpTo` after `lo` rounds. -/
def greedyRepeated (f : List Char → List (List Char)) (more : Nat) :
    Nat → List Char → List (List Char)
  | 0, t => greedyUpTo f more t
  | lo + 1, t => (f t).flatMap (greedyRepeated f more lo)

/-- What can be left over after a match at the start of a text, in the order in which `re` tries. -/
def tries : Regex → List Char → List (List Char)
  | .char p, t =>
      match t with
      | c :: rest => if p c then [rest] else []
      | [] => []
  | .seq a b, t => (a.tries t).flatMap b.tries
  | .alt a b, t => a.tries t ++ b.tries t
  | .rep lo hi a, t => greedyRepeated a.tries (hi.getD t.length - lo) lo t

/-- The matches of `pattern.finditer(text)` in so many steps, for an expression that takes a
character at least. -/
def finditerIn (r : Regex) : Nat → List Char → List (List Char)
  | 0, _ => []
  | _ + 1, [] => []
  | n + 1, c :: cs =>
      match (r.tries (c :: cs)).head? with
      | none => finditerIn r n cs
      | some rest => (c :: cs).take (cs.length + 1 - rest.length) :: finditerIn r n rest

/-- `pattern.finditer(text)`: every step takes a character at least. -/
def finditer (r : Regex) (t : List Char) : List (List Char) := r.finditerIn t.length t

/-- Any one of the given characters. -/
def oneOf (cs : String) : Regex := .char fun c => cs.toList.contains c

/-- A text, character by character as `p` compares them. -/
def textBy (p : Char → Char → Bool) : List Char → Regex
  | [] => .rep 0 (some 0) (.char fun _ => false)
  | [c] => .char (p c)
  | c :: cs => .seq (.char (p c)) (textBy p cs)

def text (t : String) : Regex := textBy (· == ·) t.toList

/-- One of several expressions. -/
def anyOf (r : Regex) (rs : List Regex) : Regex := rs.foldl .alt r

/-- Several expressions, one after the other. -/
def inTurn (r : Regex) (rs : List Regex) : Regex := rs.foldl .seq r

end Regex
