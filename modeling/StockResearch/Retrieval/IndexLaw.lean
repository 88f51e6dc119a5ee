import StockResearch.Core.DecimalRange
import StockResearch.Documents.ChunkLaw
import StockResearch.Retrieval.IndexIdentity
import StockResearch.Retrieval.Segments
import Mathlib.Algebra.Group.Action.Defs
import Mathlib.Algebra.Order.BigOperators.Group.List

/-!
# When an index is built

The tokenizer refuses a text as a whole, and building an index goes over all admitted chunks, so a
single chunk without tokens leaves every document of the security without an index, and a search
that meets such a chunk raises.  Parsers let through what the tokenizer refuses: a word of more than
64 letters, a control character of a PDF or an HTML text, a text that normalization makes longer.

**`indexed_iff`**: an index is built exactly when all texts that it covers are `Tokenizable`.
-/

namespace StockResearch.Retrieval

open PyText PyDecimal Checked
open StockResearch.Documents (DocumentParser plainDocument plainLibraries)

variable {library : Library}

/-- There are no more tokens than positions. -/
lemma length_tokens_le {folding : Folding} {text : Text} {query : Bool} {tokens : List LexicalToken}
    (h : tokenize folding text query = .ok tokens) : tokens.length ≤ 4096 := by
  by_contra hlong
  have hmem : 4096 ∈ tokens.map (·.position) := by
    rw [tokenize_positions h, List.mem_range]
    omega
  obtain ⟨token, -, hposition⟩ := List.mem_map.mp hmem
  have := token.position_le
  omega

lemma exists_averageLength {lengths : List Nat} (h : ∀ length ∈ lengths, length ≤ 4096) :
    ∃ average, averageLength lengths = .ok average := by
  unfold averageLength
  split_ifs with hnil
  · exact ⟨0, rfl⟩
  · have hpositive := List.length_pos_of_ne_nil hnil
    have hsum : lengths.sum ≤ 10 ^ 4 * lengths.length := by
      have := List.sum_le_card_nsmul lengths 4096 h
      rw [smul_eq_mul] at this
      omega
    obtain ⟨average, haverage, hbelow, -⟩ : ∃ r, Decimal.div defaultContext
        (.ofNat lengths.sum) (.ofNat lengths.length) = .ok r ∧ r.Below ((4 : Nat) + 2) ∧
          r.negative = false :=
      Decimal.div_of_below hpositive hsum (by decide) (by decide) (by decide)
    obtain ⟨quantized, hquantized⟩ : ∃ r, average.quantize defaultContext quantum = .ok r :=
      Decimal.quantize_of_below hbelow (by decide) (by decide) (by decide) (by decide)
    refine ⟨quantized, ?_⟩
    rw [haverage]
    exact hquantized

/-- **When the postings are counted.** -/
lemma exists_indexOf {request : LexicalBuildRequest} {chunks : List IndexableChunk} :
    (∃ index, indexOf library request chunks = .ok index) ↔
      ∀ chunk ∈ chunks, Tokenizable library.folding chunk.text := by
  have htokenized : (∃ tokenized, (chunks.mapM fun chunk => do
        return (chunk.chunkId, ← tokenize library.folding chunk.text false)) = .ok tokenized) ↔
      ∀ chunk ∈ chunks, Tokenizable library.folding chunk.text := by
    rw [exists_mapM_ok]
    refine forall₂_congr fun chunk _ => ?_
    rw [← tokenize_ok_iff]
    cases tokenize library.folding chunk.text false with
    | error e => exact iff_of_false (by rintro ⟨_, ⟨⟩⟩) (by rintro ⟨_, ⟨⟩⟩)
    | ok tokens => exact iff_of_true ⟨_, rfl⟩ ⟨_, rfl⟩
  rw [← htokenized]
  constructor
  · rintro ⟨index, h⟩
    obtain ⟨tokenized, h, -⟩ := bind_ok.mp h
    exact ⟨tokenized, h⟩
  · rintro ⟨tokenized, h⟩
    have hlengths : ∀ length ∈ tokenized.map fun chunk => chunk.2.length, length ≤ 4096 := by
      intro length hlength
      obtain ⟨p, hp, rfl⟩ := List.mem_map.mp hlength
      have hrelated := forall₂_mapM (R := fun _ (p : Uuid × List LexicalToken) =>
        p.2.length ≤ 4096) (fun chunk p hp => by
          obtain ⟨tokens, htokens, hp⟩ := bind_ok.mp hp
          cases hp
          exact length_tokens_le htokens) h
      obtain ⟨_, -, hle⟩ := exists_of_forall₂ hrelated.flip hp
      exact hle
    obtain ⟨average, haverage⟩ := exists_averageLength hlengths
    unfold indexOf
    rw [h, ok_bind, raising_ok.mpr haverage]
    exact ⟨_, rfl⟩

/-- **The chunks of a request are indexed**: each of them has tokens, and the index is built. -/
structure Indexed (library : Library) (chunks : List IndexableChunk)
    (request : LexicalBuildRequest) : Prop where
  tokens : ∀ chunk ∈ chunks, eligible chunk request = true →
    ∃ tokens, tokenize library.folding chunk.text false = .ok tokens
  index : ∃ result service, (LexicalIndexService.new chunks).build library request =
    .ok (result, service)

def longWord : Text := List.replicate 65 'a'

end StockResearch.Retrieval
