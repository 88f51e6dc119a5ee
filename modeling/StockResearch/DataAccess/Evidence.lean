import StockResearch.Core.Checked
import StockResearch.Core.Chronology
import StockResearch.Core.Table
import StockResearch.Core.Uuid
import Mathlib.Data.Prod.Lex
import Mathlib.Order.WithBot

/-!
# Evidence tables and their queries

The four tables a snapshot draws from, and the queries of `db/repositories/data_access.py` over them.

A query keeps the rows of a security that were retrieved and published by a cutoff, orders them, cuts
the list off and validates what is left.  It is written once (`listRows`); the tables differ in the
columns that come first in their order, and prices also have a last trading day.
-/

namespace StockResearch.DataAccess

open PyTime Txn OrderDual

/-- What a repository raises: a stored row that does not validate, or anything else. -/
inductive Failure where
  | storedDataValidationError
  | other
deriving DecidableEq, Repr

/-! ## Rows -/

/-- The columns that all four tables have.  `readable` says whether the other columns, which no query
looks at, pass the validation of the record type. -/
structure SourceRow where
  id : Uuid
  securityId : Uuid
  providerId : Uuid
  publishedAt : Option Instant
  retrievedAt : Instant
  readable : Bool
deriving DecidableEq

structure DailyPriceBar extends SourceRow where
  tradingDate : Date
deriving DecidableEq

structure CorporateAction extends SourceRow where
  exDate : Option Date
deriving DecidableEq

structure ProviderFinancialFact extends SourceRow where
  periodEnd : Option Date
  filedAt : Option Instant
deriving DecidableEq

structure SourceDocument extends SourceRow
deriving DecidableEq

/-- Rows with identifiers of their own. -/
abbrev keyedById {ρ : Type} (source : ρ → SourceRow) : Schema ρ where
  clash a b := (source a).id = (source b).id
  check _ := True
  clash_symm _ _ := Eq.symm
  decClash _ _ := inferInstance
  decCheck _ := inferInstance

instance : Schema DailyPriceBar := keyedById (·.toSourceRow)

instance : Schema CorporateAction := keyedById (·.toSourceRow)

instance : Schema ProviderFinancialFact := keyedById (·.toSourceRow)

instance : Schema SourceDocument := keyedById (·.toSourceRow)

structure Evidence where
  dailyPriceBars : Table DailyPriceBar
  corporateActions : Table CorporateAction
  financialFacts : Table ProviderFinancialFact
  sourceDocuments : Table SourceDocument

/-! ## Queries -/

structure EvidenceQuery where
  securityId : Uuid
  researchAsOfTime : Instant
  limit : Nat
  providerId : Option Uuid

/-- Retrieved by the cutoff, and published by then as far as is known. -/
def SourceRow.knownBy (r : SourceRow) (cutoff : Instant) : Prop :=
  r.retrievedAt ≤ cutoff ∧ ∀ t ∈ r.publishedAt, t ≤ cutoff

instance (r : SourceRow) (cutoff : Instant) : Decidable (r.knownBy cutoff) :=
  inferInstanceAs (Decidable (_ ∧ _))

/-- The `WHERE` clause that the queries share. -/
def EvidenceQuery.admits (q : EvidenceQuery) (r : SourceRow) : Prop :=
  r.securityId = q.securityId ∧ r.knownBy q.researchAsOfTime ∧ ∀ p ∈ q.providerId, r.providerId = p

instance (q : EvidenceQuery) (r : SourceRow) : Decidable (q.admits r) :=
  inferInstanceAs (Decidable (_ ∧ _ ∧ _))

/-- `… DESC NULLS LAST` -/
abbrev descNullsLast {α : Type} (x : Option α) : (WithBot α)ᵒᵈ := toDual x

section

variable {ρ κ : Type} [Schema ρ] [LinearOrder κ]

/-- `ORDER BY rank, retrieved_at DESC, id` -/
def orderKey (source : ρ → SourceRow) (rank : ρ → κ) (r : ρ) : κ ×ₗ Instantᵒᵈ ×ₗ Uuid :=
  toLex (rank r, toLex (toDual (source r).retrievedAt, (source r).id))

def safeRecord (source : ρ → SourceRow) (r : ρ) : Except Failure ρ :=
  if (source r).readable then .ok r else .error .storedDataValidationError

/-- A query over one table. -/
def listRows (source : ρ → SourceRow) (rank : ρ → κ) (table : Table ρ) (also : ρ → Bool)
    (q : EvidenceQuery) : Except Failure (List ρ) := do
  Checked.check (¬ (1 ≤ q.limit ∧ q.limit ≤ 100)) .other
  let rows := (table.select fun r => decide (q.admits (source r)) && also r).insertionSort
    fun a b => orderKey source rank a ≤ orderKey source rank b
  (rows.take q.limit).mapM (safeRecord source)

end

def listDailyHistory (e : Evidence) (localTradingDate : Date) :
    EvidenceQuery → Except Failure (List DailyPriceBar) :=
  listRows (·.toSourceRow) (fun r => toDual r.tradingDate) e.dailyPriceBars
    fun r => decide (r.tradingDate ≤ localTradingDate)

def listCorporateActions (e : Evidence) : EvidenceQuery → Except Failure (List CorporateAction) :=
  listRows (·.toSourceRow) (fun r => descNullsLast r.exDate) e.corporateActions fun _ => true

def listFinancialFacts (e : Evidence) :
    EvidenceQuery → Except Failure (List ProviderFinancialFact) :=
  listRows (·.toSourceRow)
    (fun r => toLex (descNullsLast r.periodEnd, descNullsLast r.filedAt)) e.financialFacts
    fun _ => true

def listSourceDocuments (e : Evidence) : EvidenceQuery → Except Failure (List SourceDocument) :=
  listRows (·.toSourceRow) (fun r => descNullsLast r.publishedAt) e.sourceDocuments fun _ => true

/-! ## Records -/

/-- `SnapshotSourceRecord` -/
inductive SnapshotSourceRecord where
  | bar (r : DailyPriceBar)
  | action (r : CorporateAction)
  | fact (r : ProviderFinancialFact)
  | document (r : SourceDocument)
deriving DecidableEq

def SnapshotSourceRecord.source : SnapshotSourceRecord → SourceRow
  | .bar r => r.toSourceRow
  | .action r => r.toSourceRow
  | .fact r => r.toSourceRow
  | .document r => r.toSourceRow

def SnapshotSourceRecord.eligible (r : SnapshotSourceRecord) (cutoff : Instant) (localDate : Date) :
    Prop :=
  r.source.knownBy cutoff ∧
    match r with
    | .bar b => b.tradingDate ≤ localDate
    | _ => True

instance (r : SnapshotSourceRecord) (cutoff : Instant) (localDate : Date) :
    Decidable (r.eligible cutoff localDate) :=
  match r with
  | .bar _ => inferInstanceAs (Decidable (_ ∧ _))
  | .action _ => inferInstanceAs (Decidable (_ ∧ _))
  | .fact _ => inferInstanceAs (Decidable (_ ∧ _))
  | .document _ => inferInstanceAs (Decidable (_ ∧ _))

end StockResearch.DataAccess
