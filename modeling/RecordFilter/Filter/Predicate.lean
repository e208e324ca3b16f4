import RecordFilter.Filter.Sql

/-!
# Predicates

A predicate is a filter that has been prepared for use on many records: the
questions to a record are put together once, and the filter itself is kept for
those who want to look at it.
-/

namespace RecordFilter

variable {α : Type}

/-- A function that asks a record for the value of the field and compares it. -/
def Comparison.prepare (comparison : Comparison α) : α → Bool :=
  let type := comparison.field.type
  let holds := comparison.operator.holds
  let expected := comparison.value
  fun record =>
    let actual := comparison.field.read record
    actual.fits type && holds actual expected

/-- A function that answers for a whole filter, put together from those of its
parts. -/
def Filter.prepare : Filter α → α → Bool
  | .comparison leaf => leaf.prepare
  | .logical connective left right =>
    let left := left.prepare
    let right := right.prepare
    match connective with
    | .and => fun record => left record && right record
    | .or => fun record => left record || right record

structure Predicate (α : Type) where
  /-- The query that the predicate comes from, if there is one. -/
  source : Option String
  filter : Filter α
  accepts : α → Bool

namespace Predicate

def ofFilter (filter : Filter α) : Predicate α where
  source := none
  filter := filter
  accepts := filter.prepare

/-- The same predicate with the query that it comes from. -/
def withSource (predicate : Predicate α) (query : String) : Predicate α :=
  { predicate with source := some query }

/-- Another predicate that shares the filter and the function. -/
def copy (predicate : Predicate α) : Predicate α where
  source := predicate.source
  filter := predicate.filter
  accepts := predicate.accepts

/-- The records that the predicate accepts, in their order. -/
def select (predicate : Predicate α) (records : List α) : List α :=
  records.filter predicate.accepts

/-- The number of records that the predicate accepts. -/
def count (predicate : Predicate α) (records : List α) : Nat :=
  records.countP predicate.accepts

def render (predicate : Predicate α) : String := predicate.filter.render

def toSql (predicate : Predicate α) : Sql.Statement := predicate.filter.toSql

end Predicate

end RecordFilter
