import RecordFilter.Proofs.Filter.Evaluation
import RecordFilter.Proofs.Selection

/-!
# Predicates follow their filters

A predicate holds a filter and a function that was put together from it, and
nothing in its type ties the two to each other. The function answers as the walk
over the filter does because it was made from this filter, and neither a copy of
the predicate nor a note of its query touches either of them. So whatever has
been done with a predicate, the records it selects and the number it counts are
those of the filter.
-/

namespace RecordFilter

variable {α : Type}

namespace Predicate

/-- What may be done with a predicate between its making and its use. -/
inductive Handling where
  | copy
  | recordSource (query : String)

def handle (predicate : Predicate α) : Handling → Predicate α
  | .copy => predicate.copy
  | .recordSource query => predicate.withSource query

/-- The predicate holds the filter and answers as the walk over it does. It
selects the records that satisfy the filter, each at its place and as often as
it comes, and counts what it selects. -/
structure Follows (predicate : Predicate α) (filter : Filter α) : Prop where
  filter_eq : predicate.filter = filter
  accepts_eq : ∀ record, predicate.accepts record = filter.evaluate record
  isSelection_select : ∀ records,
    IsSelection (filter.evaluate · = true) records (predicate.select records)
  count_eq_length : ∀ records,
    predicate.count records = (predicate.select records).length

theorem follows_of_accepts_eq {predicate : Predicate α} {filter : Filter α}
    (hfilter : predicate.filter = filter)
    (haccepts : predicate.accepts = filter.evaluate) :
    predicate.Follows filter where
  filter_eq := hfilter
  accepts_eq := congrFun haccepts
  isSelection_select records := by
    rw [select, haccepts]
    exact isSelection_filter filter.evaluate records
  count_eq_length records := List.countP_eq_length_filter

theorem follows_ofFilter (filter : Filter α) :
    (ofFilter filter).Follows filter :=
  follows_of_accepts_eq rfl filter.prepare_eq_evaluate

theorem Follows.handle {predicate : Predicate α} {filter : Filter α}
    (hfollows : predicate.Follows filter) (handling : Handling) :
    (predicate.handle handling).Follows filter := by
  have haccepts : predicate.accepts = filter.evaluate :=
    funext hfollows.accepts_eq
  cases handling with
  | copy => exact follows_of_accepts_eq hfollows.filter_eq haccepts
  | recordSource query =>
      exact follows_of_accepts_eq hfollows.filter_eq haccepts

/-- A predicate that was made from a filter follows it, however often it has
been copied and its source recorded. -/
theorem handled_follows (filter : Filter α) (handlings : List Handling) :
    (handlings.foldl handle (ofFilter filter)).Follows filter := by
  suffices hall : ∀ predicate : Predicate α, predicate.Follows filter →
      (handlings.foldl handle predicate).Follows filter from
    hall _ (follows_ofFilter filter)
  induction handlings with
  | nil => exact fun predicate hfollows => hfollows
  | cons handling handlings ih =>
      intro predicate hfollows
      exact ih _ (hfollows.handle handling)

end Predicate

end RecordFilter
