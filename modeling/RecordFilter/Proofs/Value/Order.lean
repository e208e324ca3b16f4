import RecordFilter.Value.Basic

/-!
# The order of values

Each type of values has a linear order of its own, in which NaN has no place.
Together they are a partial order: values of different types are not compared,
and null is compared with nothing. The equality of queries belongs to this
order. Two values that are compared have places in the order of one type, so the
laws are proved type by type.
-/

namespace RecordFilter

open Std

/-! ## The orders of the single types -/

instance : Ord Date where
  compare := Date.order

instance : TransOrd Date :=
  inferInstanceAs (TransCmp (compareLex (compareOn Date.year)
    (compareLex (compareOn Date.month) (compareOn Date.day))))

instance : LawfulEqOrd Date where
  eq_of_compare {left right} hsame := by
    have hparts : (compare left.year right.year).then
        ((compare left.month right.month).then
          (compare left.day right.day)) = .eq := hsame
    simp only [Ordering.then_eq_eq, LawfulEqOrd.compare_eq_iff_eq] at hparts
    cases left
    cases right
    simp_all

instance : Ord Instant where
  compare := Instant.order

instance : TransOrd Instant :=
  inferInstanceAs (TransCmp (compareLex (compareOn Instant.date)
    (compareLex (compareOn Instant.second) (compareOn Instant.nanosecond))))

instance : LawfulEqOrd Instant where
  eq_of_compare {left right} hsame := by
    have hparts : (compare left.date right.date).then
        ((compare left.second right.second).then
          (compare left.nanosecond right.nanosecond)) = .eq := hsame
    simp only [Ordering.then_eq_eq, LawfulEqOrd.compare_eq_iff_eq] at hparts
    cases left
    cases right
    simp_all

instance : Ord Guid where
  compare := Guid.order

instance : TransOrd Guid :=
  inferInstanceAs (TransCmp (compareOn fun guid : Guid => guid.number.toNat))

instance : LawfulEqOrd Guid where
  eq_of_compare {left right} hsame := by
    have hnumbers : left.number.toNat = right.number.toNat :=
      LawfulEqOrd.eq_of_compare hsame
    cases left
    cases right
    simpa [BitVec.toNat_eq] using hnumbers

namespace Double

theorem order?_eq_some_iff {left right : Double} {order : Ordering} :
    left.order? right = some order ↔
      ∃ leftKey rightKey, left.key? = some leftKey ∧
        right.key? = some rightKey ∧ compare leftKey rightKey = order := by
  unfold order?
  cases left.key? with
  | none => simp
  | some leftKey =>
      cases right.key? with
      | none => simp
      | some rightKey => simp

theorem isNaN_eq_false_iff {value : Double} :
    value.isNaN = false ↔ ∃ key, value.key? = some key := by
  cases value with
  | nan => simp [isNaN, key?]
  | number negative rank => simp [isNaN, key?]

theorem equals_self {value : Double} (hnumber : value.isNaN = false) :
    value.equals value = true := by
  rcases isNaN_eq_false_iff.mp hnumber with ⟨key, hkey⟩
  simp [equals, order?, hkey]

end Double

/-! ## The order of any two values -/

namespace Value

/-- The values are compared, and this is their order. -/
inductive Ordered : Value → Value → Ordering → Prop
  | boolean (left right : Bool) :
    Ordered (.boolean left) (.boolean right) (compare left right)
  | int32 (left right : Int32) :
    Ordered (.int32 left) (.int32 right) (compare left.toInt right.toInt)
  | int64 (left right : Int64) :
    Ordered (.int64 left) (.int64 right) (compare left.toInt right.toInt)
  | float64 {left right : Double} {leftKey rightKey : Int}
      (hleft : left.key? = some leftKey) (hright : right.key? = some rightKey) :
    Ordered (.float64 left) (.float64 right) (compare leftKey rightKey)
  | string (left right : String) :
    Ordered (.string left) (.string right) (compare left right)
  | date (left right : Date) :
    Ordered (.date left) (.date right) (compare left right)
  | dateTime (left right : Instant) :
    Ordered (.dateTime left) (.dateTime right) (compare left right)
  | guid (left right : Guid) :
    Ordered (.guid left) (.guid right) (compare left right)
  | enum (left right : String) :
    Ordered (.enum left) (.enum right) (compare left right)

variable {left middle right : Value} {order : Ordering}

theorem order?_eq_some_iff :
    left.order? right = some order ↔ Ordered left right order := by
  constructor
  · intro horder
    unfold order? at horder
    split at horder
    case h_4 leftNumber rightNumber =>
      rcases Double.order?_eq_some_iff.mp horder with
        ⟨leftKey, rightKey, hleft, hright, hcompare⟩
      subst order
      exact .float64 hleft hright
    case h_10 => contradiction
    all_goals
      rw [← Option.some.inj horder]
      constructor
  · intro hordered
    cases hordered with
    | float64 hleft hright =>
        exact Double.order?_eq_some_iff.mpr ⟨_, _, hleft, hright, rfl⟩
    | _ => rfl

namespace Ordered

theorem swap (hordered : Ordered left right order) :
    Ordered right left order.swap := by
  cases hordered with
  | float64 hleft hright =>
      rw [← OrientedOrd.eq_swap]
      exact .float64 hright hleft
  | _ =>
      rw [← OrientedOrd.eq_swap]
      constructor

/-- Values that are compared are equal if they have the same place. -/
theorem eq_iff_equals (hordered : Ordered left right order) :
    order = .eq ↔ left.equals right = true := by
  cases hordered with
  | float64 hleft hright =>
      simp [equals, Double.equals, Double.order?, hleft, hright]
  | int32 left right => simp [equals, Int32.toInt_inj]
  | int64 left right => simp [equals, Int64.toInt_inj]
  | _ => simp [equals]

end Ordered

/-- Unless two orders in a row are opposite, they decide how the first and the
last value are ordered. -/
def Composes (first second whole : Ordering) : Prop :=
  first = second ∨ first = .eq ∨ second = .eq → whole = first.then second

theorem composes_compare {κ : Type} [Ord κ] [TransOrd κ]
    (left middle right : κ) :
    Composes (compare left middle) (compare middle right)
      (compare left right) := by
  rintro (hsame | hfirst | hsecond)
  · rw [← hsame, Ordering.then_self]
    cases hfirst : compare left middle with
    | lt => exact TransCmp.lt_trans hfirst (hsame.symm.trans hfirst)
    | eq => exact TransCmp.eq_trans hfirst (hsame.symm.trans hfirst)
    | gt => exact TransCmp.gt_trans hfirst (hsame.symm.trans hfirst)
  · rw [hfirst, Ordering.eq_then]
    exact TransCmp.congr_left hfirst
  · rw [hsecond, Ordering.then_eq]
    exact (TransCmp.congr_right hsecond).symm

theorem Ordered.exists_composed {second : Ordering}
    (hleft : Ordered left middle order)
    (hright : Ordered middle right second) :
    ∃ whole, Ordered left right whole ∧ Composes order second whole := by
  cases hleft with
  | float64 hleft hmiddle =>
      cases hright with
      | float64 hagain hright =>
          have hkey := Option.some.inj (hmiddle.symm.trans hagain)
          subst hkey
          exact ⟨_, .float64 hleft hright, composes_compare _ _ _⟩
  | _ =>
      cases hright
      refine ⟨_, ?_, composes_compare _ _ _⟩
      constructor

/-! ## Which values are compared -/

/-- Whether two values are of one type or both null. -/
def SameVariant (left right : Value) : Prop := left.ctorIdx = right.ctorIdx

instance (left right : Value) : Decidable (left.SameVariant right) :=
  inferInstanceAs (Decidable (left.ctorIdx = right.ctorIdx))

theorem Ordered.sameVariant (hordered : Ordered left right order) :
    left.SameVariant right ∧ left.isNull = false ∧
      left.isNaN = false ∧ right.isNaN = false := by
  cases hordered with
  | float64 hleft hright =>
      exact ⟨rfl, rfl, Double.isNaN_eq_false_iff.mpr ⟨_, hleft⟩,
        Double.isNaN_eq_false_iff.mpr ⟨_, hright⟩⟩
  | _ => exact ⟨rfl, rfl, rfl, rfl⟩

theorem exists_ordered (hvariant : left.SameVariant right)
    (hnull : left.isNull = false) (hleft : left.isNaN = false)
    (hright : right.isNaN = false) : ∃ order, Ordered left right order := by
  cases left with
  | null => contradiction
  | float64 left =>
      cases right with
      | float64 right =>
          rcases Double.isNaN_eq_false_iff.mp hleft with ⟨leftKey, hleft⟩
          rcases Double.isNaN_eq_false_iff.mp hright with ⟨rightKey, hright⟩
          exact ⟨_, .float64 hleft hright⟩
      | _ => cases hvariant
  | _ =>
      -- Of all values on the right only those of the same type remain.
      cases right
      all_goals first | exact ⟨_, by constructor⟩ | cases hvariant

theorem equals_cases (hequals : left.equals right = true) :
    (∃ leftNumber rightNumber : Double,
      left = .float64 leftNumber ∧ right = .float64 rightNumber ∧
        leftNumber.order? rightNumber = some .eq) ∨
    left = right ∧ left.isNaN = false := by
  unfold equals at hequals
  split at hequals
  case h_1 leftNumber rightNumber =>
    have horder : leftNumber.order? rightNumber = some .eq := by
      simpa [Double.equals] using hequals
    exact .inl ⟨leftNumber, rightNumber, rfl, rfl, horder⟩
  case h_2 hother =>
    have hsame : left = right := by simpa using hequals
    subst hsame
    cases left with
    | float64 number => exact (hother number number rfl rfl).elim
    | _ => exact .inr ⟨rfl, rfl⟩

theorem sameVariant_of_equals (hequals : left.equals right = true) :
    left.SameVariant right ∧ left.isNaN = false ∧ right.isNaN = false := by
  rcases equals_cases hequals with
    ⟨leftNumber, rightNumber, hleft, hright, horder⟩ | ⟨hsame, hnumber⟩
  · rcases Double.order?_eq_some_iff.mp horder with
      ⟨leftKey, rightKey, hleftKey, hrightKey, -⟩
    subst hleft hright
    exact ⟨rfl, Double.isNaN_eq_false_iff.mpr ⟨_, hleftKey⟩,
      Double.isNaN_eq_false_iff.mpr ⟨_, hrightKey⟩⟩
  · subst hsame
    exact ⟨rfl, hnumber, hnumber⟩

/-! ## The laws of the order -/

theorem order?_swap (left right : Value) :
    right.order? left = (left.order? right).map Ordering.swap := by
  cases horder : left.order? right with
  | some order =>
      exact order?_eq_some_iff.mpr (order?_eq_some_iff.mp horder).swap
  | none =>
      cases hother : right.order? left with
      | none => rfl
      | some order =>
          have hswap := (order?_eq_some_iff.mp hother).swap
          rw [order?_eq_some_iff.mpr hswap] at horder
          contradiction

theorem isSome_order?_iff :
    (left.order? right).isSome = true ↔
      left.SameVariant right ∧ left.isNull = false ∧
        left.isNaN = false ∧ right.isNaN = false := by
  rw [Option.isSome_iff_exists]
  simp only [order?_eq_some_iff]
  constructor
  · rintro ⟨order, hordered⟩
    exact hordered.sameVariant
  · rintro ⟨hvariant, hnull, hleft, hright⟩
    exact exists_ordered hvariant hnull hleft hright

theorem order?_eq_eq_iff (hleft : left.isNull = false) :
    left.order? right = some .eq ↔ left.equals right = true := by
  rw [order?_eq_some_iff]
  constructor
  · intro hordered
    exact hordered.eq_iff_equals.mp rfl
  · intro hequals
    rcases sameVariant_of_equals hequals with ⟨hvariant, hnumber, hother⟩
    rcases exists_ordered hvariant hleft hnumber hother with ⟨order, hordered⟩
    have heq := hordered.eq_iff_equals.mpr hequals
    rwa [heq] at hordered

theorem order?_trans (hleft : left.order? middle = some order)
    (hright : middle.order? right = some order) :
    left.order? right = some order := by
  rw [order?_eq_some_iff] at hleft hright
  rcases hleft.exists_composed hright with ⟨whole, hwhole, hcomposes⟩
  have horder := hcomposes (.inl rfl)
  rw [Ordering.then_self] at horder
  rw [← horder]
  exact order?_eq_some_iff.mpr hwhole

/-- Equal values are ordered in the same way against any third value. -/
theorem order?_congr (hsame : left.order? middle = some .eq) (right : Value) :
    left.order? right = middle.order? right := by
  have hfront {first second : Value} (hfirst : first.order? second = some .eq)
      {order : Ordering} (hsecond : second.order? right = some order) :
      first.order? right = some order := by
    rw [order?_eq_some_iff] at hfirst hsecond
    rcases hfirst.exists_composed hsecond with ⟨whole, hwhole, hcomposes⟩
    have horder := hcomposes (.inr (.inl rfl))
    rw [Ordering.eq_then] at horder
    rw [← horder]
    exact order?_eq_some_iff.mpr hwhole
  have hback : middle.order? left = some .eq := by
    rw [order?_swap left middle, hsame]
    rfl
  apply Option.ext
  intro order
  exact ⟨hfront hback, hfront hsame⟩

theorem order?_congr_right (hsame : middle.order? right = some .eq)
    (left : Value) : left.order? middle = left.order? right := by
  rw [order?_swap middle left, order?_swap right left,
    order?_congr hsame left]

theorem equals_self {value : Value} (hnumber : value.isNaN = false) :
    value.equals value = true := by
  cases value with
  | float64 number => exact Double.equals_self hnumber
  | _ => simp [equals]

theorem equals_symm (hequals : left.equals right = true) :
    right.equals left = true := by
  rcases equals_cases hequals with
    ⟨leftNumber, rightNumber, hleft, hright, -⟩ | ⟨hsame, -⟩
  · subst hleft hright
    rw [← order?_eq_eq_iff rfl] at hequals ⊢
    rw [order?_swap (.float64 leftNumber), hequals]
    rfl
  · subst hsame
    exact hequals

theorem equals_trans (hleft : left.equals middle = true)
    (hright : middle.equals right = true) : left.equals right = true := by
  rcases equals_cases hleft with
    ⟨leftNumber, middleNumber, hfirst, hsecond, -⟩ | ⟨hsame, -⟩
  · subst hfirst hsecond
    rw [← order?_eq_eq_iff rfl] at hleft hright ⊢
    exact order?_trans hleft hright
  · subst hsame
    exact hright

/-- What makes the order of values a partial one, to which the equality of
queries belongs. Only NaN is compared with no value of its own type. -/
structure OrderLaws (first second third : Value) : Prop where
  swap : second.order? first = (first.order? second).map Ordering.swap
  equal_iff : first.isNull = false →
    (first.order? second = some .eq ↔ first.equals second = true)
  trans : ∀ order, first.order? second = some order →
    second.order? third = some order → first.order? third = some order
  congr : first.order? second = some .eq →
    first.order? third = second.order? third
  compared_iff : (first.order? second).isSome = true ↔
    first.SameVariant second ∧ first.isNull = false ∧
      first.isNaN = false ∧ second.isNaN = false

theorem orderLaws (first second third : Value) :
    OrderLaws first second third where
  swap := order?_swap first second
  equal_iff := order?_eq_eq_iff
  trans := fun _ => order?_trans
  congr := fun hsame => order?_congr hsame third
  compared_iff := isSome_order?_iff

end Value

end RecordFilter
