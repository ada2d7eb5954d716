/-!
# Fractions to 53 binary digits

Fractions of natural numbers, and the calculation with them in which every result
is replaced by the nearest fraction that 53 binary digits and a power of two give.
-/

namespace Epics

/-- A fraction of natural numbers. -/
structure Fraction where
  numerator : Nat
  denominator : Nat
  deriving DecidableEq, Repr

namespace Fraction

/-- The number of binary digits of a rounded fraction. -/
def precision : Nat := 53

/-- The nearest fraction with as many binary digits as the precision allows, for a
fraction below the power of two of that many digits; of two that are equally near,
the even one. -/
def rounded (fraction : Fraction) : Fraction :=
  if fraction.numerator = 0 then ⟨0, 1⟩
  else
    let most := precision + fraction.denominator.log2 - fraction.numerator.log2
    let shift :=
      if fraction.numerator * Nat.pow 2 most < fraction.denominator * Nat.pow 2 precision then most
      else most - 1
    let scaled := fraction.numerator * Nat.pow 2 shift
    let whole := scaled / fraction.denominator
    let rest := 2 * (scaled % fraction.denominator)
    let up := fraction.denominator < rest ∨ (fraction.denominator = rest ∧ whole % 2 = 1)
    ⟨if up then whole + 1 else whole, Nat.pow 2 shift⟩

/-- The rounded sum of two fractions. -/
def plus (left right : Fraction) : Fraction :=
  rounded ⟨left.numerator * right.denominator + right.numerator * left.denominator,
    left.denominator * right.denominator⟩

/-- The rounded quotient of a fraction and a number. -/
def dividedBy (fraction : Fraction) (divisor : Nat) : Fraction :=
  rounded ⟨fraction.numerator, fraction.denominator * divisor⟩

/-- A fraction is less than another one. -/
def less (left right : Fraction) : Bool :=
  decide (left.numerator * right.denominator < right.numerator * left.denominator)

end Fraction
end Epics
