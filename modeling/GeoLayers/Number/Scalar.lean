import GeoLayers.Number.Layout
import GeoLayers.Number.Numeral

/-!
What the numbers of a computation have to offer. Geometry and classification are written over
`Scalar`, so that the same definitions compute with floating-point numbers and with exact rational
numbers. `Numeric` adds how a number is written and read.
-/

namespace GeoLayers

/-- Numbers with the four operations and the comparisons. No law is asked for, because
floating-point numbers keep few. -/
class Scalar (α : Type) extends Add α, Sub α, Mul α, Div α where
  ofNat : Nat → α
  eq : α → α → Bool
  le : α → α → Bool
  lt : α → α → Bool
  /-- A number that no other exceeds, where there is one. -/
  greatest? : Option α := none

/-- Numbers that can be written and read. -/
class Numeric (α : Type) where
  text : α → String
  read? : String → Option α

instance : Scalar Float where
  ofNat := Float.ofNat
  eq a b := a == b
  le a b := decide (a ≤ b)
  lt a b := decide (a < b)
  greatest? := some (1 / 0)

instance : Scalar Rat where
  ofNat n := n
  eq a b := a == b
  le a b := decide (a ≤ b)
  lt a b := decide (a < b)

/-- Coordinates are written without exponents. -/
instance : Numeric Float where
  text := Number.Layout.positional.text
  read? := Number.float?

namespace Scalar

variable {α : Type} [Scalar α]

def zero : α := ofNat 0

def one : α := ofNat 1

/-- The sum of a list, from its front on. -/
def sum (xs : List α) : α := xs.foldl (· + ·) zero

end Scalar

end GeoLayers
