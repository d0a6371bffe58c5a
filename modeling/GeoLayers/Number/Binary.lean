/-!
Binary floating-point numbers taken apart. A finite `Float` is a whole number times a power of two;
everything the library does with the exact value of a `Float` (writing it in decimals, cutting off
its fraction) starts from these parts.
-/

namespace GeoLayers.Number

/-- What a `Float` is. -/
inductive Binary where
  /-- `± mantissa · 2 ^ exponent`. -/
  | finite (negative : Bool) (mantissa : Nat) (exponent : Int)
  | infinite (negative : Bool)
  | nan
  deriving DecidableEq, Repr, Inhabited

/-- The bit in front of the fraction of a `Float`, two to the 52nd power. -/
abbrev leadingBit : Nat := 0x10000000000000

/-- The number of words of 64 bits. -/
abbrev words64 : Nat := 18446744073709551616

/-- The parts of a `Float`. The exponent of a finite number is at least -1074. -/
def Binary.ofFloat (x : Float) : Binary :=
  let bits := x.toBits.toNat
  let negative := bits / 0x8000000000000000 == 1
  let field : Nat := bits / leadingBit % 2048
  let fraction := bits % leadingBit
  if field = 2047 then if fraction = 0 then .infinite negative else .nan
  else if field = 0 then .finite negative fraction (-1074)
  else .finite negative (leadingBit + fraction) ((field : Int) - 1075)

/-- The whole part of a finite number, with the fraction cut off. -/
def Binary.truncated? : Binary → Option Int
  | .finite negative mantissa exponent =>
    let size : Nat :=
      if 0 ≤ exponent then mantissa * Nat.pow 2 exponent.toNat
      else mantissa / Nat.pow 2 (-exponent).toNat
    some (if negative then -(size : Int) else size)
  | _ => none

/-- Whether a number is finite and has no fraction. -/
def Binary.isWhole : Binary → Bool
  | .finite _ mantissa exponent =>
    if 0 ≤ exponent then true else mantissa % Nat.pow 2 (-exponent).toNat == 0
  | _ => false

/-- The nearest whole number toward zero within two bounds; not-a-number counts as zero. -/
def Binary.clamped (low high : Int) (b : Binary) : Int :=
  match b with
  | .nan => 0
  | .infinite negative => if negative then low else high
  | .finite .. => max low (min high (b.truncated?.getD 0))

/-- The range of signed words of 64 bits. -/
abbrev minInt64 : Int := -9223372036854775808
abbrev maxInt64 : Int := 9223372036854775807

/-- The largest unsigned word of 64 bits. -/
abbrev maxWord64 : Int := 18446744073709551615

/-- The range of signed words of 32 bits. -/
abbrev minInt32 : Int := -2147483648
abbrev maxInt32 : Int := 2147483647

/-- A `Float` cut to a signed word of 64 bits, at the ends of the range if it lies outside. -/
def toInt64Clamped (x : Float) : Int := (Binary.ofFloat x).clamped minInt64 maxInt64

/-- The signed word of 64 bits that is left of a whole number when its higher bits are dropped. -/
def wrapInt64 (n : Int) : Int := n.bmod words64

theorem wrapInt64_eq_self {n : Int} (hlow : minInt64 ≤ n) (hhigh : n ≤ maxInt64) :
    wrapInt64 n = n := by
  unfold minInt64 at hlow
  unfold maxInt64 at hhigh
  apply Int.bmod_eq_of_le <;> unfold words64 <;> omega

/-- After the highest word comes the lowest. -/
theorem wrapInt64_add_one {n : Int} (hlow : 0 ≤ n) (hhigh : n < maxInt64) :
    wrapInt64 (n + 1) = n + 1 := by
  apply wrapInt64_eq_self
  · unfold minInt64
    omega
  · omega

theorem wrapInt64_maxInt64_add_one : wrapInt64 (maxInt64 + 1) = minInt64 := rfl

/-- Whether a `Float` is finite and has no fraction. -/
def isWhole (x : Float) : Bool := (Binary.ofFloat x).isWhole

/-- Whether a `Float` is finite. -/
def isFinite (x : Float) : Bool :=
  match Binary.ofFloat x with
  | .finite .. => true
  | _ => false

end GeoLayers.Number
