/-!
# Shortest decimals

A 64-bit binary fraction is written with the fewest decimal digits that read back as the same number;
of equally short candidates the nearest one is taken, and of two equally near ones the even one.  The
search is exact: a finite positive number is `m * 2 ^ q`, the numbers that round to it fill an
interval around it whose ends belong to it iff `m` is even, and for each count of digits only the two
neighbours on the decimal grid can lie in that interval.
-/

namespace FlowTracker

/-- A finite number as decimal digits times a power of ten. -/
structure Decimal where
  negative : Bool
  digits : Nat
  exponent : Int
  deriving DecidableEq, Repr, Inhabited

namespace Decimal

def tenTo (n : Nat) : Nat := Nat.pow 10 n

/-- A positive number `mantissa * 2 ^ exponent`. -/
structure Binary where
  mantissa : Nat
  exponent : Int
  deriving DecidableEq, Repr, Inhabited

/-- The magnitude that 64 bits encode, as a mantissa of at most 53 bits and a power of two. -/
def Binary.ofBits (bits : UInt64) : Binary :=
  let fraction : Nat := bits.toNat % (1 <<< 52)
  let field : Nat := bits.toNat >>> 52 % 2048
  if field = 0 then ⟨fraction, -1074⟩ else ⟨fraction + 1 <<< 52, (field : Int) - 1075⟩

/-- Compares `a * 10 ^ p` with `b * 2 ^ q`. -/
def compareScaled (a : Nat) (p : Int) (b : Nat) (q : Int) : Ordering :=
  compare ((a * tenTo p.toNat) <<< (-q).toNat) (b <<< q.toNat * tenTo (-p).toNat)

/-- Whether `a * 10 ^ p` rounds to the number. -/
def Binary.admits (x : Binary) (a : Nat) (p : Int) : Bool :=
  let below := if x.mantissa = 1 <<< 52 ∧ -1074 < x.exponent then 1 else 2
  let q := x.exponent - 2
  let low := compareScaled a p (4 * x.mantissa - below) q
  let high := compareScaled a p (4 * x.mantissa + 2) q
  (low == .gt || (low == .eq && x.mantissa % 2 == 0))
    && (high == .lt || (high == .eq && x.mantissa % 2 == 0))

/-- The largest multiple of `10 ^ p` that is not above the number, divided by `10 ^ p`. -/
def Binary.floorAt (x : Binary) (p : Int) : Nat :=
  x.mantissa <<< x.exponent.toNat * tenTo (-p).toNat
    / tenTo p.toNat <<< (-x.exponent).toNat

/-- Whether the lower neighbour `a` is at most as far away as the upper one; an exact tie goes to the
even one. -/
def Binary.prefersLower (x : Binary) (a : Nat) (p : Int) : Bool :=
  match compareScaled (2 * a + 1) p (2 * x.mantissa) x.exponent with
  | .gt => true
  | .lt => false
  | .eq => a % 2 == 0

/-- The multiple of `10 ^ p` that rounds to the number and is nearest to it, if there is one. -/
def Binary.onGrid (x : Binary) (p : Int) : Option Nat :=
  let a := x.floorAt p
  let lower := x.admits a p
  let upper := x.admits (a + 1) p
  if lower && upper then some (if x.prefersLower a p then a else a + 1)
  else if lower then some a
  else if upper then some (a + 1)
  else none

/-- The first power of ten, from the coarsest on, whose grid holds a decimal for the number. -/
def Binary.search (x : Binary) : (steps : Nat) → (p : Int) → Nat × Int
  | 0, p => (x.floorAt p, p)
  | steps + 1, p =>
    match x.onGrid p with
    | some a => if a = 0 then search x steps (p - 1) else (a, p)
    | none => search x steps (p - 1)

/-- Takes zeros off the end of the digits. -/
def strip : (fuel : Nat) → Nat → Int → Nat × Int
  | 0, a, p => (a, p)
  | fuel + 1, a, p => if a ≠ 0 ∧ a % 10 = 0 then strip fuel (a / 10) (p + 1) else (a, p)

/-- The shortest decimal of a finite number that 64 bits encode. -/
def ofBits (bits : UInt64) : Decimal :=
  let negative := bits.toNat >>> 63 == 1
  let x := Binary.ofBits bits
  if x.mantissa = 0 then ⟨negative, 0, 0⟩
  else
    let (a, p) := x.search 700 309
    let (a, p) := strip 20 a p
    ⟨negative, a, p⟩

/-- The text of a decimal: positional with a point between 10^-5 and 10^16, else with an exponent
that has a sign. -/
def text (decimal : Decimal) : String :=
  let digits := Nat.toDigits 10 decimal.digits
  let count : Int := digits.length
  let point := count + decimal.exponent
  let sign := if decimal.negative then "-" else ""
  let zeros (n : Int) := List.replicate n.toNat '0'
  sign ++ String.ofList (
    if decimal.digits = 0 then ['0', '.', '0']
    else if 0 ≤ decimal.exponent ∧ point ≤ 16 then digits ++ zeros decimal.exponent ++ ['.', '0']
    else if 0 < point ∧ point ≤ 16 then
      digits.take point.toNat ++ ['.'] ++ digits.drop point.toNat
    else if -5 < point ∧ point ≤ 0 then ['0', '.'] ++ zeros (-point) ++ digits
    else
      digits.take 1 ++ (if count = 1 then [] else '.' :: digits.drop 1)
        ++ 'e' :: (if 0 < point then ['+'] else []) ++ (toString (point - 1)).toList)

end Decimal

end FlowTracker
