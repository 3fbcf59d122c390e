import FlowTracker.Text
import FlowTracker.Value

/-!
# Numerals

How fractions are written: decimal digits with a point and an optional exponent.
-/

namespace FlowTracker.Numeral

/-- A decimal fraction: digits, times a power of ten. -/
structure Scientific where
  negative : Bool
  digits : Nat
  exponent : Int
  deriving DecidableEq, Repr, Inhabited

def exponent? : List Char → Option Int
  | [] => some 0
  | e :: rest =>
    if e == 'e' || e == 'E' then
      match rest with
      | '-' :: digits => (Text.number? 10 digits).map fun n => -(n : Int)
      | '+' :: digits => (Text.number? 10 digits).map Int.ofNat
      | digits => (Text.number? 10 digits).map Int.ofNat
    else none

/-- A decimal fraction without a sign.  There is a digit before or behind the point. -/
def unsigned? (negative : Bool) (cs : List Char) : Option Scientific := do
  let whole := cs.takeWhile Char.isDigit
  let rest := cs.dropWhile Char.isDigit
  let (part, rest) := match rest with
    | '.' :: rest => (rest.takeWhile Char.isDigit, rest.dropWhile Char.isDigit)
    | rest => ([], rest)
  let exponent ← exponent? rest
  let digits ← Text.number? 10 (whole ++ part)
  return ⟨negative, digits, exponent - part.length⟩

/-- A decimal fraction, perhaps behind a sign. -/
def decimal? : List Char → Option Scientific
  | '+' :: cs => unsigned? false cs
  | '-' :: cs => unsigned? true cs
  | cs => unsigned? false cs

/-- The 64-bit fraction nearest to a decimal one; an infinity if it is too large. -/
def toReal (number : Scientific) : Value :=
  let places : Int := (Nat.toDigits 10 number.digits).length + number.exponent
  if number.digits = 0 || places < -400 then .ofScientific number.negative 0 0
  else if 400 < places then
    .real (if number.negative then 0xfff0000000000000 else 0x7ff0000000000000)
  else .ofScientific number.negative number.digits number.exponent

def isFinite (bits : UInt64) : Bool := (bits >>> 52) &&& 0x7ff != 0x7ff

/-- The 64-bit fraction nearest to a decimal one, if it is finite. -/
def finite? (number : Scientific) : Option Value :=
  match toReal number with
  | .real bits => if isFinite bits then some (.real bits) else none
  | _ => none

end FlowTracker.Numeral
