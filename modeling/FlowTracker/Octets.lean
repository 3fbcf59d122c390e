import FlowTracker.Text

/-!
# Octet strings

Captures, frames and addresses are strings of octets.  This module reads and writes the unsigned
numbers in them, in either byte order, and their hexadecimal text.
-/

namespace FlowTracker

abbrev Octets := List UInt8

namespace Octets

/-- The `width` octets of a field that starts at `start`; fewer when the string ends earlier. -/
def field (octets : Octets) (start width : Nat) : Octets :=
  (octets.drop start).take width

/-! ### Numbers -/

/-- The number that the octets spell, most significant first. -/
def bigEndian (octets : Octets) : Nat :=
  octets.foldl (fun n octet => n * 256 + octet.toNat) 0

/-- The number that the octets spell, least significant first. -/
def littleEndian : Octets → Nat
  | [] => 0
  | octet :: rest => octet.toNat + 256 * littleEndian rest

def ofLittleEndian : (width n : Nat) → Octets
  | 0, _ => []
  | width + 1, n => UInt8.ofNat n :: ofLittleEndian width (n / 256)

def ofBigEndian (width n : Nat) : Octets :=
  (ofLittleEndian width n).reverse

/-- How many numbers `width` octets can spell. -/
def count : (width : Nat) → Nat
  | 0 => 1
  | width + 1 => 256 * count width

/-- Reading back what was written in little-endian order keeps the low octets of the number. -/
theorem littleEndian_ofLittleEndian (width n : Nat) :
    littleEndian (ofLittleEndian width n) = n % count width := by
  induction width generalizing n with
  | zero => simp [ofLittleEndian, littleEndian, count, Nat.mod_one]
  | succ width ih =>
    rw [ofLittleEndian, littleEndian, ih, count, Nat.mod_mul]
    simp

/-- Big-endian reading of the reverse is little-endian reading. -/
theorem bigEndian_reverse (octets : Octets) : bigEndian octets.reverse = littleEndian octets := by
  induction octets with
  | nil => rfl
  | cons octet rest ih =>
    unfold bigEndian at ih ⊢
    rw [List.reverse_cons, List.foldl_append, ih, littleEndian]
    simp only [List.foldl_cons, List.foldl_nil]
    omega

/-- Reading back what was written in big-endian order keeps the low octets of the number. -/
theorem bigEndian_ofBigEndian (width n : Nat) :
    bigEndian (ofBigEndian width n) = n % count width := by
  rw [ofBigEndian, bigEndian_reverse, littleEndian_ofLittleEndian]

@[simp] theorem length_ofLittleEndian (width n : Nat) :
    (ofLittleEndian width n).length = width := by
  induction width generalizing n with
  | zero => rfl
  | succ width ih => simp [ofLittleEndian, ih]

@[simp] theorem length_ofBigEndian (width n : Nat) : (ofBigEndian width n).length = width := by
  simp [ofBigEndian]

/-! ### Hexadecimal text -/

/-- Reads two digits per octet; `none` where the text holds anything else. -/
def ofHex? : List Char → Option Octets
  | [] => some []
  | [_] => none
  | hi :: lo :: rest => do
    let hi ← Text.digitOf? 16 hi
    let lo ← Text.digitOf? 16 lo
    let octets ← ofHex? rest
    return UInt8.ofNat (16 * hi + lo) :: octets

/-- The text of a number in base 16 with at least `width` lower-case digits. -/
def hexText (width n : Nat) : String :=
  let digits := Nat.toDigits 16 n
  String.ofList (List.replicate (width - digits.length) '0' ++ digits)

/-- Two lower-case digits per octet. -/
def toHex (octets : Octets) : String :=
  String.join (octets.map fun octet => hexText 2 octet.toNat)

end Octets

end FlowTracker
