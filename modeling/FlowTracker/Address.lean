import FlowTracker.Octets

/-!
# Internet addresses

Addresses of both versions, their order and their text.  The order puts every version 4 address
below every version 6 address and compares numbers inside a version; `Address.rank` is that order as
one number.
-/

namespace FlowTracker

inductive Address where
  | v4 (bits : BitVec 32)
  | v6 (bits : BitVec 128)
  deriving DecidableEq, Hashable, Repr, Inhabited

namespace Address

def v4OfOctets (octets : Octets) : Address := .v4 (BitVec.ofNat 32 octets.bigEndian)

def v6OfOctets (octets : Octets) : Address := .v6 (BitVec.ofNat 128 octets.bigEndian)

def toOctets : Address → Octets
  | .v4 bits => Octets.ofBigEndian 4 bits.toNat
  | .v6 bits => Octets.ofBigEndian 16 bits.toNat

/-- The position of an address in the order of all addresses. -/
def rank : Address → Nat
  | .v4 bits => bits.toNat
  | .v6 bits => 4294967296 + bits.toNat

theorem rank_injective {a b : Address} (h : a.rank = b.rank) : a = b := by
  cases a with
  | v4 a =>
    cases b with
    | v4 b => exact congrArg v4 (BitVec.eq_of_toNat_eq h)
    | v6 b =>
      have := a.isLt
      simp only [rank] at h
      omega
  | v6 a =>
    cases b with
    | v4 b =>
      have := b.isLt
      simp only [rank] at h
      omega
    | v6 b =>
      refine congrArg v6 (BitVec.eq_of_toNat_eq ?_)
      simp only [rank] at h
      omega

/-! ### Text -/

def dotted (value : Nat) : String :=
  String.intercalate "." ((Octets.ofBigEndian 4 value).map fun octet => toString octet.toNat)

def groups (value : Nat) : List Nat :=
  [112, 96, 80, 64, 48, 32, 16, 0].map fun shift => value >>> shift % 65536

/-- Where the longest run of zero groups starts and how long it is; of equally long runs, the
first. -/
def longestZeroRun (groups : List Nat) : Nat × Nat :=
  (List.range groups.length).foldl
    (fun best start =>
      let length := ((groups.drop start).takeWhile (· == 0)).length
      if best.2 < length then (start, length) else best)
    (0, 0)

/-- Groups in lower-case base 16 without leading zeros, joined by colons. -/
def groupsText (groups : List Nat) : String :=
  String.intercalate ":" (groups.map (Octets.hexText 1))

/-- A version 6 address: the longest run of two or more zero groups is written `::`, and an address
that maps a version 4 address ends in dotted form. -/
def v6Text (value : Nat) : String :=
  if value >>> 32 = 0xffff then "::ffff:" ++ dotted value
  else
    let gs := groups value
    let (start, length) := longestZeroRun gs
    if 1 < length then
      groupsText (gs.take start) ++ "::" ++ groupsText (gs.drop (start + length))
    else groupsText gs

def text : Address → String
  | .v4 bits => dotted bits.toNat
  | .v6 bits => v6Text bits.toNat

end Address

end FlowTracker
