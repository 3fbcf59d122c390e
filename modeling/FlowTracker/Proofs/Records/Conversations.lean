import FlowTracker.Proofs.Records.Summary

/-!
# Keys of conversations

Two packets have one key if and only if they travel between the same two endpoints with the same
protocol, in the same direction or in opposite ones (`FiveTuple.key_eq_key_iff`).  That tuples with one
key are the same or reversed is read off the key.  That a tuple and its reverse have one key rests on the
order of the endpoints: of two endpoints one does not come after the other, and both do so only if they
are equal.  The order goes by address and then by port, and it puts the addresses of version 4 before
those of version 6.
-/

namespace FlowTracker

/-! ### The order of addresses and endpoints -/

/-- A version 4 address comes before each of version 6; inside a version the numbers decide. -/
inductive Address.Before : Address → Address → Prop where
  | v4 {bits bits' : BitVec 32} (h : bits.toNat < bits'.toNat) : Before (.v4 bits) (.v4 bits')
  | mixed (bits : BitVec 32) (bits' : BitVec 128) : Before (.v4 bits) (.v6 bits')
  | v6 {bits bits' : BitVec 128} (h : bits.toNat < bits'.toNat) : Before (.v6 bits) (.v6 bits')

theorem Address.rank_lt_iff {a b : Address} : a.rank < b.rank ↔ a.Before b := by
  constructor
  · intro h
    cases a with
    | v4 bits =>
      cases b with
      | v4 bits' => exact .v4 h
      | v6 bits' => exact .mixed bits bits'
    | v6 bits =>
      cases b with
      | v4 bits' =>
        have hlt := bits'.isLt
        simp only [rank] at h
        omega
      | v6 bits' => exact .v6 (Nat.lt_of_add_lt_add_left h)
  · intro h
    cases h with
    | v4 h => exact h
    | mixed bits bits' => exact Nat.lt_of_lt_of_le bits.isLt (Nat.le_add_right ..)
    | v6 h => exact Nat.add_lt_add_left h _

/-- The endpoint does not come after the other one: the addresses decide, then the ports. -/
def Endpoint.UpTo (a b : Endpoint) : Prop :=
  a.address.Before b.address ∨ a.address = b.address ∧ a.port ≤ b.port

theorem Endpoint.rank_le_iff {a b : Endpoint} : a.rank ≤ b.rank ↔ a.UpTo b := by
  have hport := a.port.toNat_lt
  have hport' := b.port.toNat_lt
  have hsame : a.address = b.address ↔ a.address.rank = b.address.rank :=
    ⟨congrArg Address.rank, Address.rank_injective⟩
  unfold UpTo rank
  rw [← Address.rank_lt_iff, hsame, UInt16.le_iff_toNat_le]
  omega

namespace Endpoint.UpTo

variable {a b : Endpoint}

theorem total (a b : Endpoint) : a.UpTo b ∨ b.UpTo a := by
  rw [← rank_le_iff, ← rank_le_iff]
  exact Nat.le_total ..

theorem antisymm (h : a.UpTo b) (h' : b.UpTo a) : a = b := by
  rw [← rank_le_iff] at h h'
  exact rank_injective (Nat.le_antisymm h h')

end Endpoint.UpTo

/-! ### Keys -/

namespace FiveTuple

variable {tuple tuple' : FiveTuple}

theorem key_of_upTo (h : tuple.source.UpTo tuple.target) :
    tuple.key = ⟨tuple.source, tuple.target, tuple.protocol⟩ :=
  if_pos (Endpoint.rank_le_iff.2 h)

theorem key_of_not_upTo (h : ¬ tuple.source.UpTo tuple.target) :
    tuple.key = ⟨tuple.target, tuple.source, tuple.protocol⟩ :=
  if_neg (mt Endpoint.rank_le_iff.1 h)

/-- The endpoints of a key stand in their order. -/
theorem key_upTo (tuple : FiveTuple) : tuple.key.lower.UpTo tuple.key.upper := by
  by_cases h : tuple.source.UpTo tuple.target
  · rw [key_of_upTo h]
    exact h
  · rw [key_of_not_upTo h]
    exact (Endpoint.UpTo.total ..).resolve_left h

/-- Both directions of a conversation have one key. -/
theorem key_reverse (tuple : FiveTuple) : tuple.reverse.key = tuple.key := by
  by_cases h : tuple.source.UpTo tuple.target
  · rw [key_of_upTo h]
    by_cases h' : tuple.reverse.source.UpTo tuple.reverse.target
    · have hself : tuple.source = tuple.target := h.antisymm h'
      rw [reverse_of_self hself, key_of_upTo h]
    · rw [key_of_not_upTo h']
      rfl
  · rw [key_of_not_upTo h]
    exact key_of_upTo ((Endpoint.UpTo.total ..).resolve_left h)

theorem eq_reverse_iff : tuple' = tuple.reverse
    ↔ tuple'.source = tuple.target ∧ tuple'.target = tuple.source
      ∧ tuple'.protocol = tuple.protocol := by
  constructor
  · rintro rfl
    exact ⟨rfl, rfl, rfl⟩
  · rintro ⟨hsource, htarget, hprotocol⟩
    obtain ⟨source', target', protocol'⟩ := tuple'
    cases hsource
    cases htarget
    cases hprotocol
    rfl

/-- Two tuples have one key if and only if they are the same, or each has the other's endpoints, address
and port together, exchanged and both have the same protocol.  The key names the endpoint that does not
come after the other one first. -/
theorem key_eq_key_iff (tuple tuple' : FiveTuple) :
    (tuple.key = tuple'.key ↔ tuple = tuple'
      ∨ tuple'.source = tuple.target ∧ tuple'.target = tuple.source
        ∧ tuple'.protocol = tuple.protocol)
      ∧ tuple.key.lower.UpTo tuple.key.upper := by
  refine ⟨?_, key_upTo tuple⟩
  rw [← eq_reverse_iff]
  constructor
  · intro h
    rcases eq_or_eq_reverse h.symm with rfl | heq
    · exact Or.inl rfl
    · exact Or.inr heq
  · rintro (rfl | rfl)
    · rfl
    · exact (key_reverse tuple).symm

end FiveTuple

end FlowTracker
