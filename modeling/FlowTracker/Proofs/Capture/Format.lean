import FlowTracker.Capture.Erf
import Mathlib.Data.List.Basic

/-!
# The format of a capture

An octet string is a record if it is as long as its own length field says and has room for the header
and, in an Ethernet record, for the padding (`IsErfRecord`).  Length field and type stand in the header,
so at most one record begins any octet string, and every octet string is a sequence of records and a rest
that begins with none, in one way only (`SplitsInto`).
-/

namespace FlowTracker

namespace ErfHeader

variable {octets : Octets}

theorem field_take {start width n : Nat} (h : start + width ≤ n) :
    Octets.field (octets.take n) start width = octets.field start width := by
  unfold Octets.field
  rw [List.drop_take, List.take_take, Nat.min_eq_left (by omega)]

theorem getD_take {i n : Nat} (h : i < n) : (octets.take n).getD i 0 = octets.getD i 0 := by
  rw [List.getD_eq_getElem?_getD, List.getD_eq_getElem?_getD, List.getElem?_take_of_lt h]

/-- A header is read from the first octets. -/
theorem ofOctets_take {n : Nat} (h : size ≤ n) : ofOctets (octets.take n) = ofOctets octets := by
  unfold size at h
  unfold ofOctets
  rw [field_take (by omega), field_take (by omega), field_take (by omega), field_take (by omega),
    getD_take (by omega), getD_take (by omega)]

theorem ofOctets_append (h : size ≤ octets.length) (more : Octets) :
    ofOctets (octets ++ more) = ofOctets octets := by
  have hhead : (octets ++ more).take octets.length = octets := List.take_left ..
  rw [← ofOctets_take h, hhead]

end ErfHeader

/-! ### Records -/

/-- The octets are one whole record. -/
structure IsErfRecord (octets : Octets) : Prop where
  length_eq : octets.length = (ErfHeader.ofOctets octets).recordLength.toNat
  size_le : ErfHeader.size ≤ octets.length
  padding_le : (ErfHeader.ofOctets octets).type = ErfHeader.ethernet →
    ErfHeader.size + ErfHeader.padding ≤ octets.length

/-- The octets are a sequence of records and a rest that does not begin with one. -/
structure SplitsInto (octets : Octets) (records : List Octets) (rest : Octets) : Prop where
  octets_eq : octets = records.flatten ++ rest
  whole : ∀ record ∈ records, IsErfRecord record
  stops : ∀ record, IsErfRecord record → ¬ record <+: rest

namespace IsErfRecord

variable {octets record record' more more' : Octets}

theorem ofOctets_append (h : IsErfRecord record) (more : Octets) :
    ErfHeader.ofOctets (record ++ more) = ErfHeader.ofOctets record :=
  ErfHeader.ofOctets_append h.size_le more

/-- At most one record begins an octet string. -/
theorem unique (h : IsErfRecord record) (h' : IsErfRecord record')
    (heq : record ++ more = record' ++ more') : record = record' ∧ more = more' := by
  have hheader : ErfHeader.ofOctets record = ErfHeader.ofOctets record' := by
    rw [← h.ofOctets_append more, heq, h'.ofOctets_append]
  have hlength : record.length = record'.length := by
    rw [h.length_eq, h'.length_eq, hheader]
  exact List.append_inj heq hlength

/-- What it takes for an octet string to begin with a record. -/
theorem starts_iff : (∃ record, IsErfRecord record ∧ record <+: octets)
    ↔ ErfHeader.size ≤ (ErfHeader.ofOctets octets).recordLength.toNat
      ∧ (ErfHeader.ofOctets octets).recordLength.toNat ≤ octets.length
      ∧ ((ErfHeader.ofOctets octets).type = ErfHeader.ethernet →
        ErfHeader.size + ErfHeader.padding ≤ (ErfHeader.ofOctets octets).recordLength.toNat) := by
  constructor
  · rintro ⟨record, h, more, rfl⟩
    rw [h.ofOctets_append, ← h.length_eq]
    refine ⟨h.size_le, ?_, h.padding_le⟩
    rw [List.length_append]
    exact Nat.le_add_right ..
  · rintro ⟨hsize, hlength, hpadding⟩
    have hheader : ErfHeader.ofOctets
        (octets.take (ErfHeader.ofOctets octets).recordLength.toNat) = ErfHeader.ofOctets octets :=
      ErfHeader.ofOctets_take hsize
    have htake : (octets.take (ErfHeader.ofOctets octets).recordLength.toNat).length
        = (ErfHeader.ofOctets octets).recordLength.toNat :=
      (List.length_take ..).trans (Nat.min_eq_left hlength)
    refine ⟨octets.take (ErfHeader.ofOctets octets).recordLength.toNat, ⟨?_, ?_, ?_⟩,
      List.take_prefix ..⟩
    · rw [hheader, htake]
    · rwa [htake]
    · rwa [hheader, htake]

end IsErfRecord

/-! ### Splitting -/

namespace SplitsInto

variable {octets record rest rest' : Octets} {records records' : List Octets}

theorem octets_cons (h : SplitsInto octets (record :: records) rest) :
    octets = record ++ (records.flatten ++ rest) := by
  rw [h.octets_eq, List.flatten_cons, List.append_assoc]

theorem cons_iff (h : IsErfRecord record) {more : Octets} :
    SplitsInto (record ++ more) (record :: records) rest ↔ SplitsInto more records rest := by
  constructor
  · intro hsplit
    exact ⟨List.append_cancel_left hsplit.octets_cons,
      fun record' hmem => hsplit.whole record' (List.mem_cons_of_mem _ hmem), hsplit.stops⟩
  · intro hsplit
    refine ⟨?_, ?_, hsplit.stops⟩
    · rw [hsplit.octets_eq, List.flatten_cons, List.append_assoc]
    · intro record' hmem
      rcases List.mem_cons.1 hmem with rfl | hmem
      · exact h
      · exact hsplit.whole record' hmem

/-- Where one splitting finds a record, no other one finds none. -/
theorem not_nil_of_cons (h : SplitsInto octets (record :: records) rest) :
    ¬ SplitsInto octets [] rest' := by
  intro h'
  have heq : octets = rest' := h'.octets_eq
  apply h'.stops record (h.whole record List.mem_cons_self)
  rw [← heq, h.octets_cons]
  exact List.prefix_append ..

theorem unique (h : SplitsInto octets records rest) (h' : SplitsInto octets records' rest') :
    records = records' ∧ rest = rest' := by
  induction records generalizing octets records' with
  | nil =>
    cases records' with
    | nil => exact ⟨rfl, h.octets_eq.symm.trans h'.octets_eq⟩
    | cons record' records' => exact absurd h h'.not_nil_of_cons
  | cons record records ih =>
    cases records' with
    | nil => exact absurd h' h.not_nil_of_cons
    | cons record' records' =>
      have hrecord := h.whole record List.mem_cons_self
      have hrecord' := h'.whole record' List.mem_cons_self
      have hoctets := h.octets_cons
      obtain ⟨rfl, -⟩ := hrecord.unique hrecord' (hoctets.symm.trans h'.octets_cons)
      rw [hoctets] at h h'
      obtain ⟨rfl, rfl⟩ := ih ((cons_iff hrecord).1 h) ((cons_iff hrecord).1 h')
      exact ⟨rfl, rfl⟩

theorem exists_split (octets : Octets) : ∃ records rest, SplitsInto octets records rest := by
  induction hn : octets.length using Nat.strongRecOn generalizing octets with
  | _ n ih =>
    by_cases hstarts : ∃ record, IsErfRecord record ∧ record <+: octets
    · obtain ⟨record, hrecord, more, rfl⟩ := hstarts
      have hpos := hrecord.size_le
      unfold ErfHeader.size at hpos
      rw [List.length_append] at hn
      obtain ⟨records, rest, hsplit⟩ := ih more.length (by omega) more rfl
      exact ⟨record :: records, rest, (cons_iff hrecord).2 hsplit⟩
    · exact ⟨[], octets, rfl, fun _ hmem => absurd hmem List.not_mem_nil,
        fun record hrecord hpre => hstarts ⟨record, hrecord, hpre⟩⟩

end SplitsInto

end FlowTracker
