import FlowTracker.Proofs.Checked.Arithmetic

/-!
# Capture times are rounded exactly

The time in a record header counts seconds in units of 2^-32.  Its conversion works on the whole seconds
and the fraction apart and carries between them, but the outcome is the one number of microseconds that
is nearest to the time, halves upwards (`ErfHeader.micros_timestamp`).

On times with less than a second of microseconds, and the conversion yields no others, a time is its
number of microseconds: both have one order, and each can be computed from the other
(`Timestamp.compare_eq_compare_micros`, `ofMicros_of_micros_eq`).  So the conversion is monotone, and
`ErfHeader.ofTimestamp`, which writes a time just above the one that is meant, is read back as what was
meant.
-/

namespace FlowTracker

namespace Timestamp

variable {time time' : Timestamp}

theorem isNormal_ofMicros (micros : UInt64) : (ofMicros micros).IsNormal := by
  have hrest : (micros % 1000000).toUInt32.toNat = micros.toNat % 1000000 % 2 ^ 32 := by
    rw [UInt64.toNat_toUInt32, UInt64.toNat_mod]
    rfl
  rw [isNormal_iff]
  show (micros % 1000000).toUInt32.toNat < 1000000
  omega

/-! ### Times and their microseconds -/

theorem eq_of_micros_eq (h : time.IsNormal) (h' : time'.IsNormal)
    (hmicros : time.micros = time'.micros) : time = time' := by
  obtain ⟨sec, usec⟩ := time
  obtain ⟨sec', usec'⟩ := time'
  simp only [isNormal_iff] at h h'
  simp only [micros] at hmicros
  have hsec : sec = sec' := UInt64.toNat_inj.1 (by omega)
  have husec : usec = usec' := UInt32.toNat_inj.1 (by omega)
  rw [hsec, husec]

theorem micros_eq_of_toMicros {micros : UInt64} (h : time.toMicros = .ok micros) :
    time.micros = micros.toNat := by
  by_cases hfits : time.Fits
  · rw [toMicros_of_fits hfits] at h
    rw [← Except.ok.inj h, UInt64.toNat_ofNat_of_lt' hfits]
  · obtain ⟨fault, hfault⟩ := toMicros_of_not_fits hfits
    rw [hfault] at h
    cases h

/-- A time can be computed from its microseconds. -/
theorem ofMicros_of_micros_eq (h : time.IsNormal) {micros : UInt64}
    (hmicros : time.micros = micros.toNat) : ofMicros micros = time :=
  eq_of_micros_eq (isNormal_ofMicros micros) h ((micros_ofMicros micros).trans hmicros.symm)

theorem toMicros_ofMicros (micros : UInt64) : (ofMicros micros).toMicros = .ok micros := by
  rw [toMicros_of_fits (fits_ofMicros micros), micros_ofMicros, UInt64.ofNat_toNat]

/-- Seconds first and then microseconds is the order of the microseconds since the epoch. -/
theorem compare_eq_compare_micros (h : time.IsNormal) (h' : time'.IsNormal) :
    time.compare time' = Ord.compare time.micros time'.micros := by
  rw [isNormal_iff] at h h'
  unfold compare micros
  rcases Nat.lt_trichotomy time.sec.toNat time'.sec.toNat with hsec | hsec | hsec
  · rw [Std.compare_eq_lt.2 (UInt64.lt_iff_toNat_lt.2 hsec), Ordering.lt_then]
    exact (Std.compare_eq_lt.2 (by omega)).symm
  · rw [Std.compare_eq_iff_eq.2 (UInt64.toNat_inj.1 hsec), Ordering.eq_then, hsec]
    rcases Nat.lt_trichotomy time.usec.toNat time'.usec.toNat with husec | husec | husec
    · rw [Std.compare_eq_lt.2 (UInt32.lt_iff_toNat_lt.2 husec)]
      exact (Std.compare_eq_lt.2 (by omega)).symm
    · rw [Std.compare_eq_iff_eq.2 (UInt32.toNat_inj.1 husec)]
      exact (Std.compare_eq_iff_eq.2 (by omega)).symm
    · rw [Std.compare_eq_gt.2 (UInt32.lt_iff_toNat_lt.2 husec)]
      exact (Std.compare_eq_gt.2 (by omega)).symm
  · rw [Std.compare_eq_gt.2 (UInt64.lt_iff_toNat_lt.2 hsec), Ordering.gt_then]
    exact (Std.compare_eq_gt.2 (by omega)).symm

theorem compare_eq_compare_of_toMicros (h : time.IsNormal) (h' : time'.IsNormal)
    {micros micros' : UInt64} (hmicros : time.toMicros = .ok micros)
    (hmicros' : time'.toMicros = .ok micros') :
    time.compare time' = Ord.compare micros.toNat micros'.toNat := by
  rw [compare_eq_compare_micros h h', micros_eq_of_toMicros hmicros, micros_eq_of_toMicros hmicros']

end Timestamp

/-! ### Rounding -/

namespace ErfHeader

def fractionMicros (fixed : UInt64) : UInt64 :=
  ((fixed &&& 0xffffffff) * 1000000 + 0x80000000) >>> 32

theorem toNat_fractionMicros (fixed : UInt64) :
    (fractionMicros fixed).toNat = (fixed.toNat % 2 ^ 32 * 1000000 + 2 ^ 31) / 2 ^ 32 := by
  have hhalf : (0x80000000 : UInt64).toNat = 2 ^ 31 := by decide
  unfold fractionMicros
  rw [toNat_shiftRight_half, UInt64.toNat_add, UInt64.toNat_mul, toNat_fraction,
    Timestamp.toNat_million, hhalf]
  omega

/-- What the fraction is rounded to is a second at most. -/
theorem toNat_fractionMicros_le (fixed : UInt64) : (fractionMicros fixed).toNat ≤ 1000000 := by
  rw [toNat_fractionMicros]
  omega

/-- The conversion by cases: a fraction that is rounded to a whole second is carried. -/
theorem timestamp_cases (fixed : UInt64) :
    (fractionMicros fixed).toNat = 1000000 ∧ (timestamp fixed).usec.toNat = 0
        ∧ (timestamp fixed).sec.toNat = fixed.toNat / 2 ^ 32 + 1
      ∨ (fractionMicros fixed).toNat < 1000000
        ∧ (timestamp fixed).usec.toNat = (fractionMicros fixed).toNat
        ∧ (timestamp fixed).sec.toNat = fixed.toNat / 2 ^ 32 := by
  have hle := toNat_fractionMicros_le fixed
  by_cases hsecond : (1000000 : UInt64) ≤ fractionMicros fixed
  · have hcarry : timestamp fixed = ⟨fixed >>> 32 + 1, (fractionMicros fixed - 1000000).toUInt32⟩ :=
      if_pos hsecond
    have hone : (1 : UInt64).toNat = 1 := by decide
    have hsec : (fixed >>> 32 + 1).toNat = fixed.toNat / 2 ^ 32 + 1 := by
      rw [UInt64.toNat_add, toNat_shiftRight_half, hone]
      have := fixed.toNat_lt
      omega
    have hsub := UInt64.toNat_sub_of_le _ _ hsecond
    rw [UInt64.le_iff_toNat_le, Timestamp.toNat_million] at hsecond
    rw [Timestamp.toNat_million] at hsub
    refine Or.inl ⟨by omega, ?_, by rw [hcarry, hsec]⟩
    rw [hcarry, UInt64.toNat_toUInt32, hsub]
    omega
  · have hplain : timestamp fixed = ⟨fixed >>> 32, (fractionMicros fixed).toUInt32⟩ :=
      if_neg hsecond
    rw [UInt64.le_iff_toNat_le, Timestamp.toNat_million] at hsecond
    refine Or.inr ⟨by omega, ?_, by rw [hplain, toNat_shiftRight_half]⟩
    rw [hplain, UInt64.toNat_toUInt32]
    omega

theorem isNormal_timestamp (fixed : UInt64) : (timestamp fixed).IsNormal := by
  rw [Timestamp.isNormal_iff]
  rcases timestamp_cases fixed with ⟨-, husec, -⟩ | ⟨hlt, husec, -⟩
  · omega
  · omega

/-- The conversion yields the nearest number of microseconds. -/
theorem micros_timestamp (fixed : UInt64) :
    (timestamp fixed).micros = (fixed.toNat * 1000000 + 2 ^ 31) / 2 ^ 32 := by
  have hfraction := toNat_fractionMicros fixed
  unfold Timestamp.micros
  rcases timestamp_cases fixed with ⟨hone, husec, hsec⟩ | ⟨-, husec, hsec⟩
  · omega
  · omega

theorem micros_timestamp_mono {fixed fixed' : UInt64} (h : fixed ≤ fixed') :
    (timestamp fixed).micros ≤ (timestamp fixed').micros := by
  rw [UInt64.le_iff_toNat_le] at h
  rw [micros_timestamp, micros_timestamp]
  exact Nat.div_le_div_right (by omega)

/-- The time in microseconds, which fits a word. -/
theorem exists_toMicros_timestamp (fixed : UInt64) :
    ∃ micros, (timestamp fixed).toMicros = .ok micros
      ∧ micros.toNat = (fixed.toNat * 1000000 + 2 ^ 31) / 2 ^ 32 := by
  have hfits := timestamp_fits fixed
  refine ⟨_, Timestamp.toMicros_of_fits hfits, ?_⟩
  rw [UInt64.toNat_ofNat_of_lt' hfits, micros_timestamp]

/-! ### Writing a time -/

/-- A fixed-point time just above `time`. -/
def ofTimestamp (time : Timestamp) : UInt64 :=
  time.sec <<< 32 ||| ((time.usec.toUInt64 <<< 32) / 1000000 + 1)

theorem toNat_ofTimestamp {time : Timestamp} (hsec : time.sec.toNat < 2 ^ 32)
    (husec : time.IsNormal) :
    (ofTimestamp time).toNat
      = time.sec.toNat * 2 ^ 32 + (time.usec.toNat * 2 ^ 32 / 1000000 + 1) := by
  have hwidth : (32 : UInt64).toNat % 64 = 32 := by decide
  have hone : (1 : UInt64).toNat = 1 := by decide
  rw [Timestamp.isNormal_iff] at husec
  have hhigh : (time.sec <<< 32).toNat = time.sec.toNat * 2 ^ 32 := by
    rw [UInt64.toNat_shiftLeft, hwidth, Nat.shiftLeft_eq]
    omega
  have hshift : (time.usec.toUInt64 <<< 32).toNat = time.usec.toNat * 2 ^ 32 := by
    rw [UInt64.toNat_shiftLeft, hwidth, Nat.shiftLeft_eq, UInt32.toNat_toUInt64]
    omega
  have hlow : ((time.usec.toUInt64 <<< 32) / 1000000 + 1).toNat
      = time.usec.toNat * 2 ^ 32 / 1000000 + 1 := by
    rw [UInt64.toNat_add, UInt64.toNat_div, hshift, Timestamp.toNat_million, hone]
    omega
  have hfraction : time.usec.toNat * 2 ^ 32 / 1000000 + 1 < 2 ^ 32 := by omega
  unfold ofTimestamp
  rw [UInt64.toNat_or, hhigh, hlow, Nat.mul_comm, ← Nat.two_pow_add_eq_or_of_lt hfraction]

/-- A time that was written is read back. -/
theorem timestamp_ofTimestamp {time : Timestamp} (hsec : time.sec.toNat < 2 ^ 32)
    (husec : time.IsNormal) : timestamp (ofTimestamp time) = time := by
  apply Timestamp.eq_of_micros_eq (isNormal_timestamp _) husec
  rw [micros_timestamp, toNat_ofTimestamp hsec husec]
  rw [Timestamp.isNormal_iff] at husec
  unfold Timestamp.micros
  -- the unit that was added makes up for the division and is less than half a microsecond
  omega

/-! ### The conversion -/

/-- Every fixed-point time is converted to the nearest microsecond, without a step that leaves the
words.  The conversion is monotone, and times that it yields have the order of their microseconds and
can be computed from them.  Every number of microseconds is that of its time, and every time whose
seconds fit is the conversion of a fixed-point time. -/
theorem timestamp_exact :
    (∀ fixed, checkedTimestamp fixed = .ok (timestamp fixed) ∧ (timestamp fixed).IsNormal ∧
      ∃ micros, (timestamp fixed).toMicros = .ok micros
        ∧ micros.toNat = (fixed.toNat * 1000000 + 2 ^ 31) / 2 ^ 32
        ∧ Timestamp.ofMicros micros = timestamp fixed) ∧
    (∀ fixed fixed' micros micros', (timestamp fixed).toMicros = .ok micros →
      (timestamp fixed').toMicros = .ok micros' →
      (fixed ≤ fixed' → micros ≤ micros')
        ∧ (timestamp fixed).compare (timestamp fixed') = Ord.compare micros.toNat micros'.toNat) ∧
    (∀ micros, (Timestamp.ofMicros micros).toMicros = .ok micros) ∧
    (∀ time : Timestamp, time.sec.toNat < 2 ^ 32 → time.IsNormal →
      timestamp (ofTimestamp time) = time) := by
  refine ⟨?_, ?_, Timestamp.toMicros_ofMicros, ?_⟩
  · intro fixed
    obtain ⟨micros, hmicros, hvalue⟩ := exists_toMicros_timestamp fixed
    have hback := Timestamp.ofMicros_of_micros_eq (isNormal_timestamp fixed)
      (Timestamp.micros_eq_of_toMicros hmicros)
    exact ⟨checkedTimestamp_eq fixed, isNormal_timestamp fixed, micros, hmicros, hvalue, hback⟩
  · intro fixed fixed' micros micros' hmicros hmicros'
    refine ⟨?_, Timestamp.compare_eq_compare_of_toMicros (isNormal_timestamp fixed)
      (isNormal_timestamp fixed') hmicros hmicros'⟩
    intro hle
    have hmono := micros_timestamp_mono hle
    rw [Timestamp.micros_eq_of_toMicros hmicros, Timestamp.micros_eq_of_toMicros hmicros'] at hmono
    exact UInt64.le_iff_toNat_le.2 hmono
  · intro time hsec husec
    exact timestamp_ofTimestamp hsec husec

/-- The greatest fraction of second 5 is carried to second 6; the last microsecond of second 5 is
written and read back. -/
theorem timestamp_exact_of_carry :
    (timestamp 0x5ffffffff).compare (timestamp 0x600000000) = .eq
      ∧ timestamp (ofTimestamp ⟨5, 999999⟩) = ⟨5, 999999⟩ := by
  obtain ⟨-, hpairs, -, hback⟩ := timestamp_exact
  have horder := hpairs 0x5ffffffff 0x600000000 6000000 6000000 (by decide) (by decide)
  exact ⟨horder.2, hback ⟨5, 999999⟩ (by decide) (by decide)⟩

end ErfHeader

end FlowTracker
