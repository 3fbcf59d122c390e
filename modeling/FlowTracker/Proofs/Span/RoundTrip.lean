import FlowTracker.Settings.Field
import FlowTracker.Proofs.Export.Digits
import Mathlib.Data.List.Basic

/-!
# Written spans are read back

The text of a span is a row of quantities, each a number with the name of a unit.  The reader takes such
a row apart again and adds up what it finds, whatever the numbers are (`ofText_quantities`).  The sums
are sums of natural numbers as long as they fit (`addTo_of`), and the quantities that are written add up
to the span and so always fit.  What was written is therefore read back, up to the last nanosecond of the
longest span, and a whole number means the same as that number of seconds (`ofValue_written`).
-/

namespace FlowTracker.Span

open Text

/-! ### Quantities -/

structure Quantity where
  number : Nat
  unit : TimeUnit

namespace Quantity

def word (quantity : Quantity) (singular : String) : String :=
  singular ++ if 1 < quantity.number then "s" else ""

def name (quantity : Quantity) : String :=
  match quantity.unit with
  | .nanosecond => "ns"
  | .microsecond => "us"
  | .millisecond => "ms"
  | .second => "s"
  | .minute => "m"
  | .hour => "h"
  | .day => quantity.word "day"
  | .week => quantity.word "week"
  | .month => quantity.word "month"
  | .year => quantity.word "year"

def text (quantity : Quantity) : String := toString quantity.number ++ quantity.name

def addTo (quantity : Quantity) (span : Span) : Except SpanError Span :=
  span.addQuantity quantity.number none quantity.name.toList

def amount (quantity : Quantity) : Nat := quantity.number * quantity.unit.factor

def seconds (quantity : Quantity) : Nat := if quantity.unit.isSubsecond then 0 else quantity.amount

def nanoseconds (quantity : Quantity) : Nat := if quantity.unit.isSubsecond then quantity.amount else 0

variable (quantity : Quantity)

/-- The name is one or more letters, and the reader knows it. -/
def IsRead (unit : TimeUnit) (name : String) : Prop :=
  TimeUnit.ofName? name.toList = some unit ∧ name.toList.all isUnitLetter = true ∧ name.toList ≠ []

instance (unit : TimeUnit) (name : String) : Decidable (IsRead unit name) :=
  inferInstanceAs (Decidable (_ ∧ _ ∧ _))

theorem isRead_word (unit : TimeUnit) (singular : String) (h : IsRead unit (singular ++ ""))
    (h' : IsRead unit (singular ++ "s")) : IsRead unit (quantity.word singular) := by
  unfold word
  split
  · exact h'
  · exact h

theorem isRead_name : IsRead quantity.unit quantity.name := by
  obtain ⟨number, unit⟩ := quantity
  cases unit with
  | day => exact isRead_word _ .day "day" (by decide) (by decide)
  | week => exact isRead_word _ .week "week" (by decide) (by decide)
  | month => exact isRead_word _ .month "month" (by decide) (by decide)
  | year => exact isRead_word _ .year "year" (by decide) (by decide)
  | _ =>
    simp only [name]
    decide

theorem ofName?_name : TimeUnit.ofName? quantity.name.toList = some quantity.unit :=
  quantity.isRead_name.1

theorem isUnitLetter_of_mem_name : ∀ c ∈ quantity.name.toList, isUnitLetter c = true :=
  List.all_eq_true.1 quantity.isRead_name.2.1

theorem name_ne_nil : quantity.name.toList ≠ [] := quantity.isRead_name.2.2

theorem toList_text :
    quantity.text.toList = Nat.toDigits 10 quantity.number ++ quantity.name.toList := by
  rw [text, String.toList_append, toList_toString]

end Quantity

def row (quantities : List Quantity) : List Char :=
  [' '].intercalate (quantities.map fun quantity => quantity.text.toList)

theorem row_singleton (quantity : Quantity) : row [quantity] = quantity.text.toList :=
  List.intercalate_singleton

theorem row_cons_cons (quantity quantity' : Quantity) (quantities : List Quantity) :
    row (quantity :: quantity' :: quantities)
      = quantity.text.toList ++ ' ' :: row (quantity' :: quantities) := by
  rw [row, List.map_cons, List.map_cons, List.intercalate_cons_cons, List.append_assoc]
  rfl

theorem toList_intercalate_texts (quantities : List Quantity) :
    (String.intercalate " " (quantities.map Quantity.text)).toList = row quantities := by
  rw [String.toList_intercalate, List.map_map]
  rfl

/-! ### Characters -/

theorem code_of_isUnitLetter {c : Char} (h : isUnitLetter c = true) :
    (97 ≤ c.toNat ∧ c.toNat ≤ 122) ∨ (65 ≤ c.toNat ∧ c.toNat ≤ 90) ∨ c.toNat = 181 := by
  simp only [isUnitLetter, Bool.or_eq_true, Bool.and_eq_true, decide_eq_true_eq, beq_iff_eq] at h
  rcases h with (⟨hlow, hhigh⟩ | ⟨hlow, hhigh⟩) | rfl
  · exact Or.inl ⟨UInt32.le_iff_toNat_le.1 hlow, UInt32.le_iff_toNat_le.1 hhigh⟩
  · exact Or.inr (Or.inl ⟨UInt32.le_iff_toNat_le.1 hlow, UInt32.le_iff_toNat_le.1 hhigh⟩)
  · exact Or.inr (Or.inr rfl)

theorem isDigit_of_isUnitLetter {c : Char} (h : isUnitLetter c = true) : c.isDigit = false := by
  have hcode := code_of_isUnitLetter h
  rw [Bool.eq_false_iff, ne_eq, Char.isDigit_iff_toNat]
  rintro ⟨-, hnine⟩
  change c.toNat ≤ 57 at hnine
  omega

/-- Neither digits nor letters are blank: the blanks end at 32 and start again behind 127. -/
theorem isBlank_eq_false {c : Char} (h : 32 < c.toNat) (h' : c.toNat < 127 ∨ c.toNat = 181) :
    isBlank c = false := by
  simp only [isBlank, Bool.or_eq_false_iff, Bool.and_eq_false_iff, decide_eq_false_iff_not,
    beq_eq_false_iff_ne]
  omega

theorem isBlank_of_isUnitLetter {c : Char} (h : isUnitLetter c = true) : isBlank c = false := by
  have hcode := code_of_isUnitLetter h
  exact isBlank_eq_false (by omega) (by omega)

theorem isBlank_of_isDigit {c : Char} (h : c.isDigit = true) : isBlank c = false := by
  obtain ⟨hzero, hnine⟩ := Char.isDigit_iff_toNat.1 h
  change 48 ≤ c.toNat at hzero
  change c.toNat ≤ 57 at hnine
  exact isBlank_eq_false (by omega) (by omega)

/-- A text without blanks at its ends stays as it is. -/
theorem trim_eq_self {cs : List Char} (hfirst : ∀ c ∈ cs.head?, isBlank c = false)
    (hlast : ∀ c ∈ cs.getLast?, isBlank c = false) : trim cs = cs := by
  have hdrop {cs : List Char} (hhead : ∀ c ∈ cs.head?, isBlank c = false) :
      cs.dropWhile isBlank = cs := by
    rcases cs with _ | ⟨c, cs⟩
    · rfl
    · exact List.dropWhile_cons_of_neg (Bool.eq_false_iff.1 (hhead c rfl))
  rw [trim, hdrop hfirst, hdrop (by rwa [List.head?_reverse]), List.reverse_reverse]

/-! ### Reading a row of quantities -/

variable (span : Span)

theorem narrow_of_lt {n : Nat} (h : n < Word.count) : narrow n = .ok n := if_pos h

theorem le_ofDigitChars (digits : List Char) (number : Nat) :
    number ≤ Nat.ofDigitChars 10 digits number := by
  induction digits generalizing number with
  | nil => exact Nat.le_refl number
  | cons c digits ih =>
    rw [Nat.ofDigitChars_cons]
    exact Nat.le_trans (by omega) (ih _)

theorem readFrom_digits {digits : List Char} (hdigits : ∀ c ∈ digits, c.isDigit = true) {number : Nat}
    (hfits : Nat.ofDigitChars 10 digits number < Word.count) (offset : Nat) (rest : List Char) :
    ∃ offset', readFrom span offset (.whole number) (digits ++ rest)
      = readFrom span offset' (.whole (Nat.ofDigitChars 10 digits number)) rest := by
  induction digits generalizing number offset with
  | nil => exact ⟨offset, rfl⟩
  | cons c digits ih =>
    rw [Nat.ofDigitChars_cons] at hfits ⊢
    obtain ⟨offset', hrest⟩ := ih (fun c hmem => hdigits c (List.mem_cons_of_mem _ hmem)) hfits
      (offset + c.utf8Size)
    have hnext := le_ofDigitChars digits (10 * number + (c.toNat - '0'.toNat))
    have htens : narrow (number * 10) = .ok (number * 10) := narrow_of_lt (by omega)
    have hunits : narrow (number * 10 + digitValue c) = .ok (10 * number + (c.toNat - '0'.toNat)) := by
      rw [digitValue, Nat.mul_comm]
      exact narrow_of_lt (by omega)
    have hstep : Phase.next span offset c (.whole number)
        = .ok (span, .whole (10 * number + (c.toNat - '0'.toNat))) := by
      simp only [Phase.next, hdigits c List.mem_cons_self, if_true]
      rw [htens]
      show (narrow (number * 10 + digitValue c) >>= _) = _
      rw [hunits]
      rfl
    refine ⟨offset', ?_⟩
    rw [List.cons_append, readFrom, hstep]
    exact hrest

theorem readFrom_number {number : Nat} (hfits : number < Word.count) (offset looked : Nat)
    (rest : List Char) :
    ∃ offset', readFrom span offset (.between looked) (Nat.toDigits 10 number ++ rest)
      = readFrom span offset' (.whole number) rest := by
  have hvalue : Nat.ofDigitChars 10 (Nat.toDigits 10 number) 0 = number := Nat.ofDigitChars_ten_toDigits
  have hall : ∀ c ∈ Nat.toDigits 10 number, c.isDigit = true :=
    fun c hmem => Nat.isDigit_of_mem_toDigits (by decide) (by decide) hmem
  obtain ⟨c, digits, hdigits⟩ := List.exists_cons_of_ne_nil
    (List.ne_nil_of_length_pos (Nat.length_toDigits_pos (b := 10) (n := number)))
  rw [hdigits] at hvalue hall ⊢
  rw [Nat.ofDigitChars_cons] at hvalue
  have hstep : Phase.next span offset c (.between looked)
      = .ok (span, .whole (10 * 0 + (c.toNat - '0'.toNat))) := by
    simp only [Phase.next, hall c List.mem_cons_self, if_true, digitValue, Nat.mul_zero, Nat.zero_add]
  obtain ⟨offset', hrest⟩ := readFrom_digits span
    (fun c hmem => hall c (List.mem_cons_of_mem _ hmem)) (hvalue ▸ hfits) (offset + c.utf8Size) rest
  refine ⟨offset', ?_⟩
  rw [List.cons_append, readFrom, hstep, ← hvalue]
  exact hrest

theorem readFrom_letters {cs : List Char} (hcs : ∀ c ∈ cs, isUnitLetter c = true) (number : Nat)
    (part : Option Fraction) (letters : List Char) (offset : Nat) (rest : List Char) :
    ∃ offset', readFrom span offset (.unit number part letters) (cs ++ rest)
      = readFrom span offset' (.unit number part (cs.reverse ++ letters)) rest := by
  induction cs generalizing letters offset with
  | nil => exact ⟨offset, rfl⟩
  | cons c cs ih =>
    have hletter := hcs c List.mem_cons_self
    obtain ⟨offset', hrest⟩ := ih (fun c hmem => hcs c (List.mem_cons_of_mem _ hmem)) (c :: letters)
      (offset + c.utf8Size)
    have hstep : Phase.next span offset c (.unit number part letters)
        = .ok (span, .unit number part (c :: letters)) := by
      simp only [Phase.next, isDigit_of_isUnitLetter hletter, isBlank_of_isUnitLetter hletter, hletter,
        Bool.false_eq_true, if_false, if_true]
    refine ⟨offset', ?_⟩
    rw [List.cons_append, readFrom, hstep, List.reverse_cons, List.append_assoc]
    exact hrest

/-- The reader has collected a number and the name of its unit, and what comes next decides. -/
theorem readFrom_quantity {quantity : Quantity} (hfits : quantity.number < Word.count)
    (offset looked : Nat) (rest : List Char) :
    ∃ offset', readFrom span offset (.between looked) (quantity.text.toList ++ rest)
      = readFrom span offset' (.unit quantity.number none quantity.name.toList.reverse) rest := by
  obtain ⟨c, cs, hname⟩ := List.exists_cons_of_ne_nil quantity.name_ne_nil
  have hletters := quantity.isUnitLetter_of_mem_name
  rw [hname] at hletters
  have hletter := hletters c List.mem_cons_self
  obtain ⟨offset', hnumber⟩ := readFrom_number span hfits offset looked (c :: cs ++ rest)
  obtain ⟨offset'', hrest⟩ := readFrom_letters span
    (fun c hmem => hletters c (List.mem_cons_of_mem _ hmem)) quantity.number none [c]
    (offset' + c.utf8Size) rest
  have hstep : Phase.next span offset' c (.whole quantity.number)
      = .ok (span, .unit quantity.number none [c]) := by
    simp only [Phase.next, isDigit_of_isUnitLetter hletter, isBlank_of_isUnitLetter hletter, hletter,
      Bool.false_eq_true, if_false, if_true]
  refine ⟨offset'', ?_⟩
  rw [quantity.toList_text, List.append_assoc, hname, hnumber, List.cons_append, readFrom, hstep,
    List.reverse_cons]
  exact hrest

/-- A row of quantities is read as their sum. -/
theorem readFrom_quantities {quantities : List Quantity}
    (hfits : ∀ quantity ∈ quantities, quantity.number < Word.count) (offset looked : Nat) :
    readFrom span offset (.between looked) (row quantities)
      = quantities.foldlM (fun span quantity => quantity.addTo span) span := by
  induction quantities generalizing span offset looked with
  | nil => rfl
  | cons quantity quantities ih =>
    have hfirst := hfits quantity List.mem_cons_self
    have hrest : ∀ quantity ∈ quantities, quantity.number < Word.count :=
      fun quantity hmem => hfits quantity (List.mem_cons_of_mem _ hmem)
    rw [List.foldlM_cons]
    cases quantities with
    | nil =>
      obtain ⟨offset', hread⟩ := readFrom_quantity span hfirst offset looked []
      rw [List.append_nil] at hread
      rw [row_singleton, hread, readFrom, Phase.finish, List.reverse_reverse]
      simp only [List.foldlM_nil, bind_pure]
      rfl
    | cons quantity' quantities =>
      obtain ⟨offset', hread⟩ := readFrom_quantity span hfirst offset looked
        (' ' :: row (quantity' :: quantities))
      rw [row_cons_cons, hread, readFrom]
      have hstep : Phase.next span offset' ' ' (.unit quantity.number none quantity.name.toList.reverse)
          = (quantity.addTo span).bind fun span => .ok (span, .between (offset' + 1)) := by
        simp only [Phase.next, List.reverse_reverse]
        rfl
      rw [hstep]
      cases hadd : quantity.addTo span with
      | error e => rfl
      | ok span' => exact ih span' hrest _ _

/-- A text that begins with a digit and ends with a letter, as a row of quantities does. -/
structure IsClosed (cs : List Char) : Prop where
  first : ∃ c, cs.head? = some c ∧ c.isDigit = true
  last : ∃ c, cs.getLast? = some c ∧ isUnitLetter c = true

theorem Quantity.isClosed_text (quantity : Quantity) : IsClosed quantity.text.toList := by
  rw [quantity.toList_text]
  constructor
  · obtain ⟨c, digits, hdigits⟩ := List.exists_cons_of_ne_nil
      (List.ne_nil_of_length_pos (Nat.length_toDigits_pos (b := 10) (n := quantity.number)))
    have hmem : c ∈ Nat.toDigits 10 quantity.number := hdigits ▸ List.mem_cons_self
    exact ⟨c, by rw [hdigits]; rfl, Nat.isDigit_of_mem_toDigits (by decide) (by decide) hmem⟩
  · refine ⟨_, ?_, quantity.isUnitLetter_of_mem_name _ (List.getLast_mem quantity.name_ne_nil)⟩
    rw [List.getLast?_append, List.getLast?_eq_some_getLast quantity.name_ne_nil, Option.some_or]

theorem isClosed_quantities {quantities : List Quantity} (hne : quantities ≠ []) :
    IsClosed (row quantities) := by
  induction quantities with
  | nil => exact absurd rfl hne
  | cons quantity quantities ih =>
    cases quantities with
    | nil =>
      rw [row_singleton]
      exact quantity.isClosed_text
    | cons quantity' quantities =>
      obtain ⟨first, hfirst, hdigit⟩ := quantity.isClosed_text.first
      obtain ⟨last, hlast, hletter⟩ := (ih (List.cons_ne_nil _ _)).last
      rw [row_cons_cons, List.append_cons]
      constructor
      · refine ⟨first, ?_, hdigit⟩
        rw [List.append_assoc, List.head?_append, hfirst, Option.some_or]
      · refine ⟨last, ?_, hletter⟩
        rw [List.getLast?_append, hlast, Option.some_or]

theorem IsClosed.ofChars_trim {cs : List Char} (h : IsClosed cs) :
    ofChars (trim cs) = readFrom zero 0 (.between 0) cs := by
  obtain ⟨first, hhead, hfirst⟩ := h.first
  obtain ⟨last, htail, hlast⟩ := h.last
  have htrim : trim cs = cs := by
    apply trim_eq_self
    · rw [hhead]
      rintro c ⟨⟩
      exact isBlank_of_isDigit hfirst
    · rw [htail]
      rintro c ⟨⟩
      exact isBlank_of_isUnitLetter hlast
  have hnotZero : cs ≠ ['0'] := by
    rintro rfl
    cases htail
    revert hlast
    decide
  have hnotBlank : ¬ cs.all isBlank = true := by
    intro hall
    have hblank := List.all_eq_true.1 hall first (List.mem_of_mem_head? hhead)
    rw [isBlank_of_isDigit hfirst] at hblank
    cases hblank
  rw [htrim, ofChars, if_neg hnotZero, if_neg hnotBlank]

theorem ofText_quantities {quantities : List Quantity} (hne : quantities ≠ [])
    (hfits : ∀ quantity ∈ quantities, quantity.number < Word.count) :
    ofText (String.intercalate " " (quantities.map Quantity.text))
      = quantities.foldlM (fun span quantity => quantity.addTo span) zero := by
  rw [ofText, toList_intercalate_texts, (isClosed_quantities hne).ofChars_trim]
  exact readFrom_quantities zero hfits 0 0

/-! ### Sums -/

def of (secs nanos : Nat) : Span :=
  ⟨UInt64.ofNat secs, ⟨nanos % 1000000000, Nat.mod_lt _ (by decide)⟩⟩

theorem of_toNat (span : Span) : of span.secs.toNat span.nanos.val = span := by
  have hnanos : span.nanos.val % 1000000000 = span.nanos.val := Nat.mod_eq_of_lt span.nanos.isLt
  simp only [of, UInt64.ofNat_toNat, hnanos]

/-- Parts that do not fill up another second are added without a carry. -/
theorem addParts_of {secs nanos moreSecs moreNanos : Nat} (hsecs : secs + moreSecs < Word.count)
    (hnanos : nanos + moreNanos < nanosPerSecond) :
    (of secs nanos).addParts moreSecs moreNanos = .ok (of (secs + moreSecs) (nanos + moreNanos)) := by
  have hsmall : nanosPerSecond < Word.count := by decide
  have hfits : secs < Word.count := Nat.lt_of_le_of_lt (Nat.le_add_right _ _) hsecs
  have hsecsVal : (of secs nanos).secs.toNat = secs := UInt64.toNat_ofNat_of_lt' hfits
  have hnanosVal : (of secs nanos).nanos.val = nanos :=
    Nat.mod_eq_of_lt (Nat.lt_of_le_of_lt (Nat.le_add_right _ _) hnanos)
  have hnoCarry : ¬ nanosPerSecond < nanos + moreNanos := Nat.not_lt.2 (Nat.le_of_lt hnanos)
  have hnarrowNanos : narrow (nanos + moreNanos) = .ok (nanos + moreNanos) :=
    narrow_of_lt (Nat.lt_trans hnanos hsmall)
  have hnarrowMore : narrow moreSecs = .ok moreSecs :=
    narrow_of_lt (Nat.lt_of_le_of_lt (Nat.le_add_left _ _) hsecs)
  have hparts : ofParts (UInt64.ofNat (secs + moreSecs)) (UInt32.ofNat (nanos + moreNanos))
      = .ok (of (secs + moreSecs) (nanos + moreNanos)) := by
    have htotal : (UInt64.ofNat (secs + moreSecs)).toNat = secs + moreSecs :=
      UInt64.toNat_ofNat_of_lt' hsecs
    have hrest : (UInt32.ofNat (nanos + moreNanos)).toNat = nanos + moreNanos :=
      UInt32.toNat_ofNat_of_lt' (Nat.lt_trans hnanos (by decide))
    have hwhole : (nanos + moreNanos) / nanosPerSecond = 0 := Nat.div_eq_of_lt hnanos
    unfold ofParts
    simp only [htotal, hrest, hwhole, Nat.add_zero]
    rw [if_pos hsecs]
    rfl
  unfold addParts
  rw [hnanosVal, hsecsVal, hnarrowNanos]
  show ((narrow (if nanosPerSecond < nanos + moreNanos then _ else moreSecs)) >>= _) = _
  rw [if_neg hnoCarry, hnarrowMore]
  show (narrow (secs + moreSecs) >>= _) = _
  rw [narrow_of_lt hsecs]
  show (ofParts (UInt64.ofNat (secs + moreSecs))
    (UInt32.ofNat (if nanosPerSecond < nanos + moreNanos then _ else _))).mapError _ = _
  rw [if_neg hnoCarry, hparts]
  rfl

theorem Quantity.number_le_amount (quantity : Quantity) : quantity.number ≤ quantity.amount := by
  have hfactor : 0 < quantity.unit.factor := by cases quantity.unit <;> decide
  exact Nat.le_mul_of_pos_right _ hfactor

theorem Quantity.amount_eq (quantity : Quantity) :
    quantity.amount = quantity.seconds + quantity.nanoseconds := by
  unfold seconds nanoseconds
  split <;> omega

theorem Quantity.amount_lt {quantity : Quantity} (hsecs : quantity.seconds < Word.count)
    (hnanos : quantity.nanoseconds < nanosPerSecond) : quantity.amount < Word.count := by
  unfold seconds at hsecs
  unfold nanoseconds at hnanos
  cases hunit : quantity.unit.isSubsecond with
  | true =>
    rw [hunit] at hnanos
    exact Nat.lt_trans hnanos (by decide)
  | false =>
    rw [hunit] at hsecs
    exact hsecs

theorem addTo_of (quantity : Quantity) {secs nanos : Nat}
    (hsecs : secs + quantity.seconds < Word.count)
    (hnanos : nanos + quantity.nanoseconds < nanosPerSecond) :
    quantity.addTo (of secs nanos)
      = .ok (of (secs + quantity.seconds) (nanos + quantity.nanoseconds)) := by
  have hadd := addParts_of hsecs hnanos
  have hwhole : quantity.amount < Word.count :=
    Quantity.amount_lt (Nat.lt_of_le_of_lt (Nat.le_add_left _ _) hsecs)
      (Nat.lt_of_le_of_lt (Nat.le_add_left _ _) hnanos)
  unfold Quantity.addTo addQuantity
  simp only [quantity.ofName?_name]
  rw [show quantity.number * quantity.unit.factor = quantity.amount from rfl, narrow_of_lt hwhole]
  unfold Quantity.seconds Quantity.nanoseconds at hadd ⊢
  cases hunit : quantity.unit.isSubsecond with
  | true =>
    rw [hunit] at hadd
    show ((of secs nanos).addParts 0 quantity.amount >>= pure) = _
    rw [bind_pure]
    exact hadd
  | false =>
    rw [hunit] at hadd
    show ((of secs nanos).addParts quantity.amount 0 >>= pure) = _
    rw [bind_pure]
    exact hadd

def total (size : Quantity → Nat) : List Quantity → Nat
  | [] => 0
  | quantity :: quantities => size quantity + total size quantities

section Total

variable {size : Quantity → Nat} {quantities quantities' : List Quantity}

theorem total_nil : total size [] = 0 := rfl

theorem total_cons (quantity : Quantity) :
    total size (quantity :: quantities) = size quantity + total size quantities := rfl

theorem le_total_of_mem {quantity : Quantity} (h : quantity ∈ quantities) :
    size quantity ≤ total size quantities := by
  induction h with
  | head quantities => exact Nat.le_add_right ..
  | tail first _ ih => exact Nat.le_trans ih (Nat.le_add_left ..)

theorem total_append : total size (quantities ++ quantities')
    = total size quantities + total size quantities' := by
  induction quantities with
  | nil => exact (Nat.zero_add _).symm
  | cons quantity quantities ih => rw [List.cons_append, total_cons, total_cons, ih, Nat.add_assoc]

/-- Quantities that are zero count for nothing. -/
theorem total_filter (hsize : ∀ quantity : Quantity, quantity.number = 0 → size quantity = 0) :
    total size (quantities.filter fun quantity => quantity.number ≠ 0) = total size quantities := by
  induction quantities with
  | nil => rfl
  | cons quantity quantities ih =>
    by_cases hzero : quantity.number = 0
    · rw [List.filter_cons_of_neg (by simpa using hzero), ih, total_cons, hsize quantity hzero,
        Nat.zero_add]
    · rw [List.filter_cons_of_pos (by simpa using hzero), total_cons, total_cons, ih]

end Total

theorem foldlM_addTo (quantities : List Quantity) (secs nanos : Nat)
    (hsecs : secs + total Quantity.seconds quantities < Word.count)
    (hnanos : nanos + total Quantity.nanoseconds quantities < nanosPerSecond) :
    quantities.foldlM (fun span quantity => quantity.addTo span) (of secs nanos)
      = .ok (of (secs + total Quantity.seconds quantities)
        (nanos + total Quantity.nanoseconds quantities)) := by
  induction quantities generalizing secs nanos with
  | nil => rfl
  | cons quantity quantities ih =>
    rw [total_cons, ← Nat.add_assoc] at hsecs ⊢
    rw [total_cons, ← Nat.add_assoc] at hnanos ⊢
    have hfirst := addTo_of quantity (Nat.lt_of_le_of_lt (Nat.le_add_right _ _) hsecs)
      (Nat.lt_of_le_of_lt (Nat.le_add_right _ _) hnanos)
    rw [List.foldlM_cons, hfirst]
    exact ih _ _ hsecs hnanos

/-- Quantities that fit are read as their sum. -/
theorem ofText_sum {quantities : List Quantity} (hne : quantities ≠ [])
    (hsecs : total Quantity.seconds quantities < Word.count)
    (hnanos : total Quantity.nanoseconds quantities < nanosPerSecond) :
    ofText (String.intercalate " " (quantities.map Quantity.text))
      = .ok (of (total Quantity.seconds quantities) (total Quantity.nanoseconds quantities)) := by
  have hfits : ∀ quantity ∈ quantities, quantity.number < Word.count := by
    intro quantity hmem
    exact Nat.lt_of_le_of_lt quantity.number_le_amount (Quantity.amount_lt
      (Nat.lt_of_le_of_lt (le_total_of_mem hmem) hsecs)
      (Nat.lt_of_le_of_lt (le_total_of_mem hmem) hnanos))
  have hsum := foldlM_addTo quantities 0 0 (by rwa [Nat.zero_add]) (by rwa [Nat.zero_add])
  rw [Nat.zero_add, Nat.zero_add] at hsum
  rw [ofText_quantities hne hfits]
  exact hsum

/-! ### Writing -/

/-- The quantities of a number of seconds, the largest unit first. -/
def coarse (secs : Nat) : List Quantity :=
  [⟨secs / secondsPerYear, .year⟩,
    ⟨secs % secondsPerYear / secondsPerMonth, .month⟩,
    ⟨secs % secondsPerYear % secondsPerMonth / secondsPerDay, .day⟩,
    ⟨secs % secondsPerYear % secondsPerMonth % secondsPerDay / 3600, .hour⟩,
    ⟨secs % secondsPerYear % secondsPerMonth % secondsPerDay % 3600 / 60, .minute⟩,
    ⟨secs % secondsPerYear % secondsPerMonth % secondsPerDay % 60, .second⟩]

def fine (nanos : Nat) : List Quantity :=
  [⟨nanos / 1000000, .millisecond⟩, ⟨nanos / 1000 % 1000, .microsecond⟩, ⟨nanos % 1000, .nanosecond⟩]

/-- The quantities that are written: those that are not zero. -/
def quantities (span : Span) : List Quantity :=
  (coarse span.secs.toNat ++ fine span.nanos.val).filter fun quantity => quantity.number ≠ 0

theorem longPart_eq (quantity : Quantity) {word : String} (h : quantity.name = quantity.word word) :
    longPart word quantity.number = if quantity.number = 0 then [] else [quantity.text] := by
  rw [longPart, Quantity.text, h, Quantity.word, String.append_assoc]

theorem shortPart_eq (quantity : Quantity) {name : String} (h : quantity.name = name) :
    shortPart name quantity.number = if quantity.number = 0 then [] else [quantity.text] := by
  rw [shortPart, Quantity.text, h]

theorem texts_cons (quantity : Quantity) (quantities : List Quantity) :
    ((quantity :: quantities).filter fun quantity => quantity.number ≠ 0).map Quantity.text
      = (if quantity.number = 0 then [] else [quantity.text])
        ++ (quantities.filter fun quantity => quantity.number ≠ 0).map Quantity.text := by
  by_cases hzero : quantity.number = 0
  · rw [List.filter_cons_of_neg (by simpa using hzero), if_pos hzero, List.nil_append]
  · rw [List.filter_cons_of_pos (by simpa using hzero), if_neg hzero, List.map_cons,
      List.singleton_append]

theorem parts_eq (span : Span) : span.parts = span.quantities.map Quantity.text := by
  simp only [quantities, coarse, fine, List.cons_append, List.nil_append, texts_cons]
  rw [← longPart_eq ⟨_, .year⟩ rfl, ← longPart_eq ⟨_, .month⟩ rfl, ← longPart_eq ⟨_, .day⟩ rfl,
    ← shortPart_eq ⟨_, .hour⟩ rfl, ← shortPart_eq ⟨_, .minute⟩ rfl, ← shortPart_eq ⟨_, .second⟩ rfl,
    ← shortPart_eq ⟨_, .millisecond⟩ rfl, ← shortPart_eq ⟨_, .microsecond⟩ rfl,
    ← shortPart_eq ⟨_, .nanosecond⟩ rfl]
  simp only [parts, List.append_assoc, List.filter_nil, List.map_nil, List.append_nil]
  rfl

theorem Quantity.sizes_of_number {quantity : Quantity} (h : quantity.number = 0) :
    quantity.seconds = 0 ∧ quantity.nanoseconds = 0 := by
  have hamount := quantity.amount_eq
  rw [amount, h, Nat.zero_mul] at hamount
  omega

theorem Quantity.seconds_eq {unit : TimeUnit} (h : unit.isSubsecond = false) (number : Nat) :
    (⟨number, unit⟩ : Quantity).seconds = number * unit.factor :=
  if_neg (by rw [h]; exact Bool.false_ne_true)

theorem Quantity.nanoseconds_eq {unit : TimeUnit} (h : unit.isSubsecond = true) (number : Nat) :
    (⟨number, unit⟩ : Quantity).nanoseconds = number * unit.factor :=
  if_pos h

theorem total_coarse (secs : Nat) : total Quantity.seconds (coarse secs) = secs := by
  have hyears := Nat.div_add_mod' secs secondsPerYear
  have hmonths := Nat.div_add_mod' (secs % secondsPerYear) secondsPerMonth
  have hdays := Nat.div_add_mod' (secs % secondsPerYear % secondsPerMonth) secondsPerDay
  have hclock : ∀ inDay : Nat, inDay / 3600 * 3600 + (inDay % 3600 / 60 * 60 + inDay % 60) = inDay := by
    intro inDay
    omega
  have hyear : TimeUnit.year.factor = secondsPerYear := rfl
  have hmonth : TimeUnit.month.factor = secondsPerMonth := rfl
  have hday : TimeUnit.day.factor = secondsPerDay := rfl
  have hhour : TimeUnit.hour.factor = 3600 := rfl
  have hminute : TimeUnit.minute.factor = 60 := rfl
  have hsecond : TimeUnit.second.factor = 1 := rfl
  rw [coarse, total_cons, total_cons, total_cons, total_cons,
    total_cons, total_cons, total_nil]
  rw [Quantity.seconds_eq rfl, Quantity.seconds_eq rfl, Quantity.seconds_eq rfl, Quantity.seconds_eq rfl,
    Quantity.seconds_eq rfl, Quantity.seconds_eq rfl, hyear, hmonth, hday, hhour, hminute, hsecond,
    Nat.mul_one, Nat.add_zero, hclock, hdays, hmonths, hyears]

theorem total_fine (nanos : Nat) : total Quantity.nanoseconds (fine nanos) = nanos := by
  have hmilli : TimeUnit.millisecond.factor = 1000000 := rfl
  have hmicro : TimeUnit.microsecond.factor = 1000 := rfl
  have hnano : TimeUnit.nanosecond.factor = 1 := rfl
  rw [fine, total_cons, total_cons, total_cons, total_nil,
    Quantity.nanoseconds_eq rfl, Quantity.nanoseconds_eq rfl, Quantity.nanoseconds_eq rfl, hmilli,
    hmicro, hnano]
  omega

/-- The quantities that are written add up to the span. -/
theorem totals_quantities (span : Span) :
    total Quantity.seconds span.quantities = span.secs.toNat
      ∧ total Quantity.nanoseconds span.quantities = span.nanos.val := by
  have hfine : total Quantity.seconds (fine span.nanos.val) = 0 := rfl
  have hcoarse : total Quantity.nanoseconds (coarse span.secs.toNat) = 0 := rfl
  rw [quantities, total_filter fun _ h => (Quantity.sizes_of_number h).1,
    total_filter fun _ h => (Quantity.sizes_of_number h).2, total_append, total_append, hfine, hcoarse,
    total_coarse, total_fine, Nat.add_zero, Nat.zero_add]
  exact ⟨rfl, rfl⟩

/-! ### Reading what was written -/

theorem ofText_seconds {secs : Nat} (h : secs < Word.count) :
    ofText (toString secs ++ "s") = .ok (of secs 0) := by
  have hsecs : total Quantity.seconds [⟨secs, .second⟩] = secs := by
    rw [total_cons, total_nil, Quantity.seconds_eq rfl, Nat.add_zero]
    exact Nat.mul_one secs
  have hnanos : total Quantity.nanoseconds [⟨secs, .second⟩] = 0 := rfl
  have hne : [(⟨secs, .second⟩ : Quantity)] ≠ [] := List.cons_ne_nil _ _
  have hsum := ofText_sum hne (hsecs.symm ▸ h) (hnanos.symm ▸ by decide)
  rwa [hsecs, hnanos] at hsum

theorem ofText_text (span : Span) : ofText span.text = .ok span := by
  obtain ⟨hsecs, hnanos⟩ := span.totals_quantities
  rw [text]
  split
  case isTrue hzero =>
    rw [eq_of_beq hzero]
    have hread := ofText_seconds (by decide : 0 < Word.count)
    exact hread
  case isFalse hzero =>
    have hne : span.quantities ≠ [] := by
      intro hnil
      rw [hnil] at hsecs hnanos
      apply hzero
      rw [isZero, beq_iff_eq, ← of_toNat span, ← hsecs, ← hnanos]
      rfl
    rw [parts_eq, ofText_sum hne (hsecs ▸ span.secs.toNat_lt) (hnanos ▸ span.nanos.isLt), hsecs, hnanos,
      of_toNat]

/-- A setting holds a span as its text or as a whole number of seconds.  The text of a span is read as
this span, and a number of seconds is the same with an `s` behind it and without. -/
theorem ofValue_written (span : Span) (secs : UInt64) :
    ofValue (.text span.text) = .ok span
      ∧ ofValue (.integer secs.toNat) = .ok (ofSecs secs)
      ∧ ofValue (.text (toString secs.toNat ++ "s")) = .ok (ofSecs secs) := by
  have hsecs : of secs.toNat 0 = ofSecs secs := of_toNat (ofSecs secs)
  refine ⟨?_, ?_, ?_⟩
  · rw [ofValue, ofText_text]
    rfl
  · rw [ofValue, if_pos (Int.natCast_nonneg _), Int.toNat_natCast, UInt64.ofNat_toNat]
  · rw [ofValue, ofText_seconds secs.toNat_lt, hsecs]
    rfl

end FlowTracker.Span
