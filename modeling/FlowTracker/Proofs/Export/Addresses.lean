import FlowTracker.Address
import FlowTracker.Proofs.Export.Digits
import Mathlib.Algebra.Ring.Nat
import Mathlib.Data.List.Basic

/-!
# Addresses in a text

The text of an address determines it.  A version 4 address has points and no colons; a version 6 address
has colons, and points only behind the prefix of a mapped address.  Otherwise it is taken apart at its
colons: an empty piece in the middle stands for the run of zero groups, and how long this run is follows
from the number of the other groups.
-/

namespace FlowTracker

open Text

theorem Text.mem_intercalate {α : Type} {separator c : α} {pieces : List (List α)}
    (h : c ∈ [separator].intercalate pieces) : c = separator ∨ ∃ piece ∈ pieces, c ∈ piece := by
  induction pieces with
  | nil => cases h
  | cons piece pieces ih =>
    rcases pieces with _ | ⟨piece', pieces⟩
    · rw [List.intercalate_singleton] at h
      exact Or.inr ⟨piece, List.mem_cons_self, h⟩
    · rw [List.intercalate_cons_cons, List.mem_append, List.mem_append, List.mem_singleton] at h
      rcases h with (hfirst | hseparator) | hrest
      · exact Or.inr ⟨piece, List.mem_cons_self, hfirst⟩
      · exact Or.inl hseparator
      · rcases ih hrest with hseparator | ⟨piece'', hmem, hc⟩
        · exact Or.inl hseparator
        · exact Or.inr ⟨piece'', List.mem_cons_of_mem _ hmem, hc⟩

namespace Address

/-! ### Characters -/

/-- The characters of an address that are neither points nor colons. -/
def IsDigit (c : Char) : Prop := ∃ d, d < 16 ∧ c = Nat.digitChar d

theorem IsDigit.not_mark {c : Char} (h : IsDigit c) :
    c ≠ '.' ∧ c ≠ ':' ∧ c ≠ '"' ∧ c ≠ ' ' ∧ c ≠ '\n' := by
  obtain ⟨d, hlt, rfl⟩ := h
  have hall : ∀ i : Fin 16, Nat.digitChar i ≠ '.' ∧ Nat.digitChar i ≠ ':' ∧ Nat.digitChar i ≠ '"'
      ∧ Nat.digitChar i ≠ ' ' ∧ Nat.digitChar i ≠ '\n' := by decide
  exact hall ⟨d, hlt⟩

theorem isDigit_of_mem_toDigits {b n : Nat} (hb : 1 < b) (hb' : b ≤ 16) {c : Char}
    (h : c ∈ Nat.toDigits b n) : IsDigit c := by
  obtain ⟨d, hlt, hc⟩ := exists_of_mem_toDigits hb h
  exact ⟨d, by omega, hc⟩

/-! ### Dotted octets -/

def octetDigits (value : Nat) : List (List Char) :=
  (Octets.ofBigEndian 4 value).map fun octet => Nat.toDigits 10 octet.toNat

theorem length_octetDigits (value : Nat) : (octetDigits value).length = 4 := by
  rw [octetDigits, List.length_map, Octets.length_ofBigEndian]

theorem toList_dotted (value : Nat) : (dotted value).toList = ['.'].intercalate (octetDigits value) := by
  rw [dotted, String.toList_intercalate, List.map_map]
  simp only [octetDigits, Function.comp_def, toList_toString]
  rfl

theorem isDigit_of_mem_octetDigits {value : Nat} {piece : List Char}
    (hpiece : piece ∈ octetDigits value) {c : Char} (h : c ∈ piece) : IsDigit c := by
  obtain ⟨octet, -, rfl⟩ := List.mem_map.1 hpiece
  exact isDigit_of_mem_toDigits (by decide) (by decide) h

theorem mem_dotted {value : Nat} {c : Char} (h : c ∈ (dotted value).toList) :
    c = '.' ∨ IsDigit c := by
  rw [toList_dotted] at h
  rcases mem_intercalate h with hpoint | ⟨piece, hpiece, hc⟩
  · exact Or.inl hpoint
  · exact Or.inr (isDigit_of_mem_octetDigits hpiece hc)

theorem splitOn_dotted (value : Nat) : (dotted value).toList.splitOn '.' = octetDigits value := by
  rw [toList_dotted]
  apply List.splitOn_intercalate
  · intro piece hpiece hpoint
    exact (isDigit_of_mem_octetDigits hpiece hpoint).not_mark.1 rfl
  · intro hnil
    have hlength := length_octetDigits value
    rw [hnil] at hlength
    cases hlength

theorem point_mem_dotted (value : Nat) : '.' ∈ (dotted value).toList := by
  by_contra hnot
  have hsplit := splitOn_dotted value
  rw [List.splitOn_eq_singleton hnot] at hsplit
  have hlength := length_octetDigits value
  rw [← hsplit] at hlength
  cases hlength

theorem dotted_inj {value value' : Nat} (h : dotted value = dotted value') :
    value % 2 ^ 32 = value' % 2 ^ 32 := by
  have hsame : octetDigits value = octetDigits value' := by
    rw [← splitOn_dotted, ← splitOn_dotted, h]
  have hoctet : Function.Injective fun octet : UInt8 => Nat.toDigits 10 octet.toNat := by
    intro octet octet' heq
    exact UInt8.toNat_inj.1 (toDigits_injective (by decide) (by decide) heq)
  have hoctets : Octets.ofBigEndian 4 value = Octets.ofBigEndian 4 value' :=
    List.map_injective_iff.2 hoctet hsame
  have hvalue := congrArg Octets.bigEndian hoctets
  rwa [Octets.bigEndian_ofBigEndian, Octets.bigEndian_ofBigEndian] at hvalue

/-! ### Groups -/

theorem toList_hexText (n : Nat) : (Octets.hexText 1 n).toList = Nat.toDigits 16 n := by
  have hpos := Nat.length_toDigits_pos (b := 16) (n := n)
  have hnone : 1 - (Nat.toDigits 16 n).length = 0 := by omega
  simp only [Octets.hexText, hnone, List.replicate_zero, List.nil_append, String.toList_ofList]

theorem toList_groupsText (groups : List Nat) :
    (groupsText groups).toList = [':'].intercalate (groups.map (Nat.toDigits 16)) := by
  rw [groupsText, String.toList_intercalate, List.map_map]
  simp only [Function.comp_def, toList_hexText]
  rfl

theorem mem_groupsText {groups : List Nat} {c : Char} (h : c ∈ (groupsText groups).toList) :
    c = ':' ∨ IsDigit c := by
  rw [toList_groupsText] at h
  rcases mem_intercalate h with hcolon | ⟨piece, hpiece, hc⟩
  · exact Or.inl hcolon
  · obtain ⟨group, -, rfl⟩ := List.mem_map.1 hpiece
    exact Or.inr (isDigit_of_mem_toDigits (by decide) (by decide) hc)

def pieces : List Nat → List (List Char)
  | [] => [[]]
  | groups => groups.map (Nat.toDigits 16)

theorem length_pieces_pos (groups : List Nat) : 0 < (pieces groups).length := by
  cases groups <;> simp [pieces]

theorem splitOn_groupsText (groups : List Nat) :
    (groupsText groups).toList.splitOn ':' = pieces groups := by
  rw [toList_groupsText]
  cases groups with
  | nil => rfl
  | cons group groups =>
    apply List.splitOn_intercalate
    · intro piece hpiece hcolon
      obtain ⟨group', -, rfl⟩ := List.mem_map.1 hpiece
      exact (isDigit_of_mem_toDigits (by decide) (by decide) hcolon).not_mark.2.1 rfl
    · exact List.cons_ne_nil _ _

theorem nil_not_mem_map (groups : List Nat) : [] ∉ groups.map (Nat.toDigits 16) := by
  intro hmem
  obtain ⟨group, -, hnil⟩ := List.mem_map.1 hmem
  exact Nat.toDigits_ne_nil hnil

theorem nil_mem_pieces_iff (groups : List Nat) : [] ∈ pieces groups ↔ groups = [] := by
  cases groups with
  | nil => simp [pieces]
  | cons group groups =>
    constructor
    · exact fun hmem => absurd hmem (nil_not_mem_map (group :: groups))
    · intro hnil
      cases hnil

theorem map_toDigits_injective : Function.Injective (List.map (Nat.toDigits 16)) :=
  List.map_injective_iff.2 (toDigits_injective (by decide) (by decide))

theorem pieces_injective : Function.Injective pieces := by
  intro groups groups' heq
  have hnil := nil_mem_pieces_iff groups
  rw [heq, nil_mem_pieces_iff] at hnil
  rcases groups with _ | ⟨group, groups⟩
  · exact (hnil.2 rfl).symm
  · rcases groups' with _ | ⟨group', groups'⟩
    · exact hnil.1 rfl
    · exact map_toDigits_injective heq

/-- The groups before and behind an empty piece. -/
theorem pieces_around {above above' below below' : List Nat}
    (h : pieces above ++ [] :: pieces below = pieces above' ++ [] :: pieces below') :
    above = above' ∧ below = below' := by
  rcases above with _ | ⟨group, above⟩ <;> rcases above' with _ | ⟨group', above'⟩
  · have hbelow := (List.cons.inj (List.cons.inj h).2).2
    exact ⟨rfl, pieces_injective hbelow⟩
  · exact absurd (List.cons.inj h).1.symm Nat.toDigits_ne_nil
  · exact absurd (List.cons.inj h).1 Nat.toDigits_ne_nil
  · obtain ⟨habove, hbelow⟩ := append_cons_unique (nil_not_mem_map _) (nil_not_mem_map _) h
    exact ⟨map_toDigits_injective habove, pieces_injective hbelow⟩

/-! ### Runs of zero groups -/

/-- A run of zero groups, by its start and its length. -/
def IsZeroRun (groups : List Nat) (run : Nat × Nat) : Prop :=
  groups = groups.take run.1 ++ List.replicate run.2 0 ++ groups.drop (run.1 + run.2)

theorem isZeroRun_takeWhile (groups : List Nat) (start : Nat) :
    IsZeroRun groups (start, ((groups.drop start).takeWhile (· == 0)).length) := by
  have hsplit := List.takeWhile_append_dropWhile (p := (· == 0)) (l := groups.drop start)
  have hzeros : (groups.drop start).takeWhile (· == 0)
      = List.replicate ((groups.drop start).takeWhile (· == 0)).length 0 := by
    apply List.eq_replicate_of_mem
    intro group hmem
    exact beq_iff_eq.1 (List.all_eq_true.1 List.all_takeWhile group hmem)
  have hrest : groups.drop (start + ((groups.drop start).takeWhile (· == 0)).length)
      = (groups.drop start).dropWhile (· == 0) := by
    rw [← List.drop_drop]
    nth_rewrite 2 [← hsplit]
    exact List.drop_left
  show groups = _ ++ _ ++ _
  rw [hrest, ← hzeros, List.append_assoc, hsplit, List.take_append_drop]

theorem isZeroRun_longest (groups : List Nat) : IsZeroRun groups (longestZeroRun groups) := by
  unfold longestZeroRun
  refine List.foldlRecOn _ _ ?_ ?_
  · exact (List.nil_append groups).symm
  · intro best hbest start _
    dsimp only
    split
    · exact isZeroRun_takeWhile groups start
    · exact hbest

theorem IsZeroRun.unique {groups groups' : List Nat} {run run' : Nat × Nat}
    (h : IsZeroRun groups run) (h' : IsZeroRun groups' run')
    (hlength : groups.length = groups'.length) (habove : groups.take run.1 = groups'.take run'.1)
    (hbelow : groups.drop (run.1 + run.2) = groups'.drop (run'.1 + run'.2)) : groups = groups' := by
  have hzeros : run.2 = run'.2 := by
    have hsum := congrArg List.length h
    have hsum' := congrArg List.length h'
    rw [habove, hbelow] at hsum
    simp only [List.length_append, List.length_replicate] at hsum hsum'
    omega
  rw [h, h', habove, hbelow, hzeros]

/-! ### Version 6 -/

theorem length_groups (value : Nat) : (groups value).length = 8 := rfl

theorem groups_ne_nil (value : Nat) : groups value ≠ [] := by
  rw [← List.length_pos_iff, length_groups]
  decide

/-- What is above a group and the group itself. -/
theorem shiftRight_eq_of_group {value value' shift : Nat}
    (habove : value >>> (shift + 16) = value' >>> (shift + 16))
    (hgroup : value >>> shift % 65536 = value' >>> shift % 65536) :
    value >>> shift = value' >>> shift := by
  rw [Nat.shiftRight_add, Nat.shiftRight_add, Nat.shiftRight_eq_div_pow _ 16,
    Nat.shiftRight_eq_div_pow _ 16] at habove
  rw [← Nat.div_add_mod (value >>> shift) 65536, hgroup, habove]
  exact Nat.div_add_mod _ _

theorem groups_injective {value value' : Nat} (hlt : value < 2 ^ 128) (hlt' : value' < 2 ^ 128)
    (h : groups value = groups value') : value = value' := by
  simp only [groups, List.map_cons, List.map_nil, List.cons.injEq, and_true] at h
  obtain ⟨h112, h96, h80, h64, h48, h32, h16, h0⟩ := h
  have h128 : value >>> (112 + 16) = value' >>> (112 + 16) :=
    (Nat.shiftRight_eq_zero _ _ hlt).trans (Nat.shiftRight_eq_zero _ _ hlt').symm
  have above112 := shiftRight_eq_of_group h128 h112
  have above96 := shiftRight_eq_of_group above112 h96
  have above80 := shiftRight_eq_of_group above96 h80
  have above64 := shiftRight_eq_of_group above80 h64
  have above48 := shiftRight_eq_of_group above64 h48
  have above32 := shiftRight_eq_of_group above48 h32
  have above16 := shiftRight_eq_of_group above32 h16
  exact shiftRight_eq_of_group above16 h0

theorem toList_v6Text_mapped {value : Nat} (h : value >>> 32 = 0xffff) :
    (v6Text value).toList = "::ffff:".toList ++ (dotted value).toList := by
  rw [v6Text, if_pos h, String.toList_append]

def groupedText (groups : List Nat) : String :=
  let (start, length) := longestZeroRun groups
  if 1 < length then
    groupsText (groups.take start) ++ "::" ++ groupsText (groups.drop (start + length))
  else groupsText groups

theorem v6Text_unmapped {value : Nat} (h : value >>> 32 ≠ 0xffff) :
    v6Text value = groupedText (groups value) := by
  rw [v6Text, if_neg h]
  rfl

theorem mem_groupedText {groups : List Nat} {c : Char} (h : c ∈ (groupedText groups).toList) :
    c = ':' ∨ IsDigit c := by
  unfold groupedText at h
  dsimp only at h
  split at h
  · rw [String.toList_append, String.toList_append] at h
    rcases List.mem_append.1 h with habove | hbelow
    · rcases List.mem_append.1 habove with habove | hcolons
      · exact mem_groupsText habove
      · left
        simpa using hcolons
    · exact mem_groupsText hbelow
  · exact mem_groupsText h

theorem splitOn_around (above below : List Nat) :
    (groupsText above ++ "::" ++ groupsText below).toList.splitOn ':'
      = pieces above ++ [] :: pieces below := by
  have htext : (groupsText above ++ "::" ++ groupsText below).toList
      = (groupsText above).toList ++ ':' :: ([] ++ ':' :: (groupsText below).toList) := by
    rw [String.toList_append, String.toList_append, List.append_assoc]
    rfl
  rw [htext, List.splitOn_append_cons_self, List.splitOn_append_cons_self, splitOn_groupsText,
    splitOn_groupsText]
  rfl

theorem splitOn_groupedText (groups : List Nat) (hne : groups ≠ []) :
    (∃ run, IsZeroRun groups run ∧ (groupedText groups).toList.splitOn ':'
      = pieces (groups.take run.1) ++ [] :: pieces (groups.drop (run.1 + run.2)))
    ∨ (groupedText groups).toList.splitOn ':' = groups.map (Nat.toDigits 16) := by
  unfold groupedText
  dsimp only
  split
  · left
    exact ⟨longestZeroRun groups, isZeroRun_longest groups, splitOn_around _ _⟩
  · right
    rw [splitOn_groupsText]
    cases groups with
    | nil => exact absurd rfl hne
    | cons group groups => rfl

theorem groupedText_injective {groups groups' : List Nat} (hne : groups ≠ [])
    (hlength : groups.length = groups'.length) (h : groupedText groups = groupedText groups') :
    groups = groups' := by
  have hne' : groups' ≠ [] := by
    rintro rfl
    exact hne (List.length_eq_zero_iff.1 hlength)
  have hsplit : (groupedText groups).toList.splitOn ':'
      = (groupedText groups').toList.splitOn ':' := by rw [h]
  have hnil : ∀ {above below : List Nat} {all : List Nat},
      pieces above ++ [] :: pieces below ≠ all.map (Nat.toDigits 16) := by
    intro above below all heq
    apply nil_not_mem_map all
    rw [← heq]
    exact List.mem_append_right _ List.mem_cons_self
  rcases splitOn_groupedText groups hne with ⟨run, hrun, hpieces⟩ | hpieces <;>
    rcases splitOn_groupedText groups' hne' with ⟨run', hrun', hpieces'⟩ | hpieces' <;>
    rw [hpieces, hpieces'] at hsplit
  · obtain ⟨habove, hbelow⟩ := pieces_around hsplit
    exact hrun.unique hrun' hlength habove hbelow
  · exact absurd hsplit hnil
  · exact absurd hsplit.symm hnil
  · exact map_toDigits_injective hsplit

theorem v6Text_injective {value value' : Nat} (hlt : value < 2 ^ 128) (hlt' : value' < 2 ^ 128)
    (h : v6Text value = v6Text value') : value = value' := by
  have hpoint : ∀ {value value'}, value >>> 32 = 0xffff → value' >>> 32 ≠ 0xffff →
      v6Text value ≠ v6Text value' := by
    intro value value' hmapped hunmapped heq
    have hmem : '.' ∈ (v6Text value).toList := by
      rw [toList_v6Text_mapped hmapped]
      exact List.mem_append_right _ (point_mem_dotted value)
    rw [heq, v6Text_unmapped hunmapped] at hmem
    rcases mem_groupedText hmem with hcolon | hdigit
    · cases hcolon
    · exact hdigit.not_mark.1 rfl
  by_cases hmapped : value >>> 32 = 0xffff <;> by_cases hmapped' : value' >>> 32 = 0xffff
  · have hlist := congrArg String.toList h
    rw [toList_v6Text_mapped hmapped, toList_v6Text_mapped hmapped'] at hlist
    have hlow := dotted_inj (String.toList_injective (List.append_cancel_left hlist))
    rw [Nat.shiftRight_eq_div_pow] at hmapped hmapped'
    omega
  · exact absurd h (hpoint hmapped hmapped')
  · exact absurd h.symm (hpoint hmapped' hmapped)
  · rw [v6Text_unmapped hmapped, v6Text_unmapped hmapped'] at h
    have hlength := (length_groups value).trans (length_groups value').symm
    exact groups_injective hlt hlt' (groupedText_injective (groups_ne_nil value) hlength h)

/-! ### Both versions -/

theorem colon_mem_v6Text (value : Nat) : ':' ∈ (v6Text value).toList := by
  by_cases hmapped : value >>> 32 = 0xffff
  · rw [toList_v6Text_mapped hmapped]
    exact List.mem_append_left _ (by decide)
  · by_contra hnot
    rw [v6Text_unmapped hmapped] at hnot
    have hlength := congrArg List.length (List.splitOn_eq_singleton hnot)
    rcases splitOn_groupedText (groups value) (groups_ne_nil value) with ⟨run, -, hpieces⟩ | hpieces
    · rw [hpieces, List.length_append, List.length_cons, List.length_singleton] at hlength
      have habove := length_pieces_pos ((groups value).take run.1)
      omega
    · rw [hpieces, List.length_map, length_groups] at hlength
      cases hlength

theorem mem_text {address : Address} {c : Char} (h : c ∈ address.text.toList) :
    c = '.' ∨ c = ':' ∨ IsDigit c := by
  cases address with
  | v4 bits =>
    rcases mem_dotted h with hpoint | hdigit
    · exact Or.inl hpoint
    · exact Or.inr (Or.inr hdigit)
  | v6 bits =>
    by_cases hmapped : bits.toNat >>> 32 = 0xffff
    · rw [text, toList_v6Text_mapped hmapped] at h
      rcases List.mem_append.1 h with hprefix | hdotted
      · have hall : "::ffff:".toList.all (fun c => c == ':' || c == 'f') = true := by decide
        have hc := List.all_eq_true.1 hall c hprefix
        rw [Bool.or_eq_true, beq_iff_eq, beq_iff_eq] at hc
        rcases hc with hcolon | rfl
        · exact Or.inr (Or.inl hcolon)
        · exact Or.inr (Or.inr ⟨15, by decide, rfl⟩)
      · rcases mem_dotted hdotted with hpoint | hdigit
        · exact Or.inl hpoint
        · exact Or.inr (Or.inr hdigit)
    · rw [text, v6Text_unmapped hmapped] at h
      exact Or.inr (mem_groupedText h)

theorem text_injective : Function.Injective text := by
  intro address address' heq
  have hcolon : ∀ (bits : BitVec 32) (bits' : BitVec 128), text (.v4 bits) ≠ text (.v6 bits') := by
    intro bits bits' heq
    have hmem : ':' ∈ (text (.v4 bits)).toList := heq ▸ colon_mem_v6Text bits'.toNat
    rcases mem_dotted hmem with hpoint | hdigit
    · cases hpoint
    · exact hdigit.not_mark.2.1 rfl
  cases address with
  | v4 bits =>
    cases address' with
    | v4 bits' =>
      have hlow := dotted_inj heq
      rw [Nat.mod_eq_of_lt bits.isLt, Nat.mod_eq_of_lt bits'.isLt] at hlow
      exact congrArg v4 (BitVec.eq_of_toNat_eq hlow)
    | v6 bits' => exact absurd heq (hcolon bits bits')
  | v6 bits =>
    cases address' with
    | v4 bits' => exact absurd heq.symm (hcolon bits' bits)
    | v6 bits' =>
      exact congrArg v6 (BitVec.eq_of_toNat_eq (v6Text_injective bits.isLt bits'.isLt heq))

end Address

end FlowTracker
