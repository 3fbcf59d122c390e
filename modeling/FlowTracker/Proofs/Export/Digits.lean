import FlowTracker.Octets
import Mathlib.Logic.Function.Basic

/-!
# Digits in a text

The digits of a number determine it in each base up to sixteen, and they are taken off the front of a
text in one way only where no digit follows.  The same holds of any run of characters of one kind.
-/

namespace FlowTracker.Text

variable {b : Nat}

theorem digitChar_injective {m n : Nat} (hm : m < 16) (hn : n < 16)
    (h : Nat.digitChar m = Nat.digitChar n) : m = n := by
  have hall : ∀ i : Fin 16, ∀ j : Fin 16, Nat.digitChar i = Nat.digitChar j → i = j := by decide
  exact congrArg Fin.val (hall ⟨m, hm⟩ ⟨n, hn⟩ h)

theorem exists_of_mem_toDigits (hb : 1 < b) {n : Nat} {c : Char} (h : c ∈ Nat.toDigits b n) :
    ∃ d, d < b ∧ c = Nat.digitChar d := by
  induction n using Nat.strongRecOn with
  | ind n ih =>
    rw [Nat.toDigits_eq_if hb] at h
    split at h
    case isTrue hlt => exact ⟨n, hlt, List.mem_singleton.1 h⟩
    case isFalse hle =>
      rcases List.mem_append.1 h with hhigh | hlow
      · exact ih (n / b) (Nat.div_lt_self (by omega) hb) hhigh
      · exact ⟨n % b, Nat.mod_lt n (by omega), List.mem_singleton.1 hlow⟩

theorem toDigits_injective (hb : 1 < b) (hb' : b ≤ 16) : Function.Injective (Nat.toDigits b) := by
  intro m n heq
  induction m using Nat.strongRecOn generalizing n with
  | ind m ih =>
    rw [Nat.toDigits_eq_if hb, Nat.toDigits_eq_if hb (n := n)] at heq
    have hlow : m % b < b := Nat.mod_lt m (by omega)
    have hlow' : n % b < b := Nat.mod_lt n (by omega)
    split at heq <;> split at heq
    case isTrue.isTrue hm hn =>
      exact digitChar_injective (by omega) (by omega) (List.singleton_inj.1 heq)
    case isTrue.isFalse hm hn =>
      have hlength := congrArg List.length heq
      have hpos := Nat.length_toDigits_pos (b := b) (n := n / b)
      simp only [List.length_append, List.length_singleton] at hlength
      omega
    case isFalse.isTrue hm hn =>
      have hlength := congrArg List.length heq
      have hpos := Nat.length_toDigits_pos (b := b) (n := m / b)
      simp only [List.length_append, List.length_singleton] at hlength
      omega
    case isFalse.isFalse hm hn =>
      obtain ⟨hhigh, hlast⟩ := List.append_inj' heq rfl
      have hquot : m / b = n / b := ih (m / b) (Nat.div_lt_self (by omega) hb) hhigh
      have hrem : m % b = n % b :=
        digitChar_injective (by omega) (by omega) (List.singleton_inj.1 hlast)
      rw [← Nat.div_add_mod m b, ← Nat.div_add_mod n b, hquot, hrem]

variable {α : Type} {run run' rest rest' : List α}

/-- Runs of one kind that both end where this kind ends are the same. -/
theorem append_unique {kind : α → Bool}
    (hrun : ∀ c ∈ run, kind c = true) (hrun' : ∀ c ∈ run', kind c = true)
    (hrest : ∀ c ∈ rest.head?, kind c = false) (hrest' : ∀ c ∈ rest'.head?, kind c = false)
    (h : run ++ rest = run' ++ rest') : run = run' ∧ rest = rest' := by
  induction run generalizing run' with
  | nil =>
    cases run' with
    | nil => exact ⟨rfl, h⟩
    | cons c' run' =>
      have hfalse := hrest c' (by rw [← List.nil_append rest, h]; rfl)
      rw [hrun' c' List.mem_cons_self] at hfalse
      cases hfalse
  | cons c run ih =>
    cases run' with
    | nil =>
      have hfalse := hrest' c (by rw [← List.nil_append rest', ← h]; rfl)
      rw [hrun c List.mem_cons_self] at hfalse
      cases hfalse
    | cons c' run' =>
      obtain ⟨rfl, htail⟩ := List.cons.inj h
      obtain ⟨rfl, hsame⟩ := ih (fun c hmem => hrun c (List.mem_cons_of_mem _ hmem))
        (fun c hmem => hrun' c (List.mem_cons_of_mem _ hmem)) htail
      exact ⟨rfl, hsame⟩

/-- What comes before the first separator, and what comes behind it. -/
theorem append_cons_unique [DecidableEq α] {separator : α} (hrun : separator ∉ run)
    (hrun' : separator ∉ run') (h : run ++ separator :: rest = run' ++ separator :: rest') :
    run = run' ∧ rest = rest' := by
  have hkind : ∀ {run : List α}, separator ∉ run → ∀ a ∈ run, decide (a ≠ separator) = true :=
    fun hnot a hmem => decide_eq_true fun heq => hnot (heq ▸ hmem)
  have hhead : ∀ {rest : List α}, ∀ a ∈ (separator :: rest).head?, decide (a ≠ separator) = false := by
    rintro rest a ⟨⟩
    exact decide_eq_false (not_not.2 rfl)
  obtain ⟨hsame, htail⟩ := append_unique (hkind hrun) (hkind hrun') hhead hhead h
  exact ⟨hsame, (List.cons.inj htail).2⟩

theorem toList_toString (n : Nat) : (toString n).toList = Nat.toDigits 10 n := by
  rw [Nat.toString_eq_repr, Nat.toList_repr]

/-- A number in front of something that does not start with a digit. -/
theorem toDigits_append_unique {m n : Nat} {rest rest' : List Char}
    (hrest : ∀ c ∈ rest.head?, c.isDigit = false) (hrest' : ∀ c ∈ rest'.head?, c.isDigit = false)
    (h : Nat.toDigits 10 m ++ rest = Nat.toDigits 10 n ++ rest') : m = n ∧ rest = rest' := by
  have hdigits : ∀ n, ∀ c ∈ Nat.toDigits 10 n, c.isDigit = true :=
    fun n c hmem => Nat.isDigit_of_mem_toDigits (by decide) (by decide) hmem
  obtain ⟨hrun, hsame⟩ := append_unique (hdigits m) (hdigits n) hrest hrest' h
  exact ⟨toDigits_injective (by decide) (by decide) hrun, hsame⟩

end FlowTracker.Text
