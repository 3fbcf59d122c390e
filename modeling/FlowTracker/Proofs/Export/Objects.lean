import FlowTracker.Export.Json
import FlowTracker.Proofs.Export.Digits

/-!
# Objects in a text

A value whose words hold neither quotes nor blanks is determined by its compact text, also in front of
something else: a word ends at its second quote, an object at its brace, and a number where no digit
follows.  The indented text of such a value is its compact text with blanks in between.
-/

namespace FlowTracker

open Text

/-! ### Plain words -/

/-- Neither quotes nor blanks. -/
def Text.IsPlain (text : String) : Prop := ∀ c ∈ text.toList, c ≠ '"' ∧ c ≠ ' ' ∧ c ≠ '\n'

instance (text : String) : Decidable (Text.IsPlain text) :=
  List.decidableBAll (fun c => c ≠ '"' ∧ c ≠ ' ' ∧ c ≠ '\n') text.toList

theorem Text.IsPlain.quote_not_mem {text : String} (h : IsPlain text) : '"' ∉ text.toList :=
  fun hmem => (h '"' hmem).1 rfl

def Text.unspaced (cs : List Char) : List Char := cs.filter fun c => c != ' ' && c != '\n'

theorem Text.unspaced_append (cs cs' : List Char) :
    unspaced (cs ++ cs') = unspaced cs ++ unspaced cs' := List.filter_append ..

theorem Text.unspaced_eq {cs : List Char} (h : ∀ c ∈ cs, c ≠ ' ' ∧ c ≠ '\n') : unspaced cs = cs := by
  rw [unspaced, List.filter_eq_self]
  intro c hmem
  simp [h c hmem]

theorem Text.IsPlain.unspaced_eq {text : String} (h : IsPlain text) :
    unspaced text.toList = text.toList := Text.unspaced_eq fun c hmem => (h c hmem).2

theorem Text.unspaced_digits (value : Nat) :
    unspaced (Nat.toDigits 10 value) = Nat.toDigits 10 value := by
  apply Text.unspaced_eq
  intro c hmem
  have hdigit : c.isDigit = true := Nat.isDigit_of_mem_toDigits (by decide) (by decide) hmem
  constructor <;> rintro rfl <;> cases hdigit

namespace Json

inductive IsPlain : Json → Prop
  | number (value : Nat) : IsPlain (.number value)
  | word {text : String} (h : Text.IsPlain text) : IsPlain (.word text)
  | object {members : List (String × Json)} (names : ∀ member ∈ members, Text.IsPlain member.1)
      (values : ∀ member ∈ members, IsPlain member.2) : IsPlain (.object members)

/-! ### The characters of the compact text -/

theorem toList_number (value : Nat) : (compact (.number value)).toList = Nat.toDigits 10 value := by
  rw [compact, toList_toString]

theorem toList_word (text : String) :
    (compact (.word text)).toList = '"' :: (text.toList ++ ['"']) := by
  rw [compact, String.toList_append, String.toList_append]
  rfl

theorem toList_object (members : List (String × Json)) :
    (compact (.object members)).toList = '\x7b' :: ((compactMembers members).toList ++ ['\x7d']) := by
  rw [compact, String.toList_append, String.toList_append]
  rfl

def furtherMembers : List (String × Json) → List Char
  | [] => []
  | members => ',' :: (compactMembers members).toList

theorem toList_members (name : String) (value : Json) (members : List (String × Json)) :
    (compactMembers ((name, value) :: members)).toList
      = '"' :: (name.toList ++ '"' :: ':' :: ((compact value).toList ++ furtherMembers members)) := by
  cases members with
  | nil =>
    rw [compactMembers, String.toList_append, String.toList_append, String.toList_append]
    simp [furtherMembers]
  | cons member members =>
    rw [compactMembers]
    · simp [furtherMembers, String.toList_append]
    · exact List.cons_ne_nil _ _

/-! ### Where a text ends -/

/-- No digit comes first. -/
def Stops (rest : List Char) : Prop := ∀ c ∈ rest.head?, c.isDigit = false

theorem stops_cons {c : Char} {rest : List Char} (h : c.isDigit = false) : Stops (c :: rest) := by
  rintro c' ⟨⟩
  exact h

/-- No other value has a text that begins like this one. -/
def IsDelimited (json : Json) : Prop :=
  ∀ {json' : Json} {rest rest' : List Char}, json'.IsPlain → Stops rest → Stops rest' →
    (compact json).toList ++ rest = (compact json').toList ++ rest' → json = json' ∧ rest = rest'

theorem digits_ne {value : Nat} {c : Char} {rest rest' : List Char} (h : c.isDigit = false) :
    Nat.toDigits 10 value ++ rest ≠ c :: rest' := by
  intro heq
  obtain ⟨digit, digits, hdigits⟩ := List.exists_cons_of_ne_nil (Nat.toDigits_ne_nil (b := 10) (n := value))
  have hdigit : digit.isDigit = true := by
    apply Nat.isDigit_of_mem_toDigits (b := 10) (n := value) (by decide) (by decide)
    rw [hdigits]
    exact List.mem_cons_self
  rw [hdigits] at heq
  rw [(List.cons.inj heq).1, h] at hdigit
  cases hdigit

theorem number_isDelimited (value : Nat) : IsDelimited (.number value) := by
  intro json' rest rest' hplain hstops hstops' heq
  rw [toList_number] at heq
  cases hplain with
  | number value' =>
    rw [toList_number] at heq
    obtain ⟨rfl, hrest⟩ := toDigits_append_unique hstops hstops' heq
    exact ⟨rfl, hrest⟩
  | word =>
    rw [toList_word] at heq
    exact absurd heq (digits_ne (by decide))
  | object =>
    rw [toList_object] at heq
    exact absurd heq (digits_ne (by decide))

theorem word_isDelimited {text : String} (h : Text.IsPlain text) : IsDelimited (.word text) := by
  intro json' rest rest' hplain _ _ heq
  rw [toList_word] at heq
  cases hplain with
  | number value' =>
    rw [toList_number] at heq
    exact absurd heq.symm (digits_ne (by decide))
  | word htext' =>
    rw [toList_word, List.cons_append, List.cons_append] at heq
    obtain ⟨-, htail⟩ := List.cons.inj heq
    rw [List.append_assoc, List.append_assoc] at htail
    obtain ⟨htext, hrest⟩ := append_cons_unique h.quote_not_mem htext'.quote_not_mem htail
    exact ⟨congrArg word (String.toList_injective htext), hrest⟩
  | object =>
    rw [toList_object] at heq
    cases (List.cons.inj heq).1

theorem furtherMembers_stop (members : List (String × Json)) (rest : List Char) :
    Stops (furtherMembers members ++ '\x7d' :: rest) := by
  cases members with
  | nil => exact stops_cons (by decide)
  | cons member members => exact stops_cons (by decide)

theorem members_unique {members members' : List (String × Json)}
    (hnames : ∀ member ∈ members, Text.IsPlain member.1)
    (hvalues : ∀ member ∈ members, member.2.IsDelimited)
    (hnames' : ∀ member ∈ members', Text.IsPlain member.1)
    (hvalues' : ∀ member ∈ members', member.2.IsPlain) {rest rest' : List Char}
    (h : (compactMembers members).toList ++ '\x7d' :: rest
      = (compactMembers members').toList ++ '\x7d' :: rest') : members = members' ∧ rest = rest' := by
  induction members generalizing members' with
  | nil =>
    rcases members' with _ | ⟨⟨name', value'⟩, members'⟩
    · exact ⟨rfl, (List.cons.inj h).2⟩
    · rw [toList_members] at h
      cases (List.cons.inj h).1
  | cons member members ih =>
    obtain ⟨name, value⟩ := member
    rcases members' with _ | ⟨⟨name', value'⟩, members'⟩
    · rw [toList_members] at h
      cases (List.cons.inj h).1
    obtain ⟨hname, htexts⟩ := List.forall_mem_cons.1 hnames
    obtain ⟨hvalue, hjsons⟩ := List.forall_mem_cons.1 hvalues
    obtain ⟨hname', htexts'⟩ := List.forall_mem_cons.1 hnames'
    obtain ⟨hvalue', hjsons'⟩ := List.forall_mem_cons.1 hvalues'
    rw [toList_members, toList_members] at h
    simp only [List.cons_append, List.append_assoc] at h
    obtain ⟨hsame, htail⟩ :=
      append_cons_unique hname.quote_not_mem hname'.quote_not_mem (List.cons.inj h).2
    obtain ⟨rfl, hfurther⟩ := hvalue hvalue' (furtherMembers_stop _ _) (furtherMembers_stop _ _)
      (List.cons.inj htail).2
    obtain rfl := String.toList_injective hsame
    -- either both objects end here, or both go on
    rcases members with _ | ⟨member, members⟩ <;> rcases members' with _ | ⟨member', members'⟩
    · exact ⟨rfl, (List.cons.inj hfurther).2⟩
    · cases (List.cons.inj hfurther).1
    · cases (List.cons.inj hfurther).1
    · obtain ⟨hmembers, hrest⟩ := ih htexts hjsons htexts' hjsons' (List.cons.inj hfurther).2
      exact ⟨congrArg _ hmembers, hrest⟩

theorem IsPlain.isDelimited {json : Json} (h : json.IsPlain) : json.IsDelimited := by
  induction h with
  | number value => exact number_isDelimited value
  | word htext => exact word_isDelimited htext
  | @object members names values ih =>
    intro json' rest rest' hplain _ _ heq
    rw [toList_object] at heq
    cases hplain with
    | number value' =>
      rw [toList_number] at heq
      exact absurd heq.symm (digits_ne (by decide))
    | word =>
      rw [toList_word] at heq
      cases (List.cons.inj heq).1
    | object names' values' =>
      rw [toList_object, List.cons_append, List.cons_append] at heq
      obtain ⟨-, htail⟩ := List.cons.inj heq
      rw [List.append_assoc, List.append_assoc] at htail
      obtain ⟨rfl, hrest⟩ := members_unique names ih names' values' htail
      exact ⟨rfl, hrest⟩

/-! ### The indented text -/

theorem unspaced_indent (depth : Nat) : unspaced (indent depth).toList = [] := by
  rw [indent, String.toList_ofList, unspaced, List.filter_eq_nil_iff]
  intro c hmem
  rw [List.eq_of_mem_replicate hmem]
  decide

theorem unspaced_members {members : List (String × Json)}
    (hnames : ∀ member ∈ members, Text.IsPlain member.1)
    (hvalues : ∀ member ∈ members, ∀ depth,
      unspaced (indented depth member.2).toList = (compact member.2).toList) (depth : Nat) :
    unspaced (indentedMembers depth members).toList = (compactMembers members).toList := by
  induction members with
  | nil => rfl
  | cons member members ih =>
    obtain ⟨name, value⟩ := member
    obtain ⟨hname, htexts⟩ := List.forall_mem_cons.1 hnames
    obtain ⟨hvalue, hjsons⟩ := List.forall_mem_cons.1 hvalues
    have hquote : unspaced "\"".toList = ['"'] := rfl
    have hcolon : unspaced "\": ".toList = ['"', ':'] := rfl
    have hcomma : unspaced ",\n".toList = [','] := rfl
    rw [toList_members]
    cases members with
    | nil =>
      rw [indentedMembers]
      simp only [String.toList_append, unspaced_append, unspaced_indent, hname.unspaced_eq, hvalue,
        hquote, hcolon]
      simp [furtherMembers]
    | cons member members =>
      rw [indentedMembers]
      · simp only [String.toList_append, unspaced_append, unspaced_indent, hname.unspaced_eq, hvalue,
          hquote, hcolon, hcomma, ih htexts hjsons]
        simp [furtherMembers]
      · exact List.cons_ne_nil _ _

theorem IsPlain.unspaced_indented {json : Json} (h : json.IsPlain) (depth : Nat) :
    unspaced (indented depth json).toList = (compact json).toList := by
  induction h generalizing depth with
  | number value =>
    rw [indented, toList_number, toList_toString]
    exact unspaced_digits value
  | @word text htext =>
    rw [indented, compact, String.toList_append, String.toList_append, unspaced_append,
      unspaced_append, htext.unspaced_eq]
    rfl
  | @object members names values ih =>
    cases members with
    | nil =>
      rw [indented, compact, compactMembers]
      rfl
    | cons member members =>
      have hopen : unspaced "\x7b\n".toList = ['\x7b'] := rfl
      have hline : unspaced "\n".toList = [] := rfl
      have hclose : unspaced "\x7d".toList = ['\x7d'] := rfl
      rw [indented, toList_object]
      · simp only [String.toList_append, unspaced_append, unspaced_indent, hopen, hline, hclose,
          unspaced_members names ih]
        simp
      · exact List.cons_ne_nil _ _

end Json

end FlowTracker
