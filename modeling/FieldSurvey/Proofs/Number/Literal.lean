import FieldSurvey.Number.Literal

/-!
# Literals read back

A number that is written in decimal digits is read as itself, unless it is beyond the bound.  What
is read at all is decimal digits, perhaps behind a plus sign.
-/

namespace FieldSurvey.Number

variable {bound value n : Nat} {c : Char} {cs : List Char}

theorem isDigit_of_mem_digits (member : c ∈ digits n) : c.isDigit :=
  Nat.isDigit_of_mem_toDigits (by decide) (by decide) member

theorem digits_ne_nil (n : Nat) : digits n ≠ [] :=
  Nat.toDigits_ne_nil

theorem toNat_of_isDigit (isDigit : c.isDigit) : '0'.toNat ≤ c.toNat ∧ c.toNat ≤ '9'.toNat := by
  obtain ⟨lower, upper⟩ := Bool.and_eq_true_iff.mp isDigit
  exact ⟨of_decide_eq_true lower, of_decide_eq_true upper⟩

theorem digit_lt (isDigit : c.isDigit) : c.toNat - '0'.toNat < 10 := by
  have upper := (toNat_of_isDigit isDigit).2
  have nine : '9'.toNat = '0'.toNat + 9 := by decide
  omega

/-- A digit is how the number is written that it stands for. -/
theorem digits_of_isDigit (isDigit : c.isDigit) : digits (c.toNat - '0'.toNat) = [c] := by
  have each : ∀ k < 10, digits k = [Char.ofNat ('0'.toNat + k)] := by decide
  rw [each _ (digit_lt isDigit), Nat.add_sub_cancel' (toNat_of_isDigit isDigit).1, Char.ofNat_toNat]

theorem digitIn?_of_isDigit (isDigit : c.isDigit) :
    digitIn? 10 c = some (c.toNat - '0'.toNat) := by
  have value : digitValue? c = some (c.toNat - '0'.toNat) := if_pos (toNat_of_isDigit isDigit)
  rw [digitIn?, value, Option.bind_some, if_pos (digit_lt isDigit)]

theorem le_ofDigitChars (cs : List Char) (value : Nat) :
    value ≤ Nat.ofDigitChars 10 cs value := by
  induction cs generalizing value with
  | nil => exact Nat.le_refl _
  | cons c rest ih =>
      rw [Nat.ofDigitChars_cons]
      exact Nat.le_trans (by omega) (ih _)

/-- Digits are read as the number that they stand for, if that keeps within the bound. -/
theorem accumulate_eq (areDigits : ∀ c ∈ cs, c.isDigit)
    (within : Nat.ofDigitChars 10 cs value ≤ bound) :
    accumulate 10 bound value cs = .ok (Nat.ofDigitChars 10 cs value) := by
  induction cs generalizing value with
  | nil => rfl
  | cons c rest ih =>
      obtain ⟨isDigit, others⟩ := List.forall_mem_cons.mp areDigits
      rw [Nat.ofDigitChars_cons, Nat.mul_comm] at within ⊢
      have first := Nat.le_trans (le_ofDigitChars rest _) within
      simp only [accumulate, digitIn?_of_isDigit isDigit]
      rw [if_pos first]
      exact ih others within

theorem not_isDigit_plus : ¬ '+'.isDigit := by
  decide

theorem read_eq_accumulate (areDigits : ∀ c ∈ cs, c.isDigit) (nonempty : cs ≠ []) :
    read bound cs = accumulate 10 bound 0 cs := by
  unfold read readIn
  split
  · exact absurd rfl nonempty
  · exact absurd (areDigits '+' List.mem_cons_self) not_isDigit_plus
  · exact absurd (areDigits '+' List.mem_cons_self) not_isDigit_plus
  · rfl

/-- A number is read back from its digits. -/
theorem read_digits (within : n ≤ bound) : read bound (digits n) = .ok n := by
  have whole : Nat.ofDigitChars 10 (digits n) 0 = n :=
    Nat.ofDigitChars_toDigits (by decide) (by decide)
  have areDigits : ∀ c ∈ digits n, c.isDigit := fun c member => isDigit_of_mem_digits member
  rw [read_eq_accumulate areDigits (digits_ne_nil n), accumulate_eq areDigits (by omega), whole]

/-! ## What is read as a number -/

/-- Whether a text is at least one decimal digit, and the digits stand for a number. -/
structure IsNumeral (n : Nat) (cs : List Char) : Prop where
  digits : ∀ c ∈ cs, c.isDigit
  ne_nil : cs ≠ []
  value : Nat.ofDigitChars 10 cs 0 = n

/-- Digits behind a number that is not zero stand behind its digits. -/
theorem digits_ofDigitChars (areDigits : ∀ c ∈ cs, c.isDigit) (positive : 0 < value) :
    digits (Nat.ofDigitChars 10 cs value) = digits value ++ cs := by
  induction cs generalizing value with
  | nil => simp
  | cons c rest ih =>
      obtain ⟨isDigit, others⟩ := List.forall_mem_cons.mp areDigits
      rw [Nat.ofDigitChars_cons, ih others (by omega), digits,
        ← Nat.toDigits_append_toDigits (by decide) positive (digit_lt isDigit)]
      rw [← digits, ← digits, digits_of_isDigit isDigit]
      simp

/-- A numeral without zeros in front is how its number is written. -/
theorem IsNumeral.eq_digits (numeral : IsNumeral n cs)
    (canonical : ∀ rest, cs = '0' :: rest → rest = []) : cs = Number.digits n := by
  cases cs with
  | nil => exact absurd rfl numeral.ne_nil
  | cons c rest =>
      obtain ⟨isDigit, others⟩ := List.forall_mem_cons.mp numeral.digits
      rw [← numeral.value, Nat.ofDigitChars_cons, Nat.mul_zero, Nat.zero_add]
      by_cases zero : c = '0'
      · subst zero
        rw [canonical rest rfl]
        rfl
      · have positive : 0 < c.toNat - '0'.toNat := by
          have lower := (toNat_of_isDigit isDigit).1
          have apart : c.toNat ≠ '0'.toNat := fun same => zero (Char.toNat_inj.mp same)
          omega
        rw [digits_ofDigitChars others positive, digits_of_isDigit isDigit]
        rfl

/-- Whether a text is a literal of a number: a numeral, or a plus sign and a numeral. -/
def IsLiteral (n : Nat) (cs : List Char) : Prop :=
  IsNumeral n cs ∨ ∃ digits, cs = '+' :: digits ∧ IsNumeral n digits

theorem isDigit_of_digitIn? {digit : Nat} (isDigit : digitIn? 10 c = some digit) : c.isDigit := by
  obtain ⟨value, found, small⟩ := Option.bind_eq_some_iff.mp isDigit
  unfold digitValue? at found
  split at found
  · next range =>
      exact Bool.and_eq_true_iff.mpr ⟨decide_eq_true range.1, decide_eq_true range.2⟩
  · -- letters stand for digits from ten on
    split at found
    · cases found
      rw [if_neg (by omega)] at small
      contradiction
    · split at found
      · cases found
        rw [if_neg (by omega)] at small
        contradiction
      · contradiction

theorem accumulate_eq_ok_iff (small : value ≤ bound) :
    accumulate 10 bound value cs = .ok n ↔
      (∀ c ∈ cs, c.isDigit) ∧ Nat.ofDigitChars 10 cs value = n ∧ n ≤ bound := by
  constructor
  · intro reads
    induction cs generalizing value with
    | nil =>
        cases reads
        exact ⟨by simp, rfl, small⟩
    | cons c rest ih =>
        rw [accumulate] at reads
        split at reads
        · contradiction
        · next digit isDigit =>
            split at reads
            · next within =>
                obtain ⟨areDigits, whole, limited⟩ := ih within reads
                have first := isDigit_of_digitIn? isDigit
                rw [digitIn?_of_isDigit first] at isDigit
                cases isDigit
                refine ⟨List.forall_mem_cons.mpr ⟨first, areDigits⟩, ?_, limited⟩
                rw [Nat.ofDigitChars_cons, Nat.mul_comm]
                exact whole
            · contradiction
  · rintro ⟨areDigits, rfl, limited⟩
    exact accumulate_eq areDigits limited

theorem accumulate_eq_ok_iff_isNumeral (filled : cs ≠ []) :
    accumulate 10 bound 0 cs = .ok n ↔ IsNumeral n cs ∧ n ≤ bound := by
  rw [accumulate_eq_ok_iff (Nat.zero_le _)]
  constructor
  · rintro ⟨areDigits, value, limited⟩
    exact ⟨⟨areDigits, filled, value⟩, limited⟩
  · rintro ⟨numeral, limited⟩
    exact ⟨numeral.digits, numeral.value, limited⟩

/-- Just the literals of the numbers within the bound are read. -/
theorem read_eq_ok_iff : read bound cs = .ok n ↔ IsLiteral n cs ∧ n ≤ bound := by
  unfold read readIn
  split
  case h_1 =>
    constructor
    · intro impossible
      contradiction
    · rintro ⟨numeral | ⟨digits, impossible, -⟩, -⟩
      · exact absurd rfl numeral.ne_nil
      · contradiction
  case h_2 =>
    constructor
    · intro impossible
      contradiction
    · rintro ⟨numeral | ⟨digits, same, numeral⟩, -⟩
      · exact absurd (numeral.digits '+' List.mem_cons_self) not_isDigit_plus
      · cases same
        exact absurd rfl numeral.ne_nil
  case h_3 digits alone =>
    rw [accumulate_eq_ok_iff_isNumeral alone]
    constructor
    · rintro ⟨numeral, limited⟩
      exact ⟨Or.inr ⟨digits, rfl, numeral⟩, limited⟩
    · rintro ⟨numeral | ⟨_, same, numeral⟩, limited⟩
      · exact absurd (numeral.digits '+' List.mem_cons_self) not_isDigit_plus
      · cases same
        exact ⟨numeral, limited⟩
  case h_4 filled alone unsigned =>
    rw [accumulate_eq_ok_iff_isNumeral filled]
    constructor
    · rintro ⟨numeral, limited⟩
      exact ⟨Or.inl numeral, limited⟩
    · rintro ⟨numeral | ⟨digits, same, -⟩, limited⟩
      · exact ⟨numeral, limited⟩
      · exact absurd same (unsigned digits)

theorem IsLiteral.isDigit_or_of_mem (literal : IsLiteral n cs) (member : c ∈ cs) :
    c.isDigit ∨ c = '+' := by
  rcases literal with numeral | ⟨digits, rfl, numeral⟩
  · exact Or.inl (numeral.digits c member)
  · rcases List.mem_cons.mp member with rfl | inside
    · exact Or.inr rfl
    · exact Or.inl (numeral.digits c inside)

end FieldSurvey.Number
