import DefFragments.Proofs.Text.Runs
import DefFragments.Text.Number

/-!
# The value of a run of digits

Digits that are read into a fixed width give their decimal value if it fits, and are too large
otherwise: reading from the left, no prefix of the digits is larger than the whole number.
-/

namespace DefFragments.Text

/-- The value of digits that follow a number already read. -/
def valueFrom (n : Nat) (digits : List Char) : Nat :=
  digits.foldl (fun n c => 10 * n + digitValue c) n

theorem le_valueFrom (digits : List Char) (n : Nat) : n ≤ valueFrom n digits := by
  induction digits generalizing n with
  | nil => exact le_rfl
  | cons c digits ih =>
    have h : 10 * n + digitValue c ≤ valueFrom n (c :: digits) := ih (10 * n + digitValue c)
    omega

theorem boundedValue_digits {digits : List Char} (hd : ∀ c ∈ digits, isDigit c = true)
    {bound n : Nat} (overflow : NumberError) (hn : n < bound) :
    boundedValue bound overflow n digits =
      if valueFrom n digits < bound then .ok (valueFrom n digits) else .error overflow := by
  induction digits generalizing n with
  | nil =>
    rw [if_pos (show valueFrom n [] < bound from hn)]
    rfl
  | cons c digits ih =>
    have hc : isDigit c = true := hd c (List.mem_cons_self ..)
    have hcons : valueFrom n (c :: digits) = valueFrom (10 * n + digitValue c) digits := rfl
    simp only [boundedValue, hc, if_true]
    rw [hcons]
    by_cases hnext : 10 * n + digitValue c < bound
    · rw [if_pos hnext, ih (fun x hx => hd x (List.mem_cons_of_mem _ hx)) hnext]
    · have hle := le_valueFrom digits (10 * n + digitValue c)
      rw [if_neg hnext, if_neg (by omega)]

theorem readUnsigned_digits {digits : List Char} (hd : ∀ c ∈ digits, isDigit c = true)
    (hne : digits ≠ []) :
    readUnsigned digits =
      if decimalValue digits < unsignedBound then .ok (decimalValue digits)
      else .error .tooLarge := by
  have hsign : ∀ s, digits ≠ '+' :: s := by
    rintro s rfl
    have hplus := hd '+' (List.mem_cons_self ..)
    simp [isDigit] at hplus
  unfold readUnsigned
  split
  · exact absurd rfl hne
  · exact absurd rfl (hsign [])
  · exact absurd rfl (hsign _)
  · exact boundedValue_digits hd .tooLarge (by decide)

theorem toOption_readUnsigned_digits {digits : List Char} (hd : ∀ c ∈ digits, isDigit c = true)
    (hne : digits ≠ []) {n : Nat} :
    (readUnsigned digits).toOption = some n ↔ decimalValue digits = n ∧ n < unsignedBound := by
  rw [readUnsigned_digits hd hne]
  by_cases hlt : decimalValue digits < unsignedBound
  · rw [if_pos hlt]
    constructor
    · intro h
      obtain rfl := Option.some.inj h
      exact ⟨rfl, hlt⟩
    · rintro ⟨rfl, -⟩
      rfl
  · rw [if_neg hlt]
    constructor
    · intro h
      cases h
    · rintro ⟨rfl, hlt'⟩
      exact absurd hlt' hlt

end DefFragments.Text
