import DefFragments.Conditional.Directive
import DefFragments.Proofs.Text.Runs

/-!
# The comparison of a tracked condition

What `guard?` takes from an opening line, as a statement about the text: the comparison that the
condition begins with, its number as long as it goes. What follows the number is not looked at, so
the guard is the whole condition only where nothing but blanks and comments follows.
-/

namespace DefFragments.Conditional
open Text

/-- The parts of a comparison behind the version symbol. -/
structure Comparison where
  leftGap : List Char
  operator : List Char
  rightGap : List Char
  digits : List Char
  leftGap_blank : ∀ c ∈ leftGap, isBlank c = true
  operator_char : ∀ c ∈ operator, isOperatorChar c = true
  operator_length : operator.length = 1 ∨ operator.length = 2
  rightGap_blank : ∀ c ∈ rightGap, isBlank c = true
  digits_digit : ∀ c ∈ digits, isDigit c = true
  digits_ne_nil : digits ≠ []

def Comparison.spaced (operator digits : List Char)
    (hoperator : operator.all isOperatorChar = true)
    (hlength : operator.length = 1 ∨ operator.length = 2)
    (hdigits : digits.all isDigit = true) (hne : digits ≠ []) : Comparison where
  leftGap := [' ']
  operator := operator
  rightGap := [' ']
  digits := digits
  leftGap_blank := isBlank_space
  operator_char := List.all_eq_true.1 hoperator
  operator_length := hlength
  rightGap_blank := isBlank_space
  digits_digit := List.all_eq_true.1 hdigits
  digits_ne_nil := hne

def Comparison.spelling (symbol : List Char) (c : Comparison) : List Char :=
  symbol ++ (c.leftGap ++ (c.operator ++ (c.rightGap ++ c.digits)))

/-! ### Neighbouring classes -/

theorem isOperatorChar_iff {c : Char} : isOperatorChar c = true ↔ c = '<' ∨ c = '>' ∨ c = '=' := by
  simp [isOperatorChar, or_assoc]

theorem not_isBlank_of_isOperatorChar {c : Char} (h : isOperatorChar c = true) :
    isBlank c = false := by
  rcases isOperatorChar_iff.1 h with rfl | rfl | rfl <;> decide

theorem not_isNameChar_of_isOperatorChar {c : Char} (h : isOperatorChar c = true) :
    isNameChar c = false := by
  rcases isOperatorChar_iff.1 h with rfl | rfl | rfl <;> decide

theorem not_isOperatorChar_of_isBlank {c : Char} (h : isBlank c = true) :
    isOperatorChar c = false := by
  by_contra hc
  have hb := not_isBlank_of_isOperatorChar (by simpa using hc)
  simp [h] at hb

theorem not_isOperatorChar_of_isDigit {c : Char} (h : isDigit c = true) :
    isOperatorChar c = false := by
  by_contra hc
  have hn := not_isNameChar_of_isOperatorChar (by simpa using hc)
  simp [isNameChar_of_isDigit h] at hn

namespace Comparison

theorem operator_ne_nil (c : Comparison) : c.operator ≠ [] := by
  intro h
  have hl := c.operator_length
  rw [h] at hl
  simp at hl

theorem stopsAt_blank_digits (c : Comparison) (t : List Char) :
    StopsAt isBlank (c.digits ++ t) :=
  StopsAt.append c.digits_ne_nil (fun x hx => not_isBlank_of_isDigit (c.digits_digit x hx)) t

theorem stopsAt_operator_rightGap (c : Comparison) (t : List Char) :
    StopsAt isOperatorChar (c.rightGap ++ (c.digits ++ t)) :=
  StopsAt.append_of_stopsAt
    (fun x hx => not_isOperatorChar_of_isBlank (c.rightGap_blank x hx))
    (StopsAt.append c.digits_ne_nil
      (fun x hx => not_isOperatorChar_of_isDigit (c.digits_digit x hx)) t)

theorem stopsAt_blank_operator (c : Comparison) (t : List Char) :
    StopsAt isBlank (c.operator ++ t) :=
  StopsAt.append c.operator_ne_nil
    (fun x hx => not_isBlank_of_isOperatorChar (c.operator_char x hx)) t

theorem stopsAt_name_leftGap (c : Comparison) (t : List Char) :
    StopsAt isNameChar (c.leftGap ++ (c.operator ++ t)) :=
  StopsAt.append_of_stopsAt (fun x hx => not_isNameChar_of_isBlank (c.leftGap_blank x hx))
    (StopsAt.append c.operator_ne_nil
      (fun x hx => not_isNameChar_of_isOperatorChar (c.operator_char x hx)) t)

theorem spelling_append (symbol : List Char) (c : Comparison) (t : List Char) :
    c.spelling symbol ++ t =
      symbol ++ (c.leftGap ++ (c.operator ++ (c.rightGap ++ (c.digits ++ t)))) := by
  simp [spelling]

theorem spelling_ne_nil (symbol : List Char) (c : Comparison) : c.spelling symbol ≠ [] := by
  intro h
  have hd := c.digits_ne_nil
  simp [spelling] at h
  exact hd h.2.2.2.2

end Comparison

/-! ### What `comparison?` reads -/

theorem comparison?_spelling (symbol : List Char) (c : Comparison) {t : List Char}
    (ht : StopsAt isDigit t) :
    comparison? symbol (c.spelling symbol ++ t) = some (c.spelling symbol) := by
  have hsym : stripPrefix? symbol (c.spelling symbol ++ t) =
      some (c.leftGap ++ (c.operator ++ (c.rightGap ++ (c.digits ++ t)))) :=
    stripPrefix?_eq_some_iff.2 (c.spelling_append symbol t)
  have hgap := takeWhile_run c.leftGap_blank
    (c.stopsAt_blank_operator (c.rightGap ++ (c.digits ++ t)))
  have hgap' := dropWhile_run c.leftGap_blank
    (c.stopsAt_blank_operator (c.rightGap ++ (c.digits ++ t)))
  have hop := takeWhile_run c.operator_char (c.stopsAt_operator_rightGap t)
  have hop' := dropWhile_run c.operator_char (c.stopsAt_operator_rightGap t)
  have hright := takeWhile_run c.rightGap_blank (c.stopsAt_blank_digits t)
  have hright' := dropWhile_run c.rightGap_blank (c.stopsAt_blank_digits t)
  have hdigits := takeWhile_run c.digits_digit ht
  simp only [comparison?, hsym, Option.bind_eq_bind, Option.bind_some, hgap, hgap', hop, hop',
    hright, hright', hdigits]
  rw [if_pos ⟨c.operator_length, c.digits_ne_nil⟩]
  simp [Comparison.spelling]

theorem exists_comparison_of_comparison? {symbol s g : List Char}
    (h : comparison? symbol s = some g) :
    ∃ (c : Comparison) (t : List Char), g = c.spelling symbol ∧ s = g ++ t ∧ StopsAt isDigit t := by
  unfold comparison? at h
  obtain ⟨rest, hrest, h⟩ := Option.bind_eq_some_iff.1 h
  have hs := stripPrefix?_eq_some_iff.1 hrest
  dsimp only at h
  split at h
  · next hc =>
    let c : Comparison :=
      { leftGap := rest.takeWhile isBlank
        operator := (rest.dropWhile isBlank).takeWhile isOperatorChar
        rightGap := ((rest.dropWhile isBlank).dropWhile isOperatorChar).takeWhile isBlank
        digits := (((rest.dropWhile isBlank).dropWhile isOperatorChar).dropWhile isBlank).takeWhile
          isDigit
        leftGap_blank := fun _ hx => List.mem_takeWhile_imp hx
        operator_char := fun _ hx => List.mem_takeWhile_imp hx
        operator_length := hc.1
        rightGap_blank := fun _ hx => List.mem_takeWhile_imp hx
        digits_digit := fun _ hx => List.mem_takeWhile_imp hx
        digits_ne_nil := hc.2 }
    have hg : g = c.spelling symbol := by
      rw [← Option.some.inj h]
      simp [Comparison.spelling, c]
    refine ⟨c, (((rest.dropWhile isBlank).dropWhile isOperatorChar).dropWhile isBlank).dropWhile
      isDigit, hg, ?_, stopsAt_dropWhile _ _⟩
    rw [hg, c.spelling_append, hs]
    simp only [c, List.takeWhile_append_dropWhile]
  · cases h

/-! ### What `guard?` reads -/

/-- An `#if` line with its condition: the text behind the blanks that follow the keyword. -/
def HasCondition (line condition : List Char) : Prop :=
  ∃ b₀ b₁ b₂ : List Char, (∀ c ∈ b₀, isBlank c = true) ∧ (∀ c ∈ b₁, isBlank c = true) ∧
    (∀ c ∈ b₂, isBlank c = true) ∧ b₂ ≠ [] ∧ StopsAt isBlank condition ∧
    line = b₀ ++ '#' :: (b₁ ++ ("if".toList ++ (b₂ ++ condition)))

theorem afterNumberSign?_eq {b₀ b₁ s : List Char} (hb₀ : ∀ c ∈ b₀, isBlank c = true)
    (hb₁ : ∀ c ∈ b₁, isBlank c = true) (hs : StopsAt isBlank s) :
    afterNumberSign? (b₀ ++ '#' :: (b₁ ++ s)) = some s := by
  have hsign : StopsAt isBlank ('#' :: (b₁ ++ s)) := stopsAt_cons.2 (by decide)
  unfold afterNumberSign?
  rw [dropBlanks_append hb₀ hsign]
  simp [stripPrefix?, dropBlanks_append hb₁ hs]

theorem exists_of_afterNumberSign? {line s : List Char} (h : afterNumberSign? line = some s) :
    ∃ b₀ b₁, (∀ c ∈ b₀, isBlank c = true) ∧ (∀ c ∈ b₁, isBlank c = true) ∧
      StopsAt isBlank s ∧ line = b₀ ++ '#' :: (b₁ ++ s) := by
  obtain ⟨rest, hrest, rfl⟩ := Option.map_eq_some_iff.1 h
  obtain ⟨b₀, hb₀, hline, -⟩ := exists_blanks line
  obtain ⟨b₁, hb₁, hrest', hs⟩ := exists_blanks rest
  have hsign := stripPrefix?_eq_some_iff.1 hrest
  refine ⟨b₀, b₁, hb₀, hb₁, hs, ?_⟩
  rw [hline, hsign]
  simpa using hrest'

theorem comparison?_eq_none_of_blank {symbol : List Char} (hsym : isIdentifier symbol = true)
    {x : Char} (hx : isBlank x = true) (s : List Char) : comparison? symbol (x :: s) = none := by
  cases symbol with
  | nil => simp [isIdentifier] at hsym
  | cons a symbol =>
    have ha : isBlank a = false :=
      not_isBlank_of_isNameChar (isNameChar_of_mem_identifier hsym a (List.mem_cons_self ..))
    have hne : a ≠ x := by
      rintro rfl
      simp [hx] at ha
    simp [comparison?, stripPrefix?, hne]

/-- An identifier begins with no blank, so the comparison stands behind all blanks. -/
theorem comparisonAfterBlanks?_append {symbol : List Char} (hsym : isIdentifier symbol = true)
    {b s : List Char} (hb : ∀ c ∈ b, isBlank c = true) (hne : b ≠ []) (hs : StopsAt isBlank s) :
    comparisonAfterBlanks? symbol (b ++ s) = comparison? symbol s := by
  induction b with
  | nil => exact absurd rfl hne
  | cons x b ih =>
    have hx : isBlank x = true := hb x (List.mem_cons_self ..)
    rw [List.cons_append, comparisonAfterBlanks?, if_pos hx]
    cases b with
    | nil =>
      have hstop : comparisonAfterBlanks? symbol s = none := by
        cases s with
        | nil => rfl
        | cons y s => simp [comparisonAfterBlanks?, stopsAt_cons.1 hs]
      rw [List.nil_append, hstop, Option.none_or]
    | cons y b =>
      have hy : isBlank y = true := hb y (by simp)
      rw [ih (fun c hc => hb c (List.mem_cons_of_mem _ hc)) (by simp), List.cons_append,
        comparison?_eq_none_of_blank hsym hy, Option.or_none]

theorem exists_blanks_of_comparisonAfterBlanks? {symbol s g : List Char}
    (h : comparisonAfterBlanks? symbol s = some g) :
    ∃ b t, (∀ c ∈ b, isBlank c = true) ∧ b ≠ [] ∧ StopsAt isBlank t ∧ s = b ++ t := by
  obtain ⟨b, hb, hs, ht⟩ := exists_blanks s
  refine ⟨b, dropBlanks s, hb, ?_, ht, hs⟩
  rintro rfl
  rw [hs, List.nil_append] at h
  cases hd : dropBlanks s with
  | nil => simp [hd, comparisonAfterBlanks?] at h
  | cons x t =>
    rw [hd] at ht h
    simp [comparisonAfterBlanks?, stopsAt_cons.1 ht] at h

theorem exists_comparison_of_comparisonAfterBlanks? {symbol s g : List Char}
    (h : comparisonAfterBlanks? symbol s = some g) : ∃ c : Comparison, g = c.spelling symbol := by
  induction s with
  | nil => simp [comparisonAfterBlanks?] at h
  | cons x s ih =>
    rw [comparisonAfterBlanks?] at h
    split at h
    · rcases Option.or_eq_some_iff.1 h with h | ⟨-, h⟩
      · exact ih h
      · obtain ⟨c, -, hg, -⟩ := exists_comparison_of_comparison? h
        exact ⟨c, hg⟩
    · cases h

theorem exists_comparison_of_guard? {symbol line g : List Char}
    (h : guard? symbol line = some g) : ∃ c : Comparison, g = c.spelling symbol := by
  obtain ⟨_, -, h⟩ := Option.bind_eq_some_iff.1 h
  obtain ⟨_, -, h⟩ := Option.bind_eq_some_iff.1 h
  exact exists_comparison_of_comparisonAfterBlanks? h

theorem infix_of_comparisonAfterBlanks? {symbol s g : List Char}
    (h : comparisonAfterBlanks? symbol s = some g) : g <:+: s := by
  induction s with
  | nil => simp [comparisonAfterBlanks?] at h
  | cons x s ih =>
    rw [comparisonAfterBlanks?] at h
    split at h
    · rcases Option.or_eq_some_iff.1 h with h | ⟨-, h⟩
      · exact (ih h).trans (List.suffix_cons x s).isInfix
      · obtain ⟨-, t, -, rfl, -⟩ := exists_comparison_of_comparison? h
        exact (List.prefix_append g t).isInfix.trans (List.suffix_cons x _).isInfix
    · cases h

theorem infix_of_guard? {symbol line g : List Char} (h : guard? symbol line = some g) :
    g <:+: line := by
  obtain ⟨rest, hrest, hguard⟩ := Option.bind_eq_some_iff.1 h
  obtain ⟨condition, hcondition, hcomparison⟩ := Option.bind_eq_some_iff.1 hguard
  obtain ⟨b₀, b₁, -, -, -, rfl⟩ := exists_of_afterNumberSign? hrest
  obtain rfl := stripPrefix?_eq_some_iff.1 hcondition
  apply (infix_of_comparisonAfterBlanks? hcomparison).trans
  exact ⟨b₀ ++ '#' :: (b₁ ++ "if".toList), [], by simp⟩

theorem guard?_ne_nil {symbol line g : List Char} (h : guard? symbol line = some g) : g ≠ [] := by
  obtain ⟨c, rfl⟩ := exists_comparison_of_guard? h
  exact c.spelling_ne_nil symbol

/-- The guard of a line is the comparison that its condition begins with. -/
theorem guard?_eq_some_iff {symbol : List Char} (hsym : isIdentifier symbol = true)
    {line g : List Char} :
    guard? symbol line = some g ↔
      ∃ (c : Comparison) (t : List Char), g = c.spelling symbol ∧ HasCondition line (g ++ t) ∧
        StopsAt isDigit t := by
  constructor
  · intro h
    obtain ⟨rest, hrest, h⟩ := Option.bind_eq_some_iff.1 h
    obtain ⟨rest', hrest', h⟩ := Option.bind_eq_some_iff.1 h
    obtain ⟨b₀, b₁, hb₀, hb₁, -, hline⟩ := exists_of_afterNumberSign? hrest
    obtain ⟨b₂, s, hb₂, hne, hs, hb⟩ := exists_blanks_of_comparisonAfterBlanks? h
    rw [hb, comparisonAfterBlanks?_append hsym hb₂ hne hs] at h
    obtain ⟨c, t, hg, rfl, ht⟩ := exists_comparison_of_comparison? h
    refine ⟨c, t, hg, ⟨b₀, b₁, b₂, hb₀, hb₁, hb₂, hne, hs, ?_⟩, ht⟩
    rw [hline, stripPrefix?_eq_some_iff.1 hrest', hb]
  · rintro ⟨c, t, rfl, ⟨b₀, b₁, b₂, hb₀, hb₁, hb₂, hne, hs, rfl⟩, ht⟩
    have hif : StopsAt isBlank ("if".toList ++ (b₂ ++ (c.spelling symbol ++ t))) :=
      stopsAt_cons.2 (by decide)
    unfold guard?
    rw [afterNumberSign?_eq hb₀ hb₁ hif, Option.bind_eq_bind, Option.bind_some,
      stripPrefix?_eq_some_iff.2 rfl, Option.bind_some,
      comparisonAfterBlanks?_append hsym hb₂ hne hs]
    exact comparison?_spelling symbol c ht

/-! ### The whole condition -/

/-- Nothing but blanks and comments, read inside a comment or outside. A comment that is still open
goes on on the next line. -/
def isTrailer : (inComment : Bool) → List Char → Bool
  | _, [] => true
  | true, '*' :: '/' :: s => isTrailer false s
  | true, _ :: s => isTrailer true s
  | false, '/' :: '/' :: _ => true
  | false, '/' :: '*' :: s => isTrailer true s
  | false, c :: s => isBlank c && isTrailer false s

theorem HasCondition.unique {line a b : List Char} (ha : HasCondition line a)
    (hb : HasCondition line b) : a = b := by
  obtain ⟨b₀, b₁, b₂, h₀, h₁, h₂, -, hs, rfl⟩ := ha
  obtain ⟨d₀, d₁, d₂, k₀, k₁, k₂, -, ht, heq⟩ := hb
  have hif : ∀ s : List Char, StopsAt isBlank ("if".toList ++ s) :=
    fun s => stopsAt_cons.2 (by decide)
  have hafter := afterNumberSign?_eq h₀ h₁ (hif (b₂ ++ a))
  rw [heq, afterNumberSign?_eq k₀ k₁ (hif (d₂ ++ b))] at hafter
  have hrest : d₂ ++ b = b₂ ++ a := List.append_cancel_left (Option.some.inj hafter)
  calc a = dropBlanks (b₂ ++ a) := (dropBlanks_append h₂ hs).symm
    _ = dropBlanks (d₂ ++ b) := by rw [hrest]
    _ = b := dropBlanks_append k₂ ht

/-- The guard of a line is its whole condition, up to blanks and comments, exactly on the lines
where nothing else follows the comparison that the condition begins with. -/
theorem guard_whole_condition_iff {symbol : List Char} (hsym : isIdentifier symbol = true)
    (line : List Char) :
    (∀ g, guard? symbol line = some g →
        ∃ t, HasCondition line (g ++ t) ∧ isTrailer false t = true) ↔
      ∀ (c : Comparison) (t : List Char), HasCondition line (c.spelling symbol ++ t) →
        StopsAt isDigit t → isTrailer false t = true := by
  constructor
  · intro h c t hcond ht
    have hg := (guard?_eq_some_iff hsym).2 ⟨c, t, rfl, hcond, ht⟩
    obtain ⟨t', hcond', htrailer⟩ := h _ hg
    have hsame := List.append_cancel_left (hcond.unique hcond')
    rwa [hsame]
  · intro h g hg
    obtain ⟨c, t, rfl, hcond, ht⟩ := (guard?_eq_some_iff hsym).1 hg
    exact ⟨t, hcond, h c t hcond ht⟩

/-- The guard is the comparison, and behind it nothing follows but a comment. -/
theorem guard_whole_condition_iff_of_comment :
    let line := "#if __FreeBSD_version >= 500000 /* kvm */".toList
    guard? "__FreeBSD_version".toList line = some "__FreeBSD_version >= 500000".toList ∧
      HasCondition line ("__FreeBSD_version >= 500000".toList ++ " /* kvm */".toList) ∧
      isTrailer false " /* kvm */".toList = true ∧
      ∀ (c : Comparison) (t : List Char),
        HasCondition line (c.spelling "__FreeBSD_version".toList ++ t) → StopsAt isDigit t →
          isTrailer false t = true := by
  intro line
  have hguard : guard? "__FreeBSD_version".toList line = some "__FreeBSD_version >= 500000".toList := by
    decide +kernel
  have hcondition : HasCondition line
      ("__FreeBSD_version >= 500000".toList ++ " /* kvm */".toList) :=
    ⟨[], [], [' '], List.forall_mem_nil _, List.forall_mem_nil _, isBlank_space, by decide,
      stopsAt_cons.2 (by decide), rfl⟩
  have htrailer : isTrailer false " /* kvm */".toList = true := by decide
  refine ⟨hguard, hcondition, htrailer, (guard_whole_condition_iff (by decide) line).1 fun g hg => ?_⟩
  obtain rfl := Option.some.inj (hguard.symm.trans hg)
  exact ⟨_, hcondition, htrailer⟩

/-- A condition that goes on behind a comparison is tracked all the same. -/
theorem not_forall_guard_whole_condition :
    ¬∀ symbol line : List Char, isIdentifier symbol = true → ∀ g, guard? symbol line = some g →
      ∃ t, HasCondition line (g ++ t) ∧ isTrailer false t = true := by
  intro h
  have hguard : guard? "__FreeBSD_version".toList
      "#if __FreeBSD_version >= 500000 || defined(HAVE_KVM)".toList =
        some "__FreeBSD_version >= 500000".toList := by
    decide +kernel
  have hcondition : HasCondition "#if __FreeBSD_version >= 500000 || defined(HAVE_KVM)".toList
      "__FreeBSD_version >= 500000 || defined(HAVE_KVM)".toList :=
    ⟨[], [], [' '], List.forall_mem_nil _, List.forall_mem_nil _, isBlank_space, by decide,
      stopsAt_cons.2 (by decide), rfl⟩
  obtain ⟨t, ht, htrailer⟩ := h _ _ (by decide) _ hguard
  have hsame : "__FreeBSD_version >= 500000".toList ++ t =
      "__FreeBSD_version >= 500000".toList ++ " || defined(HAVE_KVM)".toList :=
    ht.unique hcondition
  have hrest := List.append_cancel_left hsame
  rw [hrest] at htrailer
  exact absurd htrailer (by decide)

end DefFragments.Conditional
