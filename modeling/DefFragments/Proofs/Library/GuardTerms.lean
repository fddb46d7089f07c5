import DefFragments.Proofs.Library.GuardValue

/-!
# The terms of a guard

A term of a guard is a comparison of the release with a number, inside any number of negations. The
texts that spell a term are the same at every release, and the evaluator gives the value of the term
to exactly these; of any other text it reports the foreign symbol that it compares, or else the
guard. A conjunction is read only up to its first false term, so it has a value exactly if a false
term stands in front of every text that spells none.
-/

namespace DefFragments.Library
open Text Conditional

/-- A comparison of the release with a number, or the negation of a term. -/
inductive GuardTerm
  | comparison (relation : Relation) (number : Nat)
  | negation (t : GuardTerm)
  deriving DecidableEq

def GuardTerm.holds (release : Nat) : GuardTerm → Bool
  | .comparison relation number => relation.holds release number
  | .negation t => !t.holds release

/-- The ways to write a relation. -/
def operators : List (List Char × Relation) :=
  [(['<'], .less), (['<', '='], .lessOrEqual), (['=', '<'], .lessOrEqual), (['>'], .greater),
   (['>', '='], .greaterOrEqual), (['=', '>'], .greaterOrEqual), (['=', '='], .equal),
   (['='], .equal), (['!', '='], .notEqual)]

/-- The texts that spell a term: blanks may stand around an operator and inside the parentheses of a
negation, and the number has 64 bits. -/
inductive Spells (symbol : List Char) : GuardTerm → List Char → Prop
  | comparison {relation gap operator gap' digits} : isIdentifier symbol = true →
      (operator, relation) ∈ operators → (∀ c ∈ gap, isBlank c = true) →
      (∀ c ∈ gap', isBlank c = true) → digits ≠ [] → (∀ c ∈ digits, isDigit c = true) →
      decimalValue digits < unsignedBound →
      Spells symbol (.comparison relation (decimalValue digits))
        (symbol ++ (gap ++ (operator ++ (gap' ++ digits))))
  | negation {t gap s gap'} : (∀ c ∈ gap, isBlank c = true) → (∀ c ∈ gap', isBlank c = true) →
      Spells symbol t s →
      Spells symbol (.negation t) (['!', '('] ++ ((gap ++ (s ++ gap')) ++ [')']))

/-- The texts that have the shape of a term and compare `name`, whatever the operator says and
however large the number is. -/
inductive Compares (name : List Char) : List Char → Prop
  | comparison {gap operator gap' digits} : isIdentifier name = true →
      (∀ c ∈ gap, isBlank c = true) → (∀ c ∈ gap', isBlank c = true) →
      (operator.length = 1 ∨ operator.length = 2) → (∀ c ∈ operator, isRelationChar c = true) →
      digits ≠ [] → (∀ c ∈ digits, isDigit c = true) →
      Compares name (name ++ (gap ++ (operator ++ (gap' ++ digits))))
  | negation {gap s gap'} : (∀ c ∈ gap, isBlank c = true) → (∀ c ∈ gap', isBlank c = true) →
      Compares name s → Compares name (['!', '('] ++ ((gap ++ (s ++ gap')) ++ [')']))

/-- What is reported about a text that spells no term: the other symbol that it compares, or else
the guard in which it stands. -/
inductive Refusal (symbol guard s : List Char) : GuardError → Prop
  | foreign {name} : Compares name s → name ≠ symbol →
      Refusal symbol guard s (.unknownSymbol (String.ofList name))
  | invalid : (∀ t, ¬Spells symbol t s) → (∀ name, Compares name s → name = symbol) →
      Refusal symbol guard s (.invalid (String.ofList guard))

/-! ### Comparisons -/

theorem ofOperator?_eq_some_iff {operator : List Char} {relation : Relation} :
    Relation.ofOperator? operator = some relation ↔ (operator, relation) ∈ operators := by
  constructor
  · intro h
    unfold Relation.ofOperator? at h
    split_ifs at h with h₁ h₂ h₃ h₄ h₅ h₆ <;> obtain rfl := Option.some.inj h
    · rw [h₁]
      decide
    · rcases h₂ with rfl | rfl <;> decide
    · rw [h₃]
      decide
    · rcases h₄ with rfl | rfl <;> decide
    · rcases h₅ with rfl | rfl <;> decide
    · rw [h₆]
      decide
  · intro h
    have hall : ∀ p ∈ operators, Relation.ofOperator? p.1 = some p.2 := by decide
    exact hall _ h

theorem operator_shape {operator : List Char} {relation : Relation}
    (h : (operator, relation) ∈ operators) :
    (operator.length = 1 ∨ operator.length = 2) ∧ ∀ c ∈ operator, isRelationChar c = true := by
  have hall : ∀ p ∈ operators,
      (p.1.length = 1 ∨ p.1.length = 2) ∧ p.1.all isRelationChar = true := by
    decide
  obtain ⟨hlength, hchar⟩ := hall _ h
  exact ⟨hlength, List.all_eq_true.1 hchar⟩

theorem evaluateComparison_eq_ok_iff {symbol guard s : List Char} {release : Nat} {b : Bool} :
    evaluateComparison symbol guard release s = .ok b ↔
      ∃ relation number, Spells symbol (.comparison relation number) s ∧
        relation.holds release number = b := by
  constructor
  · intro h
    unfold evaluateComparison at h
    cases hshape : comparisonShape? s with
    | none => simp [hshape] at h
    | some parts =>
      obtain ⟨name, operator, digits⟩ := parts
      obtain ⟨gap, gap', rfl, hname, hgap, hgap', -, -, hne, hdigits⟩ :=
        comparisonShape?_eq_some_iff.1 hshape
      simp only [hshape, readUnsigned_digits hdigits hne] at h
      split at h
      · cases h
      · next hsame =>
        obtain rfl : name = symbol := not_not.1 hsame
        by_cases hnumber : decimalValue digits < unsignedBound
        · cases hop : Relation.ofOperator? operator with
          | none => simp [hop, hnumber] at h
          | some relation =>
            simp only [hop, if_pos hnumber, Except.ok.injEq] at h
            exact ⟨relation, _, .comparison hname (ofOperator?_eq_some_iff.1 hop) hgap hgap' hne
              hdigits hnumber, h⟩
        · simp [hnumber] at h
  · rintro ⟨relation, number, hspells, rfl⟩
    cases hspells with
    | @comparison _ gap operator gap' digits hname hop hgap hgap' hne hdigits hnumber =>
      obtain ⟨hlength, hchar⟩ := operator_shape hop
      have hshape := comparisonShape?_eq_some_iff.2
        ⟨gap, gap', rfl, hname, hgap, hgap', hlength, hchar, hne, hdigits⟩
      unfold evaluateComparison
      simp only [hshape, ne_eq, not_true_eq_false, if_false, readUnsigned_digits hdigits hne,
        if_pos hnumber, ofOperator?_eq_some_iff.2 hop]

theorem evaluateComparison_eq_unknownSymbol_iff {symbol guard s : List Char} {release : Nat}
    {n : String} :
    evaluateComparison symbol guard release s = .error (.unknownSymbol n) ↔
      (∃ operator digits, comparisonShape? s = some (n.toList, operator, digits)) ∧
        n.toList ≠ symbol := by
  unfold evaluateComparison
  cases hshape : comparisonShape? s with
  | none => simp
  | some parts =>
    obtain ⟨name, operator, digits⟩ := parts
    by_cases hsame : name = symbol
    · constructor
      · intro h
        simp only [hsame, ne_eq, not_true_eq_false, if_false] at h
        split at h <;> cases h
      · rintro ⟨⟨_, _, heq⟩, hne⟩
        obtain ⟨hname, -⟩ := Prod.mk.inj (Option.some.inj heq)
        exact absurd (hname.symm.trans hsame) hne
    · simp only [ne_eq, hsame, not_false_eq_true, if_true]
      constructor
      · intro h
        obtain rfl := GuardError.unknownSymbol.inj (Except.error.inj h)
        rw [String.toList_ofList]
        exact ⟨⟨_, _, rfl⟩, hsame⟩
      · rintro ⟨⟨_, _, heq⟩, -⟩
        obtain ⟨hname, -⟩ := Prod.mk.inj (Option.some.inj heq)
        rw [hname, String.ofList_toList]

theorem evaluateComparison_eq_error {symbol guard s : List Char} {release : Nat} {e : GuardError}
    (h : evaluateComparison symbol guard release s = .error e) :
    e = .invalid (String.ofList guard) ∨ ∃ n, e = .unknownSymbol n := by
  unfold evaluateComparison at h
  split at h
  · exact Or.inl (Except.error.inj h).symm
  · split at h
    · exact Or.inr ⟨_, (Except.error.inj h).symm⟩
    · split at h
      · cases h
      · exact Or.inl (Except.error.inj h).symm

/-! ### Negations -/

theorem trimmed_of_compares {name s : List Char} (h : Compares name s) : Trimmed s ∧ s ≠ [] := by
  cases h with
  | @comparison gap operator gap' digits hname _ _ _ _ hne hdigits =>
    have htrimmed := trimmed_of_name_digits hname hne hdigits (gap ++ (operator ++ gap'))
    exact ⟨by simpa only [List.append_assoc] using htrimmed, by simp [identifier_ne_nil hname]⟩
  | negation _ _ _ => exact ⟨trimmed_negation _, by simp⟩

theorem compares_of_spells {symbol s : List Char} {t : GuardTerm} (h : Spells symbol t s) :
    Compares symbol s := by
  induction h with
  | comparison hname hop hgap hgap' hne hdigits _ =>
    obtain ⟨hlength, hchar⟩ := operator_shape hop
    exact .comparison hname hgap hgap' hlength hchar hne hdigits
  | negation hgap hgap' _ ih => exact .negation hgap hgap' ih

theorem length_trim_le (s : List Char) : (trim s).length ≤ s.length := by
  unfold trim dropTrailingBlanks dropBlanks
  rw [List.length_reverse]
  have hback := List.length_dropWhile_le isBlank (s.dropWhile isBlank).reverse
  have hfront := List.length_dropWhile_le isBlank s
  rw [List.length_reverse] at hback
  omega

theorem length_of_negated? {s inner : List Char} (h : negated? s = some inner) :
    s.length = inner.length + 3 := by
  rw [negated?_eq_some_iff.1 h]
  simp only [List.length_append, List.length_cons, List.length_nil]
  omega

theorem peelUpTo_eq {n m : Nat} {s : List Char} (hn : s.length ≤ n) (hm : s.length ≤ m) :
    peelUpTo n s = peelUpTo m s := by
  have hnil : negated? [] = none := by decide
  induction n generalizing m s with
  | zero =>
    obtain rfl := List.eq_nil_of_length_eq_zero (Nat.le_zero.1 hn)
    cases m with
    | zero => rfl
    | succ m => simp only [peelUpTo, hnil]
  | succ n ih =>
    cases m with
    | zero =>
      obtain rfl := List.eq_nil_of_length_eq_zero (Nat.le_zero.1 hm)
      simp only [peelUpTo, hnil]
    | succ m =>
      rw [peelUpTo, peelUpTo]
      cases hneg : negated? s with
      | none => rfl
      | some inner =>
        have hlength := length_of_negated? hneg
        have htrim := length_trim_le inner
        have hsame := ih (m := m) (s := trim inner) (by omega) (by omega)
        simp only [hsame]

theorem evaluateTerm_of_peel {symbol guard s core : List Char} {release count : Nat}
    (h : peel s = (count, core)) :
    evaluateTerm symbol guard release s =
      (evaluateComparison symbol guard release core).map fun value =>
        value != (count % 2 == 1) := by
  unfold evaluateTerm
  rw [h]

theorem evaluateTerm_of_negated?_eq_none {symbol guard s : List Char} {release : Nat}
    (h : negated? s = none) :
    evaluateTerm symbol guard release s = evaluateComparison symbol guard release s := by
  have hpeel : peel s = (0, s) := by
    unfold peel
    cases s.length with
    | zero => rfl
    | succ n => simp only [peelUpTo, h]
  rw [evaluateTerm_of_peel hpeel]
  cases evaluateComparison symbol guard release s with
  | error e => rfl
  | ok b => cases b <;> rfl

theorem bne_succ_parity (b : Bool) (n : Nat) :
    (b != ((n + 1) % 2 == 1)) = !(b != (n % 2 == 1)) := by
  rcases Nat.mod_two_eq_zero_or_one n with hn | hn
  · have hsucc : (n + 1) % 2 = 1 := by omega
    rw [hn, hsucc]
    cases b <;> rfl
  · have hsucc : (n + 1) % 2 = 0 := by omega
    rw [hn, hsucc]
    cases b <;> rfl

theorem evaluateTerm_of_negated? {symbol guard s inner : List Char} {release : Nat}
    (h : negated? s = some inner) :
    evaluateTerm symbol guard release s =
      (evaluateTerm symbol guard release (trim inner)).map (!·) := by
  obtain ⟨count, core, hinner⟩ : ∃ count core, peel (trim inner) = (count, core) := ⟨_, _, rfl⟩
  have hpeel : peel s = (count + 1, core) := by
    have hlength : s.length = (inner.length + 2) + 1 := length_of_negated? h
    have htrim := length_trim_le inner
    have hbound : (trim inner).length ≤ inner.length + 2 := by omega
    have hfuel : peelUpTo (inner.length + 2) (trim inner) = (count, core) :=
      (peelUpTo_eq hbound le_rfl).trans hinner
    unfold peel
    rw [hlength, peelUpTo, h]
    simp only [hfuel]
  rw [evaluateTerm_of_peel hpeel, evaluateTerm_of_peel hinner]
  cases evaluateComparison symbol guard release core with
  | error e => rfl
  | ok b => exact congrArg Except.ok (bne_succ_parity b count)

/-- Texts are read from the outside in: inside a negation stands a shorter one. -/
theorem negated_induction {motive : List Char → Prop}
    (comparison : ∀ s, negated? s = none → motive s)
    (negation : ∀ s inner, negated? s = some inner → motive (trim inner) → motive s)
    (s : List Char) : motive s := by
  induction hn : s.length using Nat.strong_induction_on generalizing s with
  | _ n ih =>
    cases hneg : negated? s with
    | none => exact comparison s hneg
    | some inner =>
      have hlength := length_of_negated? hneg
      have htrim := length_trim_le inner
      exact negation s inner hneg (ih _ (by omega) (trim inner) rfl)

/-- The blanks inside the parentheses of a negation are those around the text that stands there. -/
theorem trim_of_negated? {gap s gap' inner : List Char} (hgap : ∀ c ∈ gap, isBlank c = true)
    (hgap' : ∀ c ∈ gap', isBlank c = true) (hs : Trimmed s ∧ s ≠ [])
    (h : negated? (['!', '('] ++ ((gap ++ (s ++ gap')) ++ [')'])) = some inner) :
    trim inner = s := by
  rw [negated?_eq_some_iff.2 rfl] at h
  rw [← Option.some.inj h, trim_padded hgap hgap' hs.1 hs.2]

section
variable {symbol name guard s inner : List Char} {release : Nat} {t : GuardTerm}

theorem spells_of_negated?_iff (h : negated? s = some inner) :
    Spells symbol t s ↔ ∃ u, t = .negation u ∧ Spells symbol u (trim inner) := by
  constructor
  · intro hspells
    cases hspells with
    | comparison hname _ _ _ _ _ _ =>
      rw [negated?_name_append hname] at h
      cases h
    | @negation u _ _ _ hgap hgap' hinner =>
      have htrimmed := trimmed_of_compares (compares_of_spells hinner)
      exact ⟨u, rfl, by rwa [trim_of_negated? hgap hgap' htrimmed h]⟩
  · rintro ⟨u, rfl, hinner⟩
    obtain ⟨gap, gap', hgap, hgap', heq⟩ := exists_padding inner
    rw [negated?_eq_some_iff.1 h, heq]
    exact .negation hgap hgap' hinner

theorem compares_of_negated?_iff (h : negated? s = some inner) :
    Compares name s ↔ Compares name (trim inner) := by
  constructor
  · intro hcompares
    cases hcompares with
    | comparison hname _ _ _ _ _ _ =>
      rw [negated?_name_append hname] at h
      cases h
    | negation hgap hgap' hinner =>
      rwa [trim_of_negated? hgap hgap' (trimmed_of_compares hinner) h]
  · intro hinner
    obtain ⟨gap, gap', hgap, hgap', heq⟩ := exists_padding inner
    rw [negated?_eq_some_iff.1 h, heq]
    exact .negation hgap hgap' hinner

theorem compares_of_negated?_eq_none (h : negated? s = none) :
    Compares name s ↔ ∃ operator digits, comparisonShape? s = some (name, operator, digits) := by
  simp only [comparisonShape?_eq_some_iff]
  constructor
  · intro hcompares
    cases hcompares with
    | comparison hname hgap hgap' hlength hchar hne hdigits =>
      exact ⟨_, _, _, _, rfl, hname, hgap, hgap', hlength, hchar, hne, hdigits⟩
    | negation _ _ _ =>
      rw [negated?_eq_some_iff.2 rfl] at h
      cases h
  · rintro ⟨_, _, _, _, rfl, hname, hgap, hgap', hlength, hchar, hne, hdigits⟩
    exact .comparison hname hgap hgap' hlength hchar hne hdigits

/-- The evaluator gives a value to a text exactly if it spells a term, and then that of the term. -/
theorem evaluateTerm_eq_ok_iff {b : Bool} :
    evaluateTerm symbol guard release s = .ok b ↔
      ∃ t, Spells symbol t s ∧ t.holds release = b := by
  induction s using negated_induction generalizing b with
  | comparison s hneg =>
    rw [evaluateTerm_of_negated?_eq_none hneg, evaluateComparison_eq_ok_iff]
    constructor
    · rintro ⟨relation, number, hspells, hholds⟩
      exact ⟨_, hspells, hholds⟩
    · rintro ⟨t, hspells, hholds⟩
      cases t with
      | comparison relation number => exact ⟨relation, number, hspells, hholds⟩
      | negation t =>
        cases hspells with
        | negation _ _ _ =>
          rw [negated?_eq_some_iff.2 rfl] at hneg
          cases hneg
  | negation s inner hneg ih =>
    rw [evaluateTerm_of_negated? hneg]
    simp only [spells_of_negated?_iff hneg]
    constructor
    · intro h
      cases hvalue : evaluateTerm symbol guard release (trim inner) with
      | error e => simp [hvalue, Except.map] at h
      | ok v =>
        rw [hvalue] at h
        obtain ⟨u, hspells, rfl⟩ := ih.1 hvalue
        exact ⟨_, ⟨u, rfl, hspells⟩, Except.ok.inj h⟩
    · rintro ⟨_, ⟨u, rfl, hspells⟩, rfl⟩
      rw [ih.2 ⟨u, hspells, rfl⟩]
      rfl

theorem evaluateTerm_eq_unknownSymbol_iff {n : String} :
    evaluateTerm symbol guard release s = .error (.unknownSymbol n) ↔
      Compares n.toList s ∧ n.toList ≠ symbol := by
  induction s using negated_induction with
  | comparison s hneg =>
    rw [evaluateTerm_of_negated?_eq_none hneg, evaluateComparison_eq_unknownSymbol_iff,
      compares_of_negated?_eq_none hneg]
  | negation s inner hneg ih =>
    rw [evaluateTerm_of_negated? hneg, compares_of_negated?_iff hneg, ← ih]
    cases evaluateTerm symbol guard release (trim inner) <;> simp [Except.map]

theorem evaluateTerm_eq_error {e : GuardError}
    (h : evaluateTerm symbol guard release s = .error e) :
    e = .invalid (String.ofList guard) ∨ ∃ n, e = .unknownSymbol n := by
  obtain ⟨count, core, hpeel⟩ : ∃ count core, peel s = (count, core) := ⟨_, _, rfl⟩
  rw [evaluateTerm_of_peel hpeel] at h
  cases hcore : evaluateComparison symbol guard release core with
  | ok b => simp [hcore, Except.map] at h
  | error e' =>
    rw [hcore] at h
    obtain rfl := Except.error.inj h
    exact evaluateComparison_eq_error hcore

theorem evaluateTerm_eq_error_iff {e : GuardError} :
    evaluateTerm symbol guard release s = .error e ↔ Refusal symbol guard s e := by
  constructor
  · intro h
    rcases evaluateTerm_eq_error h with rfl | ⟨n, rfl⟩
    · refine .invalid (fun t hspells => ?_) (fun name hcompares => ?_)
      · rw [evaluateTerm_eq_ok_iff.2 ⟨t, hspells, rfl⟩] at h
        cases h
      · by_contra hne
        have hforeign : evaluateTerm symbol guard release s =
            .error (.unknownSymbol (String.ofList name)) := by
          rw [evaluateTerm_eq_unknownSymbol_iff, String.toList_ofList]
          exact ⟨hcompares, hne⟩
        rw [hforeign] at h
        cases h
    · obtain ⟨hcompares, hne⟩ := evaluateTerm_eq_unknownSymbol_iff.1 h
      rw [← String.ofList_toList (s := n)]
      exact .foreign hcompares hne
  · rintro (⟨hcompares, hne⟩ | ⟨hspells, hcompares⟩)
    · rw [evaluateTerm_eq_unknownSymbol_iff, String.toList_ofList]
      exact ⟨hcompares, hne⟩
    · cases hvalue : evaluateTerm symbol guard release s with
      | ok b =>
        obtain ⟨t, ht, -⟩ := evaluateTerm_eq_ok_iff.1 hvalue
        exact absurd ht (hspells t)
      | error e =>
        rcases evaluateTerm_eq_error hvalue with rfl | ⟨n, rfl⟩
        · rfl
        · obtain ⟨hforeign, hne⟩ := evaluateTerm_eq_unknownSymbol_iff.1 hvalue
          exact absurd (hcompares _ hforeign) hne

end

/-! ### Conjunctions -/

/-- The text, blanks around it removed, spells a term of this value at a release. -/
def HasValue (symbol : List Char) (release : Nat) (s : List Char) (b : Bool) : Prop :=
  ∃ t, Spells symbol t (trim s) ∧ t.holds release = b

def IsTerm (symbol s : List Char) : Prop :=
  ∃ t, Spells symbol t (trim s)

theorem evaluateTerm_trim_eq_ok_iff (guard : List Char) {symbol s : List Char} {release : Nat}
    {b : Bool} :
    evaluateTerm symbol guard release (trim s) = .ok b ↔ HasValue symbol release s b :=
  evaluateTerm_eq_ok_iff

theorem isTerm_iff (guard : List Char) (release : Nat) {symbol s : List Char} :
    IsTerm symbol s ↔ ∃ b, evaluateTerm symbol guard release (trim s) = .ok b := by
  simp only [evaluateTerm_eq_ok_iff]
  constructor
  · rintro ⟨t, hspells⟩
    exact ⟨_, t, hspells, rfl⟩
  · rintro ⟨b, t, hspells, -⟩
    exact ⟨t, hspells⟩

/-- Every term of the guard is true at a release. -/
def Holds (symbol : List Char) (release : Nat) (guard : List Char) : Prop :=
  ∀ s ∈ terms guard, HasValue symbol release s true

theorem evaluate_eq_ok_true_iff {symbol guard : List Char} {release : Nat} :
    evaluate symbol release guard = .ok true ↔ Holds symbol release guard := by
  unfold evaluate Holds
  simp only [evaluateTerms_eq_ok_true_iff, evaluateTerm_trim_eq_ok_iff]

/-- The guard is refused at a release: behind terms that are all true stands a text that spells no
term. -/
def IsRefused (symbol : List Char) (release : Nat) (guard : List Char) (e : GuardError) : Prop :=
  ∃ front s back, terms guard = front ++ s :: back ∧
    (∀ u ∈ front, HasValue symbol release u true) ∧ Refusal symbol guard (trim s) e

theorem evaluate_eq_error_iff {symbol guard : List Char} {release : Nat} {e : GuardError} :
    evaluate symbol release guard = .error e ↔ IsRefused symbol release guard e := by
  unfold evaluate IsRefused
  simp only [evaluateTerms_eq_error_iff, evaluateTerm_trim_eq_ok_iff, evaluateTerm_eq_error_iff]

/-- In front of every text of the guard that is no term, a term is false at the release. -/
def Masked (symbol : List Char) (release : Nat) (guard : List Char) : Prop :=
  ∀ front s back, terms guard = front ++ s :: back → ¬IsTerm symbol s →
    ∃ u ∈ front, HasValue symbol release u false

/-- A text that spells no term does not hurt behind a term that is false. -/
theorem exists_evaluate_iff {symbol guard : List Char} {release : Nat} :
    (∃ b, evaluate symbol release guard = .ok b) ↔ Masked symbol release guard := by
  unfold evaluate Masked
  induction terms guard with
  | nil => simp [evaluateTerms]
  | cons s rest ih =>
    rw [evaluateTerms, forall_split_cons]
    simp only [List.mem_cons, or_and_right, exists_or, exists_eq_left]
    have hfalse : HasValue symbol release s false ↔
        evaluateTerm symbol guard release (trim s) = .ok false :=
      (evaluateTerm_trim_eq_ok_iff guard).symm
    rw [isTerm_iff guard release, hfalse]
    cases evaluateTerm symbol guard release (trim s) with
    | error e => simp
    | ok b =>
      cases b with
      | false => simp
      | true => simpa using ih

end DefFragments.Library
