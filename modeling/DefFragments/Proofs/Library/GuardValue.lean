import DefFragments.Conditional.Stack
import DefFragments.Library.Guard
import DefFragments.Proofs.Conditional.Comparison
import DefFragments.Proofs.Text.Lines
import DefFragments.Proofs.Text.Number

/-!
# The value of a collected guard

A guard that a fragment repeats is a conjunction of comparisons, each inside any number of
negations. Reading it back gives the value that its comparisons have at the release, as long as each
operator has a meaning and each number fits.
-/

namespace DefFragments.Conditional
open Text

/-- What an operator says of two numbers. -/
def compares : (operator : List Char) → Nat → Nat → Bool
  | ['<'], a, b => a < b
  | ['<', '='], a, b => a ≤ b
  | ['=', '<'], a, b => a ≤ b
  | ['>'], a, b => a > b
  | ['>', '='], a, b => a ≥ b
  | ['=', '>'], a, b => a ≥ b
  | ['=', '='], a, b => a = b
  | ['='], a, b => a = b
  | _, _, _ => false

def meaningfulOperators : List (List Char) :=
  [['<'], ['<', '='], ['=', '<'], ['>'], ['>', '='], ['=', '>'], ['=', '='], ['=']]

namespace Comparison

/-- The comparison holds at a release, its number read in decimal. -/
def holds (c : Comparison) (release : Nat) : Bool :=
  compares c.operator release (decimalValue c.digits)

/-- The comparison can be read back: its operator has a meaning and its number has 64 bits. -/
structure Readable (c : Comparison) : Prop where
  operator_mem : c.operator ∈ meaningfulOperators
  number_lt : decimalValue c.digits < unsignedBound

end Comparison

end DefFragments.Conditional

namespace DefFragments.Library
open Text Conditional

/-! ### One comparison -/

theorem isRelationChar_of_isOperatorChar {c : Char} (h : isOperatorChar c = true) :
    isRelationChar c = true := by
  rcases isOperatorChar_iff.1 h with rfl | rfl | rfl <;> decide

theorem not_isRelationChar_of_isBlank {c : Char} (h : isBlank c = true) :
    isRelationChar c = false := by
  by_contra hc
  simp only [isRelationChar, Bool.not_eq_false, Bool.or_eq_true, beq_iff_eq] at hc
  rcases hc with ((rfl | rfl) | rfl) | rfl <;> exact absurd h (by decide)

theorem not_isRelationChar_of_isDigit {c : Char} (h : isDigit c = true) :
    isRelationChar c = false := by
  by_contra hc
  simp only [isRelationChar, Bool.not_eq_false, Bool.or_eq_true, beq_iff_eq] at hc
  rcases hc with ((rfl | rfl) | rfl) | rfl <;> exact absurd h (by decide)

theorem not_isNameChar_of_isRelationChar {c : Char} (h : isRelationChar c = true) :
    isNameChar c = false := by
  simp only [isRelationChar, Bool.or_eq_true, beq_iff_eq] at h
  rcases h with ((rfl | rfl) | rfl) | rfl <;> decide

theorem not_isBlank_of_isRelationChar {c : Char} (h : isRelationChar c = true) :
    isBlank c = false := by
  simp only [isRelationChar, Bool.or_eq_true, beq_iff_eq] at h
  rcases h with ((rfl | rfl) | rfl) | rfl <;> decide

/-- Each part of a comparison ends where the next one begins. -/
theorem comparisonShape?_eq_some_iff {s name operator digits : List Char} :
    comparisonShape? s = some (name, operator, digits) ↔
      ∃ gap gap', s = name ++ (gap ++ (operator ++ (gap' ++ digits))) ∧ isIdentifier name = true ∧
        (∀ c ∈ gap, isBlank c = true) ∧ (∀ c ∈ gap', isBlank c = true) ∧
        (operator.length = 1 ∨ operator.length = 2) ∧
        (∀ c ∈ operator, isRelationChar c = true) ∧ digits ≠ [] ∧
        ∀ c ∈ digits, isDigit c = true := by
  constructor
  · intro h
    unfold comparisonShape? at h
    dsimp only at h
    split at h
    · next hparts =>
      simp only [Option.some.injEq, Prod.mk.injEq] at h
      obtain ⟨rfl, rfl, rfl⟩ := h
      obtain ⟨hname, hlength, hne, hdigits⟩ := hparts
      obtain ⟨gap, hgap, hleft, -⟩ := exists_blanks (s.dropWhile isNameChar)
      obtain ⟨gap', hgap', hright, -⟩ :=
        exists_blanks ((dropBlanks (s.dropWhile isNameChar)).dropWhile isRelationChar)
      refine ⟨gap, gap', ?_, hname, hgap, hgap', hlength, fun c hc => List.mem_takeWhile_imp hc,
        hne, List.all_eq_true.1 hdigits⟩
      rw [← hright, List.takeWhile_append_dropWhile, ← hleft, List.takeWhile_append_dropWhile]
    · cases h
  · rintro ⟨gap, gap', rfl, hname, hgap, hgap', hlength, hchar, hne, hdigits⟩
    have hopne : operator ≠ [] := by
      rintro rfl
      simp at hlength
    have hdigitsStop : StopsAt isBlank digits := by
      have hstop := StopsAt.append hne (fun c hc => not_isBlank_of_isDigit (hdigits c hc)) []
      rwa [List.append_nil] at hstop
    have hrightStop : StopsAt isRelationChar (gap' ++ digits) := by
      have hstop :=
        StopsAt.append hne (fun c hc => not_isRelationChar_of_isDigit (hdigits c hc)) []
      rw [List.append_nil] at hstop
      exact StopsAt.append_of_stopsAt
        (fun c hc => not_isRelationChar_of_isBlank (hgap' c hc)) hstop
    have hopStop : StopsAt isBlank (operator ++ (gap' ++ digits)) :=
      StopsAt.append hopne (fun c hc => not_isBlank_of_isRelationChar (hchar c hc)) _
    have hleftStop : StopsAt isNameChar (gap ++ (operator ++ (gap' ++ digits))) :=
      StopsAt.append_of_stopsAt (fun c hc => not_isNameChar_of_isBlank (hgap c hc))
        (StopsAt.append hopne (fun c hc => not_isNameChar_of_isRelationChar (hchar c hc)) _)
    have hnameChar := isNameChar_of_mem_identifier hname
    unfold comparisonShape?
    simp only [takeWhile_run hnameChar hleftStop, dropWhile_run hnameChar hleftStop,
      dropBlanks_append hgap hopStop, takeWhile_run hchar hrightStop,
      dropWhile_run hchar hrightStop, dropBlanks_append hgap' hdigitsStop]
    rw [if_pos ⟨hname, hlength, hne, List.all_eq_true.2 hdigits⟩]

theorem comparisonShape?_spelling {symbol : List Char} (hsym : isIdentifier symbol = true)
    (c : Comparison) :
    comparisonShape? (c.spelling symbol) = some (symbol, c.operator, c.digits) :=
  comparisonShape?_eq_some_iff.2 ⟨c.leftGap, c.rightGap, rfl, hsym, c.leftGap_blank,
    c.rightGap_blank, c.operator_length,
    fun x hx => isRelationChar_of_isOperatorChar (c.operator_char x hx), c.digits_ne_nil,
    c.digits_digit⟩

theorem exists_relation_of_mem {operator : List Char} (h : operator ∈ meaningfulOperators) :
    ∃ r, Relation.ofOperator? operator = some r ∧ ∀ a b, r.holds a b = compares operator a b := by
  simp only [meaningfulOperators, List.mem_cons, List.not_mem_nil, or_false] at h
  rcases h with rfl | rfl | rfl | rfl | rfl | rfl | rfl | rfl
  · exact ⟨.less, by decide, fun a b => rfl⟩
  · exact ⟨.lessOrEqual, by decide, fun a b => rfl⟩
  · exact ⟨.lessOrEqual, by decide, fun a b => rfl⟩
  · exact ⟨.greater, by decide, fun a b => rfl⟩
  · exact ⟨.greaterOrEqual, by decide, fun a b => rfl⟩
  · exact ⟨.greaterOrEqual, by decide, fun a b => rfl⟩
  · exact ⟨.equal, by decide, fun a b => rfl⟩
  · exact ⟨.equal, by decide, fun a b => rfl⟩

theorem ofOperator?_eq_none {operator : List Char}
    (hchar : ∀ c ∈ operator, isOperatorChar c = true) (h : operator ∉ meaningfulOperators) :
    Relation.ofOperator? operator = none := by
  have hbang : operator ≠ ['!', '='] := by
    rintro rfl
    exact absurd (hchar '!' (by simp)) (by decide)
  simp only [meaningfulOperators, List.mem_cons, List.not_mem_nil, or_false, not_or] at h
  simp [Relation.ofOperator?, h, hbang]

theorem evaluateComparison_readable {symbol : List Char} (hsym : isIdentifier symbol = true)
    {c : Comparison} (hc : c.Readable) (guard : List Char) (release : Nat) :
    evaluateComparison symbol guard release (c.spelling symbol) = .ok (c.holds release) := by
  obtain ⟨r, hr, hholds⟩ := exists_relation_of_mem hc.operator_mem
  unfold evaluateComparison
  simp only [comparisonShape?_spelling hsym, ne_eq, not_true_eq_false, if_false, hr,
    readUnsigned_digits c.digits_digit c.digits_ne_nil, if_pos hc.number_lt, hholds]
  rfl

theorem evaluateComparison_unreadable {symbol : List Char} (hsym : isIdentifier symbol = true)
    {c : Comparison} (hc : ¬c.Readable) (guard : List Char) (release : Nat) :
    evaluateComparison symbol guard release (c.spelling symbol) =
      .error (.invalid (String.ofList guard)) := by
  unfold evaluateComparison
  simp only [comparisonShape?_spelling hsym, ne_eq, not_true_eq_false, if_false,
    readUnsigned_digits c.digits_digit c.digits_ne_nil]
  by_cases hop : c.operator ∈ meaningfulOperators
  · have hnumber : ¬decimalValue c.digits < unsignedBound := fun h => hc ⟨hop, h⟩
    rw [if_neg hnumber]
  · rw [ofOperator?_eq_none c.operator_char hop]
    split <;> simp_all

/-! ### Negations -/

def enclosed : Nat → List Char → List Char
  | 0, s => s
  | n + 1, s => '!' :: '(' :: (enclosed n s ++ [')'])

theorem negated?_eq_some_iff {s inner : List Char} :
    negated? s = some inner ↔ s = ['!', '('] ++ (inner ++ [')']) := by
  simp only [negated?, Option.bind_eq_some_iff, stripPrefix?_eq_some_iff, stripSuffix?_eq_some_iff]
  constructor
  · rintro ⟨rest, rfl, rfl⟩
    rfl
  · rintro rfl
    exact ⟨inner ++ [')'], rfl, rfl⟩

theorem trimmed_negation (inner : List Char) : Trimmed (['!', '('] ++ (inner ++ [')'])) := by
  have hopen : Trimmed ['!', '('] := ⟨stopsAt_cons.2 (by decide), stopsAt_cons.2 (by decide)⟩
  have hclose : Trimmed [')'] := ⟨stopsAt_cons.2 (by decide), stopsAt_cons.2 (by decide)⟩
  exact hopen.append (by simp) hclose (by simp) inner

theorem trimmed_of_name_digits {symbol digits : List Char} (hsym : isIdentifier symbol = true)
    (hne : digits ≠ []) (hdigits : ∀ c ∈ digits, isDigit c = true) (between : List Char) :
    Trimmed (symbol ++ (between ++ digits)) := by
  have hname : IsName digits := ⟨hne, fun c hc => isNameChar_of_isDigit (hdigits c hc)⟩
  exact (isName_of_isIdentifier hsym).trimmed.append (identifier_ne_nil hsym) hname.trimmed hne _

theorem negated?_name_append {symbol : List Char} (hsym : isIdentifier symbol = true)
    (rest : List Char) : negated? (symbol ++ rest) = none := by
  rw [Option.eq_none_iff_forall_ne_some]
  intro inner hinner
  have hs := negated?_eq_some_iff.1 hinner
  cases symbol with
  | nil => exact identifier_ne_nil hsym rfl
  | cons a symbol =>
    obtain ⟨rfl, -⟩ := List.cons.inj hs
    exact absurd (isNameChar_of_mem_identifier hsym '!' (List.mem_cons_self ..)) (by decide)

theorem toList_negate (condition : String) (n : Nat) :
    (negate condition n).toList = enclosed n condition.toList := by
  induction n with
  | zero => rfl
  | succ n ih =>
    simp only [negate, String.toList_append, ih, enclosed]
    rfl

theorem trimmed_spelling {symbol : List Char} (hsym : isIdentifier symbol = true)
    (c : Comparison) : Trimmed (c.spelling symbol) := by
  have htrimmed := trimmed_of_name_digits hsym c.digits_ne_nil c.digits_digit
    (c.leftGap ++ (c.operator ++ c.rightGap))
  simpa only [Comparison.spelling, List.append_assoc] using htrimmed

theorem trimmed_enclosed {s : List Char} (hs : Trimmed s) (n : Nat) : Trimmed (enclosed n s) := by
  cases n with
  | zero => exact hs
  | succ n => exact trimmed_negation (enclosed n s)

theorem not_mem_enclosed {s : List Char} {x : Char} (hs : x ∉ s) (hx : x ∉ ['!', '(', ')'])
    (n : Nat) : x ∉ enclosed n s := by
  induction n with
  | zero => exact hs
  | succ n ih =>
    simp only [List.mem_cons, List.not_mem_nil, or_false, not_or] at hx
    simp [enclosed, ih, hx]

theorem enclosed_ne_nil {s : List Char} (hs : s ≠ []) (n : Nat) : enclosed n s ≠ [] := by
  cases n with
  | zero => exact hs
  | succ n => exact List.cons_ne_nil _ _

theorem isLine_enclosed {s : List Char} (hs : IsLine s) (n : Nat) : IsLine (enclosed n s) := by
  cases n with
  | zero => exact hs
  | succ n =>
    have hfront : '\n' ∉ '!' :: '(' :: enclosed n s := by
      simp [not_mem_enclosed hs.1 (by decide)]
    exact IsLine.append hfront (b := [')']) ⟨by decide, by decide⟩ (by simp)

theorem length_le_enclosed (n : Nat) (s : List Char) : n ≤ (enclosed n s).length := by
  induction n with
  | zero => exact Nat.zero_le _
  | succ n ih =>
    simp only [enclosed, List.length_cons, List.length_append, List.length_nil]
    omega

theorem negated?_enclosed (n : Nat) (s : List Char) :
    negated? (enclosed (n + 1) s) = some (enclosed n s) :=
  negated?_eq_some_iff.2 rfl

theorem peelUpTo_enclosed {s : List Char} (hs : Trimmed s) (hnone : negated? s = none)
    {n fuel : Nat} (hfuel : n ≤ fuel) : peelUpTo fuel (enclosed n s) = (n, s) := by
  induction n generalizing fuel with
  | zero =>
    cases fuel with
    | zero => rfl
    | succ fuel => simp [peelUpTo, enclosed, hnone]
  | succ n ih =>
    cases fuel with
    | zero => omega
    | succ fuel =>
      simp only [peelUpTo, negated?_enclosed, trim_of_trimmed (trimmed_enclosed hs n),
        ih (Nat.le_of_succ_le_succ hfuel)]

theorem peel_enclosed {symbol : List Char} (hsym : isIdentifier symbol = true) (c : Comparison)
    (n : Nat) : peel (enclosed n (c.spelling symbol)) = (n, c.spelling symbol) :=
  peelUpTo_enclosed (trimmed_spelling hsym c) (negated?_name_append hsym _) (length_le_enclosed _ _)

theorem evaluateTerm_readable {symbol : List Char} (hsym : isIdentifier symbol = true)
    {c : Comparison} (hc : c.Readable) (n : Nat) (guard : List Char) (release : Nat) :
    evaluateTerm symbol guard release (enclosed n (c.spelling symbol)) =
      .ok (c.holds release != (n % 2 == 1)) := by
  unfold evaluateTerm
  rw [peel_enclosed hsym]
  simp only [evaluateComparison_readable hsym hc]
  rfl

theorem evaluateTerm_unreadable {symbol : List Char} (hsym : isIdentifier symbol = true)
    {c : Comparison} (hc : ¬c.Readable) (n : Nat) (guard : List Char) (release : Nat) :
    evaluateTerm symbol guard release (enclosed n (c.spelling symbol)) =
      .error (.invalid (String.ofList guard)) := by
  unfold evaluateTerm
  rw [peel_enclosed hsym]
  simp only [evaluateComparison_unreadable hsym hc]
  rfl

/-! ### Conjunctions -/

def joined (ts : List (List Char)) : List Char :=
  " && ".toList.intercalate ts

/-- A text that a conjunction gives back as it is. -/
structure GuardText (t : List Char) : Prop where
  ne_nil : t ≠ []
  trimmed : Trimmed t
  not_and : '&' ∉ t

theorem evaluateTerms_eq_ok_true_iff {symbol guard : List Char} {release : Nat}
    {ts : List (List Char)} :
    evaluateTerms symbol guard release ts = .ok true ↔
      ∀ t ∈ ts, evaluateTerm symbol guard release (trim t) = .ok true := by
  induction ts with
  | nil => simp [evaluateTerms]
  | cons t ts ih =>
    rw [evaluateTerms, List.forall_mem_cons, ← ih]
    cases evaluateTerm symbol guard release (trim t) with
    | error e => simp
    | ok b => cases b <;> simp

theorem evaluateTerms_guardTexts_eq_ok_true_iff {symbol guard : List Char} {release : Nat}
    {ts : List (List Char)} (hts : ∀ t ∈ ts, GuardText t) :
    evaluateTerms symbol guard release ts = .ok true ↔
      ∀ t ∈ ts, evaluateTerm symbol guard release t = .ok true := by
  rw [evaluateTerms_eq_ok_true_iff]
  exact forall₂_congr fun t ht => by rw [trim_of_trimmed (hts t ht).trimmed]

/-- A term is looked at only behind terms that hold, so the first term that does not hold
decides. -/
theorem evaluateTerms_eq_error_iff {symbol guard : List Char} {release : Nat}
    {ts : List (List Char)} {e : GuardError} :
    evaluateTerms symbol guard release ts = .error e ↔
      ∃ front t back, ts = front ++ t :: back ∧
        (∀ u ∈ front, evaluateTerm symbol guard release (trim u) = .ok true) ∧
        evaluateTerm symbol guard release (trim t) = .error e := by
  induction ts with
  | nil => simp [evaluateTerms]
  | cons t ts ih =>
    rw [evaluateTerms, exists_split_cons]
    simp only [List.forall_mem_cons]
    cases ht : evaluateTerm symbol guard release (trim t) with
    | error e' => simp
    | ok b =>
      cases b with
      | false => simp
      | true => simpa using ih

theorem evaluateTerms_guardTexts_eq_error_iff {symbol guard : List Char} {release : Nat}
    {ts : List (List Char)} (hts : ∀ t ∈ ts, GuardText t) {e : GuardError} :
    evaluateTerms symbol guard release ts = .error e ↔
      ∃ front t back, ts = front ++ t :: back ∧
        (∀ u ∈ front, evaluateTerm symbol guard release u = .ok true) ∧
        evaluateTerm symbol guard release t = .error e := by
  have htrim : ∀ t ∈ ts, trim t = t := fun t ht => trim_of_trimmed (hts t ht).trimmed
  rw [evaluateTerms_eq_error_iff]
  refine exists_congr fun front => exists_congr fun t => exists_congr fun back => ?_
  refine and_congr_right ?_
  rintro rfl
  rw [htrim t (by simp)]
  refine and_congr_left' (forall₂_congr fun u hu => ?_)
  rw [htrim u (List.mem_append_left _ hu)]

theorem terms_of_not_and {t : List Char} (h : '&' ∉ t) : terms t = [t] := by
  induction t with
  | nil => rfl
  | cons c t ih =>
    have hc : c ≠ '&' := fun hc => h (hc ▸ List.mem_cons_self ..)
    rw [terms, ih (fun ht => h (List.mem_cons_of_mem _ ht))]
    rintro _ rfl
    exact absurd rfl hc

theorem terms_append_and {t : List Char} (h : '&' ∉ t) (s : List Char) :
    terms (t ++ '&' :: '&' :: s) = t :: terms s := by
  induction t with
  | nil => rfl
  | cons c t ih =>
    have hc : c ≠ '&' := fun hc => h (hc ▸ List.mem_cons_self ..)
    rw [List.cons_append, terms, ih (fun ht => h (List.mem_cons_of_mem _ ht))]
    rintro _ rfl
    exact absurd rfl hc

theorem joined_singleton (t : List Char) : joined [t] = t :=
  List.intercalate_singleton

theorem joined_cons_cons (t u : List Char) (ts : List (List Char)) :
    joined (t :: u :: ts) = (t ++ [' ']) ++ '&' :: '&' :: ([' '] ++ joined (u :: ts)) := by
  unfold joined
  rw [List.intercalate_cons_cons]
  simp

theorem evaluateTerms_terms_joined {symbol guard : List Char} {release : Nat}
    {ts : List (List Char)} (hts : ∀ t ∈ ts, GuardText t) (hne : ts ≠ []) {b : List Char}
    (hb : ∀ c ∈ b, c = ' ') :
    evaluateTerms symbol guard release (terms (b ++ joined ts)) =
      evaluateTerms symbol guard release ts := by
  induction ts generalizing b with
  | nil => exact absurd rfl hne
  | cons t ts ih =>
    have ht := hts t (List.mem_cons_self ..)
    have hblank : ∀ c ∈ b, isBlank c = true := by
      intro c hc
      rw [hb c hc]
      decide
    have hand : '&' ∉ b := fun hmem => absurd (hb _ hmem) (by decide)
    cases ts with
    | nil =>
      have htrim : trim (b ++ (t ++ [])) = t :=
        trim_padded hblank (by simp) ht.trimmed ht.ne_nil
      rw [List.append_nil] at htrim
      rw [joined_singleton,
        terms_of_not_and (by simp [hand, ht.not_and])]
      simp only [evaluateTerms, htrim, trim_of_trimmed ht.trimmed]
    | cons u ts =>
      have htrim : trim (b ++ (t ++ [' '])) = t :=
        trim_padded hblank isBlank_space ht.trimmed ht.ne_nil
      rw [joined_cons_cons, ← List.append_assoc,
        terms_append_and (by simp [hand, ht.not_and]), evaluateTerms, evaluateTerms, htrim,
        trim_of_trimmed ht.trimmed,
        ih (fun v hv => hts v (List.mem_cons_of_mem _ hv)) (by simp) (by simp)]

theorem evaluate_joined (symbol : List Char) (release : Nat) {ts : List (List Char)}
    (hts : ∀ t ∈ ts, GuardText t) (hne : ts ≠ []) :
    evaluate symbol release (joined ts) = evaluateTerms symbol (joined ts) release ts :=
  evaluateTerms_terms_joined (b := []) hts hne (by simp)

theorem joined_ne_nil {ts : List (List Char)} (hts : ∀ t ∈ ts, t ≠ []) (hne : ts ≠ []) :
    joined ts ≠ [] := by
  cases ts with
  | nil => exact absurd rfl hne
  | cons t ts =>
    have ht := hts t (List.mem_cons_self ..)
    cases ts with
    | nil => rwa [joined_singleton]
    | cons u ts => simp [joined_cons_cons]

theorem isLine_joined {ts : List (List Char)} (hts : ∀ t ∈ ts, IsLine t ∧ t ≠ []) :
    IsLine (joined ts) := by
  induction ts with
  | nil => exact ⟨by decide, by decide⟩
  | cons t ts ih =>
    obtain ⟨ht, hts⟩ := List.forall_mem_cons.1 hts
    cases ts with
    | nil =>
      rw [joined_singleton]
      exact ht.1
    | cons u ts =>
      have hne := joined_ne_nil (fun v hv => (hts v hv).2) (List.cons_ne_nil u ts)
      have hfront : '\n' ∉ t ++ " && ".toList := by simp [ht.1.1]
      have hjoin := IsLine.append hfront (ih hts) hne
      rw [joined_cons_cons]
      simpa using hjoin

theorem trimmed_joined {ts : List (List Char)} (hts : ∀ t ∈ ts, GuardText t) (hne : ts ≠ []) :
    Trimmed (joined ts) := by
  induction ts with
  | nil => exact absurd rfl hne
  | cons t ts ih =>
    have ht := hts t (List.mem_cons_self ..)
    cases ts with
    | nil =>
      rw [joined_singleton]
      exact ht.trimmed
    | cons u ts =>
      have hrest : ∀ v ∈ u :: ts, GuardText v := fun v hv => hts v (List.mem_cons_of_mem _ hv)
      have hjoin := ht.trimmed.append ht.ne_nil (ih hrest (by simp))
        (joined_ne_nil (fun v hv => (hrest v hv).ne_nil) (by simp)) " && ".toList
      rw [joined_cons_cons]
      simpa using hjoin

end DefFragments.Library
