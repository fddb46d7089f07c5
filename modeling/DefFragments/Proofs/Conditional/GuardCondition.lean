import DefFragments.Proofs.Conditional.Condition
import DefFragments.Proofs.Library.GuardValue

/-!
# The condition of a repeated guard

A C preprocessor reads a guard that the fragments repeat as it is meant: the conjunction of its
comparisons, each turned around by an odd number of negations.
-/

namespace DefFragments.Preprocessor
open Text Conditional

/-! ### The tokens of a composed text -/

theorem tokensFrom_eq_tokens_drop (n : Nat) (s : List Char) :
    tokensFrom n s = tokens (s.drop n) := by
  induction s generalizing n with
  | nil => cases n <;> simp [tokens, tokensFrom]
  | cons c s ih =>
    cases n with
    | zero => rfl
    | succ n => exact ih n

theorem tokens_blanks_append {b : List Char} (hb : ∀ c ∈ b, isBlank c = true) (s : List Char) :
    tokens (b ++ s) = tokens s := by
  induction b with
  | nil => rfl
  | cons c b ih =>
    have hc : isBlank c = true := hb c (List.mem_cons_self ..)
    have hrest := ih fun x hx => hb x (List.mem_cons_of_mem _ hx)
    unfold tokens at hrest ⊢
    rw [List.cons_append, tokensFrom, if_pos hc, hrest]

theorem tokens_of_frontToken {t s : List Char} {token : Token} (hne : t ≠ [])
    (hb : StopsAt isBlank t) (h : frontToken (t ++ s) = (token, t.length)) :
    tokens (t ++ s) = token :: tokens s := by
  cases t with
  | nil => exact absurd rfl hne
  | cons c t =>
    have hc : isBlank c = false := stopsAt_cons.1 hb
    rw [List.cons_append] at h ⊢
    unfold tokens
    rw [tokensFrom, h, if_neg (by simp [hc]), tokensFrom_eq_tokens_drop]
    simp [tokens]

theorem not_startsWith_punctuator {c : Char} (hc : isNameChar c = true) (s : List Char) :
    ∀ e ∈ punctuators, startsWith e.1 (c :: s) = false := by
  have hsigns : ∀ e ∈ punctuators, (e.1.head?.any fun x => !isNameChar x) = true := by decide
  intro e he
  obtain ⟨x, hx, hno⟩ := (Option.any_eq_true _ _).1 (hsigns e he)
  obtain ⟨r, hr⟩ := List.head?_eq_some_iff.1 hx
  have hdiff : x ≠ c := by
    rintro rfl
    simp [hc] at hno
  simp [startsWith, hr, stripPrefix?, hdiff]

theorem tokens_word_append {w : List Char} (hne : w ≠ []) (hw : ∀ c ∈ w, isNameChar c = true)
    {s : List Char} (hs : StopsAt isNameChar s) : tokens (w ++ s) = .word w :: tokens s := by
  have hb : StopsAt isBlank w := by
    have hstop := StopsAt.append hne (fun c hc => not_isBlank_of_isNameChar (hw c hc)) []
    rwa [List.append_nil] at hstop
  apply tokens_of_frontToken hne hb
  have hfind : punctuators.find? (fun e => startsWith e.1 (w ++ s)) = none := by
    rw [List.find?_eq_none]
    intro e he
    cases w with
    | nil => exact absurd rfl hne
    | cons c w =>
      rw [List.cons_append, not_startsWith_punctuator (hw c (List.mem_cons_self ..)) _ e he]
      simp
  unfold frontToken
  rw [hfind]
  simp only [takeWhile_run hw hs, if_neg hne]

/-- The operators that C and a tracked comparison have in common. -/
def sharedOperators : List (List Char × Sign) :=
  [(['<'], .less), (['<', '='], .lessOrEqual), (['>'], .greater), (['>', '='], .greaterOrEqual),
    (['=', '='], .equal)]

theorem tokens_operator_append {operator : List Char} {sign : Sign}
    (h : (operator, sign) ∈ sharedOperators) {s : List Char} (hs : StopsAt isOperatorChar s) :
    tokens (operator ++ s) = .sign sign :: tokens s := by
  -- a single sign is not continued by a sign of equality
  have hequals : ∀ c r, s = c :: r → '=' ≠ c := by
    rintro c r rfl rfl
    exact absurd (stopsAt_cons.1 hs) (by decide)
  simp only [sharedOperators, List.mem_cons, Prod.mk.injEq, List.not_mem_nil, or_false] at h
  rcases h with ⟨rfl, rfl⟩ | ⟨rfl, rfl⟩ | ⟨rfl, rfl⟩ | ⟨rfl, rfl⟩ | ⟨rfl, rfl⟩
  · apply tokens_of_frontToken (by simp) (stopsAt_cons.2 (by decide))
    cases s with
    | nil => rfl
    | cons c r => simp [frontToken, punctuators, startsWith, stripPrefix?, hequals c r rfl]
  · exact tokens_of_frontToken (by simp) (stopsAt_cons.2 (by decide)) rfl
  · apply tokens_of_frontToken (by simp) (stopsAt_cons.2 (by decide))
    cases s with
    | nil => rfl
    | cons c r => simp [frontToken, punctuators, startsWith, stripPrefix?, hequals c r rfl]
  · exact tokens_of_frontToken (by simp) (stopsAt_cons.2 (by decide)) rfl
  · exact tokens_of_frontToken (by simp) (stopsAt_cons.2 (by decide)) rfl

theorem tokens_not_left (s : List Char) :
    tokens ('!' :: '(' :: s) = .sign .not :: .left :: tokens s := by
  have hnot : tokens (['!'] ++ '(' :: s) = .sign .not :: tokens ('(' :: s) :=
    tokens_of_frontToken (by simp) (stopsAt_cons.2 (by decide)) rfl
  have hleft : tokens (['('] ++ s) = .left :: tokens s :=
    tokens_of_frontToken (by simp) (stopsAt_cons.2 (by decide)) rfl
  exact hnot.trans (congrArg _ hleft)

theorem tokens_right (s : List Char) : tokens (')' :: s) = .right :: tokens s :=
  tokens_of_frontToken (t := [')']) (by simp) (stopsAt_cons.2 (by decide)) rfl

theorem tokens_and (s : List Char) : tokens ('&' :: '&' :: s) = .sign .and :: tokens s :=
  tokens_of_frontToken (t := ['&', '&']) (by simp) (stopsAt_cons.2 (by decide)) rfl

/-! ### One term -/

/-- A term of a guard that C can read: a comparison inside negations. -/
structure Term where
  negations : Nat
  comparison : Comparison
  sign : Sign
  sign_mem : (comparison.operator, sign) ∈ sharedOperators

namespace Term

def text (symbol : List Char) (t : Term) : List Char :=
  Library.enclosed t.negations (t.comparison.spelling symbol)

def value (p : Platform) (t : Term) : Bool :=
  compares t.comparison.operator p.release (p.number t.comparison.digits) !=
    (t.negations % 2 == 1)

/-- The tokens of a comparison inside negations. -/
def tokensInside (symbol : List Char) (t : Term) : Nat → List Token
  | 0 => [.word symbol, .sign t.sign, .word t.comparison.digits]
  | n + 1 => .sign .not :: .left :: (tokensInside symbol t n ++ [.right])

/-- What is left of a comparison inside negations, once its parentheses are closed. -/
def atomsInside (p : Platform) (t : Term) : Nat → List Atom
  | 0 => [.number p.release, .sign t.sign, .number (p.number t.comparison.digits)]
  | n + 1 => [.sign .not, .number (truth (value p { t with negations := n }))]

theorem tokens_enclosed_append {symbol : List Char} (hsym : isIdentifier symbol = true) (t : Term)
    (n : Nat) {s : List Char} (hs : StopsAt isNameChar s) :
    tokens (Library.enclosed n (t.comparison.spelling symbol) ++ s) =
      t.tokensInside symbol n ++ tokens s := by
  obtain ⟨-, c, sign, hsign⟩ := t
  induction n generalizing s with
  | zero =>
    have hdigits : ∀ x ∈ c.digits, isNameChar x = true :=
      fun x hx => isNameChar_of_isDigit (c.digits_digit x hx)
    simp only [Library.enclosed, Comparison.spelling_append, tokensInside]
    rw [tokens_word_append (identifier_ne_nil hsym) (isNameChar_of_mem_identifier hsym)
        (c.stopsAt_name_leftGap _), tokens_blanks_append c.leftGap_blank,
      tokens_operator_append hsign (c.stopsAt_operator_rightGap _),
      tokens_blanks_append c.rightGap_blank, tokens_word_append c.digits_ne_nil hdigits hs]
    rfl
  | succ n ih =>
    have hclose : StopsAt isNameChar (')' :: s) := stopsAt_cons.2 (by decide)
    simp only [Library.enclosed, List.cons_append, List.append_assoc, List.nil_append, tokensInside]
    rw [tokens_not_left, ih hclose, tokens_right]

theorem sign_apply {operator : List Char} {sign : Sign} (h : (operator, sign) ∈ sharedOperators)
    (a b : Nat) : sign.apply a b = truth (compares operator a b) := by
  simp only [sharedOperators, List.mem_cons, Prod.mk.injEq, List.not_mem_nil, or_false] at h
  rcases h with ⟨rfl, rfl⟩ | ⟨rfl, rfl⟩ | ⟨rfl, rfl⟩ | ⟨rfl, rfl⟩ | ⟨rfl, rfl⟩ <;>
    simp [Sign.apply, compares, ← Bool.beq_eq_decide_eq]

theorem equality?_comparison {operator : List Char} {sign : Sign}
    (h : (operator, sign) ∈ sharedOperators) (a b : Nat) :
    equality? [.number a, .sign sign, .number b] = some (truth (compares operator a b)) := by
  rw [← sign_apply h]
  simp only [sharedOperators, List.mem_cons, Prod.mk.injEq, List.not_mem_nil, or_false] at h
  rcases h with ⟨-, rfl⟩ | ⟨-, rfl⟩ | ⟨-, rfl⟩ | ⟨-, rfl⟩ | ⟨-, rfl⟩ <;> rfl

theorem truth_eq_zero (b : Bool) : (truth b == 0) = !b := by
  cases b <;> rfl

theorem value_succ (p : Platform) (t : Term) (n : Nat) :
    value p { t with negations := n + 1 } = !value p { t with negations := n } := by
  unfold value
  rcases Nat.mod_two_eq_zero_or_one n with hn | hn
  · have hnext : (n + 1) % 2 = 1 := by omega
    simp [hn, hnext]
  · have hnext : (n + 1) % 2 = 0 := by omega
    simp [hn, hnext]

theorem equality?_atomsInside (p : Platform) (t : Term) (n : Nat) :
    equality? (t.atomsInside p n) = some (truth (value p { t with negations := n })) := by
  cases n with
  | zero =>
    rw [atomsInside, equality?_comparison t.sign_mem]
    simp [value]
  | succ n =>
    rw [value_succ, ← truth_eq_zero]
    rfl

/-- A term has no logical operator, so only the inner levels of precedence see it. -/
theorem not_logical_mem_atomsInside (p : Platform) (t : Term) (n : Nat) :
    ∀ s, .sign s ∈ t.atomsInside p n → s ≠ .and ∧ s ≠ .or := by
  intro s hs
  cases n with
  | zero =>
    have hlogical : ∀ e ∈ sharedOperators, e.2 ≠ .and ∧ e.2 ≠ .or := by decide
    have hsign : s = t.sign := by simpa [atomsInside] using hs
    rw [hsign]
    exact hlogical _ t.sign_mem
  | succ n =>
    have hnot : s = .not := by simpa [atomsInside] using hs
    simp [hnot]

end Term

/-! ### Levels of precedence -/

theorem operands_of_not_mem {ops : List Sign} {as : List Atom}
    (h : ∀ s, .sign s ∈ as → s ∉ ops) : operands ops as = (as, []) := by
  induction as with
  | nil => rfl
  | cons a as ih =>
    have hrest := ih fun s hs => h s (List.mem_cons_of_mem _ hs)
    cases a with
    | number n => rw [operands, hrest]
    | sign s => rw [operands, hrest, if_neg (h s (List.mem_cons_self ..))]

theorem operands_append {ops : List Sign} {as bs : List Atom} {s : Sign}
    (h : ∀ s, .sign s ∈ as → s ∉ ops) (hs : s ∈ ops) :
    operands ops (as ++ .sign s :: bs) =
      (as, (s, (operands ops bs).1) :: (operands ops bs).2) := by
  induction as with
  | nil => simp [operands, hs]
  | cons a as ih =>
    have hrest := ih fun s hs => h s (List.mem_cons_of_mem _ hs)
    cases a with
    | number n => rw [List.cons_append, operands, hrest]
    | sign s' => rw [List.cons_append, operands, hrest, if_neg (h s' (List.mem_cons_self ..))]

theorem level?_of_not_mem {ops : List Sign} (operand? : List Atom → Option Nat) {as : List Atom}
    (h : ∀ s, .sign s ∈ as → s ∉ ops) : level? ops operand? as = operand? as := by
  unfold level?
  rw [operands_of_not_mem h]
  cases operand? as <;> rfl

/-! ### Conjunctions -/

namespace Term

variable (p : Platform)

def atoms (t : Term) : List Atom :=
  t.atomsInside p t.negations

def conjunctionAtoms (t : Term) : List Term → List Atom
  | [] => t.atoms p
  | u :: ts => t.atoms p ++ .sign .and :: conjunctionAtoms u ts

theorem operands_conjunctionAtoms (t : Term) (ts : List Term) :
    operands [.and] (conjunctionAtoms p t ts) =
      (t.atoms p, ts.map fun u => (.and, u.atoms p)) := by
  have hnot : ∀ t : Term, ∀ s, .sign s ∈ t.atoms p → s ∉ [Sign.and] := by
    intro t s hs
    simpa using (t.not_logical_mem_atomsInside p _ s hs).1
  induction ts generalizing t with
  | nil => exact operands_of_not_mem (hnot t)
  | cons u ts ih =>
    rw [conjunctionAtoms, operands_append (hnot t) (by simp), ih u]
    rfl

theorem not_or_mem_conjunctionAtoms (t : Term) (ts : List Term) :
    .sign .or ∉ conjunctionAtoms p t ts := by
  have hnot : ∀ t : Term, .sign .or ∉ t.atoms p :=
    fun t hmem => (t.not_logical_mem_atomsInside p _ _ hmem).2 rfl
  induction ts generalizing t with
  | nil => exact hnot t
  | cons u ts ih => simp [conjunctionAtoms, hnot t, ih u]

theorem chain_and (n : Nat) (ts : List Term) :
    ∃ m, chain equality? n (ts.map fun u => (.and, u.atoms p)) = some m ∧
      (m != 0) = ((n != 0) && ts.all (value p)) := by
  induction ts generalizing n with
  | nil => exact ⟨n, rfl, by simp⟩
  | cons t ts ih =>
    have ht : equality? (t.atoms p) = some (truth (t.value p)) := equality?_atomsInside p t _
    obtain ⟨m, hm, hvalue⟩ := ih (Sign.and.apply n (truth (t.value p)))
    refine ⟨m, ?_, ?_⟩
    · rw [List.map_cons, chain, ht, Option.bind_some, hm]
    · rw [hvalue, List.all_cons, ← Bool.and_assoc]
      congr 1
      cases t.value p <;> cases n <;> rfl

theorem value?_conjunctionAtoms (t : Term) (ts : List Term) :
    ∃ m, value? (conjunctionAtoms p t ts) = some m ∧ (m != 0) = (t :: ts).all (value p) := by
  have hor : ∀ s, .sign s ∈ conjunctionAtoms p t ts → s ∉ [Sign.or] := by
    intro s hs hmem
    obtain rfl := List.mem_singleton.1 hmem
    exact not_or_mem_conjunctionAtoms p t ts hs
  have ht : equality? (t.atoms p) = some (truth (t.value p)) := equality?_atomsInside p t _
  obtain ⟨m, hm, hvalue⟩ := chain_and p (truth (t.value p)) ts
  refine ⟨m, ?_, ?_⟩
  · unfold value?
    rw [level?_of_not_mem _ hor]
    unfold conjunction? level?
    rw [operands_conjunctionAtoms, ht, Option.bind_some, hm]
  · rw [hvalue, List.all_cons]
    cases t.value p <;> rfl

/-! ### Reading a guard -/

variable {symbol : List Char} (hsym : isIdentifier symbol = true)
include hsym

theorem wordValue?_symbol : wordValue? p symbol symbol = some p.release := by
  have hstart : symbol.all isDigit = false := by
    cases symbol with
    | nil => simp [isIdentifier] at hsym
    | cons c s =>
      have hc : isNameStart c = true := by
        simp only [isIdentifier, Bool.and_eq_true] at hsym
        exact hsym.1
      rw [List.all_cons, not_isDigit_of_isNameStart hc, Bool.false_and]
  simp [wordValue?, hstart, hsym]

theorem evaluate?_tokensInside (t : Term) (n : Nat) (ts : List Token) (around : List (List Atom))
    (as : List Atom) :
    evaluate? p symbol (t.tokensInside symbol n ++ ts) around as =
      evaluate? p symbol ts around (as ++ t.atomsInside p n) := by
  induction n generalizing ts around as with
  | zero =>
    have hdigits : t.comparison.digits.all isDigit = true :=
      List.all_eq_true.2 t.comparison.digits_digit
    have hnumber : wordValue? p symbol t.comparison.digits =
        some (p.number t.comparison.digits) := by
      simp [wordValue?, hdigits]
    simp only [tokensInside, List.cons_append, List.nil_append, evaluate?, wordValue?_symbol p hsym,
      hnumber, Option.bind_some, atomsInside, List.append_assoc]
  | succ n ih =>
    have hvalue : value? (t.atomsInside p n) =
        some (truth (value p { t with negations := n })) := by
      have hnot := t.not_logical_mem_atomsInside p n
      unfold value?
      rw [level?_of_not_mem _ fun s hs => by simpa using (hnot s hs).2]
      unfold conjunction?
      rw [level?_of_not_mem _ fun s hs => by simpa using (hnot s hs).1, equality?_atomsInside]
    simp only [tokensInside, List.cons_append, List.append_assoc, List.nil_append, evaluate?]
    rw [ih, List.nil_append, evaluate?, hvalue, Option.bind_some, List.append_assoc]
    rfl

theorem evaluate?_joined (t : Term) (ts : List Term) (as : List Atom) :
    evaluate? p symbol (tokens (Library.joined ((t :: ts).map (text symbol)))) [] as =
      value? (as ++ conjunctionAtoms p t ts) := by
  induction ts generalizing t as with
  | nil =>
    have htokens := t.tokens_enclosed_append hsym t.negations (stopsAt_nil _)
    rw [List.append_nil] at htokens
    rw [List.map_singleton, show Library.joined [t.text symbol] = t.text symbol from
      List.intercalate_singleton, text, htokens, evaluate?_tokensInside p hsym]
    rfl
  | cons u ts ih =>
    have hspace : ∀ s, tokens (' ' :: s) = tokens s :=
      fun s => tokens_blanks_append isBlank_space s
    have htokens := fun s => t.tokens_enclosed_append hsym t.negations
      (s := ' ' :: s) (stopsAt_cons.2 (by decide))
    simp only [List.map_cons] at ih ⊢
    rw [Library.joined_cons_cons]
    simp only [List.append_assoc, List.cons_append, List.nil_append]
    rw [text, htokens, hspace, tokens_and, hspace, evaluate?_tokensInside p hsym, evaluate?, ih]
    simp [conjunctionAtoms, atoms]

/-- A C preprocessor reads a repeated guard as the conjunction of its terms. -/
theorem holds_joined {ts : List Term} (hne : ts ≠ []) :
    holds p symbol (Library.joined (ts.map (text symbol))) = ts.all (value p) := by
  cases ts with
  | nil => exact absurd rfl hne
  | cons t ts =>
    obtain ⟨m, hm, hvalue⟩ := value?_conjunctionAtoms p t ts
    unfold holds
    rw [evaluate?_joined p hsym, List.nil_append, hm, ← hvalue]
    rfl

theorem holds_text (t : Term) : holds p symbol (t.text symbol) = t.value p := by
  have hone := holds_joined p hsym (List.cons_ne_nil t [])
  rwa [List.map_singleton, show Library.joined [t.text symbol] = t.text symbol from
    List.intercalate_singleton, List.all_cons, List.all_nil, Bool.and_true] at hone

/-- The condition of a tracked line, blanks behind it, is read as its comparison. -/
theorem holds_comparison {c : Comparison} {sign : Sign} (h : (c.operator, sign) ∈ sharedOperators)
    {b : List Char} (hb : ∀ x ∈ b, isBlank x = true) :
    holds p symbol (c.spelling symbol ++ b) =
      compares c.operator p.release (p.number c.digits) := by
  let t : Term := ⟨0, c, sign, h⟩
  have hstop : StopsAt isNameChar b := by
    have hstop := StopsAt.append_of_stopsAt
      (fun x hx => not_isNameChar_of_isBlank (hb x hx)) (stopsAt_nil isNameChar)
    rwa [List.append_nil] at hstop
  have hblank : tokens b = [] := by
    have htokens := tokens_blanks_append hb []
    rwa [List.append_nil] at htokens
  have htokens := t.tokens_enclosed_append hsym 0 hstop
  obtain ⟨m, hm, hvalue⟩ := value?_conjunctionAtoms p t []
  unfold holds
  rw [show c.spelling symbol ++ b = Library.enclosed 0 (t.comparison.spelling symbol) ++ b from rfl,
    htokens, hblank, evaluate?_tokensInside p hsym]
  rw [show evaluate? p symbol [] [] ([] ++ t.atomsInside p 0) = some m from hm]
  rw [show Option.any (· != 0) (some m) = (m != 0) from rfl, hvalue]
  simp [value, t]

end Term

end DefFragments.Preprocessor
