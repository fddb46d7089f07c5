import DefFragments.Text.Affix
import DefFragments.Text.Blank
import Mathlib.Data.List.TakeWhile

/-!
# Runs of a character class

A line grammar takes the longest run of a class and goes on with what is left. Where a text is given
as a run and a rest that cannot extend it, both parts come back. The classes that follow each other
in a comparison (names, blanks, operators, digits) are disjoint.
-/

namespace DefFragments.Text

/-- The text does not begin with a character of the class. -/
def StopsAt (p : Char → Bool) (s : List Char) : Prop :=
  ∀ c ∈ s.head?, p c = false

theorem stopsAt_nil (p : Char → Bool) : StopsAt p [] := by
  intro c hc
  simp at hc

theorem stopsAt_cons {p : Char → Bool} {c : Char} {s : List Char} :
    StopsAt p (c :: s) ↔ p c = false := by
  simp [StopsAt]

theorem stopsAt_dropWhile (p : Char → Bool) (s : List Char) : StopsAt p (s.dropWhile p) := by
  intro c hc
  have h := List.head?_dropWhile_not p s
  rw [Option.mem_def.1 hc] at h
  simpa using h

/-- A nonempty run of another class in front keeps the text from beginning with this one. -/
theorem StopsAt.append {p : Char → Bool} {s : List Char} (hne : s ≠ [])
    (hs : ∀ c ∈ s, p c = false) (t : List Char) : StopsAt p (s ++ t) := by
  cases s with
  | nil => exact absurd rfl hne
  | cons c s => exact stopsAt_cons.2 (hs c (List.mem_cons_self ..))

theorem StopsAt.append_of_stopsAt {p : Char → Bool} {s t : List Char}
    (hs : ∀ c ∈ s, p c = false) (ht : StopsAt p t) : StopsAt p (s ++ t) := by
  cases s with
  | nil => exact ht
  | cons c s => exact stopsAt_cons.2 (hs c (List.mem_cons_self ..))

theorem takeWhile_run {p : Char → Bool} {run rest : List Char} (hrun : ∀ c ∈ run, p c = true)
    (hrest : StopsAt p rest) : (run ++ rest).takeWhile p = run := by
  rw [List.takeWhile_append_of_pos hrun]
  cases rest with
  | nil => simp
  | cons c rest => simp [stopsAt_cons.1 hrest]

theorem dropWhile_run {p : Char → Bool} {run rest : List Char} (hrun : ∀ c ∈ run, p c = true)
    (hrest : StopsAt p rest) : (run ++ rest).dropWhile p = rest := by
  rw [List.dropWhile_append_of_pos hrun]
  cases rest with
  | nil => rfl
  | cons c rest => simp [stopsAt_cons.1 hrest]

/-! ### Up to a character -/

theorem takeWhile_upTo {a : Char} {s : List Char} (hs : a ∉ s) (rest : List Char) :
    (s ++ a :: rest).takeWhile (· != a) = s :=
  takeWhile_run (fun _ hc => bne_iff_ne.2 fun heq => hs (heq ▸ hc))
    (stopsAt_cons.2 (bne_self_eq_false a))

theorem dropWhile_upTo {a : Char} {s : List Char} (hs : a ∉ s) (rest : List Char) :
    (s ++ a :: rest).dropWhile (· != a) = a :: rest :=
  dropWhile_run (fun _ hc => bne_iff_ne.2 fun heq => hs (heq ▸ hc))
    (stopsAt_cons.2 (bne_self_eq_false a))

theorem not_mem_takeWhile_upTo (a : Char) (s : List Char) : a ∉ s.takeWhile (· != a) := by
  intro hmem
  simpa using List.mem_takeWhile_imp hmem

theorem eq_takeWhile_upTo {a : Char} {s rest : List Char} (h : s.dropWhile (· != a) = a :: rest) :
    s = s.takeWhile (· != a) ++ a :: rest := by
  rw [← h, List.takeWhile_append_dropWhile]

/-! ### Blanks around a text -/

theorem isBlank_space : ∀ c ∈ [' '], isBlank c = true :=
  List.all_eq_true.1 rfl

theorem dropBlanks_of_stopsAt {s : List Char} (h : StopsAt isBlank s) : dropBlanks s = s :=
  dropWhile_run (List.forall_mem_nil _) h

theorem dropBlanks_append {b s : List Char} (hb : ∀ c ∈ b, isBlank c = true)
    (hs : StopsAt isBlank s) : dropBlanks (b ++ s) = s :=
  dropWhile_run hb hs

theorem exists_blanks (s : List Char) :
    ∃ b, (∀ c ∈ b, isBlank c = true) ∧ s = b ++ dropBlanks s ∧ StopsAt isBlank (dropBlanks s) :=
  ⟨s.takeWhile isBlank, fun _ hc => List.mem_takeWhile_imp hc, List.takeWhile_append_dropWhile.symm,
    stopsAt_dropWhile _ _⟩

/-- A text with no blank at either end. -/
def Trimmed (s : List Char) : Prop :=
  StopsAt isBlank s ∧ StopsAt isBlank s.reverse

theorem trim_padded {b s b' : List Char} (hb : ∀ c ∈ b, isBlank c = true)
    (hb' : ∀ c ∈ b', isBlank c = true) (hs : Trimmed s) (hne : s ≠ []) :
    trim (b ++ (s ++ b')) = s := by
  have hfront : StopsAt isBlank (s ++ b') := by
    cases s with
    | nil => exact absurd rfl hne
    | cons c s => exact stopsAt_cons.2 (stopsAt_cons.1 hs.1)
  have hback : ∀ c ∈ b'.reverse, isBlank c = true := fun c hc => hb' c (List.mem_reverse.1 hc)
  unfold trim dropTrailingBlanks
  rw [dropBlanks_append hb hfront, List.reverse_append, dropBlanks_append hback hs.2,
    List.reverse_reverse]

theorem exists_trim_append (s : List Char) :
    ∃ gap, (∀ c ∈ gap, isBlank c = true) ∧ dropBlanks s = trim s ++ gap := by
  obtain ⟨back, hback, hrest, -⟩ := exists_blanks (dropBlanks s).reverse
  refine ⟨back.reverse, fun c hc => hback c (List.mem_reverse.1 hc), ?_⟩
  unfold trim dropTrailingBlanks
  rw [← List.reverse_append, ← hrest, List.reverse_reverse]

theorem exists_padding (s : List Char) :
    ∃ gap gap', (∀ c ∈ gap, isBlank c = true) ∧ (∀ c ∈ gap', isBlank c = true) ∧
      s = gap ++ (trim s ++ gap') := by
  obtain ⟨gap, hgap, hs, -⟩ := exists_blanks s
  obtain ⟨gap', hgap', hdrop⟩ := exists_trim_append s
  exact ⟨gap, gap', hgap, hgap', hdrop ▸ hs⟩

theorem trimmed_trim (s : List Char) : Trimmed (trim s) := by
  constructor
  · obtain ⟨gap, -, hdrop⟩ := exists_trim_append s
    have hstop : StopsAt isBlank (dropBlanks s) := stopsAt_dropWhile _ _
    rw [hdrop] at hstop
    cases htrim : trim s with
    | nil => exact stopsAt_nil _
    | cons c u =>
      rw [htrim] at hstop
      exact stopsAt_cons.2 (stopsAt_cons.1 hstop)
  · unfold trim dropTrailingBlanks
    rw [List.reverse_reverse]
    exact stopsAt_dropWhile _ _

theorem trim_of_trimmed {s : List Char} (h : Trimmed s) : trim s = s := by
  unfold trim dropTrailingBlanks
  rw [dropBlanks_of_stopsAt h.1, dropBlanks_of_stopsAt h.2, List.reverse_reverse]

theorem trim_eq_nil_iff {s : List Char} : trim s = [] ↔ ∀ c ∈ s, isBlank c = true := by
  have hdrop : ∀ {t : List Char}, dropBlanks t = [] ↔ ∀ c ∈ t, isBlank c = true :=
    fun {t} => List.dropWhile_eq_nil_iff
  unfold trim dropTrailingBlanks
  rw [List.reverse_eq_nil_iff, hdrop]
  simp only [List.mem_reverse]
  constructor
  · intro h
    by_contra hnot
    have hne : dropBlanks s ≠ [] := fun hnil => hnot (hdrop.1 hnil)
    obtain ⟨c, t, hc⟩ := List.exists_cons_of_ne_nil hne
    have hstop := stopsAt_dropWhile isBlank s
    rw [dropBlanks] at hc h
    rw [hc] at hstop h
    exact absurd (h c (List.mem_cons_self ..)) (by simp [stopsAt_cons.1 hstop])
  · intro h
    rw [hdrop.2 h]
    exact List.forall_mem_nil _

theorem Trimmed.append {s u : List Char} (hs : Trimmed s) (hsne : s ≠ []) (hu : Trimmed u)
    (hune : u ≠ []) (m : List Char) : Trimmed (s ++ (m ++ u)) := by
  have hkeep : ∀ {a : List Char}, StopsAt isBlank a → a ≠ [] → ∀ b, StopsAt isBlank (a ++ b) := by
    intro a ha hane b
    cases a with
    | nil => exact absurd rfl hane
    | cons c a => exact stopsAt_cons.2 (stopsAt_cons.1 ha)
  constructor
  · exact hkeep hs.1 hsne _
  · rw [List.reverse_append, List.reverse_append, List.append_assoc]
    exact hkeep hu.2 (by simpa using hune) _

/-! ### Disjoint classes -/

theorem isDigit_iff {c : Char} : isDigit c = true ↔ 48 ≤ c.toNat ∧ c.toNat ≤ 57 := by
  simp only [isDigit, Bool.and_eq_true, decide_eq_true_eq, Char.le_def, UInt32.le_iff_toNat_le]
  rfl

theorem isDigit_of_mem_toString {n : Nat} : ∀ c ∈ (toString n).toList, isDigit c = true := by
  intro c hc
  have hmem : c ∈ Nat.toDigits 10 n := by rwa [← Nat.toList_repr]
  have hdigit := Nat.isDigit_of_mem_toDigits (by decide) (by decide) hmem
  simpa [isDigit, Char.isDigit, Char.le_def] using hdigit

theorem isNameStart_iff {c : Char} :
    isNameStart c = true ↔
      (65 ≤ c.toNat ∧ c.toNat ≤ 90) ∨ (97 ≤ c.toNat ∧ c.toNat ≤ 122) ∨ c.toNat = 95 := by
  have hlow : c = '_' ↔ c.toNat = 95 := by
    rw [← Char.toNat_inj]
    rfl
  simp only [isNameStart, isLetter, Bool.or_eq_true, Bool.and_eq_true, decide_eq_true_eq,
    beq_iff_eq, Char.le_def, UInt32.le_iff_toNat_le, hlow, or_assoc]
  rfl

theorem isNameChar_of_isDigit {c : Char} (h : isDigit c = true) : isNameChar c = true := by
  simp [isNameChar, h]

theorem isNameChar_of_isNameStart {c : Char} (h : isNameStart c = true) : isNameChar c = true := by
  simp [isNameChar, h]

theorem not_isDigit_of_isNameStart {c : Char} (h : isNameStart c = true) : isDigit c = false := by
  rw [isNameStart_iff] at h
  rw [Bool.eq_false_iff, ne_eq, isDigit_iff]
  omega

theorem not_isBlank_of_isNameChar {c : Char} (h : isNameChar c = true) : isBlank c = false := by
  simp only [isNameChar, Bool.or_eq_true, isNameStart_iff, isDigit_iff] at h
  simp only [isBlank, Bool.or_eq_false_iff, Bool.and_eq_false_iff, decide_eq_false_iff_not,
    beq_eq_false_iff_ne]
  omega

theorem not_isBlank_of_isDigit {c : Char} (h : isDigit c = true) : isBlank c = false :=
  not_isBlank_of_isNameChar (isNameChar_of_isDigit h)

theorem not_isNameChar_of_isBlank {c : Char} (h : isBlank c = true) : isNameChar c = false := by
  by_contra hc
  have hn := not_isBlank_of_isNameChar (by simpa using hc)
  simp [h] at hn

theorem not_isDigit_of_isBlank {c : Char} (h : isBlank c = true) : isDigit c = false := by
  by_contra hc
  have hb := not_isBlank_of_isDigit (by simpa using hc)
  simp [h] at hb

/-! ### Identifiers -/

theorem isNameChar_of_mem_identifier {s : List Char} (h : isIdentifier s = true) :
    ∀ c ∈ s, isNameChar c = true := by
  cases s with
  | nil => simp [isIdentifier] at h
  | cons c s =>
    simp only [isIdentifier, Bool.and_eq_true, List.all_eq_true] at h
    intro x hx
    rcases List.mem_cons.1 hx with rfl | hx
    · exact isNameChar_of_isNameStart h.1
    · exact h.2 x hx

theorem identifier_ne_nil {s : List Char} (h : isIdentifier s = true) : s ≠ [] := by
  rintro rfl
  simp [isIdentifier] at h

end DefFragments.Text
