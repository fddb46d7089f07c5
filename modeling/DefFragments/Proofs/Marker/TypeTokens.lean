import DefFragments.Announcement
import DefFragments.Proofs.Text.Runs

/-!
# The tokens of a type spelling

A type spelling is told by its tokens: blanks separate them, and every star is a token of its own,
whether blanks stand around it or not. A constant type is read exactly where the tokens are those of
its own spelling.
-/

namespace DefFragments.ConstantType
open Text

/-- These are the tokens of a text. -/
inductive Tokens : List Char → List String → Prop
  | nil : Tokens [] []
  | blank {c s tokens} : isBlank c = true → Tokens s tokens → Tokens (c :: s) tokens
  | star {s tokens} : Tokens s tokens → Tokens ('*' :: s) ("*" :: tokens)
  | word {w s tokens} : w ≠ [] → (∀ c ∈ w, isBlank c = false ∧ c ≠ '*') →
      (∀ c ∈ s.head?, isBlank c = true ∨ c = '*') → Tokens s tokens →
      Tokens (w ++ s) (String.ofList w :: tokens)

/-! ### Words -/

theorem words_cons_of_isBlank {c : Char} (hc : isBlank c = true) (s : List Char) :
    words (c :: s) = words s := by
  simp [words, pieces, hc]

theorem words_append {w s : List Char} (hne : w ≠ []) (hw : ∀ c ∈ w, isBlank c = false)
    (hs : ∀ c ∈ s.head?, isBlank c = true) : words (w ++ s) = w :: words s := by
  have hpieces : pieces isBlank w = [w] := pieces_eq_singleton hw
  cases s with
  | nil => simp [words, hpieces, hne, pieces]
  | cons c s =>
    have hc : isBlank c = true := hs c rfl
    rw [words_cons_of_isBlank hc, words, pieces_append_cons hc, hpieces]
    simp [words, hne]

/-! ### Tokens and words -/

/-- The text with a space on both sides of every star. -/
def spread (s : List Char) : List Char :=
  s.flatMap fun c => if c = '*' then [' ', '*', ' '] else [c]

theorem spread_cons {c : Char} (hc : c ≠ '*') (s : List Char) :
    spread (c :: s) = c :: spread s := by
  simp [spread, hc]

theorem spread_star (s : List Char) : spread ('*' :: s) = ' ' :: '*' :: ' ' :: spread s := by
  simp [spread]

theorem spread_append {w : List Char} (hw : ∀ c ∈ w, c ≠ '*') (s : List Char) :
    spread (w ++ s) = w ++ spread s := by
  induction w with
  | nil => rfl
  | cons c w ih =>
    rw [List.cons_append, spread_cons (hw c (List.mem_cons_self ..)),
      ih fun x hx => hw x (List.mem_cons_of_mem _ hx), List.cons_append]

theorem head?_spread {s : List Char} (hs : ∀ c ∈ s.head?, isBlank c = true ∨ c = '*') :
    ∀ c ∈ (spread s).head?, isBlank c = true := by
  cases s with
  | nil => simp [spread]
  | cons c s =>
    by_cases hc : c = '*'
    · subst hc
      rw [spread_star]
      simpa using isBlank_space
    · rw [spread_cons hc]
      simpa using (hs c rfl).resolve_right hc

theorem spelledWords_of_tokens {s : List Char} {tokens : List String} (h : Tokens s tokens) :
    spelledWords s = tokens := by
  show (words (spread s)).map String.ofList = tokens
  induction h with
  | nil => rfl
  | @blank c s tokens hc _ ih =>
    have hstar : c ≠ '*' := by
      rintro rfl
      exact absurd hc (by decide)
    rw [spread_cons hstar, words_cons_of_isBlank hc, ih]
  | @star s tokens _ ih =>
    have hstar : words (['*'] ++ ' ' :: spread s) = ['*'] :: words (' ' :: spread s) :=
      words_append (by decide) (List.forall_mem_singleton.2 rfl) (by simpa using isBlank_space)
    rw [List.singleton_append] at hstar
    rw [spread_star, words_cons_of_isBlank (by decide), hstar, words_cons_of_isBlank (by decide),
      List.map_cons, ih]
  | @word w s tokens hne hw hs _ ih =>
    rw [spread_append fun c hc => (hw c hc).2,
      words_append hne (fun c hc => (hw c hc).1) (head?_spread hs), List.map_cons, ih]

/-- Another character in front begins a word or extends the first one. -/
theorem exists_tokens_cons {c : Char} (hc : isBlank c = false ∧ c ≠ '*') {s : List Char}
    {tokens : List String} (h : Tokens s tokens) : ∃ tokens', Tokens (c :: s) tokens' := by
  have hsingle : ∀ x ∈ [c], isBlank x = false ∧ x ≠ '*' := by simpa using hc
  have hbegin : (∀ x ∈ s.head?, isBlank x = true ∨ x = '*') → ∃ tokens', Tokens (c :: s) tokens' :=
    fun hs => ⟨_, .word (List.cons_ne_nil c []) hsingle hs h⟩
  cases h with
  | nil => exact hbegin (by simp)
  | blank hblank _ => exact hbegin (by simp [hblank])
  | star _ => exact hbegin (by simp)
  | @word w s tokens _ hw hs hrest =>
    exact ⟨_, .word (List.cons_ne_nil c w) (List.forall_mem_cons.2 ⟨hc, hw⟩) hs hrest⟩

theorem exists_tokens (s : List Char) : ∃ tokens, Tokens s tokens := by
  induction s with
  | nil => exact ⟨_, .nil⟩
  | cons c s ih =>
    obtain ⟨tokens, h⟩ := ih
    by_cases hblank : isBlank c = true
    · exact ⟨_, .blank hblank h⟩
    · by_cases hstar : c = '*'
      · subst hstar
        exact ⟨_, .star h⟩
      · exact exists_tokens_cons ⟨by simpa using hblank, hstar⟩ h

theorem tokens_iff {s : List Char} {tokens : List String} :
    Tokens s tokens ↔ spelledWords s = tokens := by
  constructor
  · exact spelledWords_of_tokens
  · rintro rfl
    obtain ⟨tokens, h⟩ := exists_tokens s
    rwa [spelledWords_of_tokens h]

theorem ofSpelling?_eq_some_iff_tokens {s : List Char} {type : ConstantType} :
    ofSpelling? s = some type ↔ Tokens s type.spelling := by
  rw [ofSpelling?_eq_some_iff, tokens_iff, eq_comm]

theorem ofSpelling?_eq_none_iff {s : List Char} :
    ofSpelling? s = none ↔ ∀ type : ConstantType, ¬Tokens s type.spelling := by
  simp only [Option.eq_none_iff_forall_ne_some, ne_eq, ofSpelling?_eq_some_iff_tokens]

/-! ### Blanks around a text -/

theorem Tokens.blanks_append {gap s : List Char} (hgap : ∀ c ∈ gap, isBlank c = true)
    {tokens : List String} (h : Tokens s tokens) : Tokens (gap ++ s) tokens := by
  induction gap with
  | nil => exact h
  | cons c gap ih =>
    obtain ⟨hc, hrest⟩ := List.forall_mem_cons.1 hgap
    exact .blank hc (ih hrest)

theorem Tokens.append_blanks {gap s : List Char} (hgap : ∀ c ∈ gap, isBlank c = true)
    {tokens : List String} (h : Tokens s tokens) : Tokens (s ++ gap) tokens := by
  induction h with
  | nil => simpa using Tokens.nil.blanks_append hgap
  | blank hc _ ih => exact .blank hc ih
  | star _ ih => exact .star ih
  | @word w s tokens hne hw hs _ ih =>
    rw [List.append_assoc]
    refine .word hne hw (fun c hc => ?_) ih
    cases s with
    | nil => exact Or.inl (hgap c (List.mem_of_mem_head? hc))
    | cons x s => exact hs c hc

theorem tokens_trim_iff {s : List Char} {tokens : List String} :
    Tokens (trim s) tokens ↔ Tokens s tokens := by
  obtain ⟨gap, gap', hgap, hgap', hs⟩ := exists_padding s
  have hpadded : ∀ {ts}, Tokens (trim s) ts → Tokens s ts := by
    intro ts h
    rw [hs]
    exact (h.append_blanks hgap').blanks_append hgap
  refine ⟨hpadded, fun h => ?_⟩
  obtain ⟨ts, hts⟩ := exists_tokens (trim s)
  have hsame := spelledWords_of_tokens (hpadded hts)
  rw [spelledWords_of_tokens h] at hsame
  rwa [hsame]

end DefFragments.ConstantType
