import DefFragments.Library.Resolution
import DefFragments.Proofs.Fragment.EntryLines
import DefFragments.Proofs.Library.StackGuard

/-!
# The lines of a libraries fragment

A library entry is one line with its name, or three lines if it has a guard. Reading them back, the
guard decides about the name, and no block stays open behind the entry.
-/

namespace DefFragments.Library
open Text Conditional

/-! ### One line -/

theorem ofLine_name {name : List Char} (h : IsName name) :
    FragmentLine.ofLine name = .text [name] := by
  have hhash : ∀ s, name ≠ '#' :: s := by
    rintro s rfl
    exact absurd (h.2 '#' (List.mem_cons_self ..)) (by decide)
  have hopening : stripPrefix? "#if ".toList name = none := by
    rw [Option.eq_none_iff_forall_ne_some]
    intro r hr
    exact hhash _ (stripPrefix?_eq_some_iff.1 hr)
  have hdirective : startsWith ['#'] name = false := by
    unfold startsWith
    rw [Option.isSome_eq_false_iff, Option.isNone_iff_eq_none, Option.eq_none_iff_forall_ne_some]
    intro r hr
    exact hhash _ (stripPrefix?_eq_some_iff.1 hr)
  have hclosing : name ≠ "#endif".toList := hhash _
  unfold FragmentLine.ofLine
  simp only [trim_of_trimmed h.trimmed, hopening, hclosing, if_false, hdirective,
    Bool.false_eq_true, h.words_eq]

theorem trimmed_opening {guard : List Char} (h : Trimmed guard) (hne : guard ≠ []) :
    Trimmed ("#if ".toList ++ guard) := by
  have hif : Trimmed "#if".toList := ⟨stopsAt_cons.2 (by decide), stopsAt_cons.2 (by decide)⟩
  exact hif.append (by simp) h hne [' ']

theorem ofLine_opening {guard : List Char} (h : Trimmed guard) (hne : guard ≠ []) :
    FragmentLine.ofLine ("#if ".toList ++ guard) = .opening guard := by
  unfold FragmentLine.ofLine
  simp only [trim_of_trimmed (trimmed_opening h hne), stripPrefix?_eq_some_iff.2 rfl,
    trim_of_trimmed h]

theorem ofLine_closing : FragmentLine.ofLine "#endif".toList = .closing := by
  decide

/-! ### One entry -/

def entryLines (guard name : String) : List (List Char) :=
  if guard = "" then [name.toList]
  else ["#if ".toList ++ guard.toList, name.toList, "#endif".toList]

theorem textLines_library (markers : Markers) (guard name : String) :
    (Entry.textLines markers ⟨.library name, guard⟩).map String.toList = entryLines guard name := by
  unfold Entry.textLines entryLines
  split
  · rfl
  · show [("#if " ++ guard).toList, name.toList, "#endif".toList] = _
    rw [String.toList_append]

/-- Between entries no block is open, and the guard of an entry decides about its name. -/
theorem activeWords_entry (symbol : List Char) (release n : Nat) {markers : Markers}
    {guard name : String} (h : Entry.Writable markers ⟨.library name, guard⟩)
    (rest : List (List Char)) :
    activeWords symbol release n [] (entryLines guard name ++ rest) =
      match guardValue symbol release guard with
      | .error e => .error (.during (.fragmentLine n) (.guard e))
      | .ok value =>
        (activeWords symbol release (n + (entryLines guard name).length) [] rest).map fun more =>
          if value then name.toList :: more else more := by
  have hname : IsName name.toList := h.announcement_wellNamed
  unfold entryLines guardValue
  by_cases hempty : guard = ""
  · simp only [hempty, if_true, List.cons_append, List.nil_append, activeWords,
      ofLine_name hname]
    rfl
  · have hne : guard.toList ≠ [] := by simpa using hempty
    simp only [hempty, if_false, List.cons_append, List.nil_append]
    cases hv : evaluate symbol release guard.toList with
    | error e => simp only [activeWords, ofLine_opening h.guard_trimmed hne, hv]
    | ok value =>
      simp only [activeWords, ofLine_opening h.guard_trimmed hne, hv, ofLine_name hname,
        ofLine_closing]
      cases value <;> rfl

/-! ### All entries -/

section
variable {symbol : List Char} {release : Nat} {markers : Markers} {es : List (String × String)}
  (hes : ∀ e ∈ es, Entry.Writable markers ⟨.library e.2, e.1⟩)
include hes

/-- The names that are kept, when every guard has a value. -/
theorem exists_activeWords
    (hvalue : ∀ e ∈ es, ∃ b, guardValue symbol release e.1 = .ok b) (n : Nat) :
    ∃ ws, activeWords symbol release n [] (es.flatMap fun e => entryLines e.1 e.2) = .ok ws ∧
      ∀ w, w ∈ ws ↔ ∃ e ∈ es, guardValue symbol release e.1 = .ok true ∧ e.2.toList = w := by
  induction es generalizing n with
  | nil => exact ⟨[], by simp [activeWords], by simp⟩
  | cons e es ih =>
    obtain ⟨b, hb⟩ := hvalue e (List.mem_cons_self ..)
    obtain ⟨ws, hws, hmem⟩ := ih (fun x hx => hes x (List.mem_cons_of_mem _ hx))
      (fun x hx => hvalue x (List.mem_cons_of_mem _ hx)) (n + (entryLines e.1 e.2).length)
    refine ⟨if b then e.2.toList :: ws else ws, ?_, ?_⟩
    · rw [List.flatMap_cons, activeWords_entry symbol release n (hes e (List.mem_cons_self ..)), hb,
        hws]
      rfl
    · intro w
      simp only [List.mem_cons, exists_eq_or_imp, hb, ← hmem]
      cases b <;> simp [eq_comm]

theorem exists_guardValue_of_activeWords_eq_error {n : Nat} {f : Failure}
    (h : activeWords symbol release n [] (es.flatMap fun e => entryLines e.1 e.2) = .error f) :
    ∃ e ∈ es, ∃ m err, guardValue symbol release e.1 = .error err ∧
      f = .during (.fragmentLine m) (.guard err) := by
  induction es generalizing n with
  | nil => simp [activeWords] at h
  | cons e es ih =>
    rw [List.flatMap_cons, activeWords_entry symbol release n (hes e (List.mem_cons_self ..))] at h
    cases hb : guardValue symbol release e.1 with
    | error err =>
      rw [hb] at h
      exact ⟨e, List.mem_cons_self .., n, err, hb, (Except.error.inj h).symm⟩
    | ok b =>
      simp only [hb] at h
      cases hrest : activeWords symbol release (n + (entryLines e.1 e.2).length) []
          (es.flatMap fun e => entryLines e.1 e.2) with
      | ok ws => simp [hrest, Except.map] at h
      | error f' =>
        simp only [hrest, Except.map, Except.error.injEq] at h
        subst h
        obtain ⟨x, hx, m, err, herr, rfl⟩ :=
          ih (fun x hx => hes x (List.mem_cons_of_mem _ hx)) hrest
        exact ⟨x, List.mem_cons_of_mem _ hx, m, err, herr, rfl⟩

/-- One guard without a value is enough to get no names. -/
theorem exists_guardValue_of_activeWords_eq_ok {n : Nat} {ws : List (List Char)}
    (h : activeWords symbol release n [] (es.flatMap fun e => entryLines e.1 e.2) = .ok ws) :
    ∀ e ∈ es, ∃ b, guardValue symbol release e.1 = .ok b := by
  induction es generalizing n ws with
  | nil => simp
  | cons e es ih =>
    rw [List.flatMap_cons, activeWords_entry symbol release n (hes e (List.mem_cons_self ..))] at h
    cases hb : guardValue symbol release e.1 with
    | error err => simp [hb] at h
    | ok b =>
      simp only [hb] at h
      cases hrest : activeWords symbol release (n + (entryLines e.1 e.2).length) []
          (es.flatMap fun e => entryLines e.1 e.2) with
      | error f => simp [hrest, Except.map] at h
      | ok more =>
        refine List.forall_mem_cons.2 ⟨⟨b, hb⟩, ?_⟩
        exact ih (fun x hx => hes x (List.mem_cons_of_mem _ hx)) hrest

end

end DefFragments.Library
