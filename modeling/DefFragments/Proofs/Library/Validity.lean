import DefFragments.Proofs.Library.Blocks

/-!
# Which fragments resolve

A fragment resolves exactly if its conditional lines come in pairs, no other directive stands in it
and every guard has a value. A guard that holds a text which is no term has a value at the releases
at which a term in front of that text is false, and at no other. So whether a fragment resolves
depends on the release, unless all its guards hold nothing but terms.
-/

namespace DefFragments.Library
open Text Conditional

def Resolves (fragment versionSymbol : String) (release : Nat) : Prop :=
  ∃ names, resolve fragment versionSymbol release = .ok names

section
variable {symbol : List Char} {release : Nat} {ls : List FragmentLine}

theorem Verdict.exists_names_iff {result : Except Failure (List String)}
    (h : Verdict symbol release ls result) :
    (∃ found, result = .ok found) ↔ Faultless symbol release ls ∧ LeavesOpen ls [] := by
  cases h with
  | names hclean hopen _ _ => exact ⟨fun _ => ⟨hclean, hopen⟩, fun _ => ⟨_, rfl⟩⟩
  | offence hsplit _ hoffence =>
    constructor
    · rintro ⟨found, hfound⟩
      cases hfound
    · rintro ⟨hclean, -⟩
      exact absurd hoffence (hclean _ _ _ hsplit _)
  | unterminated _ hopen =>
    constructor
    · rintro ⟨found, hfound⟩
      cases hfound
    · rintro ⟨-, hnone⟩
      cases hopen.unique hnone

theorem not_balanced_of_closing {before after : List FragmentLine}
    (hbefore : Balanced (before.map FragmentLine.directive)) :
    ¬Balanced ((before ++ .closing :: after).map FragmentLine.directive) := by
  rw [← innerDepth_eq_zero_iff, List.map_append, hbefore.innerDepth_append, List.map_cons]
  simp [FragmentLine.directive]

theorem faultless_iff (hls : Balanced (ls.map FragmentLine.directive)) :
    Faultless symbol release ls ↔
      (∀ line, .otherDirective line ∉ ls) ∧
        ∀ guard, .opening guard ∈ ls → Masked symbol release guard := by
  constructor
  · intro hclean
    refine ⟨fun line hmem => ?_, fun guard hmem => ?_⟩
    · obtain ⟨before, after, hsplit⟩ := List.append_of_mem hmem
      exact hclean _ _ _ hsplit _ .otherDirective
    · obtain ⟨before, after, hsplit⟩ := List.append_of_mem hmem
      apply exists_evaluate_iff.1
      cases hvalue : evaluate symbol release guard with
      | ok b => exact ⟨b, rfl⟩
      | error e =>
        exact absurd (.guard (evaluate_eq_error_iff.1 hvalue)) (hclean _ _ _ hsplit _)
  · rintro ⟨hdirective, hguard⟩ before line after hsplit cause hoffence
    have hmem : line ∈ ls := by
      rw [hsplit]
      exact List.mem_append_right _ (List.mem_cons_self ..)
    cases hoffence with
    | guard hrefused =>
      obtain ⟨b, hb⟩ := exists_evaluate_iff.2 (hguard _ hmem)
      rw [← evaluate_eq_error_iff, hb] at hrefused
      cases hrefused
    | closing hopen =>
      cases hopen with
      | outside hbefore => exact not_balanced_of_closing hbefore (hsplit ▸ hls)
    | otherDirective => exact hdirective _ hmem

theorem masked_of_forall_isTerm {guard : List Char} (h : ∀ s ∈ terms guard, IsTerm symbol s) :
    Masked symbol release guard := by
  intro front s back hsplit hbad
  exact absurd (h s (by simp [hsplit])) hbad

end

theorem resolves_of_reads_iff {fragment versionSymbol : String} {release : Nat}
    {ls : List FragmentLine} (hreads : List.Forall₂ Reads (lines fragment.toList) ls) :
    Resolves fragment versionSymbol release ↔
      Balanced (ls.map FragmentLine.directive) ∧ (∀ line, .otherDirective line ∉ ls) ∧
        ∀ guard, .opening guard ∈ ls → Masked versionSymbol.toList release guard := by
  rw [Resolves, (verdict_resolve hreads).exists_names_iff]
  constructor
  · rintro ⟨hclean, ⟨hls⟩⟩
    exact ⟨hls, (faultless_iff hls).1 hclean⟩
  · rintro ⟨hls, hlines⟩
    exact ⟨(faultless_iff hls).2 hlines, .outside hls⟩

/-- Whether a fragment resolves depends on the release only through guards that hold more than
terms. -/
theorem resolves_iff_masked (fragment versionSymbol : String) :
    ∃ ls, List.Forall₂ Reads (lines fragment.toList) ls ∧
      (∀ release, Resolves fragment versionSymbol release ↔
        Balanced (ls.map FragmentLine.directive) ∧ (∀ line, .otherDirective line ∉ ls) ∧
          ∀ guard, .opening guard ∈ ls → Masked versionSymbol.toList release guard) ∧
      ((∀ guard, .opening guard ∈ ls → ∀ s ∈ terms guard, IsTerm versionSymbol.toList s) →
        ∀ release release',
          Resolves fragment versionSymbol release ↔ Resolves fragment versionSymbol release') := by
  have hreads := forall₂_reads_iff.2 (Eq.refl ((lines fragment.toList).map FragmentLine.ofLine))
  refine ⟨_, hreads, fun _ => resolves_of_reads_iff hreads, fun hterms => ?_⟩
  have hother : ∀ release release',
      Resolves fragment versionSymbol release → Resolves fragment versionSymbol release' := by
    intro release release' h
    obtain ⟨hls, hdirective, -⟩ := (resolves_of_reads_iff hreads).1 h
    exact (resolves_of_reads_iff hreads).2
      ⟨hls, hdirective, fun guard hguard => masked_of_forall_isTerm (hterms guard hguard)⟩
  exact fun release release' => ⟨hother release release', hother release' release⟩

theorem resolves_iff_masked_of_terms :
    let fragment := "#if V < 5 && !(V = 3)\nkvm\n#endif\n"
    ∃ ls, List.Forall₂ Reads (lines fragment.toList) ls ∧
      (∀ guard, .opening guard ∈ ls → ∀ s ∈ terms guard, IsTerm "V".toList s) ∧
      (Resolves fragment "V" 1 ↔ Resolves fragment "V" 10) := by
  intro fragment
  obtain ⟨ls, hreads, -, hsame⟩ := resolves_iff_masked fragment "V"
  have hls : ls = [.opening "V < 5 && !(V = 3)".toList, .text ["kvm".toList], .closing] := by
    rw [← forall₂_reads_iff.1 hreads]
    decide +kernel
  have hterms : ∀ s ∈ terms "V < 5 && !(V = 3)".toList, IsTerm "V".toList s := by
    have hsplit : terms "V < 5 && !(V = 3)".toList = ["V < 5 ".toList, " !(V = 3)".toList] := by
      decide
    have hfirst : IsTerm "V".toList "V < 5 ".toList :=
      (isTerm_iff [] 1).2 ⟨true, by decide +kernel⟩
    have hsecond : IsTerm "V".toList " !(V = 3)".toList :=
      (isTerm_iff [] 1).2 ⟨true, by decide +kernel⟩
    rw [hsplit]
    exact List.forall_mem_cons.2 ⟨hfirst, List.forall_mem_singleton.2 hsecond⟩
  have hall : ∀ guard, .opening guard ∈ ls → ∀ s ∈ terms guard, IsTerm "V".toList s := by
    intro guard hguard
    rw [hls] at hguard
    have hsame : guard = "V < 5 && !(V = 3)".toList := by simpa using hguard
    rwa [hsame]
  exact ⟨ls, hreads, hall, hsame hall 1 10⟩

/-- A term that is false at a release hides a text behind it that is no term. -/
theorem not_forall_resolves_iff :
    ¬∀ (fragment versionSymbol : String) (release release' : Nat),
      release < unsignedBound → release' < unsignedBound →
        (Resolves fragment versionSymbol release ↔ Resolves fragment versionSymbol release') := by
  intro h
  have hiff := h "#if __FreeBSD_version < 5 && bogus\nkvm\n#endif\n" "__FreeBSD_version" 10 1
    (by decide) (by decide)
  have hmasked : resolve "#if __FreeBSD_version < 5 && bogus\nkvm\n#endif\n" "__FreeBSD_version" 10
      = .ok [] := by
    decide +kernel
  obtain ⟨names, hnames⟩ := hiff.1 ⟨[], hmasked⟩
  have herror : ∃ failure, resolve "#if __FreeBSD_version < 5 && bogus\nkvm\n#endif\n"
      "__FreeBSD_version" 1 = .error failure := by
    exact ⟨.during (.fragmentLine 1) (.guard (.invalid "__FreeBSD_version < 5 && bogus")),
      by decide +kernel⟩
  obtain ⟨failure, hfailure⟩ := herror
  rw [hfailure] at hnames
  cases hnames

end DefFragments.Library
