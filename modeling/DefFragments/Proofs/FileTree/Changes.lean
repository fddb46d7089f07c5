import DefFragments.FileTree.Change
import DefFragments.Proofs.FileTree.Walks

/-!
# What changes of a file tree leave alone

Every change is told by what is at each location afterwards. Creating directories adds directories
on the way and nothing else, also when it fails; a new file has a name that nothing has; replacing and
removing touch the place that the path leads to. A well-formed tree stays well-formed. What is refused
changes nothing.
-/

namespace DefFragments.FileTree
open DefFragments.Path

section
variable {t t' u : FileTree} {p : Path} {now : Time} {faults : Faults}

/-! ### Refusals -/

theorem unlessRefused_bind_eq_ok_iff {α : Type} {refusal : Option FileError}
    {next : Except FileError α} {a : α} :
    (unlessRefused refusal >>= fun _ => next) = .ok a ↔ refusal = none ∧ next = .ok a := by
  cases refusal <;> simp [unlessRefused, bind, Except.bind]

theorem get?_set {l : Location} (hl : l ≠ []) (n : Node) (m : Location) :
    (t.set l n).get? m = if m = l then some n else t.get? m := by
  split
  · next h => rw [h, get?_set_self t n hl]
  · next h => exact get?_set_ne t n h

theorem set_set (t : FileTree) (l : Location) (n n' : Node) : (t.set l n).set l n' = t.set l n' := by
  by_cases hl : l = []
  · simp [set, hl]
  · simp [set, hl, entriesWithout, List.filter_append]

theorem get?_erase {l : Location} (hl : l ≠ []) (m : Location) :
    (t.erase l).get? m = if m = l then none else t.get? m := by
  split
  · next h => rw [h, get?_erase_self t hl]
  · next h => exact get?_erase_ne t h

theorem isDirectory_of_get? {l : Location} (h : t.get? l = t'.get? l) :
    t.isDirectory l = t'.isDirectory l := by
  rw [isDirectory, isDirectory, h]

theorem WellFormed.of_directories (ht : t.WellFormed)
    (hdirs : ∀ d, t.isDirectory d = true → t'.isDirectory d = true)
    (hnew : ∀ name l, t'.contains (name :: l) = true →
      t.contains (name :: l) = true ∨ (IsName name ∧ t'.isDirectory l = true)) :
    t'.WellFormed := by
  have hall : ∀ {name l}, t'.contains (name :: l) = true →
      IsName name ∧ t'.isDirectory l = true := by
    intro name l h
    rcases hnew name l h with h | h
    · exact ⟨ht.named h, hdirs l (ht.around h)⟩
    · exact h
  exact ⟨fun h => (hall h).1, fun h => (hall h).2⟩

theorem WellFormed.set (ht : t.WellFormed) {name : String} {l : Location} (hname : IsName name)
    (hl : t.isDirectory l = true) (hnot : t.isDirectory (name :: l) = false) (n : Node) :
    (t.set (name :: l) n).WellFormed := by
  have hdirs : ∀ d, t.isDirectory d = true → (t.set (name :: l) n).isDirectory d = true := by
    intro d hd
    have hne : d ≠ name :: l := by
      rintro rfl
      rw [hnot] at hd
      cases hd
    rw [isDirectory_of_get? (get?_set_ne t n hne)]
    exact hd
  refine ht.of_directories hdirs fun x k hx => ?_
  by_cases h : x :: k = name :: l
  · obtain ⟨rfl, rfl⟩ := List.cons.inj h
    exact Or.inr ⟨hname, hdirs _ hl⟩
  · left
    rwa [contains, get?_set_ne t n h] at hx

theorem isDirectory_erase {l : Location} (hl : t.isDirectory l = false) (d : Location) :
    (t.erase l).isDirectory d = t.isDirectory d := by
  by_cases hd : d = l
  · rw [hd, hl, isDirectory, get?_erase_self t (ne_nil_of_not_isDirectory hl)]
  · exact isDirectory_of_get? (get?_erase_ne t hd)

theorem isDirectory_set {l : Location} (hl : t.isDirectory l = false) {n : Node}
    (hn : n.isDirectory = false) (d : Location) :
    (t.set l n).isDirectory d = t.isDirectory d := by
  by_cases hd : d = l
  · rw [hd, hl, isDirectory, get?_set_self t n (ne_nil_of_not_isDirectory hl)]
    exact hn
  · exact isDirectory_of_get? (get?_set_ne t n hd)

theorem WellFormed.erase (ht : t.WellFormed) {l : Location} (hl : t.isDirectory l = false) :
    (t.erase l).WellFormed := by
  refine ht.of_directories (fun d hd => ?_) fun x k hx => ?_
  · rw [isDirectory_erase hl]
    exact hd
  · left
    by_cases h : x :: k = l
    · rw [contains, h, get?_erase_self t (h ▸ List.cons_ne_nil x k)] at hx
      cases hx
    · rwa [contains, get?_erase_ne t h] at hx

/-! ### New directories -/

/-- The second tree has everything that the first has, and new directories at such locations. -/
structure Grown (new : Location → Prop) (t t' : FileTree) : Prop where
  same_or_new : ∀ l, t'.get? l = t.get? l ∨
    (t.get? l = none ∧ new l ∧ ∃ m, t'.get? l = some (.directory m))
  wellFormed : t.WellFormed → t'.WellFormed

namespace Grown
variable {new new' : Location → Prop}

theorem refl (new : Location → Prop) (t : FileTree) : Grown new t t :=
  ⟨fun _ => Or.inl rfl, id⟩

theorem trans (h : Grown new t u) (h' : Grown new u t') : Grown new t t' := by
  refine ⟨fun l => ?_, fun ht => h'.wellFormed (h.wellFormed ht)⟩
  rcases h'.same_or_new l with hu | ⟨hu, hnew, hm⟩
  · rw [hu]
    exact h.same_or_new l
  · rcases h.same_or_new l with ht | ⟨-, -, m, hm'⟩
    · exact Or.inr ⟨ht ▸ hu, hnew, hm⟩
    · rw [hu] at hm'
      cases hm'

theorem mono (h : Grown new t t') (hnew : ∀ l, new l → new' l) : Grown new' t t' := by
  refine ⟨fun l => ?_, h.wellFormed⟩
  rcases h.same_or_new l with hl | ⟨hl, hn, hm⟩
  · exact Or.inl hl
  · exact Or.inr ⟨hl, hnew l hn, hm⟩

theorem get?_of_some (h : Grown new t t') {l : Location} {n : Node} (hn : t.get? l = some n) :
    t'.get? l = some n := by
  rcases h.same_or_new l with hl | ⟨hl, -, -⟩
  · rw [hl, hn]
  · rw [hl] at hn
    cases hn

theorem none_of_none (h : Grown new t t') {l : Location} (hn : t'.get? l = none) :
    t.get? l = none := by
  rcases h.same_or_new l with hl | ⟨hl, -, -⟩
  · rw [← hl, hn]
  · exact hl

theorem get?_of_file (h : Grown new t t') {l : Location} {contents : ByteArray} {a : Attributes}
    (hn : t'.get? l = some (.file contents a)) : t.get? l = some (.file contents a) := by
  rcases h.same_or_new l with hl | ⟨-, -, k, hk⟩
  · rw [← hl, hn]
  · rw [hn] at hk
    cases hk

theorem get?_file_iff (h : Grown new t t') {l : Location} {contents : ByteArray} {a : Attributes} :
    t'.get? l = some (.file contents a) ↔ t.get? l = some (.file contents a) :=
  ⟨h.get?_of_file, h.get?_of_some⟩

theorem isDirectory (h : Grown new t t') {d : Location} (hd : t.isDirectory d = true) :
    t'.isDirectory d = true := by
  obtain ⟨m, hm⟩ := isDirectory_iff.1 hd
  exact isDirectory_iff.2 ⟨m, h.get?_of_some hm⟩

end Grown

theorem grown_createDirectory (h : t.createDirectory now p faults = .ok t') :
    Grown (· = p.location) t t' := by
  obtain ⟨-, h⟩ := unlessRefused_bind_eq_ok_iff.1 h
  cases htarget : t.target p with
  | error e => simp [htarget, bind, Except.bind] at h
  | ok target =>
    cases target with
    | fixed => simp [htarget, bind, Except.bind] at h
    | entry l slash =>
      by_cases hc : t.contains l = true
      · simp [htarget, bind, Except.bind, hc] at h
      · obtain rfl : t.set l (.directory (.new now)) = t' := by
          simpa [htarget, bind, Except.bind, hc] using h
        obtain ⟨-, init, name, slashes, around, -, hname, -, -, hdir, rfl, -⟩ :=
          target_eq_entry_iff.1 htarget
        have hnone : t.get? (name :: around) = none := by simpa [contains] using hc
        have hnot : t.isDirectory (name :: around) = false := by
          rw [FileTree.isDirectory, hnone]
        refine ⟨fun l => ?_, fun ht => ht.set hname hdir hnot _⟩
        by_cases hl : l = name :: around
        · refine Or.inr ⟨hl ▸ hnone, hl.trans (location_of_target htarget), .new now, ?_⟩
          rw [hl, get?_set_self t _ (by simp)]
        · exact Or.inl (get?_set_ne t _ hl)

theorem grown_createInnermost (ps : List Path) :
    Grown (fun l => ∃ q ∈ ps, l = q.location) t (t.createInnermost now faults ps).2 := by
  induction ps with
  | nil => exact Grown.refl _ t
  | cons p around ih =>
    have hhere : ∀ l, l = p.location → ∃ q ∈ p :: around, l = q.location :=
      fun l hl => ⟨p, List.mem_cons_self .., hl⟩
    have haround : Grown (fun l => ∃ q ∈ p :: around, l = q.location) t
        (t.createInnermost now faults around).2 :=
      ih.mono fun l ⟨q, hq, hl⟩ => ⟨q, List.mem_cons_of_mem _ hq, hl⟩
    unfold createInnermost
    split
    · next created hcreated => exact (grown_createDirectory hcreated).mono hhere
    · -- the directories further out come first, and what they add stays when the rest fails
      split
      · next e grown hgrown => simpa [hgrown] using haround
      · next grown hgrown =>
        rw [hgrown] at haround
        split
        · next created hcreated =>
          exact haround.trans ((grown_createDirectory hcreated).mono hhere)
        · exact haround
    · exact Grown.refl _ t

theorem grown_createDirectories (t : FileTree) (now : Time) (p : Path) (faults : Faults) :
    Grown (fun l => ∃ q ∈ p.ancestors, l = q.location) t (t.createDirectories now p faults).2 :=
  grown_createInnermost p.ancestors

theorem isName_freshName (t : FileTree) (reserved : Nat) : IsName (t.freshName reserved) := by
  have hne : ∀ s : String, s.length < 4 → t.freshName reserved ≠ s := by
    intro s hs heq
    have hlen := t.length_freshName reserved
    rw [heq] at hlen
    omega
  refine ⟨?_, hne ".." (by decide), ?_⟩
  · simp [isIdle, hne "" (by decide), hne "." (by decide)]
  · simp [freshName, List.mem_replicate]

theorem createFile_eq_ok {reserved : Nat} {created : Location}
    (h : t.createFile now reserved p faults = .ok (created, t')) :
    t.namesDirectory p = true ∧ created = t.freshName reserved :: p.location ∧
      t' = t.set created (.file .empty (.new now)) := by
  obtain ⟨-, h⟩ := unlessRefused_bind_eq_ok_iff.1 h
  cases hloc : t.locate p with
  | error e => simp [hloc, bind, Except.bind] at h
  | ok l =>
    obtain rfl := location_of_locate hloc
    by_cases hdir : t.isDirectory p.location = true
    · simp only [hloc, bind, Except.bind, hdir, if_true, Except.ok.injEq, Prod.mk.injEq] at h
      obtain ⟨rfl, rfl⟩ := h
      exact ⟨namesDirectory_iff.2 ⟨hloc, hdir⟩, rfl, rfl⟩
    · simp [hloc, bind, Except.bind, hdir] at h

/-- A file is filled with all of its contents, or with some of them when that is refused. -/
theorem fill_cases (t : FileTree) (now : Time) (l : Location) (contents : ByteArray) (p : Path)
    (faults : Faults) :
    (t.fill now l contents p faults = (.ok (), t.set l (.file contents (.new now)))) ∨
      ∃ e part, t.fill now l contents p faults = (.error e, t.set l (.file part (.new now))) := by
  unfold fill
  cases faults.write t p with
  | none => exact Or.inl rfl
  | some refusal => exact Or.inr ⟨refusal.2, _, rfl⟩

/-! ### Writing, replacing and removing -/

theorem replaceWith_eq_ok_iff {source l : Location} :
    t.replaceWith source p faults = .ok (l, t') ↔ faults.rename t p = none ∧ t.HasPlace p ∧
      l = p.location ∧ ∃ n, t.get? source = some n ∧ t' = (t.erase source).set l n := by
  unfold replaceWith
  have hnul : ∀ {target : Target}, t.target p = .ok target → '\x00' ∉ p.text.toList := by
    intro target htarget hmem
    simp [FileTree.target, checkPath, hmem, bind, Except.bind] at htarget
  constructor
  · intro h
    by_cases hmem : '\x00' ∈ p.text.toList
    · simp [hmem, bind, Except.bind, throw, throwThe, MonadExceptOf.throw] at h
    · rw [if_neg hmem] at h
      obtain ⟨hpass, h⟩ := unlessRefused_bind_eq_ok_iff.1 h
      refine ⟨hpass, ?_⟩
      cases htarget : t.target p with
      | error e => simp [htarget, bind, Except.bind] at h
      | ok target =>
        cases target with
        | fixed => simp [htarget, bind, Except.bind] at h
        | entry k slash =>
          obtain rfl := location_of_target htarget
          cases slash with
          | true => simp [htarget, bind, Except.bind] at h
          | false =>
            by_cases hdir : t.isDirectory p.location = true
            · simp [htarget, bind, Except.bind, hdir] at h
            · cases hn : t.get? source with
              | none => simp [htarget, bind, Except.bind, hdir, hn] at h
              | some n =>
                simp only [htarget, bind, Except.bind, hdir, hn, Bool.false_eq_true, if_false,
                  Except.ok.injEq, Prod.mk.injEq] at h
                obtain ⟨rfl, rfl⟩ := h
                exact ⟨⟨htarget, by simpa using hdir⟩, rfl, n, rfl, rfl⟩
  · rintro ⟨hpass, ⟨htarget, hdir⟩, rfl, n, hn, rfl⟩
    rw [if_neg (hnul htarget)]
    refine unlessRefused_bind_eq_ok_iff.2 ⟨hpass, ?_⟩
    simp [htarget, bind, Except.bind, hdir, hn]

theorem removeFile_eq_ok_iff (h : t.HasPlace p) :
    t.removeFile p faults = .ok t' ↔ faults.remove t p = none ∧ (∃ n, t.get? p.location = some n) ∧
      t' = t.erase p.location := by
  unfold removeFile
  rw [unlessRefused_bind_eq_ok_iff]
  simp only [h.1, bind, Except.bind]
  cases hn : t.get? p.location with
  | none => simp
  | some n =>
    obtain ⟨contents, a, rfl⟩ := exists_file hn h.2
    simp [eq_comm]

end

end DefFragments.FileTree
