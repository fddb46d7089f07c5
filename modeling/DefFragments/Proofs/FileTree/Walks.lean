import DefFragments.FileTree.Walk
import DefFragments.Proofs.Path.Location

/-!
# Ways through a file tree

A walk ends, if it does, at the location that its path spells, and only the directories of the tree
decide whether it gets there: a tree with more directories and other files has every way that leads
through directories. In a tree where everything lies in a directory, a path without two dots leads to
whatever stands at its location.
-/

namespace DefFragments.FileTree
open DefFragments.Path

/-- Everything in the tree has a proper name and lies in a directory, as it does on a disk. -/
structure WellFormed (t : FileTree) : Prop where
  named : ∀ {name l}, t.contains (name :: l) = true → IsName name
  around : ∀ {name l}, t.contains (name :: l) = true → t.isDirectory l = true

/-! ### What is at a location -/

theorem mem_entries_iff (t : FileTree) {l : Location} (hl : l ≠ []) {n : Node} :
    (l, n) ∈ t.entries ↔ t.get? l = some n := by
  rw [get?, if_neg hl]
  obtain ⟨entries, hnodup, -, -⟩ := t
  induction entries with
  | nil => simp
  | cons e es ih =>
    obtain ⟨k, m⟩ := e
    obtain ⟨habsent, hrest⟩ := List.nodup_cons.1 hnodup
    by_cases hk : l = k
    · subst hk
      have hnot : (l, n) ∉ es := fun hmem => habsent (List.mem_map.2 ⟨_, hmem, rfl⟩)
      simp [hnot, eq_comm]
    · have hbeq : (l == k) = false := beq_eq_false_iff_ne.2 hk
      rw [List.lookup_cons, hbeq, List.mem_cons, ih hrest]
      simp [hk]

theorem mem_children_iff (t : FileTree) {name : String} {l : Location} :
    name ∈ t.children l ↔ t.contains (name :: l) = true := by
  rw [contains, Option.isSome_iff_exists, children, List.mem_filterMap]
  constructor
  · rintro ⟨⟨k, n⟩, hmem, hname⟩
    cases k with
    | nil => simp at hname
    | cons x around =>
      simp only [Option.ite_none_right_eq_some, Option.some.injEq] at hname
      obtain ⟨rfl, rfl⟩ := hname
      exact ⟨n, (t.mem_entries_iff (by simp)).1 hmem⟩
  · rintro ⟨n, hn⟩
    exact ⟨(name :: l, n), (t.mem_entries_iff (by simp)).2 hn, by simp⟩

theorem nodup_children (t : FileTree) (l : Location) : (t.children l).Nodup := by
  unfold children
  refine List.Pairwise.filterMap _ ?_ (List.pairwise_map.1 t.nodup)
  rintro ⟨k, n⟩ ⟨k', n'⟩ hne name hk name' hk'
  cases k <;> cases k' <;> simp_all

theorem wellFormed_iff (t : FileTree) :
    t.WellFormed ↔ ∀ e ∈ t.entries, ∀ name ∈ e.1.head?,
      IsName name ∧ t.isDirectory e.1.tail = true := by
  constructor
  · rintro ht ⟨k, n⟩ he name hname
    cases k with
    | nil => simp at hname
    | cons x l =>
      obtain rfl : x = name := by simpa using hname
      have hc : t.contains (x :: l) = true := by
        rw [contains, (t.mem_entries_iff (by simp)).1 he]
        rfl
      exact ⟨ht.named hc, ht.around hc⟩
  · intro h
    have hmem : ∀ {name l}, t.contains (name :: l) = true →
        IsName name ∧ t.isDirectory l = true := by
      intro name l hc
      obtain ⟨n, hn⟩ := Option.isSome_iff_exists.1 hc
      exact h _ ((t.mem_entries_iff (by simp)).2 hn) name (by simp)
    exact ⟨fun hc => (hmem hc).1, fun hc => (hmem hc).2⟩

instance (t : FileTree) : Decidable t.WellFormed :=
  decidable_of_iff _ t.wellFormed_iff.symm

theorem isDirectory_iff {t : FileTree} {l : Location} :
    t.isDirectory l = true ↔ ∃ m, t.get? l = some (.directory m) := by
  unfold isDirectory
  cases t.get? l with
  | none => simp
  | some n => cases n <;> simp [Node.isDirectory]

@[simp]
theorem isDirectory_nil (t : FileTree) : t.isDirectory [] = true :=
  isDirectory_iff.2 ⟨_, t.get?_nil⟩

theorem ne_nil_of_not_isDirectory {t : FileTree} {l : Location} (h : t.isDirectory l = false) :
    l ≠ [] := by
  rintro rfl
  rw [isDirectory_nil] at h
  cases h

theorem contains_of_isDirectory {t : FileTree} {l : Location} (h : t.isDirectory l = true) :
    t.contains l = true := by
  obtain ⟨m, hm⟩ := isDirectory_iff.1 h
  rw [contains, hm]
  rfl

theorem isDirectory_of_file {t : FileTree} {l : Location} {contents : ByteArray} {a : Attributes}
    (h : t.get? l = some (.file contents a)) : t.isDirectory l = false := by
  rw [isDirectory, h]
  rfl

theorem contains_of_get? {t : FileTree} {l : Location} {n : Node} (h : t.get? l = some n) :
    t.contains l = true := by
  rw [contains, h]
  rfl

theorem exists_file {t : FileTree} {l : Location} {n : Node} (h : t.get? l = some n)
    (hd : t.isDirectory l = false) : ∃ contents a, n = .file contents a := by
  rw [isDirectory, h] at hd
  cases n with
  | file contents a => exact ⟨contents, a, rfl⟩
  | directory m => cases hd

namespace WellFormed

theorem isDirectory_of_suffix {t : FileTree} (ht : t.WellFormed) {l m : Location}
    (h : t.isDirectory m = true) (hs : l <:+ m) : t.isDirectory l = true := by
  induction m with
  | nil =>
    obtain rfl := List.eq_nil_of_suffix_nil hs
    exact h
  | cons x m ih =>
    rcases List.suffix_cons_iff.1 hs with rfl | hs
    · exact h
    · exact ih (ht.around (contains_of_isDirectory h)) hs

theorem isDirectory_tail {t : FileTree} (ht : t.WellFormed) {l : Location}
    (h : t.isDirectory l = true) : t.isDirectory l.tail = true :=
  ht.isDirectory_of_suffix h (List.tail_suffix l)

end WellFormed

/-! ### Walks -/

section
variable {t t' : FileTree} {segments : List String} {l m : Location}

theorem walk_cons_eq_ok_iff {s : String} :
    t.walk (s :: segments) l = .ok m ↔ t.isDirectory l = true ∧
      (isIdle s = false → s ≠ ".." →
        s.utf8ByteSize ≤ longestName ∧ t.contains (s :: l) = true) ∧
      t.walk segments (step l s) = .ok m := by
  rw [walk, step]
  by_cases hdir : t.isDirectory l = true
  · by_cases hidle : isIdle s = true
    · simp [hdir, hidle]
    · by_cases hup : s = ".."
      · subst hup
        simp [hdir, show isIdle ".." = false by decide]
      · by_cases hlong : longestName < s.utf8ByteSize
        · simp [hdir, hidle, hup, hlong, Nat.not_le.2 hlong]
        · by_cases hcontains : t.contains (s :: l) = true
          · simp [hdir, hidle, hup, hlong, hcontains, Nat.not_lt.1 hlong]
          · simp [hdir, hidle, hup, hlong, hcontains]
  · simp [hdir]

theorem walk_eq_ok_location (h : t.walk segments l = .ok m) : m = segments.foldl step l := by
  induction segments generalizing l with
  | nil => exact (Except.ok.inj h).symm
  | cons s segments ih => exact ih (walk_cons_eq_ok_iff.1 h).2.2

theorem walk_append_eq_ok_iff {a b : List String} :
    t.walk (a ++ b) l = .ok m ↔ ∃ k, t.walk a l = .ok k ∧ t.walk b k = .ok m := by
  induction a generalizing l with
  | nil => simp [walk]
  | cons s a ih =>
    simp only [List.cons_append, walk_cons_eq_ok_iff, ih]
    constructor
    · rintro ⟨hdir, hname, k, ha, hb⟩
      exact ⟨k, ⟨hdir, hname, ha⟩, hb⟩
    · rintro ⟨k, ⟨hdir, hname, ha⟩, hb⟩
      exact ⟨hdir, hname, k, ha, hb⟩

theorem isDirectory_of_walk (h : t.walk segments l = .ok m) (hm : t.isDirectory m = true) :
    t.isDirectory l = true := by
  cases segments with
  | nil =>
    obtain rfl := Except.ok.inj h
    exact hm
  | cons s segments => exact (walk_cons_eq_ok_iff.1 h).1

theorem walk_of_directories (hdirs : ∀ d, t.isDirectory d = true → t'.isDirectory d = true)
    (hm : t'.contains m = true) (h : t.walk segments l = .ok m) :
    t'.walk segments l = .ok m := by
  induction segments generalizing l with
  | nil => exact h
  | cons s segments ih =>
    obtain ⟨hdir, hname, hrest⟩ := walk_cons_eq_ok_iff.1 h
    refine walk_cons_eq_ok_iff.2 ⟨hdirs l hdir, fun hidle hup => ?_, ih hrest⟩
    refine ⟨(hname hidle hup).1, ?_⟩
    have hstep : step l s = s :: l := by simp [step, hidle, hup]
    rw [hstep] at hrest
    -- the name is the end of the way, or it is a directory that the way goes through
    cases segments with
    | nil =>
      obtain rfl := Except.ok.inj hrest
      exact hm
    | cons s' segments =>
      exact contains_of_isDirectory (hdirs _ (walk_cons_eq_ok_iff.1 hrest).1)

theorem walk_nonIdle (hm : t.isDirectory m = true) :
    t.walk (nonIdle segments) l = .ok m ↔ t.walk segments l = .ok m := by
  induction segments generalizing l with
  | nil => rfl
  | cons s segments ih =>
    cases hs : isIdle s with
    | true =>
      rw [nonIdle_cons_of_isIdle hs, ih, walk_cons_eq_ok_iff, step_of_isIdle hs]
      constructor
      · intro h
        exact ⟨isDirectory_of_walk h hm, by simp [hs], h⟩
      · exact fun h => h.2.2
    | false => rw [nonIdle_cons_of_not_isIdle hs, walk_cons_eq_ok_iff, walk_cons_eq_ok_iff, ih]

theorem suffix_foldl_step (hup : ".." ∉ segments) : l <:+ segments.foldl step l := by
  induction segments generalizing l with
  | nil => exact List.suffix_rfl
  | cons s segments ih =>
    have hs : s ≠ ".." := fun h => hup (h ▸ List.mem_cons_self ..)
    have hstep : l <:+ step l s := by
      rw [step, if_neg hs]
      split
      · exact List.suffix_rfl
      · exact List.suffix_cons s l
    exact hstep.trans (ih fun h => hup (List.mem_cons_of_mem _ h))

/-- Without two dots, the way to a directory of a well-formed tree exists as soon as the names on it
are not too long, which another tree may tell. -/
theorem WellFormed.walk_of_walk (ht : t.WellFormed) (hup : ".." ∉ segments)
    (hm : t.isDirectory m = true) (h : t'.walk segments l = .ok m) :
    t.walk segments l = .ok m := by
  induction segments generalizing l with
  | nil => exact h
  | cons s segments ih =>
    obtain ⟨-, hname, hrest⟩ := walk_cons_eq_ok_iff.1 h
    have hup' : ".." ∉ segments := fun hmem => hup (List.mem_cons_of_mem _ hmem)
    have hsuffix : ∀ {k : Location}, t'.walk segments k = .ok m → t.isDirectory k = true := by
      intro k hk
      refine ht.isDirectory_of_suffix hm ?_
      rw [walk_eq_ok_location hk]
      exact suffix_foldl_step hup'
    have hl : t.isDirectory l = true := by
      refine ht.isDirectory_of_suffix hm ?_
      rw [walk_eq_ok_location h]
      exact suffix_foldl_step hup
    refine walk_cons_eq_ok_iff.2 ⟨hl, fun hidle hne => ⟨(hname hidle hne).1, ?_⟩, ih hup' hrest⟩
    have hstep : step l s = s :: l := by simp [step, hidle, hne]
    exact contains_of_isDirectory (hstep ▸ hsuffix hrest)

end

/-! ### Paths -/

section
variable {t t' : FileTree} {p : Path}

/-- A path that begins one that can be followed can be followed itself, unless it is empty. -/
theorem checkPath_eq_ok_iff : checkPath p = .ok () ↔
    '\x00' ∉ p.text.toList ∧ p.text ≠ "" ∧ p.text.utf8ByteSize ≤ longestPath := by
  unfold checkPath
  split
  · next hnul => simp [hnul]
  · next hnul =>
    split
    · next hempty => simp [hempty]
    · next hempty =>
      split
      · next hlong => simp [hlong]
      · next hlong => simpa [hnul, hempty] using hlong

theorem checkPath_of_append {q : Path} {tail : String} (h : checkPath p = .ok ())
    (htext : p.text = q.text ++ tail) (hq : q.text ≠ "") : checkPath q = .ok () := by
  rw [checkPath_eq_ok_iff, htext, String.toList_append, String.utf8ByteSize_append] at h
  obtain ⟨hnul, -, hshort⟩ := h
  exact checkPath_eq_ok_iff.2 ⟨fun hmem => hnul (List.mem_append_left _ hmem), hq, by omega⟩

theorem locate_eq_ok_iff {l : Location} :
    t.locate p = .ok l ↔ checkPath p = .ok () ∧ t.walk p.segments [] = .ok l := by
  unfold locate
  cases hp : checkPath p with
  | error e => simp [bind, Except.bind]
  | ok u => simp [bind, Except.bind]

theorem location_of_locate {l : Location} (h : t.locate p = .ok l) : l = p.location :=
  walk_eq_ok_location (locate_eq_ok_iff.1 h).2

theorem node_eq_ok_iff {n : Node} :
    t.node p = .ok n ↔ t.locate p = .ok p.location ∧ t.get? p.location = some n := by
  unfold node
  cases hp : t.locate p with
  | error e => simp [bind, Except.bind]
  | ok l =>
    obtain rfl := location_of_locate hp
    cases hn : t.get? p.location with
    | none => simp [bind, Except.bind, hn]
    | some k => simp [bind, Except.bind, hn]

theorem locate_of_directories (hdirs : ∀ d, t.isDirectory d = true → t'.isDirectory d = true)
    (hp : t'.contains p.location = true) (h : t.locate p = .ok p.location) :
    t'.locate p = .ok p.location := by
  obtain ⟨hcheck, hwalk⟩ := locate_eq_ok_iff.1 h
  exact locate_eq_ok_iff.2 ⟨hcheck, walk_of_directories hdirs hp hwalk⟩

theorem namesDirectory_iff :
    t.namesDirectory p = true ↔
      t.locate p = .ok p.location ∧ t.isDirectory p.location = true := by
  unfold namesDirectory
  cases hn : t.node p with
  | error e =>
    simp only [Bool.false_eq_true, false_iff, not_and]
    intro hloc hdir
    obtain ⟨m, hm⟩ := isDirectory_iff.1 hdir
    rw [node_eq_ok_iff.2 ⟨hloc, hm⟩] at hn
    cases hn
  | ok n =>
    obtain ⟨hloc, hget⟩ := node_eq_ok_iff.1 hn
    simp [hloc, isDirectory, hget]

theorem namesFile_iff :
    t.namesFile p = true ↔ ∃ contents a, t.node p = .ok (.file contents a) := by
  unfold namesFile
  cases t.node p with
  | error e => simp
  | ok n => cases n <;> simp [Node.isFile]

theorem openForReading_eq_ok_iff {n : Node} :
    t.openForReading p = .ok n ↔ t.node p = .ok n ∧ n.isReadable = true := by
  unfold openForReading
  cases t.node p with
  | error e => simp [bind, Except.bind]
  | ok k =>
    by_cases hk : k.isReadable = true
    · simp only [bind, Except.bind, hk, if_true, Except.ok.injEq, iff_self_and]
      rintro rfl
      exact hk
    · simp only [bind, Except.bind, hk, Bool.false_eq_true, if_false, reduceCtorEq, Except.ok.injEq,
        false_iff, not_and]
      rintro rfl
      exact hk

theorem read_eq_ok_iff {contents : ByteArray} :
    t.read p = .ok contents ↔
      ∃ a : Attributes, t.node p = .ok (.file contents a) ∧ a.readable = true := by
  unfold FileTree.read
  cases ho : t.openForReading p with
  | error e =>
    simp only [bind, Except.bind, reduceCtorEq, false_iff, not_exists]
    intro a ha
    rw [openForReading_eq_ok_iff.2 ha] at ho
    cases ho
  | ok n =>
    obtain ⟨hn, hreadable⟩ := openForReading_eq_ok_iff.1 ho
    cases n with
    | directory a => simp [bind, Except.bind, hn]
    | file bytes a =>
      have ha : a.readable = true := hreadable
      simp [bind, Except.bind, hn, ha]

theorem read_congr {t' : FileTree} (h : t'.node p = t.node p) : t'.read p = t.read p := by
  rw [FileTree.read, FileTree.read, openForReading, openForReading, h]

/-- A path names a directory whose names can be listed. -/
def IsListable (t : FileTree) (p : Path) : Prop :=
  ∃ a : Attributes, t.node p = .ok (.directory a) ∧ a.readable = true

theorem IsListable.namesDirectory (h : t.IsListable p) : t.namesDirectory p = true := by
  obtain ⟨a, hnode, -⟩ := h
  rw [FileTree.namesDirectory, hnode]
  rfl

theorem isListable_iff : t.IsListable p ↔ t.namesDirectory p = true ∧
    ∃ a : Attributes, t.get? p.location = some (.directory a) ∧ a.readable = true := by
  constructor
  · intro h
    have ⟨a, hnode, ha⟩ := h
    exact ⟨h.namesDirectory, a, (node_eq_ok_iff.1 hnode).2, ha⟩
  · rintro ⟨hdir, a, hget, ha⟩
    exact ⟨a, node_eq_ok_iff.2 ⟨(namesDirectory_iff.1 hdir).1, hget⟩, ha⟩

theorem list_eq_ok_iff {names : List EntryName} :
    t.list p = .ok names ↔ t.IsListable p ∧ names = t.listing p.location := by
  unfold list IsListable
  cases hp : t.locate p with
  | error e => simp [node, hp, bind, Except.bind]
  | ok l =>
    obtain rfl := location_of_locate hp
    cases hn : t.get? p.location with
    | none => simp [node, hp, hn, bind, Except.bind]
    | some n =>
      cases n with
      | file contents a => simp [node, hp, hn, bind, Except.bind]
      | directory a =>
        by_cases ha : a.readable = true
        · simp only [node, hp, hn, bind, Except.bind, ha, if_true, Except.ok.injEq,
            Node.directory.injEq, exists_eq_left', true_and]
          exact eq_comm
        · simp [node, hp, hn, bind, Except.bind, ha]

/-- Directories stay what they are. -/
def KeepsDirectories (t t' : FileTree) : Prop :=
  ∀ d a, t.get? d = some (.directory a) → t'.get? d = some (.directory a)

theorem KeepsDirectories.isDirectory (h : KeepsDirectories t t') (d : Location)
    (hd : t.isDirectory d = true) : t'.isDirectory d = true := by
  obtain ⟨a, ha⟩ := isDirectory_iff.1 hd
  exact isDirectory_iff.2 ⟨a, h d a ha⟩

theorem IsListable.of_keepsDirectories (hkeeps : KeepsDirectories t t') (h : t.IsListable p) :
    t'.IsListable p := by
  obtain ⟨a, hnode, ha⟩ := h
  obtain ⟨hlocate, hget⟩ := node_eq_ok_iff.1 hnode
  have hget' := hkeeps _ a hget
  exact ⟨a, node_eq_ok_iff.2
    ⟨locate_of_directories hkeeps.isDirectory (contains_of_get? hget') hlocate, hget'⟩, ha⟩

/-- The names that are text. -/
theorem filterMap_text?_listing (t : FileTree) (l : Location) :
    (t.listing l).filterMap EntryName.text? = t.children l := by
  have htext : EntryName.text? ∘ EntryName.text = some := rfl
  have hforeign : EntryName.text? ∘ EntryName.foreign = fun _ => none := rfl
  rw [listing, List.filterMap_append, List.filterMap_map, List.filterMap_map, htext, hforeign,
    List.filterMap_some, List.filterMap_eq_nil_iff.2 fun _ _ => rfl, List.append_nil]

theorem target_eq_entry_iff_of_segments (hcheck : checkPath p = .ok ()) {init : List String}
    {name : String} {slashes : Nat}
    (hseg : p.segments = init ++ name :: List.replicate slashes "") (hne : name ≠ "")
    {l : Location} {slash : Bool} :
    t.target p = .ok (.entry l slash) ↔
      IsName name ∧ name.utf8ByteSize ≤ longestName ∧ ∃ around, t.walk init [] = .ok around ∧
        t.isDirectory around = true ∧ l = name :: around ∧ slash = decide (0 < slashes) := by
  have hname : IsName name ↔ ¬(name = "." ∨ name = "..") := by
    have hmem : name ∈ p.segments := hseg ▸ List.mem_append_right _ (List.mem_cons_self ..)
    constructor
    · rintro hname (rfl | rfl)
      · exact absurd hname.1 (by decide)
      · exact hname.2.1 rfl
    · intro hdots
      rw [not_or] at hdots
      exact isName_of_mem_segments hmem (by simp [isIdle, hne, hdots.1]) hdots.2
  unfold target
  rw [hcheck, hseg, dropWhile_reverse_slashes init hne, getLast?_slashes init hne, hname]
  simp only [bind, Except.bind, List.reverse_reverse]
  cases t.walk init [] with
  | error e => simp
  | ok around =>
    by_cases hdir : t.isDirectory around = true
    · by_cases hdots : name = "." ∨ name = ".."
      · simp [hdir, hdots]
      · by_cases hlong : longestName < name.utf8ByteSize
        · simp [hdir, hdots, hlong, Nat.not_le.2 hlong]
        · simp [hdir, hdots, hlong, Nat.not_lt.1 hlong, @eq_comm _ l, @eq_comm _ slash]
    · simp [hdir]

/-- The places where a new name can be entered: in a directory, behind whatever leads there. -/
theorem target_eq_entry_iff {l : Location} {slash : Bool} :
    t.target p = .ok (.entry l slash) ↔ checkPath p = .ok () ∧
      ∃ init name slashes around, p.segments = init ++ name :: List.replicate slashes "" ∧
        IsName name ∧ name.utf8ByteSize ≤ longestName ∧ t.walk init [] = .ok around ∧
        t.isDirectory around = true ∧ l = name :: around ∧ slash = decide (0 < slashes) := by
  constructor
  · intro h
    cases hcheck : checkPath p with
    | error e => simp [target, hcheck, bind, Except.bind] at h
    | ok u =>
      cases hrev : p.segments.reverse.dropWhile (· == "") with
      | nil => simp [target, hcheck, hrev, bind, Except.bind] at h
      | cons name before =>
        obtain ⟨hne, slashes, hseg⟩ := exists_slashes hrev
        obtain ⟨hname, hshort, around, hentry⟩ :=
          (target_eq_entry_iff_of_segments hcheck hseg hne).1 h
        exact ⟨rfl, before.reverse, name, slashes, around, hseg, hname, hshort, hentry⟩
  · rintro ⟨hcheck, init, name, slashes, around, hseg, hname, hshort, hentry⟩
    exact (target_eq_entry_iff_of_segments hcheck hseg hname.ne_empty).2
      ⟨hname, hshort, around, hentry⟩

theorem location_of_segments {init : List String} {name : String} {slashes : Nat}
    {around : Location} (hseg : p.segments = init ++ name :: List.replicate slashes "")
    (hname : IsName name) (hwalk : t.walk init [] = .ok around) : p.location = name :: around := by
  rw [location, hseg, List.foldl_append, ← walk_eq_ok_location hwalk, List.foldl_cons,
    foldl_step_slashes, step_of_isName hname]

theorem location_of_target {l : Location} {slash : Bool}
    (h : t.target p = .ok (.entry l slash)) : l = p.location := by
  obtain ⟨-, init, name, slashes, around, hseg, hname, -, hwalk, -, rfl, -⟩ :=
    target_eq_entry_iff.1 h
  exact (location_of_segments hseg hname hwalk).symm

theorem target_of_directories {l : Location} {slash : Bool}
    (hdirs : ∀ d, t.isDirectory d = true → t'.isDirectory d = true)
    (h : t.target p = .ok (.entry l slash)) : t'.target p = .ok (.entry l slash) := by
  obtain ⟨hcheck, init, name, slashes, around, hseg, hname, hshort, hwalk, hdir, hl, hslash⟩ :=
    target_eq_entry_iff.1 h
  have hwalk' := walk_of_directories hdirs (contains_of_isDirectory (hdirs _ hdir)) hwalk
  exact target_eq_entry_iff.2
    ⟨hcheck, init, name, slashes, around, hseg, hname, hshort, hwalk', hdirs _ hdir, hl, hslash⟩

end

/-! ### Places for files -/

/-- A file may be put where the path leads: in a directory, where no directory stands. -/
def HasPlace (t : FileTree) (p : Path) : Prop :=
  t.target p = .ok (.entry p.location false) ∧ t.isDirectory p.location = false

section
variable {t t' : FileTree} {p : Path}

theorem HasPlace.of_directories (hdirs : ∀ d, t.isDirectory d = t'.isDirectory d)
    (h : t.HasPlace p) : t'.HasPlace p := by
  refine ⟨target_of_directories (fun d hd => hdirs d ▸ hd) h.1, ?_⟩
  rw [← hdirs]
  exact h.2

theorem HasPlace.location_ne_nil (h : t.HasPlace p) : p.location ≠ [] :=
  ne_nil_of_not_isDirectory h.2

/-- The last segment of a path with a place for a file is its name. -/
theorem HasPlace.exists_segments (h : t.HasPlace p) :
    ∃ init name around, p.segments = init ++ [name] ∧ IsName name ∧
      name.utf8ByteSize ≤ longestName ∧ t.walk init [] = .ok around ∧
      t.isDirectory around = true ∧ p.location = name :: around := by
  obtain ⟨-, init, name, slashes, around, hseg, hname, hshort, hwalk, hdir, hl, hslash⟩ :=
    target_eq_entry_iff.1 h.1
  have hzero : slashes = 0 := by
    have hnot : ¬0 < slashes := by simpa using hslash
    omega
  subst hzero
  exact ⟨init, name, around, by simpa using hseg, hname, hshort, hwalk, hdir, hl⟩

theorem HasPlace.node_eq_ok (h : t.HasPlace p) {n : Node} (hn : t.get? p.location = some n) :
    t.node p = .ok n := by
  obtain ⟨init, name, around, hseg, hname, hshort, hwalk, hdir, hl⟩ := h.exists_segments
  have hcheck := (target_eq_entry_iff.1 h.1).1
  have hcontains : t.contains (name :: around) = true := by
    rw [← hl]
    exact contains_of_get? hn
  have hlast : t.walk [name] around = .ok p.location := by
    refine walk_cons_eq_ok_iff.2 ⟨hdir, fun _ _ => ⟨hshort, hcontains⟩, ?_⟩
    rw [step_of_isName hname, hl]
    rfl
  refine node_eq_ok_iff.2 ⟨locate_eq_ok_iff.2 ⟨hcheck, ?_⟩, hn⟩
  rw [hseg]
  exact walk_append_eq_ok_iff.2 ⟨around, hwalk, hlast⟩

/-- A path that names a file has a place for a file, namely there. -/
theorem WellFormed.hasPlace_of_file (ht : t.WellFormed) {contents : ByteArray} {a : Attributes}
    (h : t.node p = .ok (.file contents a)) : t.HasPlace p := by
  obtain ⟨hloc, hget⟩ := node_eq_ok_iff.1 h
  obtain ⟨hcheck, hwalk⟩ := locate_eq_ok_iff.1 hloc
  have hfile := isDirectory_of_file hget
  obtain ⟨init, last, hseg⟩ : ∃ init last, p.segments = init ++ [last] :=
    ⟨_, _, (List.dropLast_concat_getLast p.segments_ne_nil).symm⟩
  obtain ⟨around, hinit, hlast⟩ := walk_append_eq_ok_iff.1 (hseg ▸ hwalk)
  obtain ⟨hdir, hname, hend⟩ := walk_cons_eq_ok_iff.1 hlast
  have hstep : step around last = p.location := Except.ok.inj hend
  -- the last segment is a name, since the others lead to directories
  have hidle : isIdle last = false := by
    rw [Bool.eq_false_iff]
    intro hidle
    rw [step_of_isIdle hidle] at hstep
    rw [← hstep, hdir] at hfile
    cases hfile
  have hup : last ≠ ".." := by
    rintro rfl
    rw [step_up] at hstep
    rw [← hstep, ht.isDirectory_tail hdir] at hfile
    cases hfile
  have hisName : IsName last :=
    isName_of_mem_segments (hseg ▸ List.mem_append_right _ (List.mem_cons_self ..)) hidle hup
  rw [step_of_isName hisName] at hstep
  refine ⟨target_eq_entry_iff.2 ⟨hcheck, init, last, 0, around, by simpa using hseg, hisName,
    (hname hidle hup).1, hinit, hdir, hstep.symm, by simp⟩, hfile⟩

/-- Without two dots, a place that is taken by a file in a well-formed tree can be reached there, as
soon as another tree has the place. -/
theorem WellFormed.hasPlace_of_hasPlace (ht : t.WellFormed) (hup : ".." ∉ p.segments)
    (h : t'.HasPlace p) (hp : t.contains p.location = true)
    (hfile : t.isDirectory p.location = false) : t.HasPlace p := by
  obtain ⟨init, name, around, hseg, hname, hshort, hwalk, -, hl⟩ := h.exists_segments
  have hdir : t.isDirectory around = true := ht.around (hl ▸ hp)
  have hinit : ".." ∉ init := fun hmem => hup (hseg ▸ List.mem_append_left _ hmem)
  refine ⟨target_eq_entry_iff.2 ⟨(target_eq_entry_iff.1 h.1).1, init, name, 0, around,
    by simpa using hseg, hname, hshort, ht.walk_of_walk hinit hdir hwalk, hdir, hl, by simp⟩, hfile⟩

/-- Without two dots, what a path names in one tree it names in another one that has the same there. -/
theorem WellFormed.node_of_node (ht : t.WellFormed) (ht' : t'.WellFormed) (hup : ".." ∉ p.segments)
    {n : Node} (h : t'.node p = .ok n) (hget : t.get? p.location = some n) : t.node p = .ok n := by
  cases n with
  | file contents a =>
    have hplace := ht.hasPlace_of_hasPlace hup (ht'.hasPlace_of_file h) (contains_of_get? hget)
      (isDirectory_of_file hget)
    exact hplace.node_eq_ok hget
  | directory m =>
    obtain ⟨hcheck, hwalk⟩ := locate_eq_ok_iff.1 (node_eq_ok_iff.1 h).1
    have hwalk' := ht.walk_of_walk hup (isDirectory_iff.2 ⟨m, hget⟩) hwalk
    exact node_eq_ok_iff.2 ⟨locate_eq_ok_iff.2 ⟨hcheck, hwalk'⟩, hget⟩

theorem node_join_iff {dir : Path} {name : String} (hdir : t.namesDirectory dir = true)
    (hname : IsName name) {n : Node} :
    t.node (dir.join ⟨name⟩) = .ok n ↔ checkPath (dir.join ⟨name⟩) = .ok () ∧
      name.utf8ByteSize ≤ longestName ∧ t.get? (name :: dir.location) = some n := by
  obtain ⟨around, hseg, hnames⟩ := segments_join hname dir
  obtain ⟨hlocate, hisDir⟩ := namesDirectory_iff.1 hdir
  have haround : t.walk around [] = .ok dir.location := by
    rw [← walk_nonIdle hisDir, hnames, names, walk_nonIdle hisDir]
    exact (locate_eq_ok_iff.1 hlocate).2
  rw [node_eq_ok_iff, locate_eq_ok_iff, location_join hname, hseg]
  constructor
  · rintro ⟨⟨hcheck, hwalk⟩, hget⟩
    obtain ⟨l, hl, hlast⟩ := walk_append_eq_ok_iff.1 hwalk
    exact ⟨hcheck, ((walk_cons_eq_ok_iff.1 hlast).2.1 hname.1 hname.2.1).1, hget⟩
  · rintro ⟨hcheck, hshort, hget⟩
    refine ⟨⟨hcheck, walk_append_eq_ok_iff.2 ⟨_, haround, walk_cons_eq_ok_iff.2 ⟨hisDir,
      fun _ _ => ⟨hshort, contains_of_get? hget⟩, ?_⟩⟩⟩, hget⟩
    rw [step_of_isName hname]
    rfl

end

end DefFragments.FileTree
