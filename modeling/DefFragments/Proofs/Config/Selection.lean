import DefFragments.Config.Selection
import DefFragments.Proofs.FileTree.Walks
import DefFragments.Proofs.Text.ByteOrder
import Mathlib.Data.List.Sort

/-!
# What a selection depends on

A list in strictly ascending order is told by its members, so a selection is told by the files that
it selects. These depend on what is in the source directory and on nothing else: a selected file is
still selected, and still the same, in every tree that has the source directory and the file where
they were.
-/

namespace DefFragments

/-! ### Ascending order -/

section
variable {α : Type} {key : α → String}

theorem sortOn_eq_insertionSort (key : α → String) (l : List α) :
    sortOn key l = l.insertionSort fun a b => key a ≤ key b := by
  have hinsert : ∀ (a : α) (l : List α),
      insertOn key a l = l.orderedInsert (fun a b => key a ≤ key b) a := by
    intro a l
    induction l with
    | nil => rfl
    | cons b l ih =>
      rw [insertOn, List.orderedInsert_cons, ih]
      by_cases h : key b < key a
      · rw [if_pos h, if_neg (not_le.2 h)]
      · rw [if_neg h, if_pos (not_lt.1 h)]
  induction l with
  | nil => rfl
  | cons a l ih => rw [List.insertionSort_cons, ← ih, ← hinsert]; rfl

theorem sortOn_perm (key : α → String) (l : List α) : (sortOn key l).Perm l := by
  rw [sortOn_eq_insertionSort]
  exact List.perm_insertionSort _ l

theorem pairwise_sortOn (key : α → String) (l : List α) :
    (sortOn key l).Pairwise fun a b => key a ≤ key b := by
  have : IsTrans α fun a b => key a ≤ key b := ⟨fun _ _ _ => le_trans⟩
  have : Std.Total fun a b : α => key a ≤ key b := ⟨fun a b => le_total (key a) (key b)⟩
  rw [sortOn_eq_insertionSort]
  exact List.pairwise_insertionSort _ l

theorem pairwise_sortOn_of_nodup {names : List String} (h : names.Nodup) :
    (sortOn id names).Pairwise (· < ·) :=
  ((pairwise_sortOn id names).and ((sortOn_perm id names).nodup_iff.2 h)).imp
    fun ⟨hle, hne⟩ => lt_of_le_of_ne hle hne

variable [DecidableEq α]

theorem mem_dropRepeats {a : α} {l : List α} : a ∈ dropRepeats l ↔ a ∈ l := by
  fun_induction dropRepeats l with
  | case1 => rfl
  | case2 => rfl
  | case3 b rest ih => rw [ih]; simp
  | case4 b c rest hne ih => rw [List.mem_cons, ih, List.mem_cons (b := b)]

/-- In ascending order equal elements stand side by side, if the key tells them apart. -/
theorem pairwise_dropRepeats {l : List α} (hle : l.Pairwise fun a b => key a ≤ key b)
    (hkey : ∀ a ∈ l, ∀ b ∈ l, key a = key b → a = b) :
    (dropRepeats l).Pairwise fun a b => key a < key b := by
  fun_induction dropRepeats l with
  | case1 => exact .nil
  | case2 => exact List.pairwise_singleton _ _
  | case3 b rest ih =>
    exact ih (List.pairwise_cons.1 hle).2 fun a ha c hc =>
      hkey a (List.mem_cons_of_mem _ ha) c (List.mem_cons_of_mem _ hc)
  | case4 b c rest hne ih =>
    obtain ⟨hfirst, hrest⟩ := List.pairwise_cons.1 hle
    refine List.pairwise_cons.2 ⟨fun x hx => ?_, ih hrest fun a ha d hd =>
      hkey a (List.mem_cons_of_mem _ ha) d (List.mem_cons_of_mem _ hd)⟩
    have hbc : key b < key c := lt_of_le_of_ne (hfirst c (List.mem_cons_self ..)) fun heq =>
      hne (hkey b (List.mem_cons_self ..) c (List.mem_cons_of_mem _ (List.mem_cons_self ..)) heq)
    have hcx : key c ≤ key x := by
      rcases List.mem_cons.1 (mem_dropRepeats.1 hx) with rfl | hx
      · exact le_rfl
      · exact (List.pairwise_cons.1 hrest).1 x hx
    exact lt_of_lt_of_le hbc hcx

end

namespace Config
open FileTree DefFragments.Path

section
variable {c : Config} {base : Path} {t t' : FileTree} {extensions : List String}
  {files files' : List Path}

/-! ### Selected files -/

theorem mem_outputPaths (c : Config) (base : Path) (dir? : Option Path) (kind : FragmentKind) :
    c.outputPath base dir? kind ∈ c.outputPaths base dir? :=
  List.mem_map_of_mem (by cases kind <;> decide)

theorem selects_append (c : Config) (a b : List String) (name : String) :
    c.selects (a ++ b) name = (c.selects a name || c.selects b name) := by
  unfold selects
  cases Path.extension? name with
  | none => simp
  | some extension => simp [Bool.and_or_distrib_left]

/-- The names of the files that are selected. -/
def Selected (c : Config) (t : FileTree) (dir : Path) (extensions : List String) (name : String) :
    Prop :=
  t.contains (name :: dir.location) = true ∧ t.namesFile (dir.join ⟨name⟩) = true ∧
    c.selects extensions name = true

theorem mem_selectedNames_iff {dir : Path} {name : String} :
    name ∈ c.selectedNames t dir extensions (t.listing dir.location) ↔
      c.Selected t dir extensions name := by
  rw [selectedNames, (sortOn_perm _ _).mem_iff, List.mem_filter, filterMap_text?_listing,
    mem_children_iff, Bool.and_eq_true, Selected]

theorem pairwise_selectedNames (c : Config) (t : FileTree) (dir : Path) (extensions : List String) :
    (c.selectedNames t dir extensions (t.listing dir.location)).Pairwise (· < ·) := by
  rw [selectedNames, filterMap_text?_listing]
  exact pairwise_sortOn_of_nodup ((t.nodup_children _).filter _)

theorem select_eq_ok_iff :
    c.select t base extensions = .ok files ↔ t.IsListable (c.sourceDir base) ∧
      files = (c.selectedNames t (c.sourceDir base) extensions
        (t.listing (c.sourceDir base).location)).map fun name => (c.sourceDir base).join ⟨name⟩ := by
  unfold select
  dsimp only
  cases hlist : t.list (c.sourceDir base) with
  | error e =>
    refine iff_of_false (fun h => ?_) fun h => ?_
    · cases h
    · rw [list_eq_ok_iff.2 ⟨h.1, rfl⟩] at hlist
      cases hlist
  | ok names =>
    obtain ⟨hdir, rfl⟩ := list_eq_ok_iff.1 hlist
    rw [Except.ok.injEq, eq_comm]
    exact (and_iff_right hdir).symm

theorem exists_select (h : c.select t base extensions = .ok files) (others : List String) :
    ∃ files', c.select t base others = .ok files' :=
  ⟨_, select_eq_ok_iff.2 ⟨(select_eq_ok_iff.1 h).1, rfl⟩⟩

theorem select_eq_error {f : Failure} (h : c.select t base extensions = .error f)
    (others : List String) : c.select t base others = .error f := by
  unfold select at h ⊢
  cases hlist : t.list (c.sourceDir base) with
  | error e => simpa only [hlist] using h
  | ok names => simp [hlist] at h

theorem mem_select_iff (h : c.select t base extensions = .ok files) {p : Path} :
    p ∈ files ↔ ∃ name, c.Selected t (c.sourceDir base) extensions name ∧
      p = (c.sourceDir base).join ⟨name⟩ := by
  obtain ⟨-, rfl⟩ := select_eq_ok_iff.1 h
  simp only [List.mem_map, mem_selectedNames_iff, eq_comm]

theorem exists_file_of_mem_select (h : c.select t base extensions = .ok files) {p : Path}
    (hp : p ∈ files) : ∃ contents a, t.node p = .ok (.file contents a) := by
  obtain ⟨name, ⟨-, hfile, -⟩, rfl⟩ := (mem_select_iff h).1 hp
  exact namesFile_iff.1 hfile

/-! ### Inputs -/

theorem inputFiles_eq_ok_iff {inputs : List Path} :
    c.inputFiles t base = .ok inputs ↔ ∃ depends scanned,
      c.dependFiles t base = .ok depends ∧ c.scanFiles t base = .ok scanned ∧
        inputs = dropRepeats (sortOn fileName (depends ++ scanned)) := by
  unfold inputFiles
  cases c.dependFiles t base with
  | error f => simp [bind, Except.bind]
  | ok depends =>
    cases c.scanFiles t base with
    | error f => simp [bind, Except.bind]
    | ok scanned => simp [bind, Except.bind, pure, Except.pure, eq_comm]

theorem exists_inputFiles (h : c.select t base extensions = .ok files) :
    ∃ inputs, c.inputFiles t base = .ok inputs := by
  obtain ⟨depends, hdepends⟩ := exists_select h c.source.depends
  obtain ⟨scanned, hscanned⟩ := exists_select h c.source.scan
  exact ⟨_, inputFiles_eq_ok_iff.2 ⟨depends, scanned, hdepends, hscanned, rfl⟩⟩

/-- The inputs are the scanned files and the others whose age counts. -/
theorem inputFiles_eq_ok {inputs : List Path} (h : c.inputFiles t base = .ok inputs) :
    ∃ depends scanned, c.dependFiles t base = .ok depends ∧ c.scanFiles t base = .ok scanned ∧
      ∀ p, p ∈ inputs ↔ p ∈ depends ∨ p ∈ scanned := by
  obtain ⟨depends, scanned, hdepends, hscanned, rfl⟩ := inputFiles_eq_ok_iff.1 h
  refine ⟨depends, scanned, hdepends, hscanned, fun p => ?_⟩
  rw [mem_dropRepeats, (sortOn_perm _ _).mem_iff, List.mem_append]

/-- They are the files that one selection by both lists of extensions has. -/
theorem exists_select_of_inputFiles {inputs : List Path} (h : c.inputFiles t base = .ok inputs) :
    ∃ files, c.select t base (c.source.depends ++ c.source.scan) = .ok files ∧
      ∀ p, p ∈ inputs ↔ p ∈ files := by
  obtain ⟨depends, scanned, hdepends, hscanned, hmem⟩ := inputFiles_eq_ok h
  obtain ⟨files, hfiles⟩ := exists_select hdepends (c.source.depends ++ c.source.scan)
  refine ⟨files, hfiles, fun p => ?_⟩
  rw [hmem, mem_select_iff hfiles, mem_select_iff hdepends, mem_select_iff hscanned, ← exists_or]
  refine exists_congr fun name => ?_
  rw [Selected, Selected, Selected, selects_append, Bool.or_eq_true]
  constructor
  · rintro (⟨⟨hcontains, hfile, hselects⟩, hp⟩ | ⟨⟨hcontains, hfile, hselects⟩, hp⟩)
    · exact ⟨⟨hcontains, hfile, Or.inl hselects⟩, hp⟩
    · exact ⟨⟨hcontains, hfile, Or.inr hselects⟩, hp⟩
  · rintro ⟨⟨hcontains, hfile, hselects | hselects⟩, hp⟩
    · exact Or.inl ⟨⟨hcontains, hfile, hselects⟩, hp⟩
    · exact Or.inr ⟨⟨hcontains, hfile, hselects⟩, hp⟩

theorem fileName_of_mem_select (ht : t.WellFormed) (h : c.select t base extensions = .ok files)
    {p : Path} (hp : p ∈ files) : p = (c.sourceDir base).join ⟨fileName p⟩ := by
  obtain ⟨name, ⟨hcontains, -, -⟩, rfl⟩ := (mem_select_iff h).1 hp
  rw [fileName, fileName?_join (ht.named hcontains), Option.getD_some]

theorem pairwise_select (ht : t.WellFormed) (h : c.select t base extensions = .ok files) :
    files.Pairwise fun p q => fileName p < fileName q := by
  obtain ⟨-, rfl⟩ := select_eq_ok_iff.1 h
  have hname : ∀ {name}, name ∈ c.selectedNames t (c.sourceDir base) extensions
      (t.listing (c.sourceDir base).location) →
      fileName ((c.sourceDir base).join ⟨name⟩) = name := by
    intro name hmem
    rw [fileName, fileName?_join (ht.named (mem_selectedNames_iff.1 hmem).1), Option.getD_some]
  refine List.pairwise_map.2 ((pairwise_selectedNames ..).imp_of_mem fun ha hb hlt => ?_)
  rwa [hname ha, hname hb]

/-- The files of both selections, sorted by their names and without repetitions, are in the order
in which one selection has them. All are in one directory, so files with one name are one file. -/
theorem inputFiles_eq_select (ht : t.WellFormed) :
    c.inputFiles t base = c.select t base (c.source.depends ++ c.source.scan) := by
  cases hselect : c.select t base (c.source.depends ++ c.source.scan) with
  | error f =>
    have hdepends : c.dependFiles t base = .error f := select_eq_error hselect c.source.depends
    rw [inputFiles, hdepends]
    rfl
  | ok files =>
    obtain ⟨inputs, hinputs⟩ := exists_inputFiles hselect
    obtain ⟨files', hfiles', hmem⟩ := exists_select_of_inputFiles hinputs
    obtain rfl := Except.ok.inj (hselect.symm.trans hfiles')
    obtain ⟨depends, scanned, -, -, rfl⟩ := inputFiles_eq_ok_iff.1 hinputs
    have hsame : ∀ p ∈ sortOn fileName (depends ++ scanned),
        ∀ q ∈ sortOn fileName (depends ++ scanned), fileName p = fileName q → p = q := by
      intro p hp q hq heq
      rw [fileName_of_mem_select ht hselect ((hmem p).1 (mem_dropRepeats.2 hp)), heq,
        ← fileName_of_mem_select ht hselect ((hmem q).1 (mem_dropRepeats.2 hq))]
    have : Std.Antisymm fun p q => fileName p < fileName q :=
      ⟨fun _ _ hlt hgt => absurd hlt (lt_asymm hgt)⟩
    have : Std.Irrefl fun p q => fileName p < fileName q := ⟨fun _ => lt_irrefl _⟩
    rw [hinputs, (pairwise_dropRepeats (pairwise_sortOn _ _) hsame).eq_of_mem_iff
      (pairwise_select ht hselect) hmem]

/-! ### Selections in two trees -/

theorem exists_select_of_keepsDirectories (hkeeps : KeepsDirectories t t')
    (h : c.select t base extensions = .ok files) :
    ∃ files', c.select t' base extensions = .ok files' :=
  ⟨_, select_eq_ok_iff.2 ⟨(select_eq_ok_iff.1 h).1.of_keepsDirectories hkeeps, rfl⟩⟩

theorem location_of_mem_select (ht : t.WellFormed) (h : c.select t base extensions = .ok files)
    {p : Path} (hp : p ∈ files) : ∃ name, c.selects extensions name = true ∧
      p.location = name :: (c.sourceDir base).location := by
  obtain ⟨name, ⟨hcontains, -, hselects⟩, rfl⟩ := (mem_select_iff h).1 hp
  exact ⟨name, hselects, location_join (ht.named hcontains) _⟩

theorem mem_select_of_file (ht : t.WellFormed) (h : c.select t base extensions = .ok files)
    (h' : c.select t' base extensions = .ok files') {p : Path} (hp : p ∈ files)
    {contents : ByteArray} {a : Attributes} (hfile : t'.get? p.location = some (.file contents a)) :
    p ∈ files' ∧ t'.node p = .ok (.file contents a) := by
  obtain ⟨name, ⟨hcontains, hnames, hselects⟩, rfl⟩ := (mem_select_iff h).1 hp
  have hname := ht.named hcontains
  obtain ⟨contents', a', hnode⟩ := namesFile_iff.1 hnames
  obtain ⟨hcheck, hshort, -⟩ := (node_join_iff (select_eq_ok_iff.1 h).1.namesDirectory hname).1 hnode
  rw [location_join hname] at hfile
  have hnode' := (node_join_iff (select_eq_ok_iff.1 h').1.namesDirectory hname).2 ⟨hcheck, hshort, hfile⟩
  exact ⟨(mem_select_iff h').2 ⟨name, ⟨contains_of_get? hfile,
    namesFile_iff.2 ⟨contents, a, hnode'⟩, hselects⟩, rfl⟩, hnode'⟩

/-- A selected file stays selected, and what it is, in a tree that has it where it was. -/
theorem mem_select_of_kept (ht : t.WellFormed) (h : c.select t base extensions = .ok files)
    (h' : c.select t' base extensions = .ok files') {p : Path} (hp : p ∈ files)
    (hkept : t'.get? p.location = t.get? p.location) : p ∈ files' ∧ t'.node p = t.node p := by
  obtain ⟨contents, a, hnode⟩ := exists_file_of_mem_select h hp
  rw [hnode]
  exact mem_select_of_file ht h h' hp (hkept.trans (node_eq_ok_iff.1 hnode).2)

theorem selectedNames_congr {dir : Path}
    (h : ∀ name, c.Selected t dir extensions name ↔ c.Selected t' dir extensions name) :
    c.selectedNames t dir extensions (t.listing dir.location) =
      c.selectedNames t' dir extensions (t'.listing dir.location) :=
  (pairwise_selectedNames ..).eq_of_mem_iff (pairwise_selectedNames ..) fun name =>
    mem_selectedNames_iff.trans ((h name).trans mem_selectedNames_iff.symm)

/-- A selection is told by the names that it selects. -/
theorem select_congr (h : c.select t base extensions = .ok files)
    (h' : c.select t' base extensions = .ok files')
    (hsame : ∀ name, c.Selected t (c.sourceDir base) extensions name ↔
      c.Selected t' (c.sourceDir base) extensions name) : files = files' := by
  obtain ⟨-, rfl⟩ := select_eq_ok_iff.1 h
  obtain ⟨-, rfl⟩ := select_eq_ok_iff.1 h'
  rw [selectedNames_congr hsame]

theorem selected_of_subset (ht : t.WellFormed) (ht' : t'.WellFormed)
    (h : c.select t base extensions = .ok files) (h' : c.select t' base extensions = .ok files')
    (hsub : ∀ p ∈ files, p ∈ files') {name : String}
    (hname : c.Selected t (c.sourceDir base) extensions name) :
    c.Selected t' (c.sourceDir base) extensions name := by
  have hmem := hsub _ ((mem_select_iff h).2 ⟨name, hname, rfl⟩)
  obtain ⟨name', hname', heq⟩ := (mem_select_iff h').1 hmem
  rwa [join_injective (ht.named hname.1) (ht'.named hname'.1) heq]

theorem selected_congr (ht : t.WellFormed) (ht' : t'.WellFormed)
    (h : c.select t base extensions = .ok files) (h' : c.select t' base extensions = .ok files')
    (hsame : ∀ p, p ∈ files ↔ p ∈ files') (name : String) :
    c.Selected t (c.sourceDir base) extensions name ↔
      c.Selected t' (c.sourceDir base) extensions name :=
  ⟨selected_of_subset ht ht' h h' fun p hp => (hsame p).1 hp,
    selected_of_subset ht' ht h' h fun p hp => (hsame p).2 hp⟩

theorem selected_scan_iff {dir : Path} {name : String} :
    c.Selected t dir c.source.scan name ↔
      c.Selected t dir (c.source.depends ++ c.source.scan) name ∧
        c.selects c.source.scan name = true := by
  rw [Selected, Selected, selects_append, Bool.or_eq_true]
  constructor
  · rintro ⟨hcontains, hfile, hselects⟩
    exact ⟨⟨hcontains, hfile, Or.inr hselects⟩, hselects⟩
  · rintro ⟨⟨hcontains, hfile, -⟩, hselects⟩
    exact ⟨hcontains, hfile, hselects⟩

/-- Which files are inputs tells which of them are scanned, and in which order they come. -/
theorem scanFiles_congr {inputs inputs' : List Path} (ht : t.WellFormed) (ht' : t'.WellFormed)
    (h : c.inputFiles t base = .ok inputs) (h' : c.inputFiles t' base = .ok inputs')
    (hsame : ∀ p, p ∈ inputs ↔ p ∈ inputs') :
    inputs = inputs' ∧ c.scanFiles t base = c.scanFiles t' base := by
  rw [inputFiles_eq_select ht] at h
  rw [inputFiles_eq_select ht'] at h'
  have hselected := selected_congr ht ht' h h' hsame
  have hscan : ∀ name, c.Selected t (c.sourceDir base) c.source.scan name ↔
      c.Selected t' (c.sourceDir base) c.source.scan name := by
    intro name
    rw [selected_scan_iff, selected_scan_iff, hselected]
  obtain ⟨sources, hsources⟩ := exists_select h c.source.scan
  obtain ⟨sources', hsources'⟩ := exists_select h' c.source.scan
  obtain rfl := select_congr hsources hsources' hscan
  exact ⟨select_congr h h' hselected, hsources.trans hsources'.symm⟩

end

end Config

end DefFragments
