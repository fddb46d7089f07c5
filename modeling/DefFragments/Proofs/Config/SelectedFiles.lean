import DefFragments.Proofs.Config.Selection
import DefFragments.Proofs.Text.Runs

/-!
# The files that are selected

A selection is said here in terms of the directory: which names it lists, whether they are text, what
their paths lead to, and what they look like. A path can be too long to be followed although the
directory can be listed, and a file behind such a path is passed over.
-/

namespace DefFragments

/-! ### Extensions -/

namespace Path
open Text

/-- A file name is something, a dot, and an extension without dots. -/
def HasExtension (name extension : String) : Prop :=
  ∃ stem ≠ [], name.toList = stem ++ '.' :: extension.toList ∧ '.' ∉ extension.toList

theorem extension?_eq_some_iff {name extension : String} (hup : name ≠ "..") :
    extension? name = some extension ↔ HasExtension name extension := by
  unfold extension?
  dsimp only
  constructor
  · intro h
    split at h
    · cases h
    · next dot before hdrop =>
      obtain ⟨hguard, heq⟩ := Option.ite_none_left_eq_some.1 h
      obtain rfl := Option.some.inj heq
      obtain rfl : dot = '.' := by
        have hstop := hdrop ▸ stopsAt_dropWhile (· != '.') name.toList.reverse
        simpa using stopsAt_cons.1 hstop
      have hname := eq_takeWhile_upTo hdrop
      refine ⟨before.reverse, by simpa using fun hnil => hguard (Or.inl hnil), ?_, ?_⟩
      · rw [String.toList_ofList]
        exact (List.reverse_eq_iff.1 hname).trans (by simp)
      · rw [String.toList_ofList, List.mem_reverse]
        exact not_mem_takeWhile_upTo '.' _
  · rintro ⟨stem, hne, hname, hfree⟩
    have hfree' : '.' ∉ extension.toList.reverse := by simpa using hfree
    have hreverse : name.toList.reverse = extension.toList.reverse ++ '.' :: stem.reverse := by
      simp [hname]
    rw [hreverse, takeWhile_upTo hfree', dropWhile_upTo hfree']
    have hguard : ¬(stem.reverse = [] ∨ name = "..") := by simp [hne, hup]
    simp only [if_neg hguard, List.reverse_reverse, String.ofList_toList]

theorem selects_iff {c : Config} {extensions : List String} {name : String} (hup : name ≠ "..") :
    c.selects extensions name = true ↔
      name ∉ c.source.exclude ∧ ∃ e ∈ extensions, HasExtension name e := by
  simp only [← extension?_eq_some_iff hup]
  unfold Config.selects
  cases extension? name with
  | none => simp
  | some e => simp

end Path

/-! ### Directories on a disk -/

namespace FileTree
open DefFragments.Path

/-- A tree whose names are such as a file system stores. -/
structure OnDisk (t : FileTree) : Prop where
  wellFormed : t.WellFormed
  stored : ∀ {name l}, t.contains (name :: l) = true →
    name.utf8ByteSize ≤ longestName ∧ '\x00' ∉ name.toList

theorem onDisk_iff (t : FileTree) :
    t.OnDisk ↔ t.WellFormed ∧ ∀ e ∈ t.entries, ∀ name ∈ e.1.head?,
      name.utf8ByteSize ≤ longestName ∧ '\x00' ∉ name.toList := by
  constructor
  · rintro ⟨ht, hstored⟩
    refine ⟨ht, ?_⟩
    rintro ⟨k, n⟩ he name hname
    obtain ⟨l, rfl⟩ : ∃ l, k = name :: l := List.head?_eq_some_iff.1 hname
    exact hstored (contains_of_get? ((t.mem_entries_iff (List.cons_ne_nil name l)).1 he))
  · rintro ⟨ht, hall⟩
    refine ⟨ht, fun {name l} hcontains => ?_⟩
    obtain ⟨n, hn⟩ := Option.isSome_iff_exists.1 hcontains
    exact hall _ ((t.mem_entries_iff (List.cons_ne_nil name l)).2 hn) name rfl

instance (t : FileTree) : Decidable t.OnDisk :=
  decidable_of_iff _ t.onDisk_iff.symm

variable {t : FileTree} {dir : Path} {name : String}

theorem checkPath_join_iff (hdir : checkPath dir = .ok ()) (hname : IsName name)
    (hnul : '\x00' ∉ name.toList) : checkPath (dir.join ⟨name⟩) = .ok () ↔
      (dir.join ⟨name⟩).text.utf8ByteSize ≤ longestPath := by
  obtain ⟨hdirnul, hdirne, -⟩ := checkPath_eq_ok_iff.1 hdir
  obtain ⟨slash, hslash, htext⟩ := exists_text_join hname dir
  have hslashnul : '\x00' ∉ slash.toList := by
    simp only [List.mem_cons, List.not_mem_nil, or_false] at hslash
    rcases hslash with rfl | rfl <;> decide
  rw [checkPath_eq_ok_iff]
  refine ⟨fun h => h.2.2, fun h => ⟨?_, ?_, h⟩⟩
  · simp [htext, hdirnul, hslashnul, hnul]
  · simp [htext, hdirne]

/-- In a directory that can be listed, only the length of its path can keep a file from being
found. -/
theorem namesFile_join_iff (ht : t.OnDisk) (hdir : t.namesDirectory dir = true)
    (hcontains : t.contains (name :: dir.location) = true) :
    t.namesFile (dir.join ⟨name⟩) = true ↔
      (∃ contents a, t.get? (name :: dir.location) = some (.file contents a)) ∧
        (dir.join ⟨name⟩).text.utf8ByteSize ≤ longestPath := by
  have hname := ht.wellFormed.named hcontains
  obtain ⟨hshort, hnul⟩ := ht.stored hcontains
  have hcheck := (locate_eq_ok_iff.1 (namesDirectory_iff.1 hdir).1).1
  rw [namesFile_iff]
  simp only [node_join_iff hdir hname, checkPath_join_iff hcheck hname hnul, hshort, true_and,
    exists_and_left]
  exact and_comm

section
variable {t' : FileTree} (hget : ∀ l, t'.get? l = t.get? l)
include hget

theorem isDirectory_congr (l : Location) : t'.isDirectory l = t.isDirectory l := by
  rw [isDirectory, isDirectory, hget]

theorem contains_congr (l : Location) : t'.contains l = t.contains l := by
  rw [contains, contains, hget]

/-- What a path leads to does not depend on the order in which directories list their names. -/
theorem locate_congr (p : Path) : t'.locate p = t.locate p := by
  have hwalk : ∀ segments l, t'.walk segments l = t.walk segments l := by
    intro segments
    induction segments with
    | nil => exact fun l => rfl
    | cons segment rest ih =>
      intro l
      rw [walk, walk, isDirectory_congr hget, contains_congr hget, ih, ih, ih]
  unfold locate
  rw [hwalk]

theorem node_congr (p : Path) : t'.node p = t.node p := by
  simp only [node, locate_congr hget, hget]

theorem list_error_congr {p : Path} {e : FileError} (h : t.list p = .error e) :
    t'.list p = .error e := by
  unfold list at h ⊢
  rw [locate_congr hget]
  cases hlocate : t.locate p with
  | error e' =>
    rw [hlocate] at h
    exact h
  | ok l =>
    rw [hlocate] at h
    dsimp only [bind, Except.bind] at h ⊢
    rw [hget]
    cases hn : t.get? l with
    | none => simpa only [hn] using h
    | some n =>
      cases n with
      | file contents a => simpa only [hn] using h
      | directory a =>
        by_cases ha : a.readable = true
        · simp [hn, ha] at h
        · simpa [hn, ha] using h

end

end FileTree

/-! ### Selections -/

namespace Config
open FileTree DefFragments.Path Text

/-- Which names in a directory take part: those that are text and whose path leads to a file, that are
not excluded, and whose extension is among the given ones. -/
structure TakesPart (c : Config) (t : FileTree) (dir : Path) (extensions : List String)
    (name : String) : Prop where
  listed : .text name ∈ t.listing dir.location
  file : t.namesFile (dir.join ⟨name⟩) = true
  included : name ∉ c.source.exclude
  extended : ∃ e ∈ extensions, HasExtension name e

/-- A list of files in a directory: those that a property of names tells, ascending by the bytes of
their names, so that none is listed twice. -/
structure ListsFiles (dir : Path) (P : String → Prop) (names : List String) (files : List Path) :
    Prop where
  files_eq : files = names.map fun name => dir.join ⟨name⟩
  fileNames : files.map Path.fileName? = names.map some
  ascending : names.Pairwise BytesLess
  mem_iff : ∀ name, name ∈ names ↔ P name

variable {c : Config} {t t' : FileTree} {base : Path} {extensions : List String}

theorem text_mem_listing_iff {l : Location} {name : String} :
    .text name ∈ t.listing l ↔ t.contains (name :: l) = true := by
  rw [← mem_children_iff, listing]
  simp

theorem selected_iff_takesPart (ht : t.WellFormed) {dir : Path} {name : String} :
    c.Selected t dir extensions name ↔ c.TakesPart t dir extensions name := by
  constructor
  · rintro ⟨hcontains, hfile, hselects⟩
    obtain ⟨hincluded, hextension⟩ := (selects_iff (ht.named hcontains).2.1).1 hselects
    exact ⟨text_mem_listing_iff.2 hcontains, hfile, hincluded, hextension⟩
  · rintro ⟨hlisted, hfile, hincluded, hextension⟩
    have hcontains := text_mem_listing_iff.1 hlisted
    exact ⟨hcontains, hfile, (selects_iff (ht.named hcontains).2.1).2 ⟨hincluded, hextension⟩⟩

theorem exists_listsFiles (ht : t.WellFormed) (hdir : t.IsListable (c.sourceDir base))
    (extensions : List String) : ∃ names files, c.select t base extensions = .ok files ∧
      ListsFiles (c.sourceDir base) (c.TakesPart t (c.sourceDir base) extensions) names files := by
  refine ⟨_, _, select_eq_ok_iff.2 ⟨hdir, rfl⟩, rfl, ?_,
    (c.pairwise_selectedNames ..).imp bytesLess_of_lt,
    fun name => mem_selectedNames_iff.trans (selected_iff_takesPart ht)⟩
  rw [List.map_map]
  refine List.map_congr_left fun name hname => ?_
  rw [Function.comp_apply, fileName?_join (ht.named (mem_selectedNames_iff.1 hname).1)]

theorem TakesPart.append_iff {dir : Path} {a b : List String} {name : String} :
    c.TakesPart t dir (a ++ b) name ↔ c.TakesPart t dir a name ∨ c.TakesPart t dir b name := by
  constructor
  · rintro ⟨hlisted, hfile, hincluded, e, he, hextension⟩
    rcases List.mem_append.1 he with he | he
    · exact Or.inl ⟨hlisted, hfile, hincluded, e, he, hextension⟩
    · exact Or.inr ⟨hlisted, hfile, hincluded, e, he, hextension⟩
  · rintro (⟨hlisted, hfile, hincluded, e, he, hextension⟩ |
      ⟨hlisted, hfile, hincluded, e, he, hextension⟩)
    · exact ⟨hlisted, hfile, hincluded, e, List.mem_append_left _ he, hextension⟩
    · exact ⟨hlisted, hfile, hincluded, e, List.mem_append_right _ he, hextension⟩

theorem select_congr_of_get? (hget : ∀ l, t'.get? l = t.get? l) (extensions : List String) :
    c.select t' base extensions = c.select t base extensions := by
  cases hlist : t.list (c.sourceDir base) with
  | error e =>
    unfold select
    simp only [hlist, list_error_congr hget hlist]
  | ok names =>
    have hdir := (list_eq_ok_iff.1 hlist).1
    have hdir' : t'.IsListable (c.sourceDir base) := by
      rw [IsListable, node_congr hget]
      exact hdir
    have hsame : ∀ name, c.Selected t' (c.sourceDir base) extensions name ↔
        c.Selected t (c.sourceDir base) extensions name := by
      intro name
      rw [Selected, Selected, contains_congr hget, namesFile, namesFile, node_congr hget]
    rw [select_eq_ok_iff.2 ⟨hdir, rfl⟩, select_eq_ok_iff.2 ⟨hdir', rfl⟩, selectedNames_congr hsame]

/-- The scanned files are those of the source directory that take part with the extensions to scan,
the files whose age counts are those that take part with theirs, and the inputs are the files of
both lists. Each list ascends by the bytes of the file names and has no file twice. The order in
which the directory lists its names does not matter, nor do the names in it that are no text. -/
theorem files_ascend_and_take_part (ht : t.WellFormed) (hdir : t.IsListable (c.sourceDir base)) :
    (∃ names files, c.scanFiles t base = .ok files ∧
      ListsFiles (c.sourceDir base) (c.TakesPart t (c.sourceDir base) c.source.scan) names files) ∧
    (∃ names files, c.dependFiles t base = .ok files ∧
      ListsFiles (c.sourceDir base) (c.TakesPart t (c.sourceDir base) c.source.depends) names
        files) ∧
    (∃ names files, c.inputFiles t base = .ok files ∧
      ListsFiles (c.sourceDir base)
        (fun name => c.TakesPart t (c.sourceDir base) c.source.depends name ∨
          c.TakesPart t (c.sourceDir base) c.source.scan name) names files) ∧
    ∀ t' : FileTree, (∀ l, t'.get? l = t.get? l) →
      c.scanFiles t' base = c.scanFiles t base ∧ c.dependFiles t' base = c.dependFiles t base ∧
        c.inputFiles t' base = c.inputFiles t base := by
  refine ⟨exists_listsFiles ht hdir _, exists_listsFiles ht hdir _, ?_, fun t' hget => ?_⟩
  · obtain ⟨names, files, hfiles, hlists⟩ :=
      exists_listsFiles ht hdir (c.source.depends ++ c.source.scan)
    exact ⟨names, files, (inputFiles_eq_select ht).trans hfiles,
      { hlists with mem_iff := fun name => (hlists.mem_iff name).trans TakesPart.append_iff }⟩
  · have hselect : ∀ extensions, c.select t' base extensions = c.select t base extensions :=
      select_congr_of_get? hget
    have hdepends : c.dependFiles t' base = c.dependFiles t base := hselect c.source.depends
    have hscan : c.scanFiles t' base = c.scanFiles t base := hselect c.source.scan
    exact ⟨hscan, hdepends, by rw [inputFiles, inputFiles, hdepends, hscan]⟩

/-- The bytes `ff 2e 63`, which would end in `.c` if they were text. -/
def foreignSource : ForeignName where
  bytes := ⟨#[255, 46, 99]⟩
  notText := by decide +kernel

/-- Entries of every kind that a selection tells apart, in no order. -/
def mixedTree : FileTree where
  entries :=
    [(["src"], .directory (.new .epoch)), (["é.c", "src"], .file .empty (.new .epoch)),
      (["x.h", "src"], .file .empty (.new .epoch)), ([".c", "src"], .file .empty (.new .epoch)),
      (["b.c", "src"], .file .empty (.new .epoch)),
      (["skip.c", "src"], .file .empty (.new .epoch)),
      (["d.c", "src"], .directory (.new .epoch)),
      (["B.c", "src"], .file .empty ⟨.epoch, false⟩), (["..c", "src"], .file .empty (.new .epoch)),
      (["b.c.txt", "src"], .file .empty (.new .epoch))]
  nodup := by decide
  foreign := [(["src"], foreignSource)]

/-- Both lists of extensions have both extensions, and one of them has one twice. -/
def mixedConfig : Config where
  source :=
    { dir := ⟨"src"⟩, scan := ["c", "h", "c"], depends := ["h", "c"], exclude := ["skip.c"] }

theorem overlapping_lists_joined_once :
    mixedTree.WellFormed ∧ mixedTree.IsListable (mixedConfig.sourceDir ⟨""⟩) ∧
      mixedTree.list (mixedConfig.sourceDir ⟨""⟩) =
        .ok (["é.c", "x.h", ".c", "b.c", "skip.c", "d.c", "B.c", "..c", "b.c.txt"].map .text ++
          [.foreign foreignSource]) ∧
      mixedConfig.inputFiles mixedTree ⟨""⟩ =
        .ok [⟨"src/..c"⟩, ⟨"src/B.c"⟩, ⟨"src/b.c"⟩, ⟨"src/x.h"⟩, ⟨"src/é.c"⟩] ∧
      ∀ name, name ∈ ["..c", "B.c", "b.c", "x.h", "é.c"] ↔
        mixedConfig.TakesPart mixedTree (mixedConfig.sourceDir ⟨""⟩) ["h", "c"] name ∨
          mixedConfig.TakesPart mixedTree (mixedConfig.sourceDir ⟨""⟩) ["c", "h", "c"] name := by
  have ht : mixedTree.WellFormed := by decide +kernel
  have hdir : mixedTree.IsListable (mixedConfig.sourceDir ⟨""⟩) := ⟨.new .epoch, rfl, rfl⟩
  have hinputs : mixedConfig.inputFiles mixedTree ⟨""⟩ =
      .ok [⟨"src/..c"⟩, ⟨"src/B.c"⟩, ⟨"src/b.c"⟩, ⟨"src/x.h"⟩, ⟨"src/é.c"⟩] := by
    decide +kernel
  obtain ⟨-, -, ⟨names, files, hfiles, hlists⟩, -⟩ := files_ascend_and_take_part ht hdir
  obtain rfl := Except.ok.inj (hinputs.symm.trans hfiles)
  have hnames : names = ["..c", "B.c", "b.c", "x.h", "é.c"] := by
    refine List.map_injective_iff.2 (Option.some_injective _) (hlists.fileNames.symm.trans ?_)
    decide +kernel
  exact ⟨ht, hdir, rfl, hinputs, hnames ▸ hlists.mem_iff⟩

end Config

/-! ### A path that is too long -/

namespace Path

/-- A longer spelling of a name: dots behind it lead nowhere else. -/
def dotted (name : String) (dots : Nat) : Path :=
  .ofSegments (name :: List.replicate dots ".")

theorem text_dotted_succ (name : String) (dots : Nat) :
    (dotted name (dots + 1)).text = name ++ "/" ++ (dotted "." dots).text :=
  String.intercalate_cons_cons

theorem utf8ByteSize_dotted (name : String) (dots : Nat) :
    (dotted name dots).text.utf8ByteSize = name.utf8ByteSize + 2 * dots := by
  induction dots generalizing name with
  | zero => simp [dotted, ofSegments]
  | succ dots ih =>
    rw [text_dotted_succ, String.utf8ByteSize_append, String.utf8ByteSize_append, ih]
    have hdot : ".".utf8ByteSize = 1 := rfl
    have hslash : "/".utf8ByteSize = 1 := rfl
    omega

theorem not_nul_dotted {name : String} (h : '\x00' ∉ name.toList) (dots : Nat) :
    '\x00' ∉ (dotted name dots).text.toList := by
  induction dots generalizing name with
  | zero => simpa [dotted, ofSegments] using h
  | succ dots ih =>
    have hrest : '\x00' ∉ (dotted "." dots).text.toList := ih (by decide)
    rw [text_dotted_succ, String.toList_append, String.toList_append]
    simp [h, hrest]

theorem segments_dotted {name : String} (h : IsName name) (dots : Nat) :
    (dotted name dots).segments = name :: List.replicate dots "." := by
  refine segments_ofSegments (List.cons_ne_nil name _) fun x hx => ?_
  rcases List.mem_cons.1 hx with rfl | hx
  · exact h.2.2
  · obtain rfl := List.eq_of_mem_replicate hx
    decide

theorem names_dotted {name : String} (h : IsName name) (dots : Nat) :
    (dotted name dots).names = [name] := by
  rw [names, segments_dotted h, nonIdle_cons_of_not_isIdle h.1, nonIdle, List.filter_replicate]
  simp [isIdle]

theorem location_dotted {name : String} (h : IsName name) (dots : Nat) :
    (dotted name dots).location = [name] := by
  rw [location_eq_foldl_names, names_dotted h, List.foldl_cons, List.foldl_nil, step_of_isName h]

end Path

theorem FileTree.namesDirectory_dotted {t : FileTree} {name : String} (ht : t.OnDisk)
    (hdir : t.isDirectory [name] = true) {dots : Nat}
    (hlong : name.utf8ByteSize + 2 * dots ≤ longestPath) :
    t.namesDirectory (.dotted name dots) = true := by
  have hcontains := contains_of_isDirectory hdir
  have hname := ht.wellFormed.named hcontains
  obtain ⟨hshort, hnul⟩ := ht.stored hcontains
  have hwalk : t.walk [name] [] = .ok [name] :=
    walk_cons_eq_ok_iff.2 ⟨t.isDirectory_nil, fun _ _ => ⟨hshort, hcontains⟩,
      congrArg Except.ok (Path.step_of_isName hname [])⟩
  have hcheck : checkPath (.dotted name dots) = .ok () := by
    refine checkPath_eq_ok_iff.2 ⟨Path.not_nul_dotted hnul dots, fun hempty => ?_, ?_⟩
    · have hsize := Path.utf8ByteSize_dotted name dots
      have hpos : name.utf8ByteSize ≠ 0 := by simpa using hname.ne_empty
      rw [hempty, String.utf8ByteSize_empty] at hsize
      omega
    · rwa [Path.utf8ByteSize_dotted]
  rw [namesDirectory_iff, Path.location_dotted hname, locate_eq_ok_iff, ← walk_nonIdle hdir]
  refine ⟨⟨hcheck, ?_⟩, hdir⟩
  rw [← Path.names, Path.names_dotted hname]
  exact hwalk

namespace Config
open FileTree

def dottedTree : FileTree :=
  (FileTree.empty.set ["src"] (.directory (.new .epoch))).set ["a.c", "src"]
    (.file .empty (.new .epoch))

def dottedConfig (dots : Nat) : Config where
  source := { dir := .dotted "src" dots }

section
variable (dots : Nat)

theorem sourceDir_dottedConfig : (dottedConfig dots).sourceDir ⟨""⟩ = .dotted "src" dots := by
  simp [sourceDir, dottedConfig, Path.join]

theorem location_dottedConfig : ((dottedConfig dots).sourceDir ⟨""⟩).location = ["src"] := by
  rw [sourceDir_dottedConfig]
  exact Path.location_dotted (by decide) dots

theorem onDisk_dottedTree : dottedTree.OnDisk := by
  decide +kernel

variable {dots}

theorem namesDirectory_dottedConfig (hdir : 3 + 2 * dots ≤ longestPath) :
    dottedTree.namesDirectory ((dottedConfig dots).sourceDir ⟨""⟩) = true := by
  rw [sourceDir_dottedConfig]
  exact namesDirectory_dotted onDisk_dottedTree (by decide +kernel) hdir

theorem isListable_dottedConfig (hdir : 3 + 2 * dots ≤ longestPath) :
    dottedTree.IsListable ((dottedConfig dots).sourceDir ⟨""⟩) := by
  refine isListable_iff.2 ⟨namesDirectory_dottedConfig hdir, .new .epoch, ?_, rfl⟩
  rw [location_dottedConfig]
  rfl

theorem select_dottedConfig (hdir : 3 + 2 * dots ≤ longestPath)
    (hfile : longestPath < 6 + 2 * dots) (extensions : List String) :
    (dottedConfig dots).select dottedTree ⟨""⟩ extensions = .ok [] := by
  have hnames := namesDirectory_dottedConfig hdir
  have hlong :
      dottedTree.namesFile (((dottedConfig dots).sourceDir ⟨""⟩).join ⟨"a.c"⟩) = false := by
    rw [Bool.eq_false_iff]
    intro hnamed
    have hcontains : dottedTree.contains ("a.c" :: ((dottedConfig dots).sourceDir ⟨""⟩).location) =
        true := by
      rw [location_dottedConfig]
      decide +kernel
    have hshort := ((namesFile_join_iff onDisk_dottedTree hnames hcontains).1 hnamed).2
    have hname : Path.IsName "a.c" := by decide
    obtain ⟨slash, -, htext⟩ := Path.exists_text_join hname ((dottedConfig dots).sourceDir ⟨""⟩)
    have hsrc : "src".utf8ByteSize = 3 := rfl
    have hac : "a.c".utf8ByteSize = 3 := rfl
    rw [htext, String.utf8ByteSize_append, String.utf8ByteSize_append, sourceDir_dottedConfig,
      Path.utf8ByteSize_dotted] at hshort
    omega
  have hlisting : dottedTree.listing ["src"] = [.text "a.c"] := rfl
  refine select_eq_ok_iff.2 ⟨isListable_dottedConfig hdir, ?_⟩
  rw [location_dottedConfig, hlisting, selectedNames]
  simp [EntryName.text?, hlong, sortOn]

end

theorem regular_file_not_listed :
    dottedTree.OnDisk ∧ dottedTree.IsListable ((dottedConfig 2045).sourceDir ⟨""⟩) ∧
      (∃ contents a, dottedTree.get? ("a.c" :: ((dottedConfig 2045).sourceDir ⟨""⟩).location) =
        some (.file contents a)) ∧
      "a.c" ∉ (dottedConfig 2045).source.exclude ∧
      (∃ e ∈ (dottedConfig 2045).source.scan, Path.HasExtension "a.c" e) ∧
      (∃ e ∈ (dottedConfig 2045).source.depends, Path.HasExtension "a.c" e) ∧
      (dottedConfig 2045).scanFiles dottedTree ⟨""⟩ = .ok [] ∧
      (dottedConfig 2045).dependFiles dottedTree ⟨""⟩ = .ok [] ∧
      (dottedConfig 2045).inputFiles dottedTree ⟨""⟩ = .ok [] := by
  have hdir : 3 + 2 * 2045 ≤ longestPath := by decide
  have hselect := select_dottedConfig hdir (by decide)
  have hextension : Path.HasExtension "a.c" "c" := ⟨['a'], by decide, by decide, by decide⟩
  refine ⟨onDisk_dottedTree, isListable_dottedConfig hdir, ?_, by decide,
    ⟨"c", List.mem_cons_self .., hextension⟩, ⟨"c", List.mem_cons_self .., hextension⟩,
    hselect _, hselect _, (inputFiles_eq_select onDisk_dottedTree.wellFormed).trans (hselect _)⟩
  rw [location_dottedConfig]
  exact ⟨.empty, .new .epoch, rfl⟩

end Config

end DefFragments
