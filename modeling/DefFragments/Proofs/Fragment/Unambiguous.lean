import DefFragments.Proofs.Fragment.EntryLines
import DefFragments.Proofs.Library.StackGuard
import DefFragments.Proofs.Source.Verdict

/-!
# What a fragment tells

Whatever was scanned, failed or not, the conditional lines of a fragment are those of closed blocks,
and the fragment determines the entries that were written to it. An entry is told by its lines: its
conditions end at the first line without a number sign in front, and the names on that line end at
punctuation that no name contains.
-/

namespace DefFragments
open Text

/-! ### Nesting -/

def Opens (line : List Char) : Prop :=
  "#if ".toList <+: line ∨ "#ifdef ".toList <+: line

/-- Every line with a number sign in front belongs to a closed block, and the blocks stand at most
so deep inside each other. -/
inductive Nests : Nat → List (List Char) → Prop
  | nil {n} : Nests n []
  | plain {n line rest} : line.head? ≠ some '#' → Nests n rest → Nests n (line :: rest)
  | block {n opening inner rest} : Opens opening → Nests n inner → Nests (n + 1) rest →
      Nests (n + 1) (opening :: (inner ++ "#endif".toList :: rest))

theorem Nests.append {n : Nat} {a b : List (List Char)} (ha : Nests n a) (hb : Nests n b) :
    Nests n (a ++ b) := by
  induction ha with
  | nil => exact hb
  | plain hline _ ih => exact .plain hline (ih hb)
  | block hopens hinner _ _ ih =>
    rw [List.cons_append, List.append_assoc, List.cons_append]
    exact .block hopens hinner (ih hb)

theorem nests_of_plain {n : Nat} {ls : List (List Char)} (h : ∀ l ∈ ls, l.head? ≠ some '#') :
    Nests n ls := by
  induction ls with
  | nil => exact .nil
  | cons l ls ih =>
    obtain ⟨hl, hls⟩ := List.forall_mem_cons.1 h
    exact .plain hl (ih hls)

/-- Statements under conditions, each of which is closed behind them. -/
theorem nests_enclosed {n : Nat} {conditions statements : List (List Char)}
    (hlength : conditions.length ≤ n) (hopens : ∀ c ∈ conditions, Opens c)
    (hplain : ∀ l ∈ statements, l.head? ≠ some '#') :
    Nests n (conditions ++
      (statements ++ List.replicate conditions.length "#endif".toList)) := by
  induction conditions generalizing n with
  | nil =>
    rw [List.nil_append, List.length_nil, List.replicate_zero, List.append_nil]
    exact nests_of_plain hplain
  | cons c conditions ih =>
    obtain ⟨hc, hrest⟩ := List.forall_mem_cons.1 hopens
    cases n with
    | zero => simp at hlength
    | succ n =>
      have hinner := ih (Nat.le_of_succ_le_succ hlength) hrest
      have hblock := Nests.block hc hinner .nil
      rw [List.length_cons, List.replicate_succ']
      simpa using hblock

/-! ### Splitting -/

/-- A list is split in one way at the first element that has not a property. -/
theorem split_unique {α : Type} {p : α → Prop} {a b r s : List α} {x y : α} (ha : ∀ z ∈ a, p z)
    (hb : ∀ z ∈ b, p z) (hx : ¬p x) (hy : ¬p y) (h : a ++ x :: r = b ++ y :: s) :
    a = b ∧ x = y ∧ r = s := by
  induction a generalizing b with
  | nil =>
    cases b with
    | nil =>
      obtain ⟨hxy, hrs⟩ := List.cons.inj h
      exact ⟨rfl, hxy, hrs⟩
    | cons z b =>
      obtain ⟨rfl, -⟩ := List.cons.inj h
      exact absurd (hb x (List.mem_cons_self ..)) hx
  | cons z a ih =>
    cases b with
    | nil =>
      obtain ⟨rfl, -⟩ := List.cons.inj h
      exact absurd (ha z (List.mem_cons_self ..)) hy
    | cons w b =>
      obtain ⟨rfl, hrest⟩ := List.cons.inj h
      obtain ⟨rfl, hxy⟩ := ih (fun v hv => ha v (List.mem_cons_of_mem _ hv))
        (fun v hv => hb v (List.mem_cons_of_mem _ hv)) hrest
      exact ⟨rfl, hxy⟩

theorem name_unique {c : Char} (hc : isNameChar c = false) {m n : String}
    (hm : IsName m.toList) (hn : IsName n.toList) {r s : List Char}
    (h : m.toList ++ c :: r = n.toList ++ c :: s) : m = n ∧ r = s := by
  have hstop : ¬isNameChar c = true := by simp [hc]
  obtain ⟨hnames, -, hrest⟩ := split_unique hm.2 hn.2 hstop hstop h
  exact ⟨String.toList_inj.1 hnames, hrest⟩

/-! ### One entry -/

theorem ConstantType.category_injective {t u : ConstantType} (h : t.category = u.category) :
    t = u := by
  have hall : ∀ t ∈ all, ∀ u ∈ all, t.category = u.category → t = u := by decide +kernel
  exact hall t t.mem_all u u.mem_all h

theorem ConstantType.isName_category (t : ConstantType) : IsName t.category.toList := by
  cases t <;> exact ⟨by decide, List.all_eq_true.1 rfl⟩

theorem CallingConvention.flags_injective {c d : CallingConvention} (h : c.flags = d.flags) :
    c = d := by
  cases c <;> cases d <;> first | rfl | simp [flags] at h

/-- The announcement without the condition of its own that a constant may have. -/
def Announcement.unconditional : Announcement → Announcement
  | .constant _ type name => .constant .always type name
  | a => a

namespace Entry

/-- The lines of the conditions around an entry, the outermost first. -/
def conditionLines (markers : Markers) (e : Entry) : List String :=
  (if e.guard = "" then [] else ["#if " ++ e.guard]) ++
    match e.announcement with
    | .constant .ifDefined _ name => ["#ifdef " ++ name]
    | .constant (.since release) _ _ =>
      ["#if " ++ markers.versionSymbol ++ " >= " ++ toString release]
    | .constant (.before release) _ _ =>
      ["#if " ++ markers.versionSymbol ++ " < " ++ toString release]
    | _ => []

/-- The lines behind the line that puts an announcement into effect. -/
def docLines (markers : Markers) : Announcement → List String
  | .function name _ => [" " ++ markers.functionPrefix ++ name ++ "__doc__\x7d,"]
  | _ => []

theorem textLines_eq (markers : Markers) (e : Entry) :
    textLines markers e = conditionLines markers e ++
      (effectLine markers e.announcement :: (docLines markers e.announcement ++
        List.replicate (conditionLines markers e).length "#endif")) := by
  obtain ⟨announcement, guard⟩ := e
  unfold textLines conditionLines
  cases announcement with
  | constant availability type name =>
    cases availability <;> split <;> simp [bareLines, docLines, List.replicate]
  | function name convention => split <;> simp [bareLines, docLines]
  | objectType typeName objectName => split <;> simp [bareLines, docLines]
  | library name => split <;> simp [bareLines, docLines]

theorem length_conditionLines_le (markers : Markers) (e : Entry) :
    (conditionLines markers e).length ≤ if e.kind = .constants then 2 else 1 := by
  obtain ⟨announcement, guard⟩ := e
  unfold conditionLines kind
  cases announcement with
  | constant availability type name =>
    cases availability <;> split <;> simp [FragmentKind.ofAnnouncement]
  | function name convention => split <;> simp [FragmentKind.ofAnnouncement]
  | objectType typeName objectName => split <;> simp [FragmentKind.ofAnnouncement]
  | library name => split <;> simp [FragmentKind.ofAnnouncement]

theorem opens_of_mem_conditionLines {markers : Markers} {e : Entry} :
    ∀ l ∈ conditionLines markers e, Opens l.toList := by
  have hif : ∀ s : String, Opens ("#if " ++ s).toList := by
    intro s
    rw [String.toList_append]
    exact Or.inl (List.prefix_append _ _)
  have hifdef : ∀ s : String, Opens ("#ifdef " ++ s).toList := by
    intro s
    rw [String.toList_append]
    exact Or.inr (List.prefix_append _ _)
  intro l hl
  unfold conditionLines at hl
  rcases List.mem_append.1 hl with hl | hl
  · split at hl
    · cases hl
    · rw [List.mem_singleton.1 hl]
      exact hif _
  · split at hl
    · rw [List.mem_singleton.1 hl]
      exact hifdef _
    · rw [List.mem_singleton.1 hl, String.append_assoc, String.append_assoc]
      exact hif _
    · rw [List.mem_singleton.1 hl, String.append_assoc, String.append_assoc]
      exact hif _
    · cases hl

theorem head?_of_opens {line : List Char} (h : Opens line) : line.head? = some '#' := by
  obtain ⟨rest, rfl⟩ | ⟨rest, rfl⟩ := h <;> rfl

section
variable {markers : Markers} {a b : Announcement}

theorem head?_effectLine (h : a.WellNamed markers) :
    (effectLine markers a).toList.head? ≠ some '#' := by
  cases a with
  | constant availability type name => simp [effectLine]
  | function name convention => simp [effectLine]
  | objectType typeName objectName => simp [effectLine]
  | library name =>
    intro hhead
    exact absurd (h.2 '#' (List.mem_of_mem_head? hhead)) (by decide)

theorem head?_docLines : ∀ l ∈ docLines markers a, l.toList.head? ≠ some '#' := by
  cases a <;> simp [docLines]

theorem nests_textLines {e : Entry} (h : Fits markers e) :
    Nests (if e.kind = .constants then 2 else 1) ((textLines markers e).map String.toList) := by
  have hopens : ∀ c ∈ (conditionLines markers e).map String.toList, Opens c :=
    List.forall_mem_map.2 opens_of_mem_conditionLines
  have hplain : ∀ l ∈ (effectLine markers e.announcement ::
      docLines markers e.announcement).map String.toList, l.head? ≠ some '#' :=
    List.forall_mem_map.2 (List.forall_mem_cons.2
      ⟨head?_effectLine h.announcement_wellNamed, head?_docLines⟩)
  have hlength := length_conditionLines_le markers e
  rw [← List.length_map String.toList] at hlength
  have hnests := nests_enclosed hlength hopens hplain
  rw [textLines_eq]
  simpa using hnests

theorem effectLine_injective (ha : a.WellNamed markers) (hb : b.WellNamed markers)
    (hkind : FragmentKind.ofAnnouncement a = FragmentKind.ofAnnouncement b)
    (h : effectLine markers a = effectLine markers b) : a.unconditional = b.unconditional := by
  have hchars := congrArg String.toList h
  cases a with
  | constant availability type name =>
    cases b <;> simp [FragmentKind.ofAnnouncement] at hkind
    next availability' type' name' =>
    simp only [effectLine, String.toList_append, List.append_assoc] at hchars
    obtain ⟨hcategory, hrest⟩ := name_unique (c := '(') (by decide) type.isName_category
      type'.isName_category (List.append_cancel_left hchars)
    obtain ⟨rfl, -⟩ := name_unique (c := '"') (by decide) ha hb
      (List.append_cancel_left (hrest : "d, \"".toList ++ _ = "d, \"".toList ++ _))
    rw [ConstantType.category_injective hcategory]
    rfl
  | function name convention =>
    cases b <;> simp [FragmentKind.ofAnnouncement] at hkind
    next name' convention' =>
    simp only [effectLine, String.toList_append, List.append_assoc] at hchars
    obtain ⟨rfl, -⟩ := name_unique (c := '"') (by decide) ha.1 hb.1
      (List.append_cancel_left hchars)
    have hflags : convention.flags = convention'.flags := by simpa [effectLine] using h
    rw [CallingConvention.flags_injective hflags]
  | objectType typeName objectName =>
    cases b <;> simp [FragmentKind.ofAnnouncement] at hkind
    next typeName' objectName' =>
    simp only [effectLine, String.toList_append, List.append_assoc] at hchars
    obtain ⟨rfl, -⟩ := name_unique (c := ',') (by decide) ha.1 hb.1
      (List.append_cancel_left hchars)
    have hobject : objectName = objectName' := by simpa [effectLine] using h
    rw [hobject]
  | library name =>
    cases b <;> simp [FragmentKind.ofAnnouncement] at hkind
    exact congrArg Announcement.library h

theorem docLines_unconditional (markers : Markers) (a : Announcement) :
    docLines markers a.unconditional = docLines markers a := by
  cases a <;> rfl

theorem textLines_ne_nil (markers : Markers) (e : Entry) : textLines markers e ≠ [] := by
  simp [textLines_eq]

/-- The lines of an entry are told from those behind them. -/
theorem textLines_append_unique {e e' : Entry} (hfits : Fits markers e) (hfits' : Fits markers e')
    (hkind : e.kind = e'.kind) {r s : List String}
    (h : textLines markers e ++ r = textLines markers e' ++ s) :
    conditionLines markers e = conditionLines markers e' ∧
      e.announcement.unconditional = e'.announcement.unconditional ∧ r = s := by
  have hconditions : ∀ e : Entry, ∀ l ∈ conditionLines markers e, l.toList.head? = some '#' :=
    fun e l hl => head?_of_opens (opens_of_mem_conditionLines l hl)
  have ha := hfits.announcement_wellNamed
  have hb := hfits'.announcement_wellNamed
  simp only [textLines_eq, List.append_assoc, List.cons_append] at h
  obtain ⟨hsame, heffect, htail⟩ := split_unique (hconditions e) (hconditions e')
    (head?_effectLine ha) (head?_effectLine hb) h
  have htold := effectLine_injective ha hb hkind heffect
  -- from here on both sides have the same lines in front of the rest
  rw [← docLines_unconditional, ← docLines_unconditional markers e'.announcement, htold, hsame]
    at htail
  exact ⟨hsame, htold, List.append_cancel_left (List.append_cancel_left htail)⟩

/-- Equal lines are those of entries that agree in all that the lines of an entry tell. -/
theorem map_eq_of_flatMap_textLines {kind : FragmentKind} {β : Type} {key : Entry → β}
    (hkey : ∀ e e' : Entry, e.kind = kind → e'.kind = kind →
      conditionLines markers e = conditionLines markers e' →
      e.announcement.unconditional = e'.announcement.unconditional → key e = key e')
    {es es' : List Entry} (hes : ∀ e ∈ es, Fits markers e ∧ e.kind = kind)
    (hes' : ∀ e ∈ es', Fits markers e ∧ e.kind = kind)
    (h : es.flatMap (textLines markers) = es'.flatMap (textLines markers)) :
    es.map key = es'.map key := by
  induction es generalizing es' with
  | nil =>
    cases es' with
    | nil => rfl
    | cons e' es' =>
      have hnil := List.append_eq_nil_iff.1 h.symm
      exact absurd hnil.1 (textLines_ne_nil markers e')
  | cons e es ih =>
    cases es' with
    | nil =>
      have hnil := List.append_eq_nil_iff.1 h
      exact absurd hnil.1 (textLines_ne_nil markers e)
    | cons e' es' =>
      obtain ⟨⟨hfits, hkind⟩, hrest⟩ := List.forall_mem_cons.1 hes
      obtain ⟨⟨hfits', hkind'⟩, hrest'⟩ := List.forall_mem_cons.1 hes'
      obtain ⟨hsame, htold, hmore⟩ :=
        textLines_append_unique hfits hfits' (hkind.trans hkind'.symm) h
      rw [List.map_cons, List.map_cons, hkey e e' hkind hkind' hsame htold, ih hrest hrest' hmore]

/-- An entry that is no constant is told by its lines. -/
theorem eq_of_conditionLines {e e' : Entry} (hkind : e.kind ≠ .constants)
    (hkind' : e'.kind ≠ .constants)
    (hconditions : conditionLines markers e = conditionLines markers e')
    (htold : e.announcement.unconditional = e'.announcement.unconditional) : e = e' := by
  have hplain : ∀ {e : Entry}, e.kind ≠ .constants →
      e.announcement.unconditional = e.announcement ∧
        conditionLines markers e = if e.guard = "" then [] else ["#if " ++ e.guard] := by
    rintro ⟨announcement, guard⟩ hkind
    cases announcement with
    | constant availability type name => exact absurd rfl hkind
    | function name convention => exact ⟨rfl, List.append_nil _⟩
    | objectType typeName objectName => exact ⟨rfl, List.append_nil _⟩
    | library name => exact ⟨rfl, List.append_nil _⟩
  rw [(hplain hkind).1, (hplain hkind').1] at htold
  rw [(hplain hkind).2, (hplain hkind').2] at hconditions
  have hguard : e.guard = e'.guard := by
    by_cases h : e.guard = ""
    · by_cases h' : e'.guard = ""
      · rw [h, h']
      · simp [h, h'] at hconditions
    · by_cases h' : e'.guard = ""
      · simp [h, h'] at hconditions
      · simpa [h, h'] using hconditions
  obtain ⟨announcement, guard⟩ := e
  obtain ⟨announcement', guard'⟩ := e'
  exact congrArg₂ Entry.mk htold hguard

/-- The conditions, the type and the name of a constant. -/
def guardedConstant? (markers : Markers) (e : Entry) :
    Option (List String × ConstantType × String) :=
  match e.announcement with
  | .constant _ type name => some (conditionLines markers e, type, name)
  | _ => none

theorem guardedConstant?_eq {e e' : Entry}
    (hconditions : conditionLines markers e = conditionLines markers e')
    (htold : e.announcement.unconditional = e'.announcement.unconditional) :
    guardedConstant? markers e = guardedConstant? markers e' := by
  have hof : ∀ e : Entry, guardedConstant? markers e =
      match e.announcement.unconditional with
      | .constant _ type name => some (conditionLines markers e, type, name)
      | _ => none := by
    rintro ⟨announcement, guard⟩
    cases announcement <;> rfl
  rw [hof, hof, hconditions, htold]

end

end Entry

/-! ### Entries of a scan -/

theorem Announces.fits {markers : Markers} (hsymbol : '\n' ∉ markers.versionSymbol.toList)
    {ls : List (List Char)} {entries : List Entry} (h : Announces markers ls entries)
    (hls : ∀ l ∈ ls, '\n' ∉ l) : ∀ e ∈ entries, Entry.Fits markers e := by
  induction h with
  | start => exact List.forall_mem_nil _
  | @line before line entries found s _ hrun hfound ih =>
    intro e he
    rcases List.mem_append.1 he with he | he
    · exact ih (fun l hl => hls l (List.mem_append_left _ hl)) e he
    · obtain ⟨a, ha, rfl⟩ := List.mem_map.1 he
      have hline := hls line (List.mem_append_right _ (List.mem_singleton_self line))
      exact ⟨hsymbol, Marker.wellNamed_of_mem_announcements hline hfound a ha,
        Conditional.isLine_combinedGuard (Conditional.nested_run hrun) hls⟩

theorem Scan.Verdict.exists_announces {markers : Markers} {file : String} {ls : List (List Char)}
    {failure? : Option Failure} {entries : List Entry}
    (h : Verdict markers file ls failure? entries) :
    ∃ before, before <+: ls ∧ Announces markers before entries := by
  cases h with
  | accepted _ _ hentries => exact ⟨ls, List.prefix_rfl, hentries⟩
  | offence hls _ _ hentries => exact ⟨_, ⟨_, hls.symm⟩, hentries⟩
  | unterminated _ _ hentries => exact ⟨ls, List.prefix_rfl, hentries⟩

theorem Scan.fits_of_mem_entries {markers : Markers}
    (hsymbol : '\n' ∉ markers.versionSymbol.toList) (file text : String) :
    ∀ e ∈ (ofText markers file text).entries, Entry.Fits markers e := by
  obtain ⟨before, hbefore, hentries⟩ := (verdict_ofText markers file text).exists_announces
  exact hentries.fits hsymbol fun l hl => not_mem_of_mem_lines (hbefore.subset hl)

namespace Fragments

/-- Scan texts, each with its file name, one after the other; a scan that fails ends none of the
others. -/
def readEach (verbose : Bool) (f : Fragments) (texts : List (String × String)) : Fragments :=
  texts.foldl (fun f t => (f.readText verbose t.1 t.2).fragments) f

theorem readEach_eq (verbose : Bool) (f : Fragments) (texts : List (String × String)) :
    f.readEach verbose texts =
      f.addEntries (texts.flatMap fun t => (Scan.ofText f.markers t.1 t.2).entries) := by
  induction texts generalizing f with
  | nil => simp [readEach, addEntries]
  | cons t texts ih =>
    have hfirst : f.readEach verbose (t :: texts) =
        (f.addEntries (Scan.ofText f.markers t.1 t.2).entries).readEach verbose texts := rfl
    rw [hfirst, ih, List.flatMap_cons]
    simp [addEntries]

theorem markers_readEach (verbose : Bool) (f : Fragments) (texts : List (String × String)) :
    (f.readEach verbose texts).markers = f.markers := by
  rw [readEach_eq]
  rfl

theorem fits_of_mem_readEach {markers : Markers} (hsymbol : '\n' ∉ markers.versionSymbol.toList)
    (verbose : Bool) (stamp : String) (texts : List (String × String)) :
    let f := (start markers stamp).readEach verbose texts
    ∀ e ∈ f.entries, Entry.Fits f.markers e := by
  intro f e he
  have hmarkers : f.markers = markers := markers_readEach verbose _ texts
  have hentries := congrArg entries (readEach_eq verbose (start markers stamp) texts)
  rw [addEntries, start, List.nil_append] at hentries
  obtain ⟨t, -, hmem⟩ := List.mem_flatMap.1 (hentries ▸ he)
  rw [hmarkers]
  exact Scan.fits_of_mem_entries hsymbol t.1 t.2 e hmem

section
variable {f g : Fragments} {kind : FragmentKind}
  (hf : ∀ e ∈ f.entries, Entry.Fits f.markers e) (hkind : kind ≠ .sources)
include hf

theorem fits_of_mem_filter (kind : FragmentKind) :
    ∀ e ∈ f.entries.filter fun e => e.kind == kind, Entry.Fits f.markers e ∧ e.kind = kind := by
  intro e he
  obtain ⟨hmem, hsame⟩ := List.mem_filter.1 he
  exact ⟨hf e hmem, beq_iff_eq.1 hsame⟩

include hkind

theorem lines_body :
    lines (f.body kind).toList =
      ((f.entries.filter fun e => e.kind == kind).flatMap (Entry.textLines f.markers)).map
        String.toList := by
  rw [body_of_ne_sources f hkind,
    Entry.lines_join_text fun e he => (fits_of_mem_filter hf kind e he).1, List.map_flatMap]

theorem nests_body :
    Nests (if kind = .constants then 2 else 1) (lines (f.body kind).toList) := by
  rw [lines_body hf hkind]
  have hentries := fits_of_mem_filter hf kind
  generalize f.entries.filter (fun e => e.kind == kind) = es at hentries
  induction es with
  | nil => exact .nil
  | cons e es ih =>
    obtain ⟨⟨hfits, hsame⟩, hrest⟩ := List.forall_mem_cons.1 hentries
    have hentry := Entry.nests_textLines hfits
    rw [hsame] at hentry
    rw [List.flatMap_cons, List.map_append]
    exact hentry.append (ih hrest)

/-- Fragments of one text have entries that agree in all that the lines of an entry tell. -/
theorem map_eq_of_body_eq {β : Type} (key : Entry → β)
    (hg : ∀ e ∈ g.entries, Entry.Fits g.markers e) (hmarkers : g.markers = f.markers)
    (hkey : ∀ e e' : Entry, e.kind = kind → e'.kind = kind →
      Entry.conditionLines f.markers e = Entry.conditionLines f.markers e' →
      e.announcement.unconditional = e'.announcement.unconditional → key e = key e')
    (h : f.body kind = g.body kind) :
    (f.entries.filter fun e => e.kind == kind).map key =
      (g.entries.filter fun e => e.kind == kind).map key := by
  have hlines := lines_body hf hkind
  rw [h, lines_body hg hkind, hmarkers] at hlines
  have hentries := fits_of_mem_filter hg kind
  rw [hmarkers] at hentries
  exact Entry.map_eq_of_flatMap_textLines hkey (fits_of_mem_filter hf kind) hentries
    ((List.map_inj_right fun _ _ => String.toList_inj.1).1 hlines).symm

end

theorem filterMap_guardedConstant? (f : Fragments) :
    f.entries.filterMap (Entry.guardedConstant? f.markers) =
      ((f.entries.filter fun e => e.kind == .constants).map
        (Entry.guardedConstant? f.markers)).filterMap id := by
  rw [List.filterMap_map, List.filterMap_filter]
  congr 1
  funext ⟨announcement, guard⟩
  cases announcement <;> rfl

/-- After any scans, failed ones among them, the conditional lines of every fragment are those of
closed blocks, and the fragment determines the entries: methods, types and libraries with their
guards, constants with the conditions around them. -/
theorem readEach_unambiguous {markers : Markers}
    (hsymbol : '\n' ∉ markers.versionSymbol.toList) (verbose : Bool) (stamp : String)
    (texts : List (String × String)) :
    let f := (start markers stamp).readEach verbose texts
    (∀ kind, kind ≠ .sources →
      Nests (if kind = .constants then 2 else 1) (lines (f.body kind).toList)) ∧
    ∀ (verbose' : Bool) (stamp' : String) (texts' : List (String × String)),
      let g := (start markers stamp').readEach verbose' texts'
      (∀ kind, kind ≠ .sources → kind ≠ .constants → f.body kind = g.body kind →
        (f.entries.filter fun e => e.kind == kind) = g.entries.filter fun e => e.kind == kind) ∧
      (f.body .constants = g.body .constants →
        f.entries.filterMap (Entry.guardedConstant? markers) =
          g.entries.filterMap (Entry.guardedConstant? markers)) := by
  intro f
  have hf := fits_of_mem_readEach hsymbol verbose stamp texts
  have hfmarkers : f.markers = markers := markers_readEach verbose _ texts
  refine ⟨fun kind hkind => nests_body hf hkind, fun verbose' stamp' texts' => ?_⟩
  intro g
  have hg := fits_of_mem_readEach hsymbol verbose' stamp' texts'
  have hsame : g.markers = f.markers := (markers_readEach verbose' _ texts').trans hfmarkers.symm
  refine ⟨fun kind hkind hplain hbody => ?_, fun hbody => ?_⟩
  · have hentries := map_eq_of_body_eq hf hkind id hg hsame
      (fun e e' he he' => Entry.eq_of_conditionLines (he ▸ hplain) (he' ▸ hplain)) hbody
    rwa [List.map_id, List.map_id] at hentries
  · have hconstants := map_eq_of_body_eq hf (by decide) (Entry.guardedConstant? f.markers) hg hsame
      (fun e e' _ _ => Entry.guardedConstant?_eq) hbody
    have hfilter := filterMap_guardedConstant? g
    rw [hsame, ← hconstants, ← filterMap_guardedConstant? f, hfmarkers] at hfilter
    exact hfilter.symm

/-- The first source ends inside a block. -/
theorem readEach_unambiguous_of_unterminated :
    let f := (start {} "then").readEach false
      [("a.c", "#if __FreeBSD_version >= 500000\nEXPCONST_IFAVAIL(int FOO)\n")]
    let g := (start {} "now").readEach true
      [("b.c", " # if __FreeBSD_version >= 500000 //\nEXPCONST_IFAVAIL (int  FOO)\n#endif\n")]
    '\n' ∉ ({} : Markers).versionSymbol.toList ∧ Nests 2 (lines (f.body .constants).toList) ∧
      f.body .constants = "#if __FreeBSD_version >= 500000\n#ifdef FOO\n" ++
        "SETDICT_INT(d, \"FOO\", FOO);\n#endif\n#endif\n" ∧
      g.entries.filterMap (Entry.guardedConstant? {}) =
        [(["#if __FreeBSD_version >= 500000", "#ifdef FOO"], .int, "FOO")] := by
  intro f g
  have hsymbol : '\n' ∉ ({} : Markers).versionSymbol.toList := by decide
  obtain ⟨hnests, hsame⟩ := readEach_unambiguous hsymbol false "then"
    [("a.c", "#if __FreeBSD_version >= 500000\nEXPCONST_IFAVAIL(int FOO)\n")]
  have hbody : f.body .constants = g.body .constants := by decide +kernel
  have hconstants := (hsame true "now"
    [("b.c", " # if __FreeBSD_version >= 500000 //\nEXPCONST_IFAVAIL (int  FOO)\n#endif\n")]).2
    hbody
  refine ⟨hsymbol, hnests .constants (by decide), by decide +kernel, ?_⟩
  rw [← hconstants]
  decide +kernel

end Fragments

end DefFragments
