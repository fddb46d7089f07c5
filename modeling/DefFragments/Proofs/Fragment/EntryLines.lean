import DefFragments.Fragment.Fragments
import DefFragments.Proofs.Marker.Announcements

/-!
# The lines of an entry

The text of an entry is the lines of its announcement, between the lines of its guard if there is
one. One of them puts the announcement into effect.
-/

namespace DefFragments.Entry
open Text

/-- The line that puts an announcement into effect. -/
def effectLine (markers : Markers) : Announcement → String
  | .constant _ type name =>
    "SETDICT_" ++ type.category ++ "(d, \"" ++ name ++ "\", " ++ name ++ ");"
  | .function name convention =>
    "\x7b\"" ++ name ++ "\", (PyCFunction)" ++ markers.functionPrefix ++ name ++ ", "
      ++ convention.flags ++ ","
  | .objectType typeName objectName => "INITTYPE(" ++ typeName ++ ", " ++ objectName ++ ")"
  | .library name => name

def bareLines (markers : Markers) (a : Announcement) : List String :=
  match a with
  | .constant .ifDefined _ name => ["#ifdef " ++ name, effectLine markers a, "#endif"]
  | .constant (.since release) _ _ =>
    ["#if " ++ markers.versionSymbol ++ " >= " ++ toString release, effectLine markers a, "#endif"]
  | .constant (.before release) _ _ =>
    ["#if " ++ markers.versionSymbol ++ " < " ++ toString release, effectLine markers a, "#endif"]
  | .function name _ =>
    [effectLine markers a, " " ++ markers.functionPrefix ++ name ++ "__doc__\x7d,"]
  | _ => [effectLine markers a]

def textLines (markers : Markers) (e : Entry) : List String :=
  if e.guard = "" then bareLines markers e.announcement
  else ("#if " ++ e.guard) :: bareLines markers e.announcement ++ ["#endif"]

/-- What fits on the lines of a fragment: names, and a guard without a blank at either end. -/
structure Writable (markers : Markers) (e : Entry) : Prop where
  symbol_isName : IsName markers.versionSymbol.toList
  announcement_wellNamed : e.announcement.WellNamed markers
  guard_trimmed : Trimmed e.guard.toList
  guard_line : '\n' ∉ e.guard.toList

/-- What is read back line by line; the version symbol need not be a name. -/
structure Fits (markers : Markers) (e : Entry) : Prop where
  symbol_line : '\n' ∉ markers.versionSymbol.toList
  announcement_wellNamed : e.announcement.WellNamed markers
  guard_isLine : IsLine e.guard.toList

theorem Writable.fits {markers : Markers} {e : Entry} (h : Writable markers e) : Fits markers e :=
  ⟨h.symbol_isName.not_newline, h.announcement_wellNamed, h.guard_trimmed.isLine h.guard_line⟩

/-- A text is the lines with a line feed behind each of them. -/
def unlines (ls : List String) : String :=
  String.join (ls.map (· ++ "\n"))

theorem lines_unlines_append {ls : List String} (h : ∀ l ∈ ls, IsLine l.toList) (s : List Char) :
    lines ((unlines ls).toList ++ s) = ls.map String.toList ++ lines s := by
  induction ls with
  | nil => rfl
  | cons l ls ih =>
    have hl := lines_append_newline (h l (List.mem_cons_self ..))
    have hrest := ih fun x hx => h x (List.mem_cons_of_mem _ hx)
    simp only [unlines, List.map_cons, String.toList_join, List.flatMap_cons, String.toList_append,
      List.append_assoc] at hrest ⊢
    exact (hl _).trans (congrArg _ hrest)

theorem unlines_cons (l : String) (ls : List String) :
    unlines (l :: ls) = l ++ "\n" ++ unlines ls :=
  String.join_cons

theorem unlines_singleton (l : String) : unlines [l] = l ++ "\n" := by
  rw [unlines_cons, show unlines [] = "" from rfl, String.append_empty]

theorem unlines_append (a b : List String) : unlines (a ++ b) = unlines a ++ unlines b := by
  simp [unlines]

theorem conditional_unlines (opening : String) (ls : List String) :
    conditional opening (unlines ls) = unlines (opening :: (ls ++ ["#endif"])) := by
  rw [unlines_cons, unlines_append, unlines_singleton, ← String.append_assoc]
  rfl

theorem bare_eq_unlines (markers : Markers) (a : Announcement) :
    bare markers a = unlines (bareLines markers a) := by
  cases a with
  | constant availability type name =>
    have hstore : store type name =
        unlines [effectLine markers (.constant availability type name)] := by
      rw [unlines_singleton]
      show _ ++ (");" ++ "\n") = _ ++ ");" ++ "\n"
      rw [← String.append_assoc]
    cases availability with
    | always => exact hstore
    | ifDefined => exact (congrArg _ hstore).trans (conditional_unlines _ _)
    | since release => exact (congrArg _ hstore).trans (conditional_unlines _ _)
    | before release => exact (congrArg _ hstore).trans (conditional_unlines _ _)
  | function name convention =>
    show _ ++ convention.flags ++ ("," ++ "\n" ++ " ") ++ markers.functionPrefix ++ name ++
        ("__doc__\x7d," ++ "\n") =
      unlines [_ ++ convention.flags ++ ",",
        " " ++ markers.functionPrefix ++ name ++ "__doc__\x7d,"]
    rw [unlines_cons, unlines_singleton]
    simp only [String.append_assoc]
  | objectType typeName objectName =>
    show "INITTYPE(" ++ typeName ++ ", " ++ objectName ++ (")" ++ "\n") = _
    rw [← String.append_assoc]
    exact (unlines_singleton _).symm
  | library name => exact (unlines_singleton name).symm

theorem text_eq_unlines (markers : Markers) (e : Entry) :
    e.text markers = unlines (textLines markers e) := by
  unfold text textLines
  rw [bare_eq_unlines]
  split
  · rfl
  · exact conditional_unlines _ _

theorem isLine_toString (n : Nat) : IsLine (toString n).toList := by
  constructor
  · intro hmem
    exact absurd (isDigit_of_mem_toString _ hmem) (by decide)
  · intro hlast
    exact absurd (isDigit_of_mem_toString _ (List.mem_of_getLast? hlast)) (by decide)

theorem isLine_effectLine {markers : Markers} {a : Announcement} (h : a.WellNamed markers) :
    IsLine (effectLine markers a).toList := by
  cases a with
  | constant availability type name =>
    have hname := IsName.not_newline h
    have hcategory : '\n' ∉ type.category.toList := by cases type <;> decide
    have hend : IsLine ");".toList := ⟨by decide, by decide⟩
    show IsLine (_ ++ ");").toList
    rw [String.toList_append]
    refine IsLine.append ?_ hend (by decide)
    simp [hname, hcategory]
  | function name convention =>
    have hname := h.1.not_newline
    have hflags : '\n' ∉ convention.flags.toList := by cases convention <;> decide
    have hend : IsLine ",".toList := ⟨by decide, by decide⟩
    show IsLine (_ ++ ",").toList
    rw [String.toList_append]
    refine IsLine.append ?_ hend (by decide)
    simp [hname, h.2, hflags]
  | objectType typeName objectName =>
    have hend : IsLine ")".toList := ⟨by decide, by decide⟩
    show IsLine (_ ++ ")").toList
    rw [String.toList_append]
    refine IsLine.append ?_ hend (by decide)
    simp [h.1.not_newline, h.2.not_newline]
  | library name => exact IsName.isLine h

theorem isLine_ifdef {name : String} (h : Text.IsName name.toList) :
    IsLine ("#ifdef " ++ name).toList := by
  rw [String.toList_append]
  exact IsLine.append (by decide) h.isLine h.1

theorem isLine_ifRelease {symbol between : String} (hsym : '\n' ∉ symbol.toList)
    (hbetween : '\n' ∉ between.toList) (release : Nat) :
    IsLine ("#if " ++ symbol ++ between ++ toString release).toList := by
  rw [String.toList_append]
  refine IsLine.append ?_ (isLine_toString release) ?_
  · simp [hsym, hbetween]
  · simp

theorem isLine_docLine {functionPrefix name : String} (hfront : '\n' ∉ functionPrefix.toList)
    (hname : '\n' ∉ name.toList) :
    IsLine (" " ++ functionPrefix ++ name ++ "__doc__\x7d,").toList := by
  rw [String.toList_append]
  refine IsLine.append ?_ ⟨by decide, by decide⟩ (by decide)
  simp [hfront, hname]

theorem isLine_of_mem_block {opening line : String} (hopening : IsLine opening.toList)
    (hline : IsLine line.toList) : ∀ l ∈ [opening, line, "#endif"], IsLine l.toList := by
  have hendif : IsLine "#endif".toList := ⟨by decide, by decide⟩
  exact List.forall_mem_cons.2 ⟨hopening, List.forall_mem_cons.2
    ⟨hline, List.forall_mem_singleton.2 hendif⟩⟩

theorem isLine_of_mem_bareLines {markers : Markers} (hsym : '\n' ∉ markers.versionSymbol.toList)
    {a : Announcement} (h : a.WellNamed markers) :
    ∀ l ∈ bareLines markers a, IsLine l.toList := by
  have heffect := isLine_effectLine h
  cases a with
  | constant availability type name =>
    cases availability with
    | always => exact List.forall_mem_singleton.2 heffect
    | ifDefined => exact isLine_of_mem_block (isLine_ifdef h) heffect
    | since release =>
      have hbetween : '\n' ∉ " >= ".toList := by decide
      exact isLine_of_mem_block (isLine_ifRelease hsym hbetween release) heffect
    | before release =>
      have hbetween : '\n' ∉ " < ".toList := by decide
      exact isLine_of_mem_block (isLine_ifRelease hsym hbetween release) heffect
  | function name convention =>
    have hdoc := isLine_docLine h.2 h.1.not_newline
    exact List.forall_mem_cons.2 ⟨heffect, List.forall_mem_singleton.2 hdoc⟩
  | objectType typeName objectName => exact List.forall_mem_singleton.2 heffect
  | library name => exact List.forall_mem_singleton.2 heffect

theorem isLine_of_mem_textLines {markers : Markers} {e : Entry} (h : Fits markers e) :
    ∀ l ∈ textLines markers e, IsLine l.toList := by
  have hbare := isLine_of_mem_bareLines h.symbol_line h.announcement_wellNamed
  unfold textLines
  split
  · exact hbare
  · next hguard =>
    have hne : e.guard.toList ≠ [] := by simpa using hguard
    have hopening : IsLine ("#if " ++ e.guard).toList := by
      rw [String.toList_append]
      exact IsLine.append (by decide) h.guard_isLine hne
    intro l hl
    simp only [List.cons_append, List.mem_cons, List.mem_append, List.not_mem_nil, or_false] at hl
    rcases hl with rfl | hl | rfl
    · exact hopening
    · exact hbare l hl
    · exact ⟨by decide, by decide⟩

theorem lines_text {markers : Markers} {e : Entry} (h : Fits markers e) :
    lines (e.text markers).toList = (textLines markers e).map String.toList := by
  have hlines := lines_unlines_append (isLine_of_mem_textLines h) []
  rwa [List.append_nil, ← text_eq_unlines, show lines [] = [] from rfl, List.append_nil] at hlines

theorem lines_join_text {markers : Markers} {es : List Entry} (h : ∀ e ∈ es, Fits markers e) :
    lines (String.join (es.map (text markers))).toList =
      es.flatMap fun e => (textLines markers e).map String.toList := by
  induction es with
  | nil => rfl
  | cons e es ih =>
    have hline := isLine_of_mem_textLines (h e (List.mem_cons_self ..))
    simp only [List.map_cons, String.toList_join, List.flatMap_cons] at ih ⊢
    rw [text_eq_unlines, lines_unlines_append hline, ih fun x hx => h x (List.mem_cons_of_mem _ hx)]

end DefFragments.Entry
