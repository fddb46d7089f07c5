import DefFragments.Marker.Line
import DefFragments.Proofs.Text.Lines

/-!
# What the marker grammars announce

The names in an announcement are made of name characters, whichever grammar has read it, so the
fragments can hold them on one line.
-/

namespace DefFragments
open Text

/-- The names of an announcement are names, and the prefix in front of them fits on a line. -/
def Announcement.WellNamed (markers : Markers) : Announcement → Prop
  | .constant _ _ name => IsName name.toList
  | .function name _ => IsName name.toList ∧ '\n' ∉ markers.functionPrefix.toList
  | .objectType typeName objectName => IsName typeName.toList ∧ IsName objectName.toList
  | .library name => IsName name.toList

namespace Marker

variable {markers : Markers} {line : List Char} {a : Announcement}

theorem not_isFlagChar_of_isBlank {c : Char} (h : isBlank c = true) : isFlagChar c = false := by
  by_contra hc
  have hname : isNameChar c = true := by
    simp only [isFlagChar, Bool.not_eq_false, Bool.or_eq_true] at hc
    unfold isNameChar isNameStart isLetter
    rcases hc with hc | hc <;> simp [hc]
  rw [not_isNameChar_of_isBlank h] at hname
  cases hname

/-- What follows a name or an ending in two of the grammars: blanks, and parentheses that reach to
the first closing one. -/
theorem exists_gap_of_parentheses {s inside after : List Char}
    (hopen : dropBlanks s = ['('] ++ inside)
    (hclose : inside.dropWhile (· != ')') = [')'] ++ after) :
    ∃ gap, (∀ c ∈ gap, isBlank c = true) ∧
      s = gap ++ '(' :: (inside.takeWhile (· != ')') ++ ')' :: after) := by
  obtain ⟨gap, hgap, hs, -⟩ := exists_blanks s
  have hinside : inside = inside.takeWhile (· != ')') ++ ')' :: after := eq_takeWhile_upTo hclose
  rw [hopen] at hs
  exact ⟨gap, hgap, hs.trans (congrArg (fun rest => gap ++ '(' :: rest) hinside)⟩

theorem isIdentifier_of_splitDeclaration? {declaration type name : List Char}
    (h : splitDeclaration? declaration = some (type, name)) : isIdentifier name = true := by
  unfold splitDeclaration? at h
  dsimp only at h
  split at h
  · next hc =>
    obtain ⟨-, rfl⟩ := Prod.mk.inj (Option.some.inj h)
    exact hc.2
  · cases h

theorem eq_ok_of_map_some {x : Except MarkerError Announcement} (h : x.map some = .ok (some a)) :
    x = .ok a := by
  cases x with
  | error e => cases h
  | ok b => exact congrArg _ (Option.some.inj (Except.ok.inj h))

theorem exists_of_constant? (h : constant? line = .ok (some a)) :
    ∃ availability type name,
      a = .constant availability type (String.ofList name) ∧ IsName name := by
  unfold constant? at h
  cases hshape : constantShape? line with
  | none => simp [hshape] at h
  | some shape =>
    obtain ⟨flag, body⟩ := shape
    rw [hshape] at h
    have hof : constantOf flag body = .ok a := eq_ok_of_map_some h
    unfold constantOf at hof
    split at hof
    · cases hof
    · cases hof
    · unfold declaredConstant at hof
      split at hof
      · cases hof
      · next hsplit =>
        split at hof
        · cases hof
        · have hname := isName_of_isIdentifier (isIdentifier_of_splitDeclaration? hsplit)
          exact ⟨_, _, _, (Except.ok.inj hof).symm, hname⟩

theorem exists_of_function? {functionPrefix : List Char}
    (h : function? functionPrefix line = .ok (some a)) :
    ∃ name convention rest, a = .function (String.ofList name) convention ∧ IsName name ∧
      line = functionPrefix ++ rest := by
  unfold function? at h
  cases hshape : functionShape? functionPrefix line with
  | none => simp [hshape] at h
  | some shape =>
    obtain ⟨name, arguments⟩ := shape
    rw [hshape] at h
    have hof : functionOf name arguments = .ok a := eq_ok_of_map_some h
    unfold functionOf at hof
    split at hof
    · cases hof
    · simp only [functionShape?, Option.bind_eq_bind, Option.bind_eq_some_iff] at hshape
      obtain ⟨rest, hrest, inside, -, closed, -, hname⟩ := hshape
      split at hname
      · next hne =>
        obtain ⟨rfl, -⟩ := Prod.mk.inj (Option.some.inj hname)
        exact ⟨_, _, rest, (Except.ok.inj hof).symm, ⟨hne, fun x hx => List.mem_takeWhile_imp hx⟩,
          stripPrefix?_eq_some_iff.1 hrest⟩
      · cases hname

theorem isName_of_takeIdentifier? {s name rest : List Char}
    (h : takeIdentifier? s = some (name, rest)) : IsName name := by
  unfold takeIdentifier? at h
  dsimp only at h
  split at h
  · next hname =>
    obtain ⟨rfl, -⟩ := Prod.mk.inj (Option.some.inj h)
    exact isName_of_isIdentifier hname
  · cases h

theorem exists_of_objectType? (h : objectType? line = some a) :
    ∃ typeName objectName, a = .objectType (String.ofList typeName) (String.ofList objectName) ∧
      IsName typeName ∧ IsName objectName := by
  simp only [objectType?, Option.bind_eq_bind, Option.bind_eq_some_iff] at h
  obtain ⟨_, -, _, -, ⟨typeName, _⟩, htype, _, -, ⟨objectName, _⟩, hobject, _, -, hname⟩ := h
  split at hname
  · exact ⟨typeName, objectName, (Option.some.inj hname).symm, isName_of_takeIdentifier? htype,
      isName_of_takeIdentifier? hobject⟩
  · cases hname

theorem isName_of_libraryHere? {s name : List Char} (h : libraryHere? s = some name) :
    IsName name := by
  simp only [libraryHere?, Option.bind_eq_bind, Option.bind_eq_some_iff] at h
  obtain ⟨rest, -, inside, -, closed, -, hname⟩ := h
  split at hname
  · next hne =>
    obtain rfl := Option.some.inj hname
    exact ⟨hne, fun x hx => List.mem_takeWhile_imp hx⟩
  · cases hname

theorem isName_of_libraryName? {name : List Char} (h : libraryName? line = some name) :
    IsName name := by
  induction line with
  | nil => simp [libraryName?] at h
  | cons c line ih =>
    rw [libraryName?] at h
    cases hhere : libraryHere? (c :: line) with
    | none =>
      rw [hhere, Option.none_or] at h
      exact ih h
    | some here =>
      rw [hhere, Option.some_or] at h
      exact isName_of_libraryHere? (hhere.trans h)

theorem announcements_eq_ok {found : List Announcement}
    (h : announcements markers line = .ok found) :
    ∃ constant function, constant? line = .ok constant ∧
      function? markers.functionPrefix.toList line = .ok function ∧
      found = constant.toList ++ function.toList ++ (objectType? line).toList
        ++ (library? line).toList := by
  unfold announcements at h
  cases hc : constant? line with
  | error e => simp [hc] at h
  | ok constant =>
    cases hf : function? markers.functionPrefix.toList line with
    | error e => simp [hc, hf] at h
    | ok function =>
      simp only [hc, hf, Except.ok.injEq] at h
      exact ⟨constant, function, rfl, rfl, h.symm⟩

theorem wellNamed_of_mem_announcements (hline : '\n' ∉ line) {found : List Announcement}
    (h : announcements markers line = .ok found) : ∀ a ∈ found, a.WellNamed markers := by
  obtain ⟨constant, function, hc, hf, rfl⟩ := announcements_eq_ok h
  intro a ha
  simp only [List.mem_append, Option.mem_toList] at ha
  rcases ha with ((ha | ha) | ha) | ha
  · obtain ⟨_, _, name, rfl, hname⟩ := exists_of_constant? (hc.trans (congrArg _ ha))
    simpa [Announcement.WellNamed] using hname
  · obtain ⟨name, _, rest, rfl, hname, rfl⟩ := exists_of_function? (hf.trans (congrArg _ ha))
    have hprefix : '\n' ∉ markers.functionPrefix.toList :=
      fun hmem => hline (List.mem_append_left _ hmem)
    simpa [Announcement.WellNamed, hprefix] using hname
  · obtain ⟨typeName, objectName, rfl, hnames⟩ := exists_of_objectType? ha
    simpa [Announcement.WellNamed] using hnames
  · obtain ⟨name, hname, rfl⟩ := Option.map_eq_some_iff.1 ha
    simpa [Announcement.WellNamed] using isName_of_libraryName? hname

end Marker

end DefFragments
