import DefFragments.Proofs.Marker.Announcements

/-!
# The parts of a function marker

A line is a function marker if it is composed of the function prefix, a name, blanks and parameters
in parentheses; what follows is not looked at. The prefix is a literal text, and the parts behind it
are unique. The number of parameters decides what is reported: one, two and three select a calling
convention, and every other number is an error.
-/

namespace DefFragments
open Text

/-- What a function marker consists of behind the function prefix. -/
@[ext]
structure FunctionMarker where
  name : List Char
  gap : List Char
  parameters : List Char
  rest : List Char
  name_isName : IsName name
  gap_blank : ∀ c ∈ gap, isBlank c = true
  parameters_closed : ')' ∉ parameters

namespace FunctionMarker

variable {functionPrefix : List Char}

def spelling (functionPrefix : List Char) (m : FunctionMarker) : List Char :=
  functionPrefix ++ (m.name ++ (m.gap ++ '(' :: (m.parameters ++ ')' :: m.rest)))

/-- How many parameters a text between parentheses holds: none if it is blank, and otherwise one
more than its commas. -/
def parameterCount (parameters : List Char) : Nat :=
  if parameters.all isBlank then 0 else parameters.count ',' + 1

/-! ### What is read -/

theorem functionShape?_spelling (m : FunctionMarker) (functionPrefix : List Char) :
    Marker.functionShape? functionPrefix (m.spelling functionPrefix) =
      some (m.name, m.parameters) := by
  have hprefix : stripPrefix? functionPrefix (m.spelling functionPrefix) =
      some (m.name ++ (m.gap ++ '(' :: (m.parameters ++ ')' :: m.rest))) :=
    stripPrefix?_eq_some_iff.2 rfl
  have hgap : StopsAt isNameChar (m.gap ++ '(' :: (m.parameters ++ ')' :: m.rest)) :=
    StopsAt.append_of_stopsAt (fun c hc => not_isNameChar_of_isBlank (m.gap_blank c hc))
      (stopsAt_cons.2 (by decide))
  have hname := takeWhile_run m.name_isName.2 hgap
  have hname' := dropWhile_run m.name_isName.2 hgap
  have hopen : dropBlanks (m.gap ++ '(' :: (m.parameters ++ ')' :: m.rest)) =
      '(' :: (m.parameters ++ ')' :: m.rest) :=
    dropBlanks_append m.gap_blank (stopsAt_cons.2 (by decide))
  have hparameters := takeWhile_upTo m.parameters_closed m.rest
  have hparameters' := dropWhile_upTo m.parameters_closed m.rest
  simp only [Marker.functionShape?, hprefix, hname, hname', hopen, Option.bind_eq_bind,
    Option.bind_some, stripPrefix?, if_true, hparameters, hparameters']
  rw [if_pos m.name_isName.1]

theorem exists_of_functionShape? {line name parameters : List Char}
    (h : Marker.functionShape? functionPrefix line = some (name, parameters)) :
    ∃ m : FunctionMarker,
      line = m.spelling functionPrefix ∧ m.name = name ∧ m.parameters = parameters := by
  simp only [Marker.functionShape?, Option.bind_eq_bind, Option.bind_eq_some_iff,
    stripPrefix?_eq_some_iff] at h
  obtain ⟨rest, hline, inside, hopen, after, hclose, h⟩ := h
  split at h
  · next hne =>
    obtain ⟨hname, hparameters⟩ := Prod.mk.inj (Option.some.inj h)
    obtain ⟨gap, hgap, hbehind⟩ := Marker.exists_gap_of_parentheses hopen hclose
    have hrest := List.takeWhile_append_dropWhile (p := isNameChar) (l := rest)
    rw [hbehind] at hrest
    let m : FunctionMarker :=
      { name := rest.takeWhile isNameChar
        gap := gap
        parameters := inside.takeWhile (· != ')')
        rest := after
        name_isName := ⟨hne, fun c hc => List.mem_takeWhile_imp hc⟩
        gap_blank := hgap
        parameters_closed := not_mem_takeWhile_upTo ')' inside }
    refine ⟨m, ?_, hname, hparameters⟩
    rw [hline, ← hrest]
    rfl
  · cases h

theorem spelling_injective {m m' : FunctionMarker}
    (h : m.spelling functionPrefix = m'.spelling functionPrefix) : m = m' := by
  have hshape := m.functionShape?_spelling functionPrefix
  rw [h, m'.functionShape?_spelling] at hshape
  obtain ⟨hname, hparameters⟩ := Prod.mk.inj (Option.some.inj hshape)
  have hbehind := List.append_cancel_left h
  rw [hname, hparameters] at hbehind
  have hopen := List.append_cancel_left hbehind
  have hstop : ∀ s, StopsAt isBlank ('(' :: s) := fun s => stopsAt_cons.2 (by decide)
  have hgap := congrArg (List.takeWhile isBlank) hopen
  rw [takeWhile_run m.gap_blank (hstop _), takeWhile_run m'.gap_blank (hstop _)] at hgap
  rw [hgap] at hopen
  have hrest := List.append_cancel_left (List.cons.inj (List.append_cancel_left hopen)).2
  exact FunctionMarker.ext hname.symm hgap hparameters.symm (List.cons.inj hrest).2

end FunctionMarker

namespace Marker
open FunctionMarker

variable {markers : Markers} {line : List Char}

theorem arity_eq (parameters : List Char) : arity parameters = parameterCount parameters := by
  unfold arity parameterCount
  simp only [trim_eq_nil_iff, List.all_eq_true]

theorem functionShape?_eq_none_iff {functionPrefix : List Char} :
    functionShape? functionPrefix line = none ↔
      ∀ m : FunctionMarker, line ≠ m.spelling functionPrefix := by
  constructor
  · rintro h m rfl
    rw [m.functionShape?_spelling] at h
    cases h
  · intro h
    cases hshape : functionShape? functionPrefix line with
    | none => rfl
    | some shape =>
      obtain ⟨m, hline, -⟩ := exists_of_functionShape? hshape
      exact absurd hline (h m)

/-- A function of this name is reported: it is announced, or refused for the number of its
parameters. -/
def ReportsFunction (markers : Markers) (line : List Char) (name : String) : Prop :=
  (∃ found convention, announcements markers line = .ok found ∧ .function name convention ∈ found) ∨
    ∃ count, announcements markers line = .error (.unsupportedArity name count)

/-- The line announces this function and no other one. -/
def AnnouncesFunction (markers : Markers) (line : List Char) (name : String)
    (convention : CallingConvention) : Prop :=
  ∃ found, announcements markers line = .ok found ∧
    ∀ n c, .function n c ∈ found ↔ n = name ∧ c = convention

/-! ### What is announced -/

theorem ofArity?_eq_none_iff {n : Nat} :
    CallingConvention.ofArity? n = none ↔ n ∉ [1, 2, 3] := by
  unfold CallingConvention.ofArity?
  split <;> simp_all

theorem function_mem_announcements_iff {found : List Announcement}
    (h : announcements markers line = .ok found) {n : String} {c : CallingConvention} :
    .function n c ∈ found ↔
      function? markers.functionPrefix.toList line = .ok (some (.function n c)) := by
  obtain ⟨constant, function, hc, hf, rfl⟩ := announcements_eq_ok h
  simp only [List.mem_append, Option.mem_toList]
  constructor
  · rintro (((hmem | hmem) | hmem) | hmem)
    · obtain ⟨_, _, _, heq, -⟩ := exists_of_constant? (hc.trans (congrArg _ hmem))
      cases heq
    · exact hf.trans (congrArg _ hmem)
    · obtain ⟨_, _, heq, -⟩ := exists_of_objectType? hmem
      cases heq
    · obtain ⟨_, -, heq⟩ := Option.map_eq_some_iff.1 hmem
      cases heq
  · intro hfunction
    exact Or.inl (Or.inl (Or.inr (Except.ok.inj (hf.symm.trans hfunction))))

/-- Where no constant is at fault, a line fails exactly if its function does. -/
theorem announcements_of_constant? {constant : Option Announcement}
    (hconstant : constant? line = .ok constant) :
    (∀ e, function? markers.functionPrefix.toList line = .error e →
      announcements markers line = .error e) ∧
    ∀ function, function? markers.functionPrefix.toList line = .ok function →
      ∃ found, announcements markers line = .ok found := by
  unfold announcements
  constructor
  · intro e he
    simp only [hconstant, he]
  · intro function hfunction
    simp only [hconstant, hfunction]
    exact ⟨_, rfl⟩

theorem function?_spelling (functionPrefix : List Char) (m : FunctionMarker) :
    function? functionPrefix (m.spelling functionPrefix) =
      match CallingConvention.ofArity? (parameterCount m.parameters) with
      | none => .error (.unsupportedArity (String.ofList m.name) (parameterCount m.parameters))
      | some convention => .ok (some (.function (String.ofList m.name) convention)) := by
  unfold function?
  rw [m.functionShape?_spelling]
  dsimp only
  unfold functionOf
  rw [arity_eq]
  cases CallingConvention.ofArity? (parameterCount m.parameters) <;> rfl

theorem announcesFunction_of_ofArity? {constant : Option Announcement}
    (hconstant : constant? line = .ok constant) {m : FunctionMarker}
    (hline : line = m.spelling markers.functionPrefix.toList) {convention : CallingConvention}
    (h : CallingConvention.ofArity? (parameterCount m.parameters) = some convention) :
    AnnouncesFunction markers line (String.ofList m.name) convention := by
  have hfunction := function?_spelling markers.functionPrefix.toList m
  rw [h, ← hline] at hfunction
  obtain ⟨found, hfound⟩ := (announcements_of_constant? hconstant).2 _ hfunction
  refine ⟨found, hfound, fun n c => ?_⟩
  rw [function_mem_announcements_iff hfound, hfunction]
  simp [eq_comm]

theorem announcements_of_ofArity?_eq_none {constant : Option Announcement}
    (hconstant : constant? line = .ok constant) {m : FunctionMarker}
    (hline : line = m.spelling markers.functionPrefix.toList)
    (h : CallingConvention.ofArity? (parameterCount m.parameters) = none) :
    announcements markers line =
      .error (.unsupportedArity (String.ofList m.name) (parameterCount m.parameters)) := by
  have hfunction := function?_spelling markers.functionPrefix.toList m
  rw [h, ← hline] at hfunction
  exact (announcements_of_constant? hconstant).1 _ hfunction

theorem reportsFunction_spelling {constant : Option Announcement}
    (hconstant : constant? line = .ok constant) {m : FunctionMarker}
    (hline : line = m.spelling markers.functionPrefix.toList) :
    ReportsFunction markers line (String.ofList m.name) := by
  cases harity : CallingConvention.ofArity? (parameterCount m.parameters) with
  | none => exact Or.inr ⟨_, announcements_of_ofArity?_eq_none hconstant hline harity⟩
  | some convention =>
    obtain ⟨found, hfound, hmem⟩ := announcesFunction_of_ofArity? hconstant hline harity
    exact Or.inl ⟨found, convention, hfound, (hmem _ _).2 ⟨rfl, rfl⟩⟩

theorem name_of_reportsFunction {constant : Option Announcement}
    (hconstant : constant? line = .ok constant) {m : FunctionMarker}
    (hline : line = m.spelling markers.functionPrefix.toList) {name : String}
    (h : ReportsFunction markers line name) : name = String.ofList m.name := by
  cases harity : CallingConvention.ofArity? (parameterCount m.parameters) with
  | none =>
    have herror := announcements_of_ofArity?_eq_none hconstant hline harity
    rcases h with ⟨found, convention, hfound, -⟩ | ⟨count, hcount⟩
    · rw [herror] at hfound
      cases hfound
    · rw [herror] at hcount
      exact (MarkerError.unsupportedArity.inj (Except.error.inj hcount)).1.symm
  | some convention =>
    obtain ⟨found, hfound, hmem⟩ := announcesFunction_of_ofArity? hconstant hline harity
    rcases h with ⟨found', convention', hfound', hname⟩ | ⟨count, hcount⟩
    · rw [hfound] at hfound'
      obtain rfl := Except.ok.inj hfound'
      exact ((hmem _ _).1 hname).1
    · rw [hfound] at hcount
      cases hcount

/-- Only a line that is composed of the parts of a function marker reports a function. -/
theorem exists_of_reportsFunction {constant : Option Announcement}
    (hconstant : constant? line = .ok constant) {name : String}
    (h : ReportsFunction markers line name) :
    ∃ m : FunctionMarker, line = m.spelling markers.functionPrefix.toList := by
  by_contra hnone
  have hfunction : function? markers.functionPrefix.toList line = .ok none := by
    unfold function?
    rw [functionShape?_eq_none_iff.2 fun m hm => hnone ⟨m, hm⟩]
  obtain ⟨found, hfound⟩ := (announcements_of_constant? hconstant).2 _ hfunction
  rcases h with ⟨found', convention, hfound', hmem⟩ | ⟨count, hcount⟩
  · rw [function_mem_announcements_iff hfound', hfunction] at hmem
    cases hmem
  · rw [hfound] at hcount
    cases hcount

/-- A line on which no constant is at fault reports a function exactly if it is composed of the
prefix, a name, blanks and parameters in parentheses. It is so in one way only, and the number of
the parameters tells what is reported. -/
theorem function_reported_iff (hconstant : ∀ e, constant? line ≠ .error e) :
    (∀ name, ReportsFunction markers line name ↔ ∃ m : FunctionMarker,
      line = m.spelling markers.functionPrefix.toList ∧ name = String.ofList m.name) ∧
    (∀ m m' : FunctionMarker, line = m.spelling markers.functionPrefix.toList →
      line = m'.spelling markers.functionPrefix.toList → m = m') ∧
    ∀ m : FunctionMarker, line = m.spelling markers.functionPrefix.toList →
      let name := String.ofList m.name
      let n := parameterCount m.parameters
      (n = 1 → AnnouncesFunction markers line name .noArguments) ∧
      (n = 2 → AnnouncesFunction markers line name .positional) ∧
      (n = 3 → AnnouncesFunction markers line name .keywords) ∧
      (n ∉ [1, 2, 3] → announcements markers line = .error (.unsupportedArity name n)) := by
  obtain ⟨constant, hok⟩ : ∃ constant, constant? line = .ok constant := by
    cases hc : constant? line with
    | error e => exact absurd hc (hconstant e)
    | ok constant => exact ⟨constant, rfl⟩
  refine ⟨fun name => ⟨fun h => ?_, ?_⟩, fun m m' hm hm' => ?_, ?_⟩
  · obtain ⟨m, hm⟩ := exists_of_reportsFunction hok h
    exact ⟨m, hm, name_of_reportsFunction hok hm h⟩
  · rintro ⟨m, hm, rfl⟩
    exact reportsFunction_spelling hok hm
  · exact spelling_injective (hm.symm.trans hm')
  · intro m hm name n
    have hannounced : ∀ {convention}, CallingConvention.ofArity? n = some convention →
        AnnouncesFunction markers line name convention :=
      fun h => announcesFunction_of_ofArity? hok hm h
    exact ⟨fun h => hannounced (h ▸ rfl), fun h => hannounced (h ▸ rfl),
      fun h => hannounced (h ▸ rfl), fun h => announcements_of_ofArity?_eq_none hok hm
        (ofArity?_eq_none_iff.2 h)⟩

/-- The prefix holds characters that patterns give a meaning to. -/
theorem function_reported_of_literal_prefix :
    let markers : Markers := { functionPrefix := "Py.*(" }
    let line := "Py.*(run\t (PyObject *self, PyObject *args) { return f(); }".toList
    (∀ e, constant? line ≠ .error e) ∧ AnnouncesFunction markers line "run" .positional := by
  intro markers line
  have hconstant : ∀ e, constant? line ≠ .error e := by
    have hnone : constant? line = .ok none := by decide
    simp [hnone]
  let m : FunctionMarker :=
    { name := "run".toList
      gap := ['\t', ' ']
      parameters := "PyObject *self, PyObject *args".toList
      rest := " { return f(); }".toList
      name_isName := ⟨by decide, List.all_eq_true.1 rfl⟩
      gap_blank := List.all_eq_true.1 rfl
      parameters_closed := by decide }
  have hline : line = m.spelling markers.functionPrefix.toList := by decide
  have htwo : parameterCount m.parameters = 2 := by decide
  exact ⟨hconstant, ((function_reported_iff hconstant).2.2 m hline).2.1 htwo⟩

example : function? "Py.X_".toList "PyAX_run(a, b)".toList = .ok none := by decide

end Marker

end DefFragments
