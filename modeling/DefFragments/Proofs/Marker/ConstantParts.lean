import DefFragments.Proofs.Marker.Announcements
import DefFragments.Proofs.Marker.TypeTokens
import DefFragments.Proofs.Text.Number

/-!
# The parts of a constant marker

A line is a constant marker if it is composed of the keyword, an ending, blanks and a body in
parentheses, with nothing but blanks behind it. Such a line is never skipped: it announces a
constant exactly if its ending is known and its body holds a declaration of a supported type, behind
a release number where the ending asks for one, and otherwise the error tells which of these is
missing.
-/

namespace DefFragments
open Text

/-- What a constant marker consists of behind the keyword. -/
structure ConstantMarker where
  ending : List Char
  gap : List Char
  body : List Char
  after : List Char
  ending_flag : ∀ c ∈ ending, Marker.isFlagChar c = true
  gap_blank : ∀ c ∈ gap, isBlank c = true
  body_closed : ')' ∉ body
  after_blank : ∀ c ∈ after, isBlank c = true

namespace ConstantMarker

def spelling (m : ConstantMarker) : List Char :=
  "EXPCONST".toList ++ (m.ending ++ (m.gap ++ '(' :: (m.body ++ ')' :: m.after)))

theorem body_subset_spelling (m : ConstantMarker) : m.body ⊆ m.spelling := by
  intro c hc
  have hinside : c ∈ m.gap ++ '(' :: (m.body ++ ')' :: m.after) :=
    List.mem_append_right _ (List.mem_cons_of_mem _ (List.mem_append_left _ hc))
  exact List.mem_append_right _ (List.mem_append_right _ hinside)

/-! ### The shape of the line -/

theorem constantShape?_spelling (m : ConstantMarker) :
    Marker.constantShape? m.spelling = some (m.ending, m.body) := by
  have hkeyword : stripPrefix? "EXPCONST".toList m.spelling =
      some (m.ending ++ (m.gap ++ '(' :: (m.body ++ ')' :: m.after))) :=
    stripPrefix?_eq_some_iff.2 rfl
  have hgap : StopsAt Marker.isFlagChar (m.gap ++ '(' :: (m.body ++ ')' :: m.after)) :=
    StopsAt.append_of_stopsAt (fun c hc => Marker.not_isFlagChar_of_isBlank (m.gap_blank c hc))
      (stopsAt_cons.2 (by decide))
  have hending := takeWhile_run m.ending_flag hgap
  have hending' := dropWhile_run m.ending_flag hgap
  have hopen : dropBlanks (m.gap ++ '(' :: (m.body ++ ')' :: m.after)) =
      '(' :: (m.body ++ ')' :: m.after) :=
    dropBlanks_append m.gap_blank (stopsAt_cons.2 (by decide))
  have hbody := takeWhile_upTo m.body_closed m.after
  have hbody' := dropWhile_upTo m.body_closed m.after
  have hafter : dropBlanks m.after = [] := List.dropWhile_eq_nil_iff.2 m.after_blank
  simp only [Marker.constantShape?, hkeyword, hending, hending', hopen, Option.bind_eq_bind,
    Option.bind_some, stripPrefix?, if_true, hbody, hbody', hafter]

theorem exists_of_constantShape? {line ending body : List Char}
    (h : Marker.constantShape? line = some (ending, body)) :
    ∃ m : ConstantMarker, line = m.spelling ∧ m.ending = ending ∧ m.body = body := by
  simp only [Marker.constantShape?, Option.bind_eq_bind, Option.bind_eq_some_iff,
    stripPrefix?_eq_some_iff] at h
  obtain ⟨rest, hline, inside, hopen, after, hclose, h⟩ := h
  split at h
  · next hafter =>
    obtain ⟨hending, hbody⟩ := Prod.mk.inj (Option.some.inj h)
    obtain ⟨gap, hgap, hbehind⟩ := Marker.exists_gap_of_parentheses hopen hclose
    have hrest := List.takeWhile_append_dropWhile (p := Marker.isFlagChar) (l := rest)
    rw [hbehind] at hrest
    let m : ConstantMarker :=
      { ending := rest.takeWhile Marker.isFlagChar
        gap := gap
        body := inside.takeWhile (· != ')')
        after := after
        ending_flag := fun c hc => List.mem_takeWhile_imp hc
        gap_blank := hgap
        body_closed := not_mem_takeWhile_upTo ')' inside
        after_blank := List.dropWhile_eq_nil_iff.1 hafter }
    refine ⟨m, ?_, hending, hbody⟩
    rw [hline, ← hrest]
    rfl
  · cases h

end ConstantMarker

namespace Marker

/-! ### Declarations -/

/-- A declaration consists, between blanks, of a type part that ends in an ASCII blank or a star,
and a name. -/
def Declares (declaration part name : List Char) : Prop :=
  trim declaration = part ++ name ∧ isIdentifier name = true ∧
    ∃ p c, part = p ++ [c] ∧ (isAsciiBlank c = true ∨ c = '*')

theorem endsType_iff {c : Char} : endsType c = true ↔ isAsciiBlank c = true ∨ c = '*' := by
  simp [endsType]

theorem not_endsType_of_isNameChar {c : Char} (h : isNameChar c = true) : endsType c = false := by
  by_contra hc
  rcases endsType_iff.1 (by simpa using hc) with hblank | rfl
  · rw [not_isNameChar_of_isBlank (isBlank_of_isAsciiBlank hblank)] at h
    cases h
  · exact absurd h (by decide)

/-- A type part is never blank, since no blank stands in front of it. -/
theorem Declares.trim_part_ne_nil {declaration part name : List Char}
    (h : Declares declaration part name) : trim part ≠ [] := by
  obtain ⟨htrim, -, p, c, rfl, -⟩ := h
  have hstop := (trimmed_trim declaration).1
  intro hnil
  have hblank := trim_eq_nil_iff.1 hnil
  rw [htrim] at hstop
  cases p with
  | nil =>
    have hc := stopsAt_cons.1 hstop
    rw [hblank c (by simp)] at hc
    cases hc
  | cons x p =>
    have hx := stopsAt_cons.1 hstop
    rw [hblank x (by simp)] at hx
    cases hx

theorem splitDeclaration?_eq_some_iff {declaration type name : List Char} :
    splitDeclaration? declaration = some (type, name) ↔
      ∃ part, Declares declaration part name ∧ type = trim part := by
  unfold splitDeclaration?
  dsimp only
  constructor
  · intro h
    split at h
    · next hc =>
      obtain ⟨htype, hname⟩ := Prod.mk.inj (Option.some.inj h)
      have hsplit := List.takeWhile_append_dropWhile (p := (!endsType ·))
        (l := (trim declaration).reverse)
      cases hdrop : (trim declaration).reverse.dropWhile (!endsType ·) with
      | nil =>
        rw [hdrop] at hc
        exact absurd rfl hc.1
      | cons c p =>
        have hend : endsType c = true := by
          have hhead := List.head?_dropWhile_not (!endsType ·) (trim declaration).reverse
          rw [hdrop] at hhead
          simpa using hhead
        refine ⟨p.reverse ++ [c], ⟨?_, hname ▸ hc.2, _, c, rfl, endsType_iff.1 hend⟩, ?_⟩
        · rw [hdrop] at hsplit
          rw [← hname, ← List.reverse_cons, ← List.reverse_append, hsplit, List.reverse_reverse]
        · rw [← htype, hdrop, List.reverse_cons]
    · cases h
  · rintro ⟨part, h, rfl⟩
    have hne := h.trim_part_ne_nil
    obtain ⟨htrim, hname, p, c, rfl, hc⟩ := h
    have hreverse : (trim declaration).reverse = name.reverse ++ c :: p.reverse := by
      rw [htrim]
      simp
    have hrun : ∀ x ∈ name.reverse, (!endsType x) = true := by
      intro x hx
      rw [not_endsType_of_isNameChar
        (isNameChar_of_mem_identifier hname x (List.mem_reverse.1 hx))]
      rfl
    have hstop : StopsAt (!endsType ·) (c :: p.reverse) :=
      stopsAt_cons.2 (by simp [endsType_iff.2 hc])
    have hpart : (c :: p.reverse).reverse = p ++ [c] := by simp
    rw [hreverse, takeWhile_run hrun hstop, dropWhile_run hrun hstop, List.reverse_reverse, hpart,
      if_pos ⟨hne, hname⟩]

theorem splitDeclaration?_eq_none_iff {declaration : List Char} :
    splitDeclaration? declaration = none ↔ ∀ part name, ¬Declares declaration part name := by
  simp only [Option.eq_none_iff_forall_ne_some, Prod.forall, ne_eq, splitDeclaration?_eq_some_iff]
  constructor
  · intro h part name hdeclares
    exact h _ name ⟨part, hdeclares, rfl⟩
  · rintro h type name ⟨part, hdeclares, -⟩
    exact h part name hdeclares

/-! ### Releases -/

/-- The body begins with the number of a release and a comma, and the declaration follows. -/
def Releases (body : List Char) (release : Nat) (declaration : List Char) : Prop :=
  ∃ gap digits gap', body = gap ++ (digits ++ (gap' ++ ',' :: declaration)) ∧
    (∀ c ∈ gap, isBlank c = true) ∧ (∀ c ∈ gap', isBlank c = true) ∧
    digits ≠ [] ∧ (∀ c ∈ digits, isDigit c = true) ∧
    decimalValue digits = release ∧ release < unsignedBound

theorem releaseShape?_eq_some_iff {body digits declaration : List Char} (hbody : '\n' ∉ body) :
    releaseShape? body = some (digits, declaration) ↔
      ∃ gap gap', body = gap ++ (digits ++ (gap' ++ ',' :: declaration)) ∧
        (∀ c ∈ gap, isBlank c = true) ∧ (∀ c ∈ gap', isBlank c = true) ∧
        digits ≠ [] ∧ ∀ c ∈ digits, isDigit c = true := by
  unfold releaseShape?
  simp only [Option.bind_eq_bind, Option.bind_eq_some_iff, stripPrefix?_eq_some_iff]
  constructor
  · rintro ⟨rest, hcomma, h⟩
    split at h
    · next hc =>
      obtain ⟨hdigits, rfl⟩ := Prod.mk.inj (Option.some.inj h)
      obtain ⟨gap, hgap, hfront, -⟩ := exists_blanks body
      obtain ⟨gap', hgap', hbehind, -⟩ := exists_blanks ((dropBlanks body).dropWhile isDigit)
      have hsplit := List.takeWhile_append_dropWhile (p := isDigit) (l := dropBlanks body)
      rw [hbehind, hcomma, hdigits] at hsplit
      rw [← hsplit] at hfront
      exact ⟨gap, gap', hfront, hgap, hgap', hdigits ▸ hc.1,
        fun c hc => List.mem_takeWhile_imp (hdigits ▸ hc)⟩
    · cases h
  · rintro ⟨gap, gap', rfl, hgap, hgap', hne, hdigits⟩
    have hfront : dropBlanks (gap ++ (digits ++ (gap' ++ ',' :: declaration))) =
        digits ++ (gap' ++ ',' :: declaration) :=
      dropBlanks_append hgap
        (StopsAt.append hne (fun c hc => not_isBlank_of_isDigit (hdigits c hc)) _)
    have hend : StopsAt isDigit (gap' ++ ',' :: declaration) :=
      StopsAt.append_of_stopsAt (fun c hc => not_isDigit_of_isBlank (hgap' c hc))
        (stopsAt_cons.2 (by decide))
    have hcomma : dropBlanks (gap' ++ ',' :: declaration) = [','] ++ declaration :=
      dropBlanks_append hgap' (stopsAt_cons.2 (by decide))
    have hline : '\n' ∉ declaration := fun hmem => hbody (by simp [hmem])
    rw [hfront, takeWhile_run hdigits hend, dropWhile_run hdigits hend, hcomma]
    exact ⟨declaration, rfl, if_pos ⟨hne, hline⟩⟩

theorem releaseAndDeclaration?_eq_some_iff {body declaration : List Char} {release : Nat}
    (hbody : '\n' ∉ body) :
    releaseAndDeclaration? body = some (release, declaration) ↔
      Releases body release declaration := by
  unfold releaseAndDeclaration?
  simp only [Option.bind_eq_bind, Option.bind_eq_some_iff, Prod.exists,
    releaseShape?_eq_some_iff hbody]
  constructor
  · rintro ⟨digits, d, ⟨gap, gap', hsplit, hgap, hgap', hne, hdigits⟩, r, hr, heq⟩
    obtain ⟨rfl, rfl⟩ := Prod.mk.inj (Option.some.inj heq)
    exact ⟨gap, digits, gap', hsplit, hgap, hgap', hne, hdigits,
      (toOption_readUnsigned_digits hdigits hne).1 hr⟩
  · rintro ⟨gap, digits, gap', hsplit, hgap, hgap', hne, hdigits, hrelease⟩
    exact ⟨digits, declaration, ⟨gap, gap', hsplit, hgap, hgap', hne, hdigits⟩, release,
      (toOption_readUnsigned_digits hdigits hne).2 hrelease, rfl⟩

/-! ### Endings -/

def knownEndings : List (List Char) :=
  [[], "_IFAVAIL".toList, "_MIN_OSREL".toList, "_MAX_OSREL".toList]

/-- What an ending and a body say of the constant that a declaration is about. -/
inductive Introduces : (ending body : List Char) → Availability → (declaration : List Char) → Prop
  | always {body} : Introduces [] body .always body
  | ifDefined {body} : Introduces "_IFAVAIL".toList body .ifDefined body
  | since {body release declaration} : Releases body release declaration →
      Introduces "_MIN_OSREL".toList body (.since release) declaration
  | before {body release declaration} : Releases body release declaration →
      Introduces "_MAX_OSREL".toList body (.before release) declaration

variable {ending body declaration : List Char} {availability : Availability}

theorem availability?_eq_none_iff : availability? ending body = none ↔ ending ∉ knownEndings := by
  unfold availability? knownEndings
  split_ifs <;> simp_all

theorem availability?_eq_some_iff (hbody : '\n' ∉ body) :
    availability? ending body = some (some (availability, declaration)) ↔
      Introduces ending body availability declaration := by
  constructor
  · intro h
    unfold availability? at h
    split_ifs at h with halways hdefined hsince hbefore
    · obtain ⟨rfl, rfl⟩ := Prod.mk.inj (Option.some.inj (Option.some.inj h))
      exact halways ▸ .always
    · obtain ⟨rfl, rfl⟩ := Prod.mk.inj (Option.some.inj (Option.some.inj h))
      exact hdefined ▸ .ifDefined
    · obtain ⟨⟨release, d⟩, hrelease, heq⟩ := Option.map_eq_some_iff.1 (Option.some.inj h)
      obtain ⟨rfl, rfl⟩ := Prod.mk.inj heq
      exact hsince ▸ .since ((releaseAndDeclaration?_eq_some_iff hbody).1 hrelease)
    · obtain ⟨⟨release, d⟩, hrelease, heq⟩ := Option.map_eq_some_iff.1 (Option.some.inj h)
      obtain ⟨rfl, rfl⟩ := Prod.mk.inj heq
      exact hbefore ▸ .before ((releaseAndDeclaration?_eq_some_iff hbody).1 hrelease)
  · intro h
    cases h with
    | always => rfl
    | ifDefined => rfl
    | since hrelease =>
      have hread := (releaseAndDeclaration?_eq_some_iff hbody).2 hrelease
      simp [availability?, hread]
    | before hrelease =>
      have hread := (releaseAndDeclaration?_eq_some_iff hbody).2 hrelease
      simp [availability?, hread]

/-! ### What is announced -/

/-- The name that is reported for a constant with an unknown ending: the declared one, if the body
is a declaration, and otherwise all of it. -/
inductive Reports (body : List Char) : (name : List Char) → Prop
  | declared {part name} : Declares body part name → Reports body name
  | undeclared : (∀ part name, ¬Declares body part name) → Reports body (trim body)

theorem reports_iff {name : List Char} : Reports body name ↔ reportedName body = name := by
  unfold reportedName
  cases hsplit : splitDeclaration? body with
  | none =>
    have hnone := splitDeclaration?_eq_none_iff.1 hsplit
    constructor
    · rintro (hdeclares | _)
      · exact absurd hdeclares (hnone _ _)
      · rfl
    · rintro rfl
      exact .undeclared hnone
  | some pair =>
    obtain ⟨type, declared⟩ := pair
    obtain ⟨part, hdeclares, -⟩ := splitDeclaration?_eq_some_iff.1 hsplit
    constructor
    · rintro (@⟨part', _, hdeclares'⟩ | hnone)
      · have hsame := splitDeclaration?_eq_some_iff.2 ⟨part', hdeclares', rfl⟩
        rw [hsplit] at hsame
        exact (Prod.mk.inj (Option.some.inj hsame)).2
      · exact absurd hdeclares (hnone _ _)
    · rintro rfl
      exact .declared hdeclares

/-- What is announced or reported for a constant marker with this ending and this body. -/
inductive ConstantVerdict (ending body : List Char) : Except MarkerError Announcement → Prop
  | constant {availability declaration part name type} :
      Introduces ending body availability declaration → Declares declaration part name →
      ConstantType.Tokens part type.spelling →
      ConstantVerdict ending body (.ok (.constant availability type (String.ofList name)))
  | unsupportedType {availability declaration part name} :
      Introduces ending body availability declaration → Declares declaration part name →
      (∀ type : ConstantType, ¬ConstantType.Tokens part type.spelling) →
      ConstantVerdict ending body
        (.error (.unsupportedType (String.ofList name) (String.ofList (trim part))))
  | malformed : ending ∈ knownEndings →
      (∀ availability declaration part name, Introduces ending body availability declaration →
        ¬Declares declaration part name) →
      ConstantVerdict ending body
        (.error (.malformedConstant (String.ofList ending) (String.ofList (trim body))))
  | unsupportedFlag {name} : ending ∉ knownEndings → Reports body name →
      ConstantVerdict ending body
        (.error (.unsupportedFlag (String.ofList name) (String.ofList ending)))

theorem constantVerdict_constantOf (hbody : '\n' ∉ body) :
    ConstantVerdict ending body (constantOf ending body) := by
  unfold constantOf
  cases havailable : availability? ending body with
  | none => exact .unsupportedFlag (availability?_eq_none_iff.1 havailable) (reports_iff.2 rfl)
  | some read =>
    have hknown : ending ∈ knownEndings := by
      by_contra hnot
      rw [availability?_eq_none_iff.2 hnot] at havailable
      cases havailable
    have honly : ∀ {availability declaration},
        Introduces ending body availability declaration → read = some (availability, declaration) :=
      fun h => Option.some.inj (havailable.symm.trans ((availability?_eq_some_iff hbody).2 h))
    cases read with
    | none =>
      refine .malformed hknown fun availability declaration part name hintroduces => ?_
      cases honly hintroduces
    | some pair =>
      obtain ⟨availability, declaration⟩ := pair
      have hintroduces := (availability?_eq_some_iff hbody).1 havailable
      show ConstantVerdict ending body (declaredConstant ending body availability declaration)
      unfold declaredConstant
      cases hsplit : splitDeclaration? declaration with
      | none =>
        refine .malformed hknown fun availability' declaration' part name hintroduces' => ?_
        obtain ⟨-, rfl⟩ := Prod.mk.inj (Option.some.inj (honly hintroduces'))
        exact splitDeclaration?_eq_none_iff.1 hsplit part name
      | some pair =>
        obtain ⟨type, name⟩ := pair
        obtain ⟨part, hdeclares, rfl⟩ := splitDeclaration?_eq_some_iff.1 hsplit
        dsimp only
        cases htype : ConstantType.ofSpelling? (trim part) with
        | none =>
          refine .unsupportedType hintroduces hdeclares fun type htokens => ?_
          exact ConstantType.ofSpelling?_eq_none_iff.1 htype type
            (ConstantType.tokens_trim_iff.2 htokens)
        | some type =>
          refine .constant hintroduces hdeclares (ConstantType.tokens_trim_iff.1 ?_)
          exact ConstantType.ofSpelling?_eq_some_iff_tokens.1 htype

theorem constantOf_of_introduces (hbody : '\n' ∉ body) {part name : List Char}
    (hintroduces : Introduces ending body availability declaration)
    (hdeclares : Declares declaration part name) :
    constantOf ending body =
      match ConstantType.ofSpelling? (trim part) with
      | none => .error (.unsupportedType (String.ofList name) (String.ofList (trim part)))
      | some type => .ok (.constant availability type (String.ofList name)) := by
  unfold constantOf
  rw [(availability?_eq_some_iff hbody).2 hintroduces]
  dsimp only
  have hsplit : splitDeclaration? declaration = some (trim part, name) :=
    splitDeclaration?_eq_some_iff.2 ⟨part, hdeclares, rfl⟩
  unfold declaredConstant
  cases htype : ConstantType.ofSpelling? (trim part) <;> simp only [hsplit, htype]

/-- A constant marker has one verdict, and it is what the reader gives. -/
theorem constantVerdict_iff (hbody : '\n' ∉ body) {result : Except MarkerError Announcement} :
    ConstantVerdict ending body result ↔ constantOf ending body = result := by
  constructor
  · intro h
    cases h with
    | constant hintroduces hdeclares htokens =>
      have htype := ConstantType.ofSpelling?_eq_some_iff_tokens.2
        (ConstantType.tokens_trim_iff.2 htokens)
      rw [constantOf_of_introduces hbody hintroduces hdeclares, htype]
    | unsupportedType hintroduces hdeclares hnone =>
      have htype := ConstantType.ofSpelling?_eq_none_iff.2 fun type htokens =>
        hnone type (ConstantType.tokens_trim_iff.1 htokens)
      rw [constantOf_of_introduces hbody hintroduces hdeclares, htype]
    | malformed hknown hnone =>
      unfold constantOf
      cases havailable : availability? ending body with
      | none => exact absurd hknown (availability?_eq_none_iff.1 havailable)
      | some read =>
        cases read with
        | none => rfl
        | some pair =>
          have hintroduces := (availability?_eq_some_iff hbody).1 havailable
          have hsplit := splitDeclaration?_eq_none_iff.2 fun part name =>
            hnone pair.1 pair.2 part name hintroduces
          show declaredConstant ending body pair.1 pair.2 = _
          unfold declaredConstant
          rw [hsplit]
    | unsupportedFlag hunknown hname =>
      unfold constantOf
      rw [availability?_eq_none_iff.2 hunknown, reports_iff.1 hname]
  · rintro rfl
    exact constantVerdict_constantOf hbody

theorem map_some_inj {x y : Except MarkerError Announcement} : x.map some = y.map some ↔ x = y := by
  cases x <;> cases y <;> simp [Except.map]

theorem map_some_ne_ok_none (x : Except MarkerError Announcement) : x.map some ≠ .ok none := by
  cases x <;> simp [Except.map]

theorem constant?_spelling (m : ConstantMarker) :
    constant? m.spelling = (constantOf m.ending m.body).map some := by
  unfold constant?
  rw [m.constantShape?_spelling]

theorem constant?_eq_ok_none_iff {line : List Char} :
    constant? line = .ok none ↔ ∀ m : ConstantMarker, line ≠ m.spelling := by
  constructor
  · rintro h m rfl
    rw [constant?_spelling] at h
    exact map_some_ne_ok_none _ h
  · intro h
    unfold constant?
    cases hshape : constantShape? line with
    | none => rfl
    | some shape =>
      obtain ⟨m, hm, -⟩ := ConstantMarker.exists_of_constantShape? hshape
      exact absurd hm (h m)

/-- A line without a line feed announces no constant and reports none exactly if it is not composed
of the keyword, an ending, blanks, a body in parentheses and blanks. Otherwise there is one verdict:
the declared constant, or the error that tells what is missing. -/
theorem constant?_verdict {line : List Char} (hline : '\n' ∉ line) :
    (constant? line = .ok none ↔ ∀ m : ConstantMarker, line ≠ m.spelling) ∧
    ∀ m : ConstantMarker, line = m.spelling → ∀ result : Except MarkerError Announcement,
      constant? line = result.map some ↔ ConstantVerdict m.ending m.body result := by
  refine ⟨constant?_eq_ok_none_iff, ?_⟩
  rintro m rfl result
  have hbody : '\n' ∉ m.body := fun hmem => hline (m.body_subset_spelling hmem)
  rw [constant?_spelling, map_some_inj, constantVerdict_iff hbody]

/-- The release has leading zeros, and a tab and a wide space stand behind the words of the type. -/
theorem constant?_verdict_of_release :
    let line := "EXPCONST_MIN_OSREL (\t0700000 , unsigned\tlong\u2003 NAME )\r".toList
    '\n' ∉ line ∧
      constant? line = .ok (some (.constant (.since 700000) .unsignedLong "NAME")) := by
  intro line
  have hline : '\n' ∉ line := by decide
  let m : ConstantMarker :=
    { ending := "_MIN_OSREL".toList
      gap := [' ']
      body := "\t0700000 , unsigned\tlong\u2003 NAME ".toList
      after := ['\r']
      ending_flag := List.all_eq_true.1 rfl
      gap_blank := isBlank_space
      body_closed := by decide
      after_blank := List.all_eq_true.1 rfl }
  have hm : line = m.spelling := by decide
  have hrelease : Releases m.body 700000 " unsigned\tlong\u2003 NAME ".toList :=
    ⟨['\t'], "0700000".toList, [' '], by decide, List.all_eq_true.1 rfl, isBlank_space,
      by decide, List.all_eq_true.1 rfl, by decide, by decide⟩
  have hdeclares : Declares " unsigned\tlong\u2003 NAME ".toList "unsigned\tlong\u2003 ".toList
      "NAME".toList :=
    ⟨by decide, by decide, "unsigned\tlong\u2003".toList, ' ', by decide, Or.inl (by decide)⟩
  have htokens : ConstantType.Tokens "unsigned\tlong\u2003 ".toList
      ConstantType.unsignedLong.spelling := ConstantType.tokens_iff.2 (by decide)
  have hverdict := ConstantVerdict.constant (.since hrelease) hdeclares htokens
  exact ⟨hline, ((constant?_verdict hline).2 m hm _).2 hverdict⟩

/-- A star needs no blanks, but it is a token: two of them spell no type. -/
example : constant? "EXPCONST(char*NAME)".toList = .ok (some (.constant .always .string "NAME")) ∧
    constant? "EXPCONST(char**NAME)".toList = .error (.unsupportedType "NAME" "char**") := by
  decide

end Marker

end DefFragments
