import DefFragments.FileTree.Basic
import DefFragments.Path
import Mathlib.Data.List.Induction

/-!
# The location that a path spells

Where a path leads is spelled by its names alone: idle segments stay, two dots go to the directory
around, and every other segment enters a directory. What stands in a tree decides only whether the
way exists. The parent of a path has its names but the last, and is written at its beginning.
-/

namespace DefFragments.Path
open Text

/-- Where a segment leads from a location. -/
def step (l : Location) (segment : String) : Location :=
  if isIdle segment then l else if segment = ".." then l.tail else segment :: l

/-- The location that a path spells. -/
def location (p : Path) : Location :=
  p.segments.foldl step []

def nonIdle (segments : List String) : List String :=
  segments.filter fun s => !isIdle s

def names (p : Path) : List String :=
  nonIdle p.segments

/-- What a file or a directory can be called. -/
def IsName (s : String) : Prop :=
  isIdle s = false ∧ s ≠ ".." ∧ '/' ∉ s.toList

instance (s : String) : Decidable (IsName s) :=
  inferInstanceAs (Decidable (_ ∧ _))

theorem IsName.ne_empty {s : String} (h : IsName s) : s ≠ "" := by
  rintro rfl
  exact absurd h.1 (by decide)

/-! ### Segments -/

theorem segments_ne_nil (p : Path) : p.segments ≠ [] := by
  simpa [segments] using pieces_ne_nil _ _

theorem exists_segments (p : Path) : ∃ first rest, p.segments = first :: rest :=
  List.exists_cons_of_ne_nil p.segments_ne_nil

theorem segments_singleton {s : String} (h : '/' ∉ s.toList) : segments ⟨s⟩ = [s] := by
  have hp : ∀ c ∈ s.toList, (c == '/') = false := by
    intro c hc
    rw [beq_eq_false_iff_ne]
    exact fun heq => h (heq ▸ hc)
  rw [segments, pieces_eq_singleton hp]
  simp

theorem segments_append (a b : String) :
    segments ⟨a ++ "/" ++ b⟩ = segments ⟨a⟩ ++ segments ⟨b⟩ := by
  have htext : (a ++ "/" ++ b).toList = a.toList ++ '/' :: b.toList := by simp
  rw [segments, htext, pieces_append_cons rfl, List.map_append]
  rfl

theorem segments_ofSegments {xs : List String} (hne : xs ≠ [])
    (h : ∀ x ∈ xs, '/' ∉ x.toList) : (ofSegments xs).segments = xs := by
  induction xs with
  | nil => exact absurd rfl hne
  | cons x xs ih =>
    have hx := segments_singleton (h x (List.mem_cons_self ..))
    cases xs with
    | nil => simpa [ofSegments] using hx
    | cons y ys =>
      have hrest := ih (by simp) fun z hz => h z (List.mem_cons_of_mem _ hz)
      rw [ofSegments, String.intercalate_cons_cons, segments_append, hx]
      exact congrArg (x :: ·) hrest

theorem ofSegments_segments (p : Path) : ofSegments p.segments = p := by
  obtain ⟨text⟩ := p
  have hchars : ∀ s : List Char,
      "/".intercalate ((pieces (· == '/') s).map String.ofList) = String.ofList s := by
    intro s
    induction s with
    | nil => rfl
    | cons c s ih =>
      have hne : (pieces (· == '/') s).map String.ofList ≠ [] := by
        simpa using pieces_ne_nil (· == '/') s
      rw [pieces]
      split
      · next hc =>
        rw [List.map_cons, String.intercalate_cons_of_ne_nil hne, ih, beq_iff_eq.1 hc]
        apply String.toList_inj.1
        simp
      · cases hs : pieces (· == '/') s with
        | nil => exact absurd hs (pieces_ne_nil _ s)
        | cons w ws =>
          have hw : String.ofList (c :: w) = String.ofList [c] ++ String.ofList w := by
            apply String.toList_inj.1
            simp
          rw [hs] at ih
          simp only [List.map_cons, hw, String.intercalate_cons_append] at ih ⊢
          rw [ih]
          apply String.toList_inj.1
          simp
  simp only [segments, ofSegments, hchars, String.ofList_toList]

theorem text_eq_intercalate {p : Path} {xs : List String} (h : p.segments = xs) :
    p.text = "/".intercalate xs := by
  rw [← h]
  exact congrArg Path.text (ofSegments_segments p).symm

theorem not_slash_of_mem_segments {p : Path} {s : String} (h : s ∈ p.segments) :
    '/' ∉ s.toList := by
  have hchars : ∀ (t w : List Char), w ∈ pieces (· == '/') t → '/' ∉ w := by
    intro t
    induction t with
    | nil => simp [pieces]
    | cons c t ih =>
      intro w hw
      rw [pieces] at hw
      split at hw
      · rcases List.mem_cons.1 hw with rfl | hw
        · simp
        · exact ih w hw
      · next hc =>
        cases ht : pieces (· == '/') t with
        | nil => exact absurd ht (pieces_ne_nil _ t)
        | cons v vs =>
          simp only [ht, List.mem_cons] at hw ih
          rcases hw with rfl | hw
          · intro hmem
            rcases List.mem_cons.1 hmem with rfl | hmem
            · exact hc rfl
            · exact ih v (Or.inl rfl) hmem
          · exact ih w (Or.inr hw)
  obtain ⟨w, hw, rfl⟩ := List.mem_map.1 h
  simpa using hchars _ w hw

theorem isName_of_mem_segments {p : Path} {s : String} (h : s ∈ p.segments)
    (hidle : isIdle s = false) (hup : s ≠ "..") : IsName s :=
  ⟨hidle, hup, not_slash_of_mem_segments h⟩

theorem names_empty : names ⟨""⟩ = [] := by
  decide

theorem nonIdle_cons_of_isIdle {s : String} (h : isIdle s = true) (xs : List String) :
    nonIdle (s :: xs) = nonIdle xs :=
  List.filter_cons_of_neg (by simp [h])

theorem nonIdle_cons_of_not_isIdle {s : String} (h : isIdle s = false) (xs : List String) :
    nonIdle (s :: xs) = s :: nonIdle xs :=
  List.filter_cons_of_pos (by simp [h])

/-! ### Slashes at the end -/

theorem dropWhile_reverse_slashes (init : List String) {name : String} (hname : name ≠ "")
    (slashes : Nat) :
    (init ++ name :: List.replicate slashes "").reverse.dropWhile (· == "") =
      name :: init.reverse := by
  rw [List.reverse_append, List.reverse_cons, List.reverse_replicate, List.append_assoc,
    List.dropWhile_append_of_pos (by intro x hx; simp [List.eq_of_mem_replicate hx])]
  simp [hname]

/-- What the class leaves of a list from behind ends in an element outside of it. -/
theorem dropWhile_reverse_cases {α : Type} (p : α → Bool) (xs : List α) :
    (xs.reverse.dropWhile p = [] ∧ ∀ x ∈ xs, p x = true) ∨
      ∃ init last tail, xs = init ++ last :: tail ∧ p last = false ∧ (∀ x ∈ tail, p x = true) ∧
        xs.reverse.dropWhile p = last :: init.reverse := by
  induction xs using List.reverseRecOn with
  | nil => exact Or.inl ⟨rfl, List.forall_mem_nil _⟩
  | append_singleton xs x ih =>
    rw [List.reverse_append, List.reverse_singleton, List.singleton_append]
    cases hx : p x with
    | false =>
      refine Or.inr ⟨xs, x, [], rfl, hx, List.forall_mem_nil _, ?_⟩
      exact List.dropWhile_cons_of_neg (by simp [hx])
    | true =>
      rw [List.dropWhile_cons_of_pos hx]
      rcases ih with ⟨hnil, hall⟩ | ⟨init, last, tail, rfl, hlast, htail, hdrop⟩
      · refine Or.inl ⟨hnil, List.forall_mem_append.2 ⟨hall, ?_⟩⟩
        exact List.forall_mem_singleton.2 hx
      · refine Or.inr ⟨init, last, tail ++ [x], by simp, hlast, ?_, hdrop⟩
        exact List.forall_mem_append.2 ⟨htail, List.forall_mem_singleton.2 hx⟩

theorem exists_slashes {segments before : List String} {last : String}
    (h : segments.reverse.dropWhile (· == "") = last :: before) :
    last ≠ "" ∧ ∃ slashes, segments = before.reverse ++ last :: List.replicate slashes "" := by
  rcases dropWhile_reverse_cases (· == "") segments with
    ⟨hnil, -⟩ | ⟨init, last', tail, hsplit, hlast, htail, hdrop⟩
  · rw [hnil] at h
    cases h
  · obtain ⟨rfl, rfl⟩ := List.cons.inj (hdrop.symm.trans h)
    have hslashes : tail = List.replicate tail.length "" :=
      List.eq_replicate_iff.2 ⟨rfl, fun x hx => by simpa using htail x hx⟩
    refine ⟨by simpa using hlast, tail.length, ?_⟩
    rw [hsplit, List.reverse_reverse, ← hslashes]

theorem getLast?_slashes (init : List String) {name : String} (hname : name ≠ "")
    (slashes : Nat) :
    ((init ++ name :: List.replicate slashes "").getLast? == some "") =
      decide (0 < slashes) := by
  cases slashes with
  | zero => simp [hname]
  | succ k => simp [List.getLast?_append, List.getLast?_cons, List.getLast?_replicate]

/-! ### Locations -/

theorem step_of_isIdle {s : String} (h : isIdle s = true) (l : Location) : step l s = l := by
  rw [step, if_pos h]

theorem step_up (l : Location) : step l ".." = l.tail := by
  rw [step, if_neg (by decide), if_pos rfl]

theorem step_of_isName {s : String} (h : IsName s) (l : Location) : step l s = s :: l := by
  rw [step, if_neg (by simp [h.1]), if_neg h.2.1]

theorem foldl_step_nonIdle (segments : List String) (l : Location) :
    (nonIdle segments).foldl step l = segments.foldl step l := by
  induction segments generalizing l with
  | nil => rfl
  | cons s segments ih =>
    cases hs : isIdle s with
    | true =>
      rw [nonIdle_cons_of_isIdle hs, List.foldl_cons, step_of_isIdle hs]
      exact ih l
    | false =>
      rw [nonIdle_cons_of_not_isIdle hs, List.foldl_cons, List.foldl_cons]
      exact ih _

theorem foldl_step_slashes (slashes : Nat) (l : Location) :
    (List.replicate slashes "").foldl step l = l := by
  induction slashes with
  | zero => rfl
  | succ k ih => rw [List.replicate_succ, List.foldl_cons, step_of_isIdle (by decide), ih]

theorem location_eq_foldl_names (p : Path) : p.location = p.names.foldl step [] :=
  (foldl_step_nonIdle p.segments []).symm

theorem mem_of_mem_foldl_step {segments : List String} {l : Location} {s : String}
    (h : s ∈ segments.foldl step l) : s ∈ segments ∨ s ∈ l := by
  induction segments generalizing l with
  | nil => exact Or.inr h
  | cons x segments ih =>
    rcases ih h with h | h
    · exact Or.inl (List.mem_cons_of_mem _ h)
    · unfold step at h
      split at h
      · exact Or.inr h
      · split at h
        · exact Or.inr (List.mem_of_mem_tail h)
        · rcases List.mem_cons.1 h with rfl | h
          · exact Or.inl (List.mem_cons_self ..)
          · exact Or.inr h

theorem length_le_of_mem_location {p : Path} {s : String} (h : s ∈ p.location) :
    s.length ≤ p.text.length := by
  have hmem : s ∈ p.segments := by
    rcases mem_of_mem_foldl_step h with h | h
    · exact h
    · simp at h
  obtain ⟨a, b, hab⟩ := List.append_of_mem hmem
  have htext := text_eq_intercalate hab
  have hpart : s.length ≤ ("/".intercalate (s :: b)).length := by
    cases b with
    | nil => simp
    | cons c b => rw [String.intercalate_cons_cons]; simp [String.length_append]; omega
  cases a with
  | nil => rw [htext]; exact hpart
  | cons c a =>
    rw [htext, String.intercalate_append_of_ne_nil (by simp) (by simp), String.length_append]
    omega

theorem mem_segments_of_mem_names {p : Path} {s : String} (h : s ∈ p.names) : s ∈ p.segments :=
  (List.mem_filter.1 h).1

/-- Without two dots, the names lead inwards one after the other. -/
theorem location_eq_reverse {p : Path} (h : ".." ∉ p.names) : p.location = p.names.reverse := by
  have hfold : ∀ (xs : List String) (l : Location), (∀ x ∈ xs, isIdle x = false ∧ x ≠ "..") →
      xs.foldl step l = xs.reverse ++ l := by
    intro xs
    induction xs with
    | nil => intro l _; rfl
    | cons x xs ih =>
      intro l hxs
      obtain ⟨hidle, hup⟩ := hxs x (List.mem_cons_self ..)
      have hstep : step l x = x :: l := by simp [step, hidle, hup]
      rw [List.foldl_cons, hstep, ih _ fun y hy => hxs y (List.mem_cons_of_mem _ hy)]
      simp
  rw [location_eq_foldl_names, hfold _ _ ?_, List.append_nil]
  intro x hx
  have hidle : isIdle x = false := by simpa using (List.mem_filter.1 hx).2
  exact ⟨hidle, fun heq => h (heq ▸ hx)⟩

/-! ### A name in a directory -/

theorem IsName.isAbsolute_eq_false {name : String} (h : IsName name) :
    isAbsolute ⟨name⟩ = false := by
  have hhead : name.toList.head? ≠ some '/' := fun hh => h.2.2 (List.mem_of_head? hh)
  simpa [isAbsolute] using hhead

theorem exists_text_join {name : String} (h : IsName name) (dir : Path) :
    ∃ slash ∈ ["", "/"], (dir.join ⟨name⟩).text = dir.text ++ slash ++ name := by
  rw [join, if_neg (by simp [h.isAbsolute_eq_false])]
  split
  · exact ⟨"", by simp, by simp⟩
  · exact ⟨"/", by simp, rfl⟩

theorem segments_join {name : String} (h : IsName name) (dir : Path) :
    ∃ around, (dir.join ⟨name⟩).segments = around ++ [name] ∧ nonIdle around = dir.names := by
  have hname := segments_singleton h.2.2
  rw [join, if_neg (by simp [h.isAbsolute_eq_false])]
  by_cases hempty : dir.text = ""
  · refine ⟨[], ?_, ?_⟩
    · rw [if_pos (Or.inl hempty), hempty]
      simpa using hname
    · rw [names, segments, hempty]
      decide
  · by_cases hlast : dir.text.toList.getLast? = some '/'
    · obtain ⟨init, hinit⟩ : ∃ init, dir.text.toList = init ++ ['/'] := by
        rw [List.getLast?_eq_some_iff] at hlast
        exact hlast
      have hdir : dir.text = String.ofList init ++ "/" := by
        apply String.toList_inj.1
        simp [hinit]
      refine ⟨segments ⟨String.ofList init⟩, ?_, ?_⟩
      · rw [if_pos (Or.inr hlast), hdir, segments_append, hname]
      · have hsplit : dir.segments = segments ⟨String.ofList init⟩ ++ [""] := by
          have happ := segments_append (String.ofList init) ""
          rw [String.append_empty, ← hdir] at happ
          exact happ
        rw [names, hsplit, nonIdle, nonIdle, List.filter_append]
        simp [isIdle]
    · refine ⟨dir.segments, ?_, rfl⟩
      rw [if_neg (by simp [hempty, hlast]), segments_append, hname]

theorem location_join {name : String} (h : IsName name) (dir : Path) :
    (dir.join ⟨name⟩).location = name :: dir.location := by
  obtain ⟨around, hsegments, hnames⟩ := segments_join h dir
  rw [location, hsegments, List.foldl_append, List.foldl_cons, List.foldl_nil,
    step_of_isName h, ← foldl_step_nonIdle around, hnames, ← location_eq_foldl_names]

theorem join_injective {a b : String} (ha : IsName a) (hb : IsName b) {dir : Path}
    (h : dir.join ⟨a⟩ = dir.join ⟨b⟩) : a = b := by
  have hloc := location_join ha dir
  rw [h, location_join hb dir] at hloc
  exact (List.cons.inj hloc).1.symm

theorem fileName?_join {name : String} (h : IsName name) (dir : Path) :
    (dir.join ⟨name⟩).fileName? = some name := by
  obtain ⟨around, hsegments, -⟩ := segments_join h dir
  have hlast : ¬(isIdle name = true ∨ name = "..") := by
    rw [h.1]
    simpa using h.2.1
  unfold fileName?
  rw [firstAndReversed, hsegments]
  cases around with
  | nil => exact if_neg hlast
  | cons first around =>
    rw [List.cons_append]
    dsimp only
    rw [List.reverse_append, List.reverse_singleton, List.singleton_append,
      List.dropWhile_cons_of_neg (by simp [h.1]), List.head?_cons, Option.getD_some, if_neg hlast]

/-! ### The parent of a path -/

theorem parent?_eq {p : Path} {first : String} {rest : List String}
    (h : p.segments = first :: rest) :
    p.parent? = match rest.reverse.dropWhile isIdle with
      | _ :: before =>
        match before.dropWhile isIdle with
        | [] => some ⟨if first = "" then "/" else first⟩
        | kept => some (ofSegments (first :: kept.reverse))
      | [] => if first = "" then none else some ⟨""⟩ := by
  unfold parent?
  generalize hparts : p.firstAndReversed = parts
  rw [firstAndReversed, h] at hparts
  subst hparts
  rfl

theorem nonIdle_eq_nil {segments : List String} (h : ∀ x ∈ segments, isIdle x = true) :
    nonIdle segments = [] :=
  List.filter_eq_nil_iff.2 fun x hx => by simp [h x hx]

theorem names_of_parent?_eq_none {p : Path} (h : p.parent? = none) : p.names = [] := by
  obtain ⟨first, rest, hseg⟩ := p.exists_segments
  rw [parent?_eq hseg] at h
  rcases dropWhile_reverse_cases isIdle rest with
    ⟨hnil, hall⟩ | ⟨init, last, tail, -, -, -, hdrop⟩
  · by_cases hempty : first = ""
    · rw [names, hseg, hempty, nonIdle_cons_of_isIdle (by decide), nonIdle_eq_nil hall]
    · simp [hnil, hempty] at h
  · rw [hdrop] at h
    cases hkept : init.reverse.dropWhile isIdle <;> simp [hkept] at h

/-- A path with a parent is a single component, or its segments are those of the parent and then
others that have one name. -/
theorem parent?_cases {p q : Path} (h : p.parent? = some q) :
    (q = ⟨""⟩ ∧ ∃ first idles, p.segments = first :: idles ∧ nonIdle idles = []) ∨
      ∃ around inner last, p.segments = around ++ inner ∧ around ≠ [] ∧ nonIdle inner = [last] ∧
        (q = ofSegments around ∨ around = [""] ∧ q = ⟨"/"⟩) := by
  obtain ⟨first, rest, hseg⟩ := p.exists_segments
  rw [parent?_eq hseg] at h
  rcases dropWhile_reverse_cases isIdle rest with
    ⟨hnil, hall⟩ | ⟨init, last, tail, rfl, hlast, htail, hdrop⟩
  · left
    by_cases hempty : first = ""
    · simp [hnil, hempty] at h
    · exact ⟨by simpa [hnil, hempty] using h.symm, first, rest, hseg, nonIdle_eq_nil hall⟩
  · right
    rw [hdrop] at h
    have hinner : ∀ gap, (∀ x ∈ gap, isIdle x = true) → nonIdle (gap ++ last :: tail) = [last] := by
      intro gap hgap
      rw [nonIdle, List.filter_append]
      show nonIdle gap ++ nonIdle (last :: tail) = [last]
      rw [nonIdle_eq_nil hgap, nonIdle_cons_of_not_isIdle hlast, nonIdle_eq_nil htail,
        List.nil_append]
    -- the idle segments between the parent and the last component go with the last component
    rcases dropWhile_reverse_cases isIdle init with
      ⟨hkept, hgap⟩ | ⟨kept, k, gap, rfl, -, hgap, hkept⟩
    · refine ⟨[first], init ++ last :: tail, last, hseg, by simp, hinner init hgap, ?_⟩
      by_cases hempty : first = ""
      · exact Or.inr ⟨by rw [hempty], by simpa [hkept, hempty] using h.symm⟩
      · exact Or.inl (by simpa [hkept, hempty, ofSegments] using h.symm)
    · refine ⟨first :: (kept ++ [k]), gap ++ last :: tail, last, by simp [hseg], by simp,
        hinner gap hgap, Or.inl ?_⟩
      simp only [hkept] at h
      obtain rfl := Option.some.inj h
      rw [List.reverse_cons, List.reverse_reverse]

theorem names_of_parent? {p q : Path} (h : p.parent? = some q) : q.names = p.names.dropLast := by
  rcases parent?_cases h with
    ⟨rfl, first, idles, hseg, hidles⟩ | ⟨around, inner, last, hseg, hne, hinner, hq⟩
  · rw [names_empty, names, hseg]
    cases hfirst : isIdle first with
    | true => rw [nonIdle_cons_of_isIdle hfirst, hidles, List.dropLast_nil]
    | false => rw [nonIdle_cons_of_not_isIdle hfirst, hidles, List.dropLast_singleton]
  · have hnames : p.names = nonIdle around ++ [last] := by
      rw [← hinner, names, hseg]
      exact List.filter_append around inner
    rw [hnames, List.dropLast_concat]
    rcases hq with rfl | ⟨rfl, rfl⟩
    · rw [names, segments_ofSegments hne]
      intro x hx
      exact not_slash_of_mem_segments (hseg ▸ List.mem_append_left _ hx)
    · decide

theorem text_prefix_of_parent? {p q : Path} (h : p.parent? = some q) :
    ∃ tail, p.text = q.text ++ tail := by
  rcases parent?_cases h with ⟨rfl, -⟩ | ⟨around, inner, last, hseg, hne, hinner, hq⟩
  · exact ⟨p.text, String.empty_append.symm⟩
  · have hinner' : inner ≠ [] := by
      rintro rfl
      cases hinner
    have htext := text_eq_intercalate hseg
    rw [String.intercalate_append_of_ne_nil hne hinner'] at htext
    rcases hq with rfl | ⟨rfl, rfl⟩
    · exact ⟨"/" ++ "/".intercalate inner, by rw [htext, ofSegments, String.append_assoc]⟩
    · exact ⟨"/".intercalate inner, by simpa using htext⟩

theorem names_prefix_of_mem_ancestors {p q : Path} (h : q ∈ p.ancestors) : q.names <+: p.names := by
  have hsteps : ∀ (n : Nat) (p : Path), q ∈ ancestorsUpTo n p → q.names <+: p.names := by
    intro n
    induction n with
    | zero => intro p hq; simp [ancestorsUpTo] at hq
    | succ n ih =>
      intro p hq
      rw [ancestorsUpTo] at hq
      split at hq
      · simp at hq
      · rcases List.mem_cons.1 hq with rfl | hq
        · exact List.prefix_rfl
        · cases hp : p.parent? with
          | none => simp [hp] at hq
          | some r =>
            rw [hp] at hq
            have hr := names_of_parent? hp
            exact (ih r hq).trans (hr ▸ List.dropLast_prefix _)
  exact hsteps _ p h

end DefFragments.Path
