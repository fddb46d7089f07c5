import DefFragments.Proofs.Fragment.Staging

/-!
# What publishing leaves behind

Moving the staged files into place and taking them back touches only the places of the paths. So a
failed publication leaves new directories around the paths and misses the files that it had replaced
already, whatever was refused, as long as these could be removed. A successful one leaves at each place
the text of the last path that leads there.
-/

namespace DefFragments.Staged
open FileTree DefFragments.Path

/-- The text of the last path that leads to a location. -/
def lastText : List (String × Path) → Location → Option String
  | [], _ => none
  | (text, p) :: rest, l => (lastText rest l).or (if p.location = l then some text else none)

theorem lastText_eq_none_iff {pairs : List (String × Path)} {l : Location} :
    lastText pairs l = none ↔ ∀ e ∈ pairs, e.2.location ≠ l := by
  induction pairs with
  | nil => simp [lastText]
  | cons e pairs ih =>
    obtain ⟨text, p⟩ := e
    rw [lastText, Option.or_eq_none_iff, ih, List.forall_mem_cons, and_comm]
    simp

theorem exists_split_of_lastText {pairs : List (String × Path)} {l : Location} {text : String}
    (h : lastText pairs l = some text) :
    ∃ before p after, pairs = before ++ (text, p) :: after ∧ p.location = l ∧
      ∀ e ∈ after, e.2.location ≠ l := by
  induction pairs with
  | nil => cases h
  | cons e pairs ih =>
    obtain ⟨text', p⟩ := e
    rw [lastText] at h
    cases hrest : lastText pairs l with
    | some later =>
      rw [hrest, Option.some_or] at h
      obtain ⟨before, q, after, rfl, hq, hafter⟩ := ih (hrest.trans h)
      exact ⟨(text', p) :: before, q, after, rfl, hq, hafter⟩
    | none =>
      rw [hrest, Option.none_or] at h
      obtain ⟨hp, rfl⟩ : p.location = l ∧ text' = text := by simpa using h
      exact ⟨[], p, pairs, rfl, hp, lastText_eq_none_iff.1 hrest⟩

theorem lastText_append_cons {before after : List (String × Path)} {text : String} {p : Path}
    (h : ∀ e ∈ after, e.2.location ≠ p.location) :
    lastText (before ++ (text, p) :: after) p.location = some text := by
  induction before with
  | nil => simp [lastText, lastText_eq_none_iff.2 h]
  | cons e before ih =>
    obtain ⟨text', p'⟩ := e
    rw [List.cons_append, lastText, ih, Option.some_or]

theorem lastText_of_nodup {pairs : List (String × Path)}
    (h : (pairs.map fun e => e.2.location).Nodup) {e : String × Path} (he : e ∈ pairs) :
    lastText pairs e.2.location = some e.1 := by
  obtain ⟨before, after, rfl⟩ := List.append_of_mem he
  refine lastText_append_cons fun e' he' heq => ?_
  rw [List.map_append, List.map_cons] at h
  have hnot := (List.nodup_cons.1 (List.nodup_append.1 h).2.1).1
  exact hnot (heq ▸ List.mem_map_of_mem he')

/-- What is at a location when these texts have been put there. -/
def written (pairs : List (String × Path)) (now : Time) (l : Location) : Option Node :=
  (lastText pairs l).map fun text => .file text.toUTF8 (.new now)

/-! ### Moving one staged file -/

def moved (t : FileTree) (now : Time) (text : String) (s : Staged) : FileTree :=
  (t.erase s.source).set s.path.location (.file text.toUTF8 (.new now))

/-- The staged files hold the texts, each is a file of its own, and no path leads to one. -/
structure Ready (now : Time) (t : FileTree) (pairs : List (String × Path)) (staged : List Staged) :
    Prop where
  hold : Hold now t pairs staged
  nodup : (staged.map Staged.source).Nodup
  named : ∀ s ∈ staged, s.source ≠ []
  apart : ∀ s ∈ staged, ∀ e ∈ pairs, e.2.location ≠ s.source

theorem AllStaged.ready {now : Time} {new : Location → Prop} {t t' : FileTree}
    {pairs : List (String × Path)} {staged : List Staged}
    (h : AllStaged now (reserved (pairs.map Prod.snd)) new t t' pairs staged) :
    Ready now t' pairs staged := by
  refine ⟨h.hold, h.nodup, h.source_ne_nil, fun s hs e he => ?_⟩
  obtain ⟨name, around, hsource, hlong⟩ := h.named s hs
  rw [hsource]
  exact location_ne_of_reserved_lt (List.mem_map_of_mem he) hlong around

section
variable {now : Time} {t : FileTree} {pairs : List (String × Path)} {staged : List Staged}
  {text : String} {path : Path} {s : Staged}

theorem Ready.path_eq (h : Ready now t ((text, path) :: pairs) (s :: staged)) : s.path = path := by
  cases h.hold with
  | cons hhead _ => exact hhead.1

theorem Ready.get?_source (h : Ready now t ((text, path) :: pairs) (s :: staged)) :
    t.get? s.source = some (.file text.toUTF8 (.new now)) := by
  cases h.hold with
  | cons hhead _ => exact hhead.2

theorem get?_moved (hsource : s.source ≠ []) (hplace : t.HasPlace s.path) (l : Location) :
    (moved t now text s).get? l =
      if l = s.path.location then some (.file text.toUTF8 (.new now))
      else if l = s.source then none else t.get? l := by
  rw [moved, get?_set hplace.location_ne_nil, get?_erase hsource]

theorem Ready.replaceWith_cases (h : Ready now t ((text, path) :: pairs) (s :: staged))
    (faults : Faults) :
    (∃ e, t.replaceWith s.source s.path faults = .error e) ∨
      (t.HasPlace s.path ∧
        t.replaceWith s.source s.path faults = .ok (s.path.location, moved t now text s)) := by
  cases hreplace : t.replaceWith s.source s.path faults with
  | error e => exact Or.inl ⟨e, rfl⟩
  | ok r =>
    obtain ⟨l, t'⟩ := r
    obtain ⟨-, hplace, rfl, n, hn, rfl⟩ := replaceWith_eq_ok_iff.1 hreplace
    obtain rfl := Option.some.inj (h.get?_source.symm.trans hn)
    exact Or.inr ⟨hplace, rfl⟩

theorem Ready.isDirectory_moved (h : Ready now t ((text, path) :: pairs) (s :: staged))
    (hplace : t.HasPlace s.path) (d : Location) :
    t.isDirectory d = (moved t now text s).isDirectory d := by
  have herase := isDirectory_erase (isDirectory_of_file h.get?_source)
  have hnot : (t.erase s.source).isDirectory s.path.location = false := by
    rw [herase]
    exact hplace.2
  rw [moved, isDirectory_set hnot rfl, herase]

theorem Ready.moved (h : Ready now t ((text, path) :: pairs) (s :: staged))
    (hplace : t.HasPlace s.path) : Ready now (moved t now text s) pairs staged := by
  obtain ⟨hnot, hnodup⟩ := List.nodup_cons.1 (List.map_cons ▸ h.nodup)
  obtain ⟨hsource, hnamed⟩ := List.forall_mem_cons.1 h.named
  have hrest : Hold now t pairs staged := by
    cases h.hold with
    | cons _ htail => exact htail
  refine ⟨hrest.congr fun s' hs' => ?_, hnodup, hnamed, fun s' hs' e he =>
    h.apart s' (List.mem_cons_of_mem _ hs') e (List.mem_cons_of_mem _ he)⟩
  have happart : s'.source ≠ s.path.location := by
    rw [h.path_eq]
    exact (h.apart s' (List.mem_cons_of_mem _ hs') _ (List.mem_cons_self ..)).symm
  have hother : s'.source ≠ s.source := fun heq => hnot (heq ▸ List.mem_map_of_mem hs')
  rw [get?_moved hsource hplace, if_neg happart, if_neg hother]

end

/-! ### Taking back what was replaced -/

/-- What was at the places of these paths is gone, except where its removal was refused; nothing else
changed. -/
def Retracted (faults : Faults) (replaced : List Path) (before : Location → Option Node)
    (after : FileTree) : Prop :=
  ∀ l, (after.get? l = before l ∨ l ∈ replaced.map Path.location ∧ after.get? l = none) ∧
    (faults.AllowsRemovals → l ∈ replaced.map Path.location → after.get? l = none)

theorem retracted_retract (faults : Faults) {replaced : List Path} {t : FileTree}
    (h : ∀ p ∈ replaced, t.HasPlace p) :
    Retracted faults replaced t.get? (retract faults replaced t).1 := by
  induction replaced generalizing t with
  | nil => exact fun l => ⟨Or.inl rfl, fun _ hl => absurd hl (List.not_mem_nil)⟩
  | cons p replaced ih =>
    obtain ⟨hp, hrest⟩ := List.forall_mem_cons.1 h
    rw [retract]
    cases hremove : t.removeFile p faults with
    | ok t' =>
      obtain ⟨-, -, rfl⟩ := (removeFile_eq_ok_iff hp).1 hremove
      have hplaces : ∀ q ∈ replaced, (t.erase p.location).HasPlace q := fun q hq =>
        (hrest q hq).of_directories fun d => (isDirectory_erase hp.2 d).symm
      intro l
      obtain ⟨hcases, hgone⟩ := ih hplaces l
      rw [get?_erase hp.location_ne_nil] at hcases
      rw [List.map_cons, List.mem_cons]
      by_cases hl : l = p.location
      · rw [if_pos hl] at hcases
        have hnone := hcases.elim id And.right
        exact ⟨Or.inr ⟨Or.inl hl, hnone⟩, fun _ _ => hnone⟩
      · rw [if_neg hl] at hcases
        exact ⟨hcases.imp_right fun hmem => ⟨Or.inr hmem.1, hmem.2⟩,
          fun hpass hmem => hgone hpass (hmem.resolve_left hl)⟩
    | error e =>
      intro l
      obtain ⟨hcases, hgone⟩ := ih hrest l
      rw [List.map_cons, List.mem_cons]
      refine ⟨hcases.imp_right fun hmem => ⟨Or.inr hmem.1, hmem.2⟩, fun hpass hmem => ?_⟩
      rcases hmem with rfl | hmem
      · -- a removal that is not refused fails only where nothing is
        have hnone : t.get? p.location = none := by
          by_contra hsome
          have hok := (removeFile_eq_ok_iff hp).2
            ⟨hpass t p, Option.ne_none_iff_exists'.1 hsome, rfl⟩
          rw [hremove] at hok
          cases hok
        exact hcases.elim (fun hsame => hsame.trans hnone) And.right
      · exact hgone hpass hmem

/-! ### Moving all staged files -/

section
variable {now : Time} {t : FileTree} {pairs : List (String × Path)} {staged : List Staged}
  {faults : Faults}

theorem Ready.get?_drop_moved {text : String} {path : Path} {s : Staged}
    (h : Ready now t ((text, path) :: pairs) (s :: staged)) (hplace : t.HasPlace path)
    (l : Location) :
    (drop (Staged.moved t now text s) staged).get? l =
      if l = path.location then some (.file text.toUTF8 (.new now))
      else (drop t (s :: staged)).get? l := by
  obtain rfl := h.path_eq
  obtain ⟨hsource, hnamed⟩ := List.forall_mem_cons.1 h.named
  have hstaged : s.path.location ∉ staged.map Staged.source := by
    intro hmem
    obtain ⟨s', hs', heq⟩ := List.mem_map.1 hmem
    exact h.apart s' (List.mem_cons_of_mem _ hs') _ (List.mem_cons_self ..) heq.symm
  rw [get?_drop hnamed, get?_drop h.named, get?_moved hsource hplace, List.map_cons]
  by_cases hl : l = s.path.location
  · rw [if_neg (hl ▸ hstaged), if_pos hl, if_pos hl]
  · rw [if_neg hl, if_neg hl]
    by_cases hs : l = s.source <;> simp [hs]

theorem Ready.exists_cons {s : Staged} (h : Ready now t pairs (s :: staged)) :
    ∃ text rest, pairs = (text, s.path) :: rest := by
  cases hhold : h.hold with
  | @cons e _ rest _ hhead _ => exact ⟨e.1, rest, by rw [hhead.1]⟩

theorem Ready.written_or_drop_moved {text : String} {path : Path} {s : Staged}
    (h : Ready now t ((text, path) :: pairs) (s :: staged)) (hplace : t.HasPlace path)
    (done : List (String × Path)) (l : Location) :
    (written done now l).or ((drop (Staged.moved t now text s) staged).get? l) =
      (written ((text, path) :: done) now l).or ((drop t (s :: staged)).get? l) := by
  rw [h.get?_drop_moved hplace, written, written, lastText]
  cases lastText done l with
  | some later => simp
  | none => by_cases hl : l = path.location <;> simp [hl, eq_comm (a := path.location)]

/-- A move that fails is followed by taking back all moves before it. -/
theorem Ready.replaceAll_error {replaced : List Path} {f : Failure} (h : Ready now t pairs staged)
    (hreplaced : ∀ p ∈ replaced, t.HasPlace p)
    (hfail : (replaceAll faults staged replaced t).result = .error f) :
    ∃ done rest, pairs = done ++ rest ∧ rest ≠ [] ∧ (∀ e ∈ done, t.HasPlace e.2) ∧
      (done ≠ [] → ∃ p, .published p ∈ (replaceAll faults staged replaced t).events) ∧
      Retracted faults (replaced ++ done.map Prod.snd)
        (fun l => (written done now l).or ((drop t staged).get? l))
        (replaceAll faults staged replaced t).tree := by
  -- the induction is on what is still to be moved, and the tree changes with each move; a place for a
  -- file stays one, since no move touches a directory
  induction staged generalizing pairs replaced t with
  | nil => simp [replaceAll, Effect.done] at hfail
  | cons s staged ih =>
    obtain ⟨text, pairs, rfl⟩ := h.exists_cons
    rcases h.replaceWith_cases faults with ⟨e, hreplace⟩ | ⟨hplace, hreplace⟩
    · refine ⟨[], _, rfl, List.cons_ne_nil _ _, List.forall_mem_nil _, by simp, fun l => ?_⟩
      simp only [replaceAll, hreplace, List.map_nil, List.append_nil]
      obtain ⟨hcases, hgone⟩ := retracted_retract faults hreplaced l
      rw [get?_drop h.named, get?_drop h.named]
      split
      · exact ⟨Or.inl rfl, fun _ _ => rfl⟩
      · exact ⟨hcases, hgone⟩
    · simp only [replaceAll, hreplace, Effect.report] at hfail ⊢
      -- the path of this move joins those that the rest takes back
      have hdirs := h.isDirectory_moved hplace
      have hplaces : ∀ p ∈ replaced ++ [s.path], (Staged.moved t now text s).HasPlace p := by
        intro p hp
        refine HasPlace.of_directories hdirs ?_
        rcases List.mem_append.1 hp with hp | hp
        · exact hreplaced p hp
        · rw [List.mem_singleton.1 hp]
          exact hplace
      obtain ⟨done, rest, rfl, hrest, hdone, -, hretracted⟩ := ih (h.moved hplace) hplaces hfail
      refine ⟨(text, s.path) :: done, rest, rfl, hrest, List.forall_mem_cons.2 ⟨hplace, fun e he =>
        (hdone e he).of_directories fun d => (hdirs d).symm⟩,
        fun _ => ⟨s.path, List.mem_cons_self ..⟩, ?_⟩
      rw [List.map_cons, ← List.singleton_append, ← List.append_assoc]
      simpa only [h.written_or_drop_moved hplace] using hretracted

theorem Ready.replaceAll_ok {replaced : List Path} (h : Ready now t pairs staged)
    (hok : (replaceAll faults staged replaced t).result = .ok ()) :
    (∀ e ∈ pairs, t.HasPlace e.2) ∧
      ∀ l, (replaceAll faults staged replaced t).tree.get? l =
        (written pairs now l).or ((drop t staged).get? l) := by
  induction staged generalizing pairs replaced t with
  | nil =>
    obtain rfl : pairs = [] := by
      cases h.hold
      rfl
    exact ⟨by simp, fun l => rfl⟩
  | cons s staged ih =>
    obtain ⟨text, pairs, rfl⟩ := h.exists_cons
    rcases h.replaceWith_cases faults with ⟨e, hreplace⟩ | ⟨hplace, hreplace⟩
    · simp [replaceAll, hreplace] at hok
    · simp only [replaceAll, hreplace, Effect.report] at hok ⊢
      obtain ⟨hplaces, htree⟩ := ih (h.moved hplace) hok
      have hdirs := h.isDirectory_moved hplace
      refine ⟨List.forall_mem_cons.2 ⟨hplace, fun e he =>
        (hplaces e he).of_directories fun d => (hdirs d).symm⟩, fun l => ?_⟩
      rw [htree l, h.written_or_drop_moved hplace]

end

/-! ### Publishing -/

/-- What a failed publication leaves: directories around the paths are new; some of the texts, but not
the last one, were put at the places of their paths, and this was taken back. -/
def Interrupted (now : Time) (faults : Faults) (pairs done : List (String × Path))
    (t after : FileTree) : Prop :=
  ∃ grown rest, Grown (Around (pairs.map Prod.snd)) t grown ∧ pairs = done ++ rest ∧ rest ≠ [] ∧
    (∀ e ∈ done, grown.HasPlace e.2) ∧
    Retracted faults (done.map Prod.snd) (fun l => (written done now l).or (grown.get? l)) after

/-- What a failed publication leaves when no removal is refused: directories around the paths are new,
and nothing is at the places of some of the paths. -/
def RolledBack (paths removed : List Path) (t after : FileTree) : Prop :=
  ∃ grown, Grown (Around paths) t grown ∧ (∀ p ∈ removed, p ∈ paths ∧ grown.HasPlace p) ∧
    ∀ l, after.get? l = if l ∈ removed.map Path.location then none else grown.get? l

/-- What a successful publication leaves: directories around the paths are new, and the texts are at
the places of the paths. -/
def Published (now : Time) (pairs : List (String × Path)) (t after : FileTree) : Prop :=
  ∃ grown, Grown (Around (pairs.map Prod.snd)) t grown ∧ (∀ e ∈ pairs, grown.HasPlace e.2) ∧
    ∀ l, after.get? l = (written pairs now l).or (grown.get? l)

section
variable {now : Time} {faults : Faults} {t after : FileTree} {pairs done : List (String × Path)}
  {paths removed : List Path}

theorem written_eq_none {l : Location} (h : l ∉ (pairs.map Prod.snd).map Path.location) :
    written pairs now l = none := by
  have hnone : lastText pairs l = none := lastText_eq_none_iff.2 fun e he heq =>
    h (heq ▸ List.mem_map_of_mem (List.mem_map_of_mem he))
  rw [written, hnone]
  rfl

/-- Directories stay, and so does every file that is at no place of the paths; no other file is new. -/
structure KeepsOthers (paths : List Path) (t after : FileTree) : Prop where
  directories : KeepsDirectories t after
  files : ∀ l, (∀ p ∈ paths, p.location ≠ l) → ∀ contents a,
    after.get? l = some (.file contents a) ↔ t.get? l = some (.file contents a)
  wellFormed : t.WellFormed → after.WellFormed

/-- Besides directories around the paths, only places of the paths are touched. -/
theorem KeepsOthers.of_grown {grown : FileTree} (touched : List Path)
    (hgrown : Grown (Around paths) t grown) (hplaces : ∀ p ∈ touched, p ∈ paths ∧ grown.HasPlace p)
    (hafter : ∀ l ∉ touched.map Path.location, after.get? l = grown.get? l) :
    KeepsOthers paths t after := by
  have hdirs : KeepsDirectories grown after := by
    intro d a hd
    have hnot : d ∉ touched.map Path.location := by
      intro hmem
      obtain ⟨p, hp, rfl⟩ := List.mem_map.1 hmem
      have hplace := (hplaces p hp).2.2
      rw [isDirectory_iff.2 ⟨a, hd⟩] at hplace
      cases hplace
    rw [hafter d hnot, hd]
  refine ⟨fun d a hd => hdirs d a (hgrown.get?_of_some hd), fun l hl contents a => ?_, fun ht => ?_⟩
  · have hnot : l ∉ touched.map Path.location := by
      intro hmem
      obtain ⟨p, hp, heq⟩ := List.mem_map.1 hmem
      exact hl p (hplaces p hp).1 heq
    rw [hafter l hnot]
    exact hgrown.get?_file_iff
  · refine (hgrown.wellFormed ht).of_directories hdirs.isDirectory fun name l hl => ?_
    by_cases hmem : name :: l ∈ touched.map Path.location
    · -- there was a place for a file, so the directory is there
      right
      obtain ⟨p, hp, hlocation⟩ := List.mem_map.1 hmem
      obtain ⟨-, name', around, -, hname, -, -, hdir, hsame⟩ := (hplaces p hp).2.exists_segments
      obtain ⟨rfl, rfl⟩ := List.cons.inj (hsame.symm.trans hlocation)
      exact ⟨hname, hdirs.isDirectory _ hdir⟩
    · left
      rwa [contains, hafter _ hmem] at hl

theorem Retracted.get?_of_not_mem {grown : FileTree}
    (h : Retracted faults (done.map Prod.snd) (fun l => (written done now l).or (grown.get? l)) after)
    {l : Location} (hl : l ∉ (done.map Prod.snd).map Path.location) :
    after.get? l = grown.get? l := by
  refine ((h l).1.resolve_right fun hmem => hl hmem.1).trans ?_
  dsimp only
  rw [written_eq_none hl, Option.none_or]

theorem Interrupted.keepsOthers (h : Interrupted now faults pairs done t after) :
    KeepsOthers (pairs.map Prod.snd) t after := by
  obtain ⟨grown, rest, hgrown, rfl, -, hplaces, hretracted⟩ := h
  refine .of_grown (done.map Prod.snd) hgrown (fun p hp => ?_) fun l => hretracted.get?_of_not_mem
  obtain ⟨e, he, rfl⟩ := List.mem_map.1 hp
  exact ⟨List.mem_map_of_mem (List.mem_append_left _ he), hplaces e he⟩

theorem Interrupted.rolledBack (h : Interrupted now faults pairs done t after)
    (hremove : faults.AllowsRemovals) :
    RolledBack (pairs.map Prod.snd) (done.map Prod.snd) t after := by
  obtain ⟨grown, rest, hgrown, rfl, -, hplaces, hretracted⟩ := h
  refine ⟨grown, hgrown, fun p hp => ?_, fun l => ?_⟩
  · obtain ⟨e, he, rfl⟩ := List.mem_map.1 hp
    exact ⟨List.mem_map_of_mem (List.mem_append_left _ he), hplaces e he⟩
  · split
    · next hmem => exact (hretracted l).2 hremove hmem
    · next hnot => exact hretracted.get?_of_not_mem hnot

/-- Where no directory comes into being, a place is as it was, or nothing is there, or the removal of
one of the texts was refused. -/
theorem Interrupted.get?_cases (h : Interrupted now faults pairs done t after) {l : Location}
    (hl : ¬Around (pairs.map Prod.snd) l) :
    after.get? l = t.get? l ∨ after.get? l = none ∨
      ¬faults.AllowsRemovals ∧ after.get? l = written done now l ∧
        ∃ e ∈ done, e.2.location = l := by
  obtain ⟨grown, rest, hgrown, rfl, -, -, hretracted⟩ := h
  by_cases hmem : l ∈ (done.map Prod.snd).map Path.location
  · by_cases hremove : faults.AllowsRemovals
    · exact Or.inr (Or.inl ((hretracted l).2 hremove hmem))
    · rcases (hretracted l).1 with hsame | hgone
      · rw [List.map_map] at hmem
        obtain ⟨e, he, hlocation⟩ := List.mem_map.1 hmem
        obtain ⟨text, hlast⟩ : ∃ text, lastText done l = some text :=
          Option.ne_none_iff_exists'.1 fun hnone => lastText_eq_none_iff.1 hnone e he hlocation
        refine Or.inr (Or.inr ⟨hremove, ?_, e, he, hlocation⟩)
        refine hsame.trans ?_
        dsimp only
        rw [written, hlast, Option.map_some, Option.some_or]
      · exact Or.inr (Or.inl hgone.2)
  · left
    rw [hretracted.get?_of_not_mem hmem]
    exact (hgrown.same_or_new l).resolve_right fun hnew => hl hnew.2.1

/-- When no two paths lead to one place, what was put into place is what a successful publication
leaves there, and never the last text. -/
theorem Interrupted.written_eq (h : Interrupted now faults pairs done t after)
    (hnodup : (pairs.map fun e => e.2.location).Nodup) {last : String × Path}
    (hlast : pairs.getLast? = some last) {e : String × Path} (he : e ∈ done) :
    written done now e.2.location = written pairs now e.2.location ∧
      e.2.location ≠ last.2.location := by
  obtain ⟨-, rest, -, rfl, hrest, -⟩ := h
  rw [List.getLast?_append_of_ne_nil _ hrest] at hlast
  have hsame := lastText_of_nodup hnodup (List.mem_append_left rest he)
  rw [List.map_append] at hnodup
  obtain ⟨hdone, -, hapart⟩ := List.nodup_append.1 hnodup
  refine ⟨?_, hapart _ (List.mem_map_of_mem he) _
    (List.mem_map_of_mem (List.mem_of_getLast? hlast))⟩
  rw [written, written, hsame, lastText_of_nodup hdone he]

theorem RolledBack.keepsOthers (h : RolledBack paths removed t after) :
    KeepsOthers paths t after := by
  obtain ⟨grown, hgrown, hplaces, htaken⟩ := h
  exact .of_grown removed hgrown hplaces fun l hl => by rw [htaken, if_neg hl]

theorem Published.isDirectory_eq {grown : FileTree} (hplaces : ∀ e ∈ pairs, grown.HasPlace e.2)
    (hafter : ∀ l, after.get? l = (written pairs now l).or (grown.get? l)) (d : Location) :
    after.isDirectory d = grown.isDirectory d := by
  cases hlast : lastText pairs d with
  | none => exact isDirectory_of_get? (by rw [hafter, written, hlast, Option.map_none, Option.none_or])
  | some text =>
    obtain ⟨before, p, later, rfl, rfl, -⟩ := exists_split_of_lastText hlast
    have hfile : after.get? p.location = some (.file text.toUTF8 (.new now)) := by
      rw [hafter, written, hlast]
      rfl
    rw [isDirectory_of_file hfile, (hplaces (text, p) (by simp)).2]

theorem Published.keepsOthers (h : Published now pairs t after) :
    KeepsOthers (pairs.map Prod.snd) t after := by
  obtain ⟨grown, hgrown, hplaces, hafter⟩ := h
  refine .of_grown (pairs.map Prod.snd) hgrown (fun p hp => ⟨hp, ?_⟩) fun l hl => ?_
  · obtain ⟨e, he, rfl⟩ := List.mem_map.1 hp
    exact hplaces e he
  · rw [hafter, written_eq_none hl, Option.none_or]

theorem Published.hasPlace (h : Published now pairs t after) {e : String × Path} (he : e ∈ pairs) :
    after.HasPlace e.2 := by
  obtain ⟨grown, -, hplaces, hafter⟩ := h
  exact (hplaces e he).of_directories fun d => (Published.isDirectory_eq hplaces hafter d).symm

theorem Published.node_eq_ok (h : Published now pairs t after) {e : String × Path} (he : e ∈ pairs) :
    ∃ text, lastText pairs e.2.location = some text ∧
      after.node e.2 = .ok (.file text.toUTF8 (.new now)) := by
  have hplace := h.hasPlace he
  obtain ⟨grown, -, -, hafter⟩ := h
  cases hlast : lastText pairs e.2.location with
  | none => exact absurd rfl (lastText_eq_none_iff.1 hlast e he)
  | some text =>
    refine ⟨text, rfl, hplace.node_eq_ok ?_⟩
    rw [hafter, written, hlast]
    rfl

end

end DefFragments.Staged

namespace DefFragments.Fragments
open FileTree Staged

theorem map_snd_zip_texts (f : Fragments) {paths : List Path}
    (h : paths.length = FragmentKind.all.length) : (f.texts.zip paths).map Prod.snd = paths :=
  List.map_snd_zip (Nat.le_of_eq (by rw [h, texts, List.length_map]))

section
variable {f : Fragments} {now : Time} {paths : List Path} {t : FileTree} {faults : Faults}

theorem publish_of_length_ne (h : paths.length ≠ FragmentKind.all.length) :
    f.publish now paths t faults =
      .failed t (.ofCause (.outputCount FragmentKind.all.length paths.length)) :=
  if_pos h

/-- Something was put into place only when all texts were staged. -/
theorem publish_eq_error (hlength : paths.length = FragmentKind.all.length) {e : Failure}
    (h : (f.publish now paths t faults).result = .error e) :
    ∃ done, Interrupted now faults (f.texts.zip paths) done t (f.publish now paths t faults).tree ∧
      (done ≠ [] → (∃ p, .published p ∈ (f.publish now paths t faults).events) ∧
        ∃ staged, (writeAll now (reserved paths) faults (f.texts.zip paths) t).1 = .ok staged) := by
  have hpaths := f.map_snd_zip_texts hlength
  have hpairs : f.texts.zip paths ≠ [] := by
    intro hnil
    rw [hnil] at hpaths
    rw [← hpaths] at hlength
    cases hlength
  unfold publish at h ⊢
  rw [if_neg (not_not.2 hlength)] at h ⊢
  rcases writeAll_cases now (reserved paths) faults (f.texts.zip paths) t with
    ⟨f', t', hall, hgrown⟩ | ⟨staged, t', hall, hstaged⟩
  · rw [hall]
    exact ⟨[], ⟨t', _, hgrown, rfl, hpairs, List.forall_mem_nil _, fun l =>
      ⟨Or.inl rfl, fun _ hl => absurd hl List.not_mem_nil⟩⟩, by simp⟩
  · rw [hall] at h ⊢
    have hready : Ready now t' (f.texts.zip paths) staged :=
      AllStaged.ready (by rw [hpaths]; exact hstaged)
    obtain ⟨done, rest, hsplit, hrest, hdone, hevent, hretracted⟩ :=
      hready.replaceAll_error (List.forall_mem_nil _) h
    refine ⟨done, ⟨drop t' staged, rest, hstaged.grown_drop, hsplit, hrest, fun e he => ?_,
      hretracted⟩, fun hne => ⟨hevent hne, staged, rfl⟩⟩
    exact (hdone e he).of_directories fun d => (hstaged.isDirectory_drop d).symm

theorem publish_eq_ok (h : (f.publish now paths t faults).result = .ok ()) :
    paths.length = FragmentKind.all.length ∧
      Published now (f.texts.zip paths) t (f.publish now paths t faults).tree := by
  unfold publish at h ⊢
  split at h
  · cases h
  · next hlength =>
    rw [if_neg hlength]
    have hpaths := f.map_snd_zip_texts (Decidable.of_not_not hlength)
    rcases writeAll_cases now (reserved paths) faults (f.texts.zip paths) t with
      ⟨f', t', hall, -⟩ | ⟨staged, t', hall, hstaged⟩
    · rw [hall] at h
      cases h
    · rw [hall] at h ⊢
      have hready : Ready now t' (f.texts.zip paths) staged :=
        AllStaged.ready (by rw [hpaths]; exact hstaged)
      obtain ⟨hplaces, htree⟩ := hready.replaceAll_ok h
      refine ⟨Decidable.of_not_not hlength, drop t' staged, hstaged.grown_drop, fun e he => ?_,
        htree⟩
      exact (hplaces e he).of_directories fun d => (hstaged.isDirectory_drop d).symm

end

end DefFragments.Fragments
