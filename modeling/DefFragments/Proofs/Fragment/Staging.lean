import DefFragments.Proofs.Fragment.OutputDirectory
import Mathlib.Data.List.Forall2

/-!
# Staging

Every text is staged in a file of its own that was not there before, and apart from these files
nothing is new but directories around the paths. When one text cannot be staged, whichever step is
refused, no staged file stays, the half-written one neither. Staging succeeds as soon as every path has
a place for a file and nothing is refused.
-/

namespace DefFragments.Staged
open FileTree DefFragments.Path

/-- The staged files hold these texts for these paths. -/
def Hold (now : Time) (t : FileTree) (pairs : List (String × Path)) (staged : List Staged) : Prop :=
  List.Forall₂ (fun e s => s.path = e.2 ∧
    t.get? s.source = some (.file e.1.toUTF8 (.new now))) pairs staged

theorem Hold.congr {now : Time} {t t' : FileTree} {pairs : List (String × Path)}
    {staged : List Staged} (h : Hold now t pairs staged)
    (heq : ∀ s ∈ staged, t'.get? s.source = t.get? s.source) : Hold now t' pairs staged := by
  induction h with
  | nil => exact .nil
  | cons hhead _ ih =>
    refine .cons ⟨hhead.1, ?_⟩ (ih fun s hs => heq s (List.mem_cons_of_mem _ hs))
    rw [heq _ (List.mem_cons_self ..)]
    exact hhead.2

theorem Hold.isDirectory {now : Time} {t : FileTree} {pairs : List (String × Path)}
    {staged : List Staged} (h : Hold now t pairs staged) :
    ∀ s ∈ staged, t.isDirectory s.source = false := by
  induction h with
  | nil => simp
  | cons hhead _ ih => exact List.forall_mem_cons.2 ⟨isDirectory_of_file hhead.2, ih⟩

/-- All texts are staged: each in a file of its own that was not there, and nothing else changed but
for new directories. -/
structure AllStaged (now : Time) (length : Nat) (new : Location → Prop) (t t' : FileTree)
    (pairs : List (String × Path)) (staged : List Staged) : Prop where
  hold : Hold now t' pairs staged
  nodup : (staged.map Staged.source).Nodup
  named : ∀ s ∈ staged, ∃ name around, s.source = name :: around ∧ length < name.length
  absent : ∀ s ∈ staged, t.get? s.source = none
  others : ∀ l ∉ staged.map Staged.source, t'.get? l = t.get? l ∨
    (t.get? l = none ∧ new l ∧ ∃ m, t'.get? l = some (.directory m))
  wellFormed : t.WellFormed → t'.WellFormed

theorem grown_erase {new : Location → Prop} {u t' : FileTree} {source : Location} {n : Node}
    (hsource : source ≠ []) (hfresh : u.get? source = none) (hn : n.isDirectory = false)
    (hwell : u.WellFormed → (u.set source n).WellFormed) (h : Grown new (u.set source n) t') :
    Grown new u (t'.erase source) := by
  have hself : t'.get? source = some n := h.get?_of_some (get?_set_self u n hsource)
  have hfile : t'.isDirectory source = false := by
    rw [FileTree.isDirectory, hself]
    exact hn
  refine ⟨fun l => ?_, fun hu => (h.wellFormed (hwell hu)).erase hfile⟩
  by_cases hl : l = source
  · rw [hl, get?_erase_self t' hsource, hfresh]
    exact Or.inl rfl
  · rw [get?_erase_ne t' hl, ← get?_set_ne u n hl]
    exact h.same_or_new l

theorem wellFormed_set_freshName {u : FileTree} (length : Nat) {path : Path}
    (hdir : u.namesDirectory (dir path) = true) (n : Node) (hu : u.WellFormed) :
    (u.set (u.freshName length :: (dir path).location) n).WellFormed := by
  refine hu.set (u.isName_freshName length) (namesDirectory_iff.1 hdir).2 ?_ n
  rw [FileTree.isDirectory, u.get?_freshName]

/-- What staging a text does: either nothing is new but directories around its path, or after these
the text is in a new file. -/
theorem write_cases (t : FileTree) (now : Time) (length : Nat) (faults : Faults) (text : String)
    (path : Path) :
    (∃ f t', write t now length faults text path = (.error f, t') ∧
      Grown (fun l => ∃ q ∈ (dir path).ancestors, l = q.location) t t') ∨
    ∃ u, Grown (fun l => ∃ q ∈ (dir path).ancestors, l = q.location) t u ∧
      u.namesDirectory (dir path) = true ∧
      write t now length faults text path =
        (.ok ⟨u.freshName length :: (dir path).location, path⟩,
          u.set (u.freshName length :: (dir path).location) (.file text.toUTF8 (.new now))) := by
  have hgrown := grown_createDirectories t now (dir path) faults
  unfold write
  rcases hdirs : t.createDirectories now (dir path) faults with ⟨e | ok, u⟩
  · rw [hdirs] at hgrown
    exact Or.inl ⟨_, u, rfl, hgrown⟩
  · rw [hdirs] at hgrown
    dsimp only
    cases hcreate : u.createFile now length (dir path) faults with
    | error e => exact Or.inl ⟨_, u, rfl, hgrown⟩
    | ok created =>
      obtain ⟨source, t₁⟩ := created
      obtain ⟨hdir, rfl, rfl⟩ := createFile_eq_ok hcreate
      -- the new file is dropped again, whatever has been written to it
      have hdropped : ∀ contents, Grown (fun l => ∃ q ∈ (dir path).ancestors, l = q.location) t
          ((u.set (u.freshName length :: (dir path).location)
            (.file contents (.new now))).erase (u.freshName length :: (dir path).location)) :=
        fun contents => hgrown.trans (grown_erase (List.cons_ne_nil _ _) (u.get?_freshName ..) rfl
          (wellFormed_set_freshName length hdir _) (Grown.refl _ _))
      dsimp only
      rcases fill_cases (u.set (u.freshName length :: (dir path).location) (.file .empty (.new now)))
          now (u.freshName length :: (dir path).location) text.toUTF8 path faults with
        hfill | ⟨e, part, hfill⟩
      · rw [hfill, set_set]
        dsimp only
        split
        · exact Or.inl ⟨_, _, rfl, hdropped _⟩
        · exact Or.inr ⟨u, hgrown, hdir, rfl⟩
      · rw [hfill, set_set]
        exact Or.inl ⟨_, _, rfl, hdropped _⟩

theorem AllStaged.of_grown {now : Time} {length : Nat} {new : Location → Prop} {t u t' : FileTree}
    {pairs : List (String × Path)} {staged : List Staged} (hgrown : Grown new t u)
    (h : AllStaged now length new u t' pairs staged) :
    AllStaged now length new t t' pairs staged := by
  refine ⟨h.hold, h.nodup, h.named, fun s hs => hgrown.none_of_none (h.absent s hs),
    fun l hl => ?_, fun ht => h.wellFormed (hgrown.wellFormed ht)⟩
  rcases h.others l hl with hu | ⟨hu, hnew, hm⟩
  · rw [hu]
    exact hgrown.same_or_new l
  · exact Or.inr ⟨hgrown.none_of_none hu, hnew, hm⟩

theorem AllStaged.cons {now : Time} {length : Nat} {new : Location → Prop} {u t' : FileTree}
    {pairs : List (String × Path)} {staged : List Staged} {text : String} {s : Staged}
    (hnamed : ∃ name around, s.source = name :: around ∧ length < name.length)
    (hfresh : u.get? s.source = none)
    (hwell : u.WellFormed → (u.set s.source (.file text.toUTF8 (.new now))).WellFormed)
    (h : AllStaged now length new (u.set s.source (.file text.toUTF8 (.new now))) t' pairs staged) :
    AllStaged now length new u t' ((text, s.path) :: pairs) (s :: staged) := by
  have hne : s.source ≠ [] := by
    obtain ⟨name, around, hs, -⟩ := hnamed
    rw [hs]
    exact List.cons_ne_nil _ _
  have hself := get?_set_self u (.file text.toUTF8 (.new now)) hne
  -- the rest is staged where nothing was, so not where the first text is
  have hnot : s.source ∉ staged.map Staged.source := by
    intro hmem
    obtain ⟨s', hs', heq⟩ := List.mem_map.1 hmem
    have hnone := h.absent s' hs'
    rw [heq, hself] at hnone
    cases hnone
  have hkept : t'.get? s.source = some (.file text.toUTF8 (.new now)) := by
    rcases h.others _ hnot with hl | ⟨hl, -, -⟩
    · rw [hl, hself]
    · rw [hself] at hl
      cases hl
  refine ⟨.cons ⟨rfl, hkept⟩ h.hold, List.nodup_cons.2 ⟨hnot, h.nodup⟩,
    List.forall_mem_cons.2 ⟨hnamed, h.named⟩, List.forall_mem_cons.2 ⟨hfresh, fun s' hs' => ?_⟩,
    fun l hl => ?_, fun hu => h.wellFormed (hwell hu)⟩
  · have hs'ne : s'.source ≠ s.source := fun heq => hnot (heq ▸ List.mem_map_of_mem hs')
    rw [← get?_set_ne u (.file text.toUTF8 (.new now)) hs'ne]
    exact h.absent s' hs'
  · rw [List.map_cons, List.mem_cons, not_or] at hl
    rw [← get?_set_ne u (.file text.toUTF8 (.new now)) hl.1]
    exact h.others l hl.2

/-! ### Staging all texts -/

section
variable {now : Time} {length : Nat} {faults : Faults} {text : String} {path : Path}
  {rest : List (String × Path)} {t u t' : FileTree} {f : Failure} {s : Staged}

theorem writeAll_of_write_error (h : write t now length faults text path = (.error f, t')) :
    writeAll now length faults ((text, path) :: rest) t = (.error f, t') := by
  unfold writeAll
  rw [h]

theorem writeAll_of_error (h : write t now length faults text path = (.ok s, u))
    (hrest : writeAll now length faults rest u = (.error f, t')) :
    writeAll now length faults ((text, path) :: rest) t = (.error f, t'.erase s.source) := by
  unfold writeAll
  rw [h]
  dsimp only
  rw [hrest]

theorem writeAll_of_ok {staged : List Staged}
    (h : write t now length faults text path = (.ok s, u))
    (hrest : writeAll now length faults rest u = (.ok staged, t')) :
    writeAll now length faults ((text, path) :: rest) t = (.ok (s :: staged), t') := by
  unfold writeAll
  rw [h]
  dsimp only
  rw [hrest]

end

/-- Staging adds the staged files, or nothing but directories when it fails. -/
theorem writeAll_cases (now : Time) (length : Nat) (faults : Faults) (pairs : List (String × Path))
    (t : FileTree) :
    (∃ f t', writeAll now length faults pairs t = (.error f, t') ∧
      Grown (Around (pairs.map Prod.snd)) t t') ∨
    ∃ staged t', writeAll now length faults pairs t = (.ok staged, t') ∧
      AllStaged now length (Around (pairs.map Prod.snd)) t t' pairs staged := by
  induction pairs generalizing t with
  | nil =>
    exact Or.inr ⟨[], t, rfl, .nil, List.nodup_nil, by simp, by simp, fun l _ => Or.inl rfl, id⟩
  | cons e pairs ih =>
    obtain ⟨text, path⟩ := e
    have hhere : ∀ l, (∃ q ∈ (dir path).ancestors, l = q.location) →
        Around (path :: pairs.map Prod.snd) l :=
      fun l hl => ⟨path, List.mem_cons_self .., hl⟩
    have hrest : ∀ l, Around (pairs.map Prod.snd) l → Around (path :: pairs.map Prod.snd) l :=
      fun l ⟨p, hp, hl⟩ => ⟨p, List.mem_cons_of_mem _ hp, hl⟩
    rw [List.map_cons]
    rcases write_cases t now length faults text path with
      ⟨f, t₁, hwrite, hgrown⟩ | ⟨u, hgrown, hdir, hwrite⟩
    · exact Or.inl ⟨f, t₁, writeAll_of_write_error hwrite, hgrown.mono hhere⟩
    · have hfresh := u.get?_freshName length (dir path).location
      have hwell := wellFormed_set_freshName length hdir
      have hlength : length < (u.freshName length).length := by
        rw [length_freshName]
        omega
      rcases ih (u.set (u.freshName length :: (dir path).location)
          (.file text.toUTF8 (.new now))) with
        ⟨f, t₂, hall, hgrown₂⟩ | ⟨staged, t₂, hall, hstaged⟩
      · -- the text that was staged first is taken back when the rest cannot be staged
        refine Or.inl ⟨f, _, writeAll_of_error hwrite hall, ?_⟩
        exact (hgrown.mono hhere).trans (grown_erase (List.cons_ne_nil _ _) hfresh rfl (hwell _)
          (hgrown₂.mono hrest))
      · refine Or.inr ⟨_, t₂, writeAll_of_ok hwrite hall, ?_⟩
        have hmono : AllStaged now length (Around (path :: pairs.map Prod.snd)) _ t₂ pairs staged :=
          ⟨hstaged.hold, hstaged.nodup, hstaged.named, hstaged.absent, fun l hl =>
            (hstaged.others l hl).imp_right fun hnew => ⟨hnew.1, hrest l hnew.2.1, hnew.2.2⟩,
            hstaged.wellFormed⟩
        exact (AllStaged.cons (s := ⟨u.freshName length :: (dir path).location, path⟩)
          ⟨_, _, rfl, hlength⟩ hfresh (hwell _) hmono).of_grown (hgrown.mono hhere)

theorem get?_drop {staged : List Staged} (h : ∀ s ∈ staged, s.source ≠ []) (t : FileTree)
    (l : Location) :
    (drop t staged).get? l = if l ∈ staged.map Staged.source then none else t.get? l := by
  induction staged generalizing t with
  | nil => simp [drop]
  | cons s staged ih =>
    obtain ⟨hs, hrest⟩ := List.forall_mem_cons.1 h
    have hstep : drop t (s :: staged) = drop (t.erase s.source) staged := rfl
    rw [hstep, ih hrest, get?_erase hs, List.map_cons]
    by_cases hl : l = s.source <;> simp [hl]

theorem AllStaged.source_ne_nil {now : Time} {length : Nat} {new : Location → Prop}
    {t t' : FileTree} {pairs : List (String × Path)} {staged : List Staged}
    (h : AllStaged now length new t t' pairs staged) : ∀ s ∈ staged, s.source ≠ [] := by
  intro s hs
  obtain ⟨name, around, hsource, -⟩ := h.named s hs
  rw [hsource]
  exact List.cons_ne_nil _ _

theorem AllStaged.isDirectory_drop {now : Time} {length : Nat} {new : Location → Prop}
    {t t' : FileTree} {pairs : List (String × Path)} {staged : List Staged}
    (h : AllStaged now length new t t' pairs staged) (d : Location) :
    (drop t' staged).isDirectory d = t'.isDirectory d := by
  have hget := get?_drop h.source_ne_nil t' d
  by_cases hd : d ∈ staged.map Staged.source
  · obtain ⟨s, hs, rfl⟩ := List.mem_map.1 hd
    rw [h.hold.isDirectory s hs, FileTree.isDirectory, hget, if_pos hd]
  · rw [if_neg hd] at hget
    exact isDirectory_of_get? hget

theorem AllStaged.grown_drop {now : Time} {length : Nat} {new : Location → Prop}
    {t t' : FileTree} {pairs : List (String × Path)} {staged : List Staged}
    (h : AllStaged now length new t t' pairs staged) : Grown new t (drop t' staged) := by
  have hget := get?_drop h.source_ne_nil t'
  refine ⟨fun l => ?_, fun ht => ?_⟩
  · rw [hget]
    by_cases hl : l ∈ staged.map Staged.source
    · obtain ⟨s, hs, rfl⟩ := List.mem_map.1 hl
      rw [if_pos hl, h.absent s hs]
      exact Or.inl rfl
    · rw [if_neg hl]
      exact h.others l hl
  · refine (h.wellFormed ht).of_directories (fun d hd => ?_) fun name l hl => Or.inl ?_
    · rw [h.isDirectory_drop]
      exact hd
    · rw [contains, hget] at hl
      by_cases hmem : name :: l ∈ staged.map Staged.source
      · rw [if_pos hmem] at hl
        cases hl
      · rwa [if_neg hmem] at hl

end DefFragments.Staged
