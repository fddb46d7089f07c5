import DefFragments.Fragment.Publication
import DefFragments.Proofs.FileTree.Changes

/-!
# The directories of outputs

A text is staged in the directory around its path. That directory can be reached as soon as the path
has a place for a file; when it is missing, the directories that come into being lie on the way
there, and without two dots above the place of the path. Staged files have names that no path has.
-/

namespace DefFragments.Staged
open FileTree DefFragments.Path

/-- Where a publication at these paths may create directories. -/
def Around (paths : List Path) (l : Location) : Prop :=
  ∃ p ∈ paths, ∃ q ∈ (dir p).ancestors, l = q.location

theorem names_dir (p : Path) : (dir p).names = p.names.dropLast := by
  have hdot : names ⟨"."⟩ = [] := by decide
  unfold dir
  cases hp : p.parent? with
  | none => rw [names_of_parent?_eq_none hp, hdot, List.dropLast_nil]
  | some q =>
    have hq := names_of_parent? hp
    by_cases hempty : q.text = ""
    · obtain rfl : q = ⟨""⟩ := by cases q; simpa using hempty
      simp only [if_true]
      rw [← hq, hdot, names_empty]
    · simp only [hempty, if_false]
      exact hq

theorem checkPath_dir {p : Path} (h : checkPath p = .ok ()) : checkPath (dir p) = .ok () := by
  unfold dir
  cases hp : p.parent? with
  | none => rfl
  | some q =>
    obtain ⟨tail, htail⟩ := text_prefix_of_parent? hp
    by_cases hempty : q.text = ""
    · simp only [hempty, if_true]
      rfl
    · simp only [hempty, if_false]
      exact checkPath_of_append h htail hempty

theorem namesDirectory_dir {t : FileTree} {p : Path} (h : t.HasPlace p) :
    t.namesDirectory (dir p) = true := by
  obtain ⟨init, name, around, hseg, hname, -, hwalk, hdir, -⟩ := h.exists_segments
  have hnames : (dir p).names = nonIdle init := by
    rw [names_dir, names, hseg, nonIdle, List.filter_append, ← nonIdle, ← nonIdle,
      nonIdle_cons_of_not_isIdle hname.1]
    exact List.dropLast_concat
  have hreach : t.walk (dir p).segments [] = .ok around := by
    rw [← walk_nonIdle hdir, ← names, hnames, walk_nonIdle hdir]
    exact hwalk
  have hlocate := locate_eq_ok_iff.2 ⟨checkPath_dir (target_eq_entry_iff.1 h.1).1, hreach⟩
  have hlocation := location_of_locate hlocate
  rw [hlocation] at hlocate hdir
  exact namesDirectory_iff.2 ⟨hlocate, hdir⟩

theorem isDirectory_of_around {t : FileTree} {paths : List Path} (h : ∀ p ∈ paths, t.HasPlace p)
    {l : Location} (hl : Around paths l) : t.isDirectory l = true := by
  obtain ⟨p, hp, q, hq, rfl⟩ := hl
  obtain ⟨hlocate, hdir⟩ := namesDirectory_iff.1 (namesDirectory_dir (h p hp))
  have hwalk : t.walk (dir p).names [] = .ok (dir p).location :=
    (walk_nonIdle hdir).2 (locate_eq_ok_iff.1 hlocate).2
  obtain ⟨rest, hrest⟩ := names_prefix_of_mem_ancestors hq
  obtain ⟨k, hk, hend⟩ := walk_append_eq_ok_iff.1 (hrest ▸ hwalk)
  rw [location_eq_foldl_names, ← walk_eq_ok_location hk]
  exact isDirectory_of_walk hend hdir

/-- Without two dots, directories come into being only around the place of a path. -/
theorem exists_of_around {paths : List Path} (hup : ∀ p ∈ paths, ".." ∉ p.segments)
    {l : Location} (hl : Around paths l) :
    l = [] ∨ ∃ p ∈ paths, l <:+ p.location ∧ l ≠ p.location := by
  obtain ⟨p, hp, q, hq, rfl⟩ := hl
  have hbegins : q.names <+: p.names.dropLast :=
    names_dir p ▸ names_prefix_of_mem_ancestors hq
  have hp' : ".." ∉ p.names := fun hmem => hup p hp (mem_segments_of_mem_names hmem)
  have hlocation : p.location = p.names.reverse := location_eq_reverse hp'
  have hq' : q.location = q.names.reverse :=
    location_eq_reverse fun hmem => hp' ((hbegins.trans (List.dropLast_prefix _)).subset hmem)
  by_cases hnil : p.names = []
  · left
    rw [hnil, List.dropLast_nil, List.prefix_nil] at hbegins
    rw [hq', hbegins, List.reverse_nil]
  · right
    refine ⟨p, hp, ?_, ?_⟩
    · rw [hq', hlocation, List.reverse_suffix]
      exact hbegins.trans (List.dropLast_prefix _)
    · intro heq
      rw [hq', hlocation, List.reverse_inj] at heq
      have hlen := hbegins.length_le
      rw [heq, List.length_dropLast] at hlen
      have hpos := List.length_pos_iff.2 hnil
      omega

/-! ### Names of staged files -/

theorem length_le_reserved {p : Path} {paths : List Path} (h : p ∈ paths) :
    p.text.length ≤ reserved paths := by
  induction paths with
  | nil => simp at h
  | cons q paths ih =>
    rcases List.mem_cons.1 h with rfl | h
    · exact Nat.le_max_left _ _
    · exact Nat.le_trans (ih h) (Nat.le_max_right _ _)

/-- No path leads to a file whose name is longer than all of them. -/
theorem location_ne_of_reserved_lt {p : Path} {paths : List Path} (h : p ∈ paths) {name : String}
    (hname : reserved paths < name.length) (l : Location) : p.location ≠ name :: l := by
  intro heq
  have hmem : name ∈ p.location := heq ▸ List.mem_cons_self ..
  have hlen := length_le_of_mem_location hmem
  have hreserved := length_le_reserved h
  omega

end DefFragments.Staged
