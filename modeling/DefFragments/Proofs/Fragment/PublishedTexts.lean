import DefFragments.Proofs.Fragment.Publication
import Mathlib.Data.List.Nodup

/-!
# What the paths hold after a publication

Several paths may lead to one location, and then the fragment that is last in the order of
publication stays there. So each path can be read, and gives its own text when no two paths lead to
the same place. Elsewhere nothing is new but directories on the way to the paths, and every file is
what it was.
-/

namespace DefFragments
open FileTree

namespace Staged

section
variable {now : Time} {t after : FileTree} {pairs : List (String × Path)} {l : Location}

theorem Published.locate_eq_ok (h : Published now pairs t after) :
    ∀ p ∈ pairs.map Prod.snd, after.locate p = .ok p.location := by
  intro p hp
  obtain ⟨e, he, rfl⟩ := List.mem_map.1 hp
  obtain ⟨text, -, hnode⟩ := h.node_eq_ok he
  exact (node_eq_ok_iff.1 hnode).1

/-- A location to which no path leads holds what it held, or a new directory on a path's way. -/
theorem Published.get?_of_unlocated (h : Published now pairs t after)
    (hl : ∀ p ∈ pairs.map Prod.snd, after.locate p ≠ .ok l) :
    after.get? l = t.get? l ∨
      (t.get? l = none ∧ Around (pairs.map Prod.snd) l ∧
        ∃ m, after.get? l = some (.directory m)) := by
  have hlocate := h.locate_eq_ok
  have hnone : lastText pairs l = none := by
    refine lastText_eq_none_iff.2 fun e he heq => ?_
    have hmem : e.2 ∈ pairs.map Prod.snd := List.mem_map_of_mem he
    exact hl e.2 hmem (heq ▸ hlocate e.2 hmem)
  obtain ⟨grown, hgrown, -, hafter⟩ := h
  rw [hafter, written, hnone, Option.map_none, Option.none_or]
  exact hgrown.same_or_new l

end

end Staged

namespace Fragments
open Staged

/-- Of the kinds whose paths lead to this location, this one is the last in the order of
publication. -/
def LastAt (t : FileTree) (paths : List Path) (l : Location) (kind : FragmentKind) : Prop :=
  ∃ before p after, FragmentKind.all.zip paths = before ++ (kind, p) :: after ∧
    t.locate p = .ok l ∧ ∀ e ∈ after, t.locate e.2 ≠ .ok l

theorem zip_texts (f : Fragments) (paths : List Path) :
    f.texts.zip paths = (FragmentKind.all.zip paths).map fun e => (f.text e.1, e.2) :=
  List.zip_map_left

section
variable {f : Fragments} {paths : List Path} {t : FileTree}

theorem LastAt.exists_mem {l : Location} {kind : FragmentKind} (h : LastAt t paths l kind) :
    ∃ p, (kind, p) ∈ FragmentKind.all.zip paths ∧ t.locate p = .ok l := by
  obtain ⟨before, p, after, hall, hp, -⟩ := h
  refine ⟨p, ?_, hp⟩
  rw [hall]
  exact List.mem_append_right _ (List.mem_cons_self ..)

/-- When no two paths lead to one place, each kind is the last one at its own. -/
theorem LastAt.eq_of_nodup (hlength : paths.length = FragmentKind.all.length)
    (hnodup : (paths.map t.locate).Nodup) {e : FragmentKind × Path}
    (he : e ∈ FragmentKind.all.zip paths) {l : Location} (hl : t.locate e.2 = .ok l)
    {kind : FragmentKind} (h : LastAt t paths l kind) : kind = e.1 := by
  obtain ⟨p, hmem, hp⟩ := h.exists_mem
  have hpaths : paths = (FragmentKind.all.zip paths).map Prod.snd :=
    (List.map_snd_zip (Nat.le_of_eq hlength)).symm
  rw [hpaths, List.map_map] at hnodup
  exact congrArg Prod.fst (List.inj_on_of_nodup_map hnodup hmem he (hp.trans hl.symm))

theorem exists_lastAt_of_lastText {l : Location} {text : String}
    (hlocate : ∀ p ∈ paths, t.locate p = .ok p.location)
    (h : lastText (f.texts.zip paths) l = some text) :
    ∃ kind, LastAt t paths l kind ∧ text = f.text kind := by
  obtain ⟨before, p, after, hsplit, hp, hafter⟩ := exists_split_of_lastText h
  rw [zip_texts] at hsplit
  obtain ⟨kinds, rest, hall, rfl, hrest⟩ := List.map_eq_append_iff.1 hsplit
  obtain ⟨⟨kind, q⟩, kinds', rfl, hhead, rfl⟩ := List.map_eq_cons_iff.1 hrest
  obtain ⟨rfl, rfl⟩ := Prod.mk.inj hhead
  have hq : q ∈ paths := by
    have hmem : (kind, q) ∈ FragmentKind.all.zip paths := by
      rw [hall]
      exact List.mem_append_right _ (List.mem_cons_self ..)
    exact (List.of_mem_zip hmem).2
  refine ⟨kind, ⟨kinds, q, kinds', hall, hp ▸ hlocate q hq, fun e he heq => ?_⟩, rfl⟩
  exact hafter _ (List.mem_map_of_mem he) (location_of_locate heq).symm

end

/-- With another number of paths than of fragments nothing is published. A publication that succeeds
leaves behind every path the text of the last fragment that went there, its own text when no two
paths lead to one place, and the directory around each path is there. Elsewhere everything is as it
was, but for new directories on the way to the paths. -/
theorem publish_leaves_last_texts (f : Fragments) (now : Time) (paths : List Path) (t : FileTree)
    (faults : Faults) :
    let done := f.publish now paths t faults
    (paths.length ≠ FragmentKind.all.length →
        done.tree = t ∧
          done.result = .error (.ofCause (.outputCount FragmentKind.all.length paths.length))) ∧
      (done.result = .ok () →
        (∀ p ∈ paths, ∃ l kind, done.tree.locate p = .ok l ∧ LastAt done.tree paths l kind ∧
          done.tree.read p = .ok (f.text kind).toUTF8) ∧
        ((paths.map done.tree.locate).Nodup → ∀ e ∈ FragmentKind.all.zip paths,
          done.tree.read e.2 = .ok (f.text e.1).toUTF8) ∧
        (∀ p ∈ paths, done.tree.namesDirectory (dir p) = true) ∧
        (∀ l, (∀ p ∈ paths, done.tree.locate p ≠ .ok l) →
          done.tree.get? l = t.get? l ∨
            (t.get? l = none ∧ Around paths l ∧ ∃ m, done.tree.get? l = some (.directory m)))) := by
  intro done
  refine ⟨fun hlength => ?_, fun hok => ?_⟩
  · have hfailed : done = .failed t
        (.ofCause (.outputCount FragmentKind.all.length paths.length)) :=
      publish_of_length_ne hlength
    rw [hfailed]
    exact ⟨rfl, rfl⟩
  · obtain ⟨hlength, hpublished⟩ := publish_eq_ok hok
    have hpaths := f.map_snd_zip_texts hlength
    have hlocate := hpublished.locate_eq_ok
    have hother := fun l => hpublished.get?_of_unlocated (l := l)
    rw [hpaths] at hlocate hother
    have hpair : ∀ p ∈ paths, ∃ e ∈ f.texts.zip paths, e.2 = p := by
      intro p hp
      rw [← hpaths] at hp
      exact List.mem_map.1 hp
    have hread : ∀ p ∈ paths, ∃ kind, LastAt done.tree paths p.location kind ∧
        done.tree.read p = .ok (f.text kind).toUTF8 := by
      intro p hp
      obtain ⟨e, he, rfl⟩ := hpair p hp
      obtain ⟨text, hlast, hnode⟩ := hpublished.node_eq_ok he
      obtain ⟨kind, hkind, rfl⟩ := exists_lastAt_of_lastText hlocate hlast
      exact ⟨kind, hkind, read_eq_ok_iff.2 ⟨.new now, hnode, rfl⟩⟩
    refine ⟨fun p hp => ?_, fun hnodup e he => ?_, fun p hp => ?_, hother⟩
    · obtain ⟨kind, hkind, htext⟩ := hread p hp
      exact ⟨p.location, kind, hlocate p hp, hkind, htext⟩
    · have hp : e.2 ∈ paths := (List.of_mem_zip he).2
      obtain ⟨kind, hkind, htext⟩ := hread e.2 hp
      rw [← hkind.eq_of_nodup hlength hnodup he (hlocate e.2 hp)]
      exact htext
    · obtain ⟨e, he, rfl⟩ := hpair p hp
      exact namesDirectory_dir (hpublished.hasPlace he)

/-- Three of these paths lead to one place, one of them through a directory that is missing. -/
def crossedPaths : List Path :=
  [⟨"gen/all.def"⟩, ⟨"gen/new/../all.def"⟩, ⟨"methods.def"⟩, ⟨"./gen//all.def"⟩, ⟨"libs.def"⟩]

def crossedFragments : Fragments :=
  ((start {} "now").addSource "a.c").addEntries
    [⟨.objectType "Kqueue" "KqueueObject", ""⟩, ⟨.library "kvm", ""⟩]

def crossedTree : FileTree :=
  FileTree.empty.set ["keep.c"] (.file "int a;\n".toUTF8 (.new (.ofSeconds 5 0)))

theorem publish_leaves_last_texts_of_crossed :
    let done := crossedFragments.publish (.ofSeconds 9 0) crossedPaths crossedTree
    done.result = .ok () ∧
      (∃ l kind, done.tree.locate ⟨"gen/new/../all.def"⟩ = .ok l ∧
        LastAt done.tree crossedPaths l kind ∧
        done.tree.read ⟨"gen/new/../all.def"⟩ = .ok (crossedFragments.text kind).toUTF8) ∧
      done.tree.namesDirectory ⟨"gen/new/.."⟩ = true ∧
      done.tree.get? ["keep.c"] = some (.file "int a;\n".toUTF8 (.new (.ofSeconds 5 0))) ∧
      (crossedFragments.publish (.ofSeconds 9 0) [⟨"one.def"⟩] crossedTree).tree = crossedTree := by
  intro done
  have hok : done.result = .ok () := by decide +kernel
  obtain ⟨hreads, -, hdirs, hothers⟩ :=
    (publish_leaves_last_texts crossedFragments (.ofSeconds 9 0) crossedPaths crossedTree .none).2 hok
  have hmem : ⟨"gen/new/../all.def"⟩ ∈ crossedPaths := by decide
  have helsewhere : ∀ p ∈ crossedPaths, done.tree.locate p ≠ .ok ["keep.c"] := by decide +kernel
  refine ⟨hok, hreads _ hmem, hdirs _ hmem, ?_, ?_⟩
  · rcases hothers _ helsewhere with hsame | ⟨hnone, -⟩
    · rw [hsame]
      rfl
    · exact absurd hnone (by decide +kernel)
  · exact ((publish_leaves_last_texts crossedFragments (.ofSeconds 9 0) [⟨"one.def"⟩]
      crossedTree .none).1 (by decide)).1

example : (crossedFragments.publish (.ofSeconds 9 0) crossedPaths crossedTree).tree.read
    ⟨"gen/new/../all.def"⟩ =
      .ok "/* Generated on now */\nINITTYPE(Kqueue, KqueueObject)\n".toUTF8 := by
  decide +kernel

end Fragments

end DefFragments
