import DefFragments.Proofs.Generation.Draft

/-!
# What a failed run leaves behind

A failed generation leaves new directories around the outputs and misses the outputs that it had
replaced before it failed. It leaves no file that was not there before, so whatever it leaves at an
output was there. An output that had been replaced is missing, so the next run sees that the
fragments are stale.
-/

namespace DefFragments
open FileTree Staged

section
variable {paths removed : List Path} {t after : FileTree} {l : Location} {n : Node} {p : Path}

theorem Staged.RolledBack.get?_of_file (h : RolledBack paths removed t after)
    {contents : ByteArray} {a : Attributes} (hfile : after.get? l = some (.file contents a)) :
    t.get? l = some (.file contents a) := by
  obtain ⟨grown, hgrown, -, htaken⟩ := h
  rw [htaken] at hfile
  split at hfile
  · cases hfile
  · exact hgrown.get?_of_file hfile

def IsBeneath (q p : Path) : Prop :=
  p.location <:+ q.location ∧ p.location ≠ q.location

instance (q p : Path) : Decidable (IsBeneath q p) :=
  inferInstanceAs (Decidable (_ ∧ _))

/-- What a path names after a failed publication it named before, unless new directories came into
being there. -/
theorem Staged.RolledBack.node_of_node (h : RolledBack paths removed t after) (ht : t.WellFormed)
    (hup : ∀ p ∈ paths, ".." ∉ p.segments) (hp : p ∈ paths)
    (hapart : ∀ q ∈ paths, ¬IsBeneath q p) (hn : after.node p = .ok n) : t.node p = .ok n := by
  refine ht.node_of_node (h.keepsOthers.wellFormed ht) (hup p hp) hn ?_
  obtain ⟨grown, hgrown, -, htaken⟩ := h
  have hget := (node_eq_ok_iff.1 hn).2
  rw [htaken] at hget
  split at hget
  · cases hget
  · rcases hgrown.same_or_new p.location with hsame | ⟨hnone, haround, -⟩
    · rw [← hsame, hget]
    · -- a directory that is new here lies on the way to another output
      exfalso
      rcases exists_of_around hup haround with hnil | ⟨q, hq, hbeneath⟩
      · rw [hnil, get?_nil] at hnone
        cases hnone
      · exact hapart q hq hbeneath

end

section
variable {c : Config} {base : Path} {o : Options} {now : Time} {t : FileTree} {faults : Faults}

/-! ### Generations -/

/-- A generation cannot collect the fragments, or it cannot stage all of them. -/
def FailsBeforeReplacing (c : Config) (base : Path) (o : Options) (now : Time) (t : FileTree)
    (faults : Faults) : Prop :=
  (∃ e, draft c base o t = .error e) ∨
    ∃ d e, draft c base o t = .ok d ∧
      (writeAll now (reserved (c.outputPaths base o.outputDir?)) faults
        (d.fragments.texts.zip (c.outputPaths base o.outputDir?)) t).1 = .error e

/-- A generation that fails changes nothing, or its publication is interrupted. Something was put into
place only when all fragments were collected and staged. -/
theorem generate_eq_error {f : Failure} (h : (generate c base o now t faults).result = .error f) :
    (generate c base o now t faults).tree = t ∨ ∃ d done, draft c base o t = .ok d ∧
      Interrupted now faults (d.fragments.texts.zip (c.outputPaths base o.outputDir?)) done t
        (generate c base o now t faults).tree ∧
      (done ≠ [] → (∃ p, .published p ∈ (generate c base o now t faults).events) ∧
        ¬FailsBeforeReplacing c base o now t faults) := by
  cases hd : draft c base o t with
  | error e =>
    left
    rw [generate_of_draft_error hd]
  | ok d =>
    right
    obtain ⟨htree, hevents, hresult⟩ := generate_of_draft hd
    obtain ⟨done, hinterrupted, hmoved⟩ := Fragments.publish_eq_error rfl ((hresult f).1 h)
    rw [htree]
    refine ⟨d, done, rfl, hinterrupted, fun hne => ?_⟩
    obtain ⟨⟨p, hp⟩, staged, hstaged⟩ := hmoved hne
    refine ⟨⟨p, hevents _ hp⟩, ?_⟩
    rintro (⟨e, he⟩ | ⟨d', e, hd', he⟩)
    · rw [hd] at he
      cases he
    · obtain rfl := Except.ok.inj (hd.symm.trans hd')
      rw [hstaged] at he
      cases he

theorem rolledBack_of_generate (hremove : faults.AllowsRemovals) {f : Failure}
    (h : (generate c base o now t faults).result = .error f) :
    ∃ removed, RolledBack (c.outputPaths base o.outputDir?) removed t
        (generate c base o now t faults).tree ∧
      (removed ≠ [] → (∃ p, .published p ∈ (generate c base o now t faults).events) ∧
        ¬FailsBeforeReplacing c base o now t faults) := by
  rcases generate_eq_error h with htree | ⟨d, done, -, hinterrupted, hmoved⟩
  · rw [htree]
    exact ⟨[], ⟨t, Grown.refl _ t, by simp, fun l => by simp⟩, by simp⟩
  · have hrolled := hinterrupted.rolledBack hremove
    rw [map_snd_texts_zip_outputPaths] at hrolled
    exact ⟨_, hrolled, fun hne => hmoved fun hnil => hne (by rw [hnil]; rfl)⟩

/-- The disk is full after ten bytes of the object types. -/
def fullDisk : Faults where
  write := fun _ p =>
    if p = ⟨"./src/.types.def"⟩ then some (10, .other "No space left on device (os error 28)")
    else none

/-- No file can be moved to where the constants go. -/
def lockedConstants : Faults where
  rename := fun _ p => if p = ⟨"./src/.const.def"⟩ then some .permissionDenied else none

/-- Where all paths still name something, nothing was taken away. -/
theorem Staged.RolledBack.get?_of_some {paths removed : List Path} {after : FileTree}
    (h : RolledBack paths removed t after) (hnodes : ∀ p ∈ paths, ∃ n, after.node p = .ok n)
    {l : Location} {n : Node} (hget : t.get? l = some n) : after.get? l = some n := by
  obtain ⟨grown, hgrown, hplaces, htaken⟩ := h
  rw [htaken l]
  split
  · next hmem =>
    obtain ⟨p, hp, rfl⟩ := List.mem_map.1 hmem
    obtain ⟨n', hn'⟩ := hnodes p (hplaces p hp).1
    have habsent := (node_eq_ok_iff.1 hn').2
    rw [htaken, if_pos hmem] at habsent
    cases habsent
  · exact hgrown.get?_of_some hget

/-- When a failed generation leaves current outputs, they were current before, and the same. -/
theorem isCurrent_of_rolledBack {after : FileTree} {paths removed inputs inputs' : List Path}
    (ht : t.WellFormed) (hrolled : RolledBack paths removed t after)
    (hup : ∀ p ∈ paths, ".." ∉ p.segments) (hapart : ∀ p ∈ paths, ∀ q ∈ paths, ¬IsBeneath q p)
    (hinputs : c.inputFiles t base = .ok inputs) (hinputs' : c.inputFiles after base = .ok inputs')
    (hcurrent : ∀ p ∈ paths, IsCurrent after inputs' p) :
    ∀ p ∈ paths, IsCurrent t inputs p ∧
      ∃ n, t.node p = .ok n ∧ after.node p = .ok n ∧ n.isReadable = true := by
  have hnodes : ∀ p ∈ paths, ∃ n, after.node p = .ok n := fun p hp =>
    let ⟨_, ⟨n, hn, _⟩, _⟩ := hcurrent p hp
    ⟨n, hn⟩
  intro p hp
  obtain ⟨m, ⟨n, hn', hreadable, hmodified⟩, hall⟩ := hcurrent p hp
  have hn := hrolled.node_of_node ht hup hp (hapart p hp) hn'
  obtain ⟨files', hfiles', hmem'⟩ := Config.exists_select_of_inputFiles hinputs'
  rw [Config.inputFiles_eq_select ht] at hinputs
  refine ⟨⟨m, ⟨n, hn, hreadable, hmodified⟩, fun q hq => ?_⟩, n, hn, hn', hreadable⟩
  obtain ⟨contents, a, hfile⟩ := Config.exists_file_of_mem_select hinputs hq
  have hget := (node_eq_ok_iff.1 hfile).2
  have hkept : after.get? q.location = t.get? q.location := by
    rw [hget]
    exact hrolled.get?_of_some hnodes hget
  obtain ⟨hq', hsame⟩ := Config.mem_select_of_kept ht hinputs hfiles' hq hkept
  obtain ⟨k', hk', hnot⟩ := hall q ((hmem' q).2 hq')
  exact ⟨k', by rw [modified, ← hsame]; exact hk', hnot⟩

/-- A failed run does not look like a fresh one, whichever steps were refused to it. A run that was not
forced is not followed by one that finds the fragments fresh; a forced run can be, but only when it left
all outputs alone. -/
theorem ensureFresh_failed_not_upToDate (ht : t.WellFormed) (hremove : faults.AllowsRemovals)
    (hup : ∀ p ∈ c.outputPaths base o.outputDir?, ".." ∉ p.segments)
    (hdir : ∀ p ∈ c.outputPaths base o.outputDir?, t.namesDirectory p = false)
    (hapart : ∀ p ∈ c.outputPaths base o.outputDir?, ∀ q ∈ c.outputPaths base o.outputDir?,
      ¬IsBeneath q p) {f : Failure} (hfail : (ensureFresh c base o now t faults).result = .error f)
    (now' : Time) (faults' : Faults) :
    (o.force = false →
        (ensureFresh c base o now' (ensureFresh c base o now t faults).tree faults').result ≠
          .ok .upToDate) ∧
      (o.force = true →
        (ensureFresh c base { o with force := false } now'
          (ensureFresh c base o now t faults).tree faults').result = .ok .upToDate →
        ∀ p ∈ c.outputPaths base o.outputDir?, ∃ bytes, t.read p = .ok bytes ∧
          (ensureFresh c base o now t faults).tree.read p = .ok bytes) := by
  cases hinputs : c.inputFiles t base with
  | error f' =>
    have htree : (ensureFresh c base o now t faults).tree = t := by
      rw [ensureFresh_of_error hinputs]
      rfl
    have hnot : ∀ o' : Options, (ensureFresh c base o' now' t faults').result ≠ .ok .upToDate := by
      intro o' hup'
      rw [ensureFresh_of_error hinputs] at hup'
      cases hup'
    rw [htree]
    exact ⟨fun _ => hnot o, fun _ hup' => absurd hup' (hnot _)⟩
  | ok inputs =>
    obtain ⟨hstale, htree, hgenerate⟩ := ensureFresh_eq_error hinputs hfail
    obtain ⟨removed, hrolled, -⟩ := rolledBack_of_generate hremove hgenerate
    rw [htree]
    have hnext : ∀ o' : Options, o'.outputDir? = o.outputDir? →
        (ensureFresh c base o' now' (generate c base o now t faults).tree faults').result =
          .ok .upToDate →
        ∀ p ∈ c.outputPaths base o.outputDir?, IsCurrent t inputs p ∧
          ∃ n, t.node p = .ok n ∧ (generate c base o now t faults).tree.node p = .ok n ∧
            n.isReadable = true := by
      intro o' ho' hup'
      obtain ⟨inputs', hinputs'⟩ := exists_inputs_of_upToDate hup'
      have hcurrent := ((upToDate_iff hinputs' _ _ _).1 hup').2
      rw [ho'] at hcurrent
      exact isCurrent_of_rolledBack ht hrolled hup hapart hinputs hinputs' hcurrent
    refine ⟨fun hforce hup' => ?_, fun _ hup' p hp => ?_⟩
    · exact hstale ⟨hforce, fun p hp => (hnext o rfl hup' p hp).1⟩
    · obtain ⟨-, n, hn, hn', hreadable⟩ := hnext { o with force := false } rfl hup' p hp
      have hnot := hdir p hp
      cases n with
      | directory a => simp [namesDirectory, hn, Node.isDirectory] at hnot
      | file contents a =>
        exact ⟨contents, read_eq_ok_iff.2 ⟨a, hn, hreadable⟩, read_eq_ok_iff.2 ⟨a, hn', hreadable⟩⟩

/-- All fragments are there, and younger than the source. -/
def currentTree : FileTree :=
  FragmentKind.all.foldl (fun t kind => t.set (sampleConfig.outputPath ⟨"."⟩ none kind).location
    (.file "old".toUTF8 (.new (.ofSeconds 6 0)))) sampleTree

/-- The sources are missing and are put into place before the constants are refused. They are taken back
again, so the next run does not find all fragments there. A forced run that fails for a full disk leaves
fresh fragments as they are. -/
theorem ensureFresh_failed_not_upToDate_of_refusals :
    let t := currentTree.erase [".sources.def", "src"]
    let locked := ensureFresh sampleConfig ⟨"."⟩ {} (.ofSeconds 12 0) t lockedConstants
    let full :=
      ensureFresh sampleConfig ⟨"."⟩ { force := true } (.ofSeconds 12 0) currentTree fullDisk
    lockedConstants.AllowsRemovals ∧ fullDisk.AllowsRemovals ∧
      (∀ u ∈ [t, currentTree], u.WellFormed ∧
        ∀ p ∈ sampleConfig.outputPaths ⟨"."⟩ none, u.namesDirectory p = false) ∧
      (∀ p ∈ sampleConfig.outputPaths ⟨"."⟩ none, ".." ∉ p.segments ∧
        ∀ q ∈ sampleConfig.outputPaths ⟨"."⟩ none, ¬IsBeneath q p) ∧
      locked.result =
        .error (.during (.replacing ⟨"./src/.const.def"⟩) (.file .permissionDenied)) ∧
      (∀ now faults, (ensureFresh sampleConfig ⟨"."⟩ {} now locked.tree faults).result ≠
        .ok .upToDate) ∧
      full.result = .error (.during (.writingStaged ⟨"./src/.types.def"⟩)
        (.file (.other "No space left on device (os error 28)"))) ∧
      (ensureFresh sampleConfig ⟨"."⟩ {} (.ofSeconds 13 0) full.tree).result = .ok .upToDate ∧
      ∀ p ∈ sampleConfig.outputPaths ⟨"."⟩ none, ∃ bytes, currentTree.read p = .ok bytes ∧
        full.tree.read p = .ok bytes := by
  intro t locked full
  have htrees : ∀ u ∈ [t, currentTree], u.WellFormed ∧
      ∀ p ∈ sampleConfig.outputPaths ⟨"."⟩ none, u.namesDirectory p = false := by
    decide +kernel
  have hpaths : ∀ p ∈ sampleConfig.outputPaths ⟨"."⟩ none, ".." ∉ p.segments ∧
      ∀ q ∈ sampleConfig.outputPaths ⟨"."⟩ none, ¬IsBeneath q p := by
    decide +kernel
  have hlocked : locked.result =
      .error (.during (.replacing ⟨"./src/.const.def"⟩) (.file .permissionDenied)) := by
    decide +kernel
  obtain ⟨hfull, hfresh⟩ : full.result = .error (.during (.writingStaged ⟨"./src/.types.def"⟩)
      (.file (.other "No space left on device (os error 28)"))) ∧
        (ensureFresh sampleConfig ⟨"."⟩ {} (.ofSeconds 13 0) full.tree).result =
          .ok .upToDate := by
    decide +kernel
  obtain ⟨⟨ht, hdir⟩, hgenerated⟩ := List.forall_mem_cons.1 htrees
  obtain ⟨hwell, hnot⟩ := hgenerated currentTree (List.mem_cons_self ..)
  have hup := fun p hp => (hpaths p hp).1
  have hapart := fun p hp => (hpaths p hp).2
  refine ⟨fun _ _ => rfl, fun _ _ => rfl, htrees, hpaths, hlocked, fun now faults => ?_, hfull, hfresh,
    ?_⟩
  · exact (ensureFresh_failed_not_upToDate (o := {}) ht (fun _ _ => rfl) hup hdir hapart hlocked now
      faults).1 rfl
  · exact (ensureFresh_failed_not_upToDate (o := { force := true }) hwell (fun _ _ => rfl) hup hnot
      hapart hfull (.ofSeconds 13 0) .none).2 rfl hfresh

end

end DefFragments
