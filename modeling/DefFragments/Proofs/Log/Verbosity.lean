import DefFragments.Log.Filter
import Mathlib.Data.Prod.Lex
import Mathlib.Data.String.Basic
import Mathlib.Order.WithBot

/-!
# What a verbose invocation lets through

A verbose run reports what it scans and finds as informative events. Of the directives about such an
event the most specific one decides, and of equally specific ones the last. The directive for this
program is added only if no directive at all, whatever it is about, reaches informative events. So
the reports are shown when the given directives let them through, or when all of them are quiet and
none that is about the reports is more specific than the added one.
-/

namespace DefFragments.Log
open Text

/-! ### The order of directives -/

namespace Directive

/-- How specific a directive is, in the order that decides: no condition comes before all others. -/
def key (d : Directive) : ℕ ×ₗ WithBot String :=
  toLex (d.specificity.1, d.specificity.2.elim ⊥ WithBot.some)

theorem atLeast_iff {d e : Directive} : d.atLeast e = true ↔ e.key ≤ d.key := by
  unfold atLeast key
  rw [Prod.Lex.toLex_le_toLex]
  obtain ⟨m, f⟩ := d.specificity
  obtain ⟨n, g⟩ := e.specificity
  have hcomm : m = n ↔ n = m := eq_comm
  -- a directive without a condition on a named value stands below those that have one
  cases f with
  | none => cases g <;> simp [hcomm]
  | some f => cases g <;> simp [hcomm]

theorem atLeast_eq_false_iff {d e : Directive} : d.atLeast e = false ↔ d.key < e.key := by
  rw [← not_le, ← atLeast_iff, Bool.not_eq_true]

end Directive

section
variable {covers : Directive → Prop} {ds : List Directive} {c d e : Directive}

/-- Of the directives with a property this one decides: none is more specific, and those behind it
are less so. -/
def Decides (covers : Directive → Prop) (ds : List Directive) (d : Directive) : Prop :=
  ∃ before after, ds = before ++ d :: after ∧ covers d ∧
    (∀ e ∈ before, covers e → e.key ≤ d.key) ∧ ∀ e ∈ after, covers e → e.key < d.key

theorem Decides.covered (h : Decides covers ds d) : covers d := by
  obtain ⟨-, -, -, hd, -, -⟩ := h
  exact hd

theorem Decides.mem (h : Decides covers ds d) : d ∈ ds := by
  obtain ⟨before, after, rfl, -, -, -⟩ := h
  exact List.mem_append_right _ (List.mem_cons_self ..)

theorem Decides.le (h : Decides covers ds d) (he : e ∈ ds) (hcovers : covers e) :
    e.key ≤ d.key := by
  obtain ⟨before, after, rfl, -, hbefore, hafter⟩ := h
  rcases List.mem_append.1 he with he | he
  · exact hbefore e he hcovers
  · rcases List.mem_cons.1 he with rfl | he
    · exact le_rfl
    · exact (hafter e he hcovers).le

theorem not_decides_nil : ¬Decides covers [] d :=
  fun h => List.not_mem_nil h.mem

theorem decides_cons_iff : Decides covers (c :: ds) d ↔
    (c = d ∧ covers d ∧ ∀ e ∈ ds, covers e → e.key < d.key) ∨
      (Decides covers ds d ∧ (covers c → c.key ≤ d.key)) := by
  constructor
  · rintro ⟨before, after, hsplit, hd, hbefore, hafter⟩
    rcases List.cons_eq_append_iff.1 hsplit with ⟨rfl, hrest⟩ | ⟨before, rfl, rfl⟩
    · obtain ⟨rfl, rfl⟩ := List.cons.inj hrest
      exact Or.inl ⟨rfl, hd, hafter⟩
    · obtain ⟨hc, hbefore⟩ := List.forall_mem_cons.1 hbefore
      exact Or.inr ⟨⟨before, after, rfl, hd, hbefore, hafter⟩, hc⟩
  · rintro (⟨rfl, hd, hafter⟩ | ⟨⟨before, after, rfl, hd, hbefore, hafter⟩, hc⟩)
    · exact ⟨[], ds, rfl, hd, List.forall_mem_nil _, hafter⟩
    · exact ⟨c :: before, after, rfl, hd, List.forall_mem_cons.2 ⟨hc, hbefore⟩, hafter⟩

theorem decides_concat_iff : Decides covers (ds ++ [c]) d ↔
    (c = d ∧ covers d ∧ ∀ e ∈ ds, covers e → e.key ≤ d.key) ∨
      (Decides covers ds d ∧ (covers c → c.key < d.key)) := by
  constructor
  · rintro ⟨before, after, hsplit, hd, hbefore, hafter⟩
    rcases List.eq_nil_or_concat after with rfl | ⟨after, x, rfl⟩
    · obtain ⟨rfl, hlast⟩ := List.append_inj' hsplit rfl
      exact Or.inl ⟨List.head_eq_of_cons_eq hlast, hd, hbefore⟩
    · rw [List.concat_eq_append, ← List.cons_append, ← List.append_assoc] at hsplit
      obtain ⟨rfl, hlast⟩ := List.append_inj' hsplit rfl
      obtain rfl := List.head_eq_of_cons_eq hlast
      rw [List.concat_eq_append] at hafter
      obtain ⟨hafter, hc⟩ := List.forall_mem_append.1 hafter
      exact Or.inr ⟨⟨before, after, rfl, hd, hbefore, hafter⟩, hc c (List.mem_singleton_self c)⟩
  · rintro (⟨rfl, hd, hbefore⟩ | ⟨⟨before, after, rfl, hd, hbefore, hafter⟩, hc⟩)
    · exact ⟨ds, [], rfl, hd, hbefore, List.forall_mem_nil _⟩
    · refine ⟨before, after ++ [c], by simp, hd, hbefore, ?_⟩
      exact List.forall_mem_append.2 ⟨hafter, List.forall_mem_singleton.2 hc⟩

end

namespace Filter

theorem deciding?_eq_none_iff {e : Event} {ds : List Directive} :
    deciding? e ds = none ↔ ∀ d ∈ ds, d.isMatch e = false := by
  induction ds with
  | nil => simp [deciding?]
  | cons c ds ih =>
    rw [deciding?, List.forall_mem_cons, ← ih]
    cases deciding? e ds with
    | none => simp
    | some best =>
      dsimp only
      split <;> simp

theorem deciding?_eq_some_iff {e : Event} {ds : List Directive} {d : Directive} :
    deciding? e ds = some d ↔ Decides (fun d => d.isMatch e = true) ds d := by
  induction ds generalizing d with
  | nil => simp [deciding?, not_decides_nil]
  | cons c ds ih =>
    rw [deciding?, decides_cons_iff, ← ih]
    cases hbest : deciding? e ds with
    | none =>
      have hnone : ∀ x ∈ ds, x.isMatch e = true → x.key < d.key := fun x hx hmatch =>
        absurd hmatch (by simp [deciding?_eq_none_iff.1 hbest x hx])
      simp only [reduceCtorEq, false_and, or_false, Option.ite_none_right_eq_some,
        Option.some.injEq]
      constructor
      · rintro ⟨hmatch, rfl⟩
        exact ⟨rfl, hmatch, hnone⟩
      · rintro ⟨rfl, hmatch, -⟩
        exact ⟨hmatch, rfl⟩
    | some best =>
      have hdecides := ih.1 hbest
      simp only [Bool.and_eq_true, Bool.not_eq_true', Directive.atLeast_eq_false_iff,
        Option.some.injEq]
      -- the new directive decides only if it is more specific than the best one behind it
      split
      · next hc =>
        rw [Option.some.injEq]
        constructor
        · rintro rfl
          exact Or.inl ⟨rfl, hc.1, fun x hx hmatch => (hdecides.le hx hmatch).trans_lt hc.2⟩
        · rintro (⟨rfl, -⟩ | ⟨rfl, hle⟩)
          · rfl
          · exact absurd hc.2 (hle hc.1).not_gt
      · next hc =>
        rw [Option.some.injEq]
        constructor
        · rintro rfl
          exact Or.inr ⟨rfl, fun hmatch => not_lt.1 fun hlt => hc ⟨hmatch, hlt⟩⟩
        · rintro (⟨rfl, hmatch, hless⟩ | ⟨rfl, -⟩)
          · exact absurd ⟨hmatch, hless best hdecides.mem hdecides.covered⟩ hc
          · rfl

theorem enables_iff {f : Filter} {e : Event} : f.enables e = true ↔
    ∃ d, Decides (fun d => d.isMatch e = true) f.directives d ∧
      e.level.rank ≤ Threshold.rank d.threshold := by
  unfold enables
  simp only [← deciding?_eq_some_iff]
  cases deciding? e f.directives with
  | none => simp
  | some d => simp

theorem mostVerbose_lt_iff {f : Filter} {n : ℕ} (hn : 0 < n) :
    f.mostVerbose < n ↔ ∀ d ∈ f.directives, d.reach < n := by
  unfold mostVerbose
  induction f.directives with
  | nil => simpa using hn
  | cons d ds ih => rw [List.foldr_cons, max_lt_iff, ih, List.forall_mem_cons]

end Filter

/-! ### Reports of a scan -/

def shown (text : String) : String :=
  String.ofList (text.toList.flatMap Event.messageChar)

theorem shown_append (a b : String) : shown (a ++ b) = shown a ++ shown b := by
  unfold shown
  rw [String.toList_append, List.flatMap_append, String.ofList_append]

/-- What a message shows as it is: the printable characters among the first ones. -/
def isPrintable (c : Char) : Bool :=
  0x20 ≤ c.toNat && c.toNat < 0x7F

theorem shown_eq_self {text : String} (h : text.toList.all isPrintable = true) :
    shown text = text := by
  have hchar : ∀ c ∈ text.toList, Event.messageChar c = [c] := by
    intro c hc
    have hplain := List.all_eq_true.1 h c hc
    simp only [isPrintable, Bool.and_eq_true, decide_eq_true_eq] at hplain
    unfold Event.messageChar
    dsimp only
    rw [if_neg (by omega), if_neg (by omega)]
  unfold shown
  rw [List.flatMap_congr hchar, List.flatMap_singleton', String.ofList_toList]

namespace Event

/-- An event by which a verbose run tells what it scans or what it has found. -/
def isReport : Event → Bool
  | .scanning verbose _ => verbose
  | .marker verbose _ _ _ _ => verbose
  | _ => false

variable {e : Event}

theorem level_of_isReport (h : e.isReport = true) : e.level = .info := by
  cases e <;> simp_all [isReport, level]

theorem target_of_isReport (h : e.isReport = true) : e.target = "gendefs::scan" := by
  cases e <;> simp_all [isReport, target]

theorem fields_of_isReport (h : e.isReport = true) : e.fields = [] := by
  cases e <;> simp_all [isReport, fields]

def head (e : Event) : String :=
  e.level.name ++ " " ++ e.target ++ ": "

/-- What the line of a report begins with. -/
def reportHead : String := "INFO gendefs::scan: "

theorem lineWithTarget_eq (e : Event) : e.lineWithTarget = e.head ++ e.content :=
  rfl

theorem head_prefix_lineWithTarget (e : Event) : e.head.toList <+: e.lineWithTarget.toList :=
  ⟨e.content.toList, (String.toList_append ..).symm⟩

theorem head_of_isReport (h : e.isReport = true) : e.head = reportHead := by
  unfold head
  rw [level_of_isReport h, target_of_isReport h]
  rfl

theorem lineWithTarget_of_isReport (h : e.isReport = true) :
    e.lineWithTarget = reportHead ++ shown e.message := by
  rw [lineWithTarget_eq, head_of_isReport h, content, fields_of_isReport h]
  rfl

theorem not_prefix_of_not_isReport (h : e.isReport = false) :
    ¬(reportHead.toList <+: e.head.toList ∨ e.head.toList <+: reportHead.toList) := by
  cases e with
  | scanning verbose source =>
    obtain rfl : verbose = false := h
    simp only [head, level, target, Bool.false_eq_true, if_false]
    decide
  | marker verbose file line announcement guard =>
    obtain rfl : verbose = false := h
    simp only [head, level, target, Bool.false_eq_true, if_false]
    decide
  | _ =>
    simp only [head, level, target]
    decide

/-- The reports are the events whose lines look like one. -/
theorem isReport_iff_prefix :
    e.isReport = true ↔ reportHead.toList <+: e.lineWithTarget.toList := by
  constructor
  · intro h
    rw [← head_of_isReport h]
    exact e.head_prefix_lineWithTarget
  · intro h
    by_contra hnot
    have hhead := List.prefix_or_prefix_of_prefix h e.head_prefix_lineWithTarget
    exact not_prefix_of_not_isReport (Bool.eq_false_iff.2 hnot) hhead

end Event

/-! ### Directives about reports -/

/-- A directive is about the reports: it asks for nothing that they lack, and their target begins
with its own. -/
structure CoversReports (d : Directive) : Prop where
  span : d.span? = none
  target : ∀ t ∈ d.target?, t.toList <+: "gendefs::scan".toList
  field : ∀ f ∈ d.field?, f = ⟨"message", false⟩

theorem isMatch_iff {d : Directive} {e : Event} (h : e.isReport = true) :
    d.isMatch e = true ↔ CoversReports d := by
  unfold Directive.isMatch Directive.isForEvents Directive.hasField
  rw [e.target_of_isReport h, e.fields_of_isReport h]
  simp only [Bool.and_eq_true, Option.isNone_iff_eq_none, Option.all_eq_true, startsWith_iff,
    Bool.not_eq_true', Bool.or_eq_true, beq_iff_eq, List.map_nil, List.contains_nil,
    Bool.false_eq_true, or_false]
  constructor
  · rintro ⟨⟨⟨hspan, hvalue⟩, htarget⟩, hname⟩
    refine ⟨hspan, htarget, fun f hf => ?_⟩
    obtain ⟨name, hasValue⟩ := f
    rw [FieldCondition.mk.injEq]
    exact ⟨hname _ hf, hvalue _ hf⟩
  · rintro ⟨hspan, htarget, hfield⟩
    refine ⟨⟨⟨hspan, fun f hf => ?_⟩, htarget⟩, fun f hf => ?_⟩
    · rw [hfield f hf]
    · rw [hfield f hf]

theorem CoversReports.reach_eq {d : Directive} (h : CoversReports d) :
    d.reach = Threshold.rank d.threshold := by
  have hvalue : d.field?.any FieldCondition.hasValue = false := by
    cases hf : d.field? with
    | none => rfl
    | some f => rw [h.field f hf]; rfl
  unfold Directive.reach
  rw [hvalue]
  rfl

/-! ### The filter of a verbose invocation -/

namespace Filter

def given (text? : Option String) : Filter :=
  (text?.bind ofText?).getD standard

/-- No directive reaches informative events, whatever it is about. -/
def IsQuiet (f : Filter) : Prop :=
  ∀ d ∈ f.directives, d.reach < Level.info.rank

/-- The directive that decides about reports lets them through, or all directives are quiet and none
about reports is more specific than the one for this program. -/
def ShowsReports (f : Filter) : Prop :=
  (∃ d, Decides CoversReports f.directives d ∧ Level.info.rank ≤ Threshold.rank d.threshold) ∨
    (f.IsQuiet ∧ ∀ d ∈ f.directives, CoversReports d → d.key ≤ (programDirective .info).key)

variable {f : Filter}

theorem isQuiet_iff : f.IsQuiet ↔ f.mostVerbose < Level.info.rank :=
  (mostVerbose_lt_iff (by decide)).symm

theorem coversReports_programDirective : CoversReports (programDirective .info) :=
  ⟨rfl, fun t ht => Option.some.inj ht ▸ by decide, fun f hf => by cases hf⟩

theorem IsQuiet.not_decides (h : f.IsQuiet) {d : Directive}
    (hd : Decides CoversReports f.directives d) :
    ¬Level.info.rank ≤ Threshold.rank d.threshold := by
  have hreach := h d hd.mem
  rw [hd.covered.reach_eq] at hreach
  exact not_le.2 hreach

theorem enables_report_iff {e : Event} (h : e.isReport = true) : f.enables e = true ↔
    ∃ d, Decides CoversReports f.directives d ∧ Level.info.rank ≤ Threshold.rank d.threshold := by
  have hcovers : (fun d : Directive => d.isMatch e = true) = CoversReports :=
    funext fun d => propext (isMatch_iff h)
  rw [enables_iff, e.level_of_isReport h, hcovers]

theorem forInvocation_of_isQuiet {text? : Option String} (h : (given text?).IsQuiet) :
    forInvocation text? true = ⟨(given text?).directives ++ [programDirective .info]⟩ :=
  if_pos ((Bool.true_and _).trans (decide_eq_true (isQuiet_iff.1 h)))

theorem forInvocation_of_not_isQuiet {text? : Option String} (h : ¬(given text?).IsQuiet) :
    forInvocation text? true = given text? :=
  if_neg fun hlt => h (isQuiet_iff.2 (of_decide_eq_true hlt))

/-- A verbose invocation lets through all of its reports or none. -/
theorem enables_forInvocation_iff (text? : Option String) {e : Event} (h : e.isReport = true) :
    (forInvocation text? true).enables e = true ↔ (given text?).ShowsReports := by
  rw [enables_report_iff h]
  unfold ShowsReports
  by_cases hquiet : (given text?).IsQuiet
  · -- no directive of a quiet filter lets reports through, so it is the added one that must decide
    simp only [forInvocation_of_isQuiet hquiet, decides_concat_iff]
    constructor
    · rintro ⟨d, ⟨rfl, -, hle⟩ | ⟨hd, -⟩, hrank⟩
      · exact Or.inr ⟨hquiet, hle⟩
      · exact absurd hrank (hquiet.not_decides hd)
    · rintro (⟨d, hd, hrank⟩ | ⟨-, hle⟩)
      · exact absurd hrank (hquiet.not_decides hd)
      · exact ⟨_, Or.inl ⟨rfl, coversReports_programDirective, hle⟩, le_rfl⟩
  · rw [forInvocation_of_not_isQuiet hquiet]
    simp only [hquiet, false_and, or_false]

instance : DecidablePred CoversReports := fun _ =>
  decidable_of_iff _ (isMatch_iff (e := .scanning true ⟨""⟩) rfl)

instance (f : Filter) : Decidable f.ShowsReports :=
  decidable_of_iff
    (f.enables (.scanning true ⟨""⟩) = true ∨ (f.mostVerbose < Level.info.rank ∧
      ∀ d ∈ f.directives, CoversReports d → (programDirective .info).atLeast d = true))
    (or_congr (enables_report_iff rfl)
      (and_congr isQuiet_iff.symm (forall₃_congr fun _ _ _ => Directive.atLeast_iff)))

/-- A directive about another program, or a more specific one, keeps the added one from its work. -/
example : (given none).ShowsReports ∧ (given (some "warn")).ShowsReports ∧
    ¬(given (some "warn,other=debug")).ShowsReports ∧
    ¬(given (some "gendefs::scan=warn")).ShowsReports := by
  decide +kernel

end Filter

end DefFragments.Log
