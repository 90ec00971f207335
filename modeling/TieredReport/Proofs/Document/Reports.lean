/-
# What becomes of one section

A section that is rendered by itself is included, excluded or failed, and what
it adds to the counts says the same (`CompiledSection.report_cases`). It fails
exactly if it calls a helper that crashes: in a condition of its rules that is
asked, or in its markup where this is rendered (`CompiledSection.crashes_iff`).
The document of a template is made of the reports of its sections
(`renderDocument_eq`), each of them put where its section belongs
(`entries_assemble`).

Key definitions: `SectionClass`, `DocumentEntry.Is`, `DocumentEntry.IsOf`,
`CompiledSection.Evaluates`, `CompiledSection.Crashes`, `arranged`,
`CompiledTemplate.reports`.
Key theorems: `CompiledSection.crashes_iff`, `CompiledSection.report_cases`,
`CompiledSection.failed_report_iff`, `CompiledSection.included_report_iff`,
`CompiledSection.excluded_report`, `entries_assemble`, `Engine.render_of_accepted`.
-/
import Mathlib.Data.Int.Order.Basic
import TieredReport.Engine
import TieredReport.Proofs.Markup.Evaluation
import TieredReport.Proofs.StableSort

namespace TieredReport

/-! ### Classes of entries -/

/-- What can become of a section. -/
inductive SectionClass where
  | included
  | excluded
  | failed
  deriving DecidableEq

/-- An entry says of its section what became of it. -/
def DocumentEntry.Is (e : DocumentEntry) : SectionClass → Prop
  | .included => e.isIncluded = true ∧ e.error? = none
  | .excluded => e.isIncluded = false ∧ e.error? = none ∧ e.content = "" ∧ e.charts = []
  | .failed => e.isIncluded = false ∧ e.error? ≠ none ∧ e.content = "" ∧ e.charts = []

instance (e : DocumentEntry) : (c : SectionClass) → Decidable (e.Is c)
  | .included => inferInstanceAs (Decidable (_ ∧ _))
  | .excluded => inferInstanceAs (Decidable (_ ∧ _))
  | .failed => inferInstanceAs (Decidable (_ ∧ _))

/-- An entry bears the names and the place of a section. -/
structure DocumentEntry.IsOf (e : DocumentEntry) (s : CompiledSection) : Prop where
  id : e.id = s.id
  title : e.title = s.title
  kind : e.kind = s.kind
  order : e.order = s.order

/-- The class of an outcome. -/
def SectionOutcome.classOf : SectionOutcome → SectionClass
  | .included _ _ => .included
  | .excluded => .excluded
  | .failed _ => .failed

/-- The counts of one section of a class. -/
def DocumentCounts.one : SectionClass → DocumentCounts
  | .included => .oneIncluded
  | .excluded => .oneExcluded
  | .failed => .oneFailed

namespace DocumentEntry

variable {e : DocumentEntry} {c c' : SectionClass}

/-- An entry is of one class at most. -/
theorem Is.unique (h : e.Is c) (h' : e.Is c') : c = c' := by
  cases c <;> cases c' <;> simp_all [Is]

theorem Is.iff (h : e.Is c) : e.Is c' ↔ c = c' :=
  ⟨h.unique, fun heq => heq ▸ h⟩

theorem isOf_ofSection (s : CompiledSection) (outcome : SectionOutcome) :
    (ofSection s outcome).IsOf s := by
  cases outcome <;> exact ⟨rfl, rfl, rfl, rfl⟩

theorem is_ofSection (s : CompiledSection) (outcome : SectionOutcome) :
    (ofSection s outcome).Is outcome.classOf := by
  cases outcome <;> simp [ofSection, empty, SectionOutcome.classOf, Is]

end DocumentEntry

/-! ### Crashes of a section -/

namespace RuleSet

variable {helpers : HelperRegistry} {ctx : Context} {reason : String}

/-- Rules crash where the condition of one does and those before it do not hold. -/
theorem outcome_decideBy_eq_error_iff {rules : List ParsedRule} :
    (decideBy helpers ctx rules).outcome = .error reason ↔
      ∃ before rule after, rules = before ++ rule :: after ∧
        (∀ earlier ∈ before, (Markup.holds helpers ctx earlier.condition).outcome = .ok false) ∧
        (Markup.holds helpers ctx rule.condition).outcome = .error reason := by
  induction rules with
  | nil => simp [decideBy, Run.pure]
  | cons first rest ih =>
    rw [decideBy, Run.outcome_bind_eq_error_iff]
    constructor
    · rintro (h | ⟨b, hb, h⟩)
      · exact ⟨[], first, rest, rfl, by simp, h⟩
      · cases b with
        | true => cases h
        | false =>
          obtain ⟨before, rule, after, rfl, hbefore, hrule⟩ := ih.1 h
          refine ⟨first :: before, rule, after, rfl, ?_, hrule⟩
          exact List.forall_mem_cons.2 ⟨hb, hbefore⟩
    · rintro ⟨before, rule, after, hrules, hbefore, hrule⟩
      cases before with
      | nil =>
        cases hrules
        exact Or.inl hrule
      | cons earlier before =>
        cases hrules
        obtain ⟨hearlier, hbefore⟩ := List.forall_mem_cons.1 hbefore
        exact Or.inr ⟨false, hearlier, ih.2 ⟨before, rule, after, rfl, hbefore, hrule⟩⟩

end RuleSet

namespace CompiledSection

/-- To render a section in a context is to evaluate an expression in a context: a condition, if the
rules are asked and no condition before it holds; or an expression of the markup, if the section
appears. -/
inductive Evaluates (r : Markup.Renderer) (ctx : Context) (s : CompiledSection) :
    Markup.Expression → Context → Prop where
  | condition {before after : List ParsedRule} {rule : ParsedRule} :
      s.required = false → s.rules.rules = before ++ rule :: after →
      (∀ earlier ∈ before, (Markup.holds r.helpers ctx earlier.condition).outcome = .ok false) →
      Evaluates r ctx s rule.condition ctx
  | markup {e : Markup.Expression} {inner : Context} :
      (s.includes r.helpers ctx).outcome = .ok true →
      Markup.Evaluates r.helpers r.partials r.partialCap r.blockCap ctx s.nodes e inner →
      Evaluates r ctx s e inner

/-- To render a section in a context is to call a helper that crashes on its arguments. -/
def Crashes (r : Markup.Renderer) (ctx : Context) (s : CompiledSection) (reason : String) : Prop :=
  ∃ e inner h args, s.Evaluates r ctx e inner ∧ Markup.Calls r.helpers inner e h args ∧
    h.call r.helpers.defaults args = .crash reason

variable {r : Markup.Renderer} {visualizer : Visualizer} {templateId : String} {ctx : Context}
  {s : CompiledSection} {reason : String}

theorem outcome_includes_eq_error_iff : (s.includes r.helpers ctx).outcome = .error reason ↔
    s.required = false ∧ (s.rules.includes r.helpers ctx).outcome = .error reason := by
  unfold includes
  cases s.required <;> simp [Run.pure]

theorem outcome_render_eq_error_iff : (s.render r visualizer ctx).outcome = .error reason ↔
    (s.includes r.helpers ctx).outcome = .error reason ∨
    (s.includes r.helpers ctx).outcome = .ok true ∧ (r.render ctx s.nodes).outcome = .error reason := by
  rw [render, Run.outcome_bind_eq_error_iff]
  constructor
  · rintro (h | ⟨b, hb, h⟩)
    · exact Or.inl h
    · cases b with
      | false => cases h
      | true =>
        rcases Run.outcome_bind_eq_error_iff.1 h with h | ⟨content, -, h⟩
        · exact Or.inr ⟨hb, h⟩
        · cases h
  · rintro (h | ⟨hb, h⟩)
    · exact Or.inl h
    · exact Or.inr ⟨true, hb, Run.outcome_bind_of_error h⟩

/-- **When a section crashes.** It does exactly if it calls a helper that does. -/
theorem crashes_iff :
    s.Crashes r ctx reason ↔ (s.render r visualizer ctx).outcome = .error reason := by
  have hevaluate : s.Crashes r ctx reason ↔ ∃ e inner, s.Evaluates r ctx e inner ∧
      Markup.evaluate r.helpers inner e = .crash reason := by
    constructor
    · rintro ⟨e, inner, h, args, hfound, hcall⟩
      exact ⟨e, inner, hfound, Markup.evaluate_eq_crash_iff.2 ⟨h, args, hcall⟩⟩
    · rintro ⟨e, inner, hfound, hcrash⟩
      obtain ⟨h, args, hcall⟩ := Markup.evaluate_eq_crash_iff.1 hcrash
      exact ⟨e, inner, h, args, hfound, hcall⟩
  rw [hevaluate, outcome_render_eq_error_iff, outcome_includes_eq_error_iff, RuleSet.includes,
    RuleSet.outcome_decideBy_eq_error_iff, Markup.Renderer.render,
    Markup.outcome_render_eq_error_iff]
  constructor
  · rintro ⟨e, inner, hfound, hcrash⟩
    cases hfound with
    | condition hrequired hrules hbefore =>
      exact Or.inl ⟨hrequired, _, _, _, hrules, hbefore,
        Markup.outcome_recover_eq_error_iff.2 hcrash⟩
    | markup hincludes hfound => exact Or.inr ⟨hincludes, e, inner, hfound, hcrash⟩
  · rintro (⟨hrequired, before, rule, after, hrules, hbefore, hrule⟩ |
      ⟨hincludes, e, inner, hfound, hcrash⟩)
    · exact ⟨rule.condition, ctx, .condition hrequired hrules hbefore,
        Markup.outcome_recover_eq_error_iff.1 hrule⟩
    · exact ⟨e, inner, .markup hincludes hfound, hcrash⟩

/-! ### Reports -/

theorem report_of_ok {outcome : SectionOutcome} {counts : DocumentCounts}
    (h : (s.render r visualizer ctx).outcome = .ok (outcome, counts)) (templateId : String) :
    s.report r visualizer templateId ctx =
      ⟨.ofSection s outcome, counts, (s.render r visualizer ctx).failures⟩ := by
  simp only [report, h]

theorem report_of_error (h : (s.render r visualizer ctx).outcome = .error reason)
    (templateId : String) : s.report r visualizer templateId ctx =
      ⟨.ofSection s (.failed (crashReason templateId s.id reason)), .oneFailed,
        (s.render r visualizer ctx).failures⟩ := by
  simp only [report, h]

/-- What becomes of a section that does not crash: its rules and its markup decide. -/
theorem render_cases (r : Markup.Renderer) (visualizer : Visualizer) (ctx : Context)
    (s : CompiledSection) :
    (∃ content, (s.includes r.helpers ctx).outcome = .ok true ∧
      (r.render ctx s.nodes).outcome = .ok content ∧
      (s.render r visualizer ctx).outcome =
        .ok (.included content (s.charts.map (renderChart visualizer ctx)), .oneIncluded)) ∨
    ((s.includes r.helpers ctx).outcome = .ok false ∧
      (s.render r visualizer ctx).outcome = .ok (.excluded, .oneExcluded)) ∨
    (∃ reason, (s.render r visualizer ctx).outcome = .error reason) := by
  cases hincludes : (s.includes r.helpers ctx).outcome with
  | error reason =>
    exact Or.inr (Or.inr ⟨reason, outcome_render_eq_error_iff.2 (Or.inl hincludes)⟩)
  | ok b =>
    cases b with
    | false =>
      refine Or.inr (Or.inl ⟨rfl, ?_⟩)
      rw [render, Run.outcome_bind_of_ok hincludes]
      rfl
    | true =>
      cases hcontent : (r.render ctx s.nodes).outcome with
      | error reason =>
        exact Or.inr (Or.inr ⟨reason, outcome_render_eq_error_iff.2 (Or.inr ⟨hincludes, hcontent⟩)⟩)
      | ok content =>
        refine Or.inl ⟨content, rfl, rfl, ?_⟩
        rw [render, Run.outcome_bind_of_ok hincludes, if_pos rfl, Run.outcome_bind_of_ok hcontent]
        rfl

/-- **What a section comes to.** It is included with its content and charts, or excluded by its
rules, or failed by a crash. -/
theorem report_cases (r : Markup.Renderer) (visualizer : Visualizer) (templateId : String)
    (ctx : Context) (s : CompiledSection) :
    (∃ content, (s.includes r.helpers ctx).outcome = .ok true ∧
      (r.render ctx s.nodes).outcome = .ok content ∧
      (s.report r visualizer templateId ctx).entry =
        .ofSection s (.included content (s.charts.map (renderChart visualizer ctx))) ∧
      (s.report r visualizer templateId ctx).counts = .oneIncluded) ∨
    ((s.includes r.helpers ctx).outcome = .ok false ∧
      (s.report r visualizer templateId ctx).entry = .ofSection s .excluded ∧
      (s.report r visualizer templateId ctx).counts = .oneExcluded) ∨
    (∃ reason, s.Crashes r ctx reason ∧
      (s.report r visualizer templateId ctx).entry =
        .ofSection s (.failed (crashReason templateId s.id reason)) ∧
      (s.report r visualizer templateId ctx).counts = .oneFailed) := by
  rcases render_cases r visualizer ctx s with
    ⟨content, hincludes, hcontent, hrender⟩ | ⟨hincludes, hrender⟩ | ⟨reason, hrender⟩
  · rw [report_of_ok hrender]
    exact Or.inl ⟨content, hincludes, hcontent, rfl, rfl⟩
  · rw [report_of_ok hrender]
    exact Or.inr (Or.inl ⟨hincludes, rfl, rfl⟩)
  · rw [report_of_error hrender]
    exact Or.inr (Or.inr ⟨reason, crashes_iff.2 hrender, rfl, rfl⟩)

/-- A report is about its section. -/
theorem isOf_report : (s.report r visualizer templateId ctx).entry.IsOf s := by
  rcases report_cases r visualizer templateId ctx s with
    ⟨content, -, -, hentry, -⟩ | ⟨-, hentry, -⟩ | ⟨reason, -, hentry, -⟩
  all_goals
    rw [hentry]
    exact DocumentEntry.isOf_ofSection s _

/-- The entry of a section has a class, and one section of that class is counted. -/
theorem exists_class_report (r : Markup.Renderer) (visualizer : Visualizer) (templateId : String)
    (ctx : Context) (s : CompiledSection) : ∃ c, (s.report r visualizer templateId ctx).entry.Is c ∧
    (s.report r visualizer templateId ctx).counts = .one c := by
  rcases report_cases r visualizer templateId ctx s with
    ⟨content, -, -, hentry, hcounts⟩ | ⟨-, hentry, hcounts⟩ | ⟨reason, -, hentry, hcounts⟩
  all_goals
    rw [hentry, hcounts]
    exact ⟨_, DocumentEntry.is_ofSection s _, rfl⟩

/-- **What fails.** -/
theorem failed_report_iff : (s.report r visualizer templateId ctx).entry.Is .failed ↔
    ∃ reason, s.Crashes r ctx reason := by
  constructor
  · intro hfailed
    rcases report_cases r visualizer templateId ctx s with
      ⟨content, -, -, hentry, -⟩ | ⟨-, hentry, -⟩ | ⟨reason, hcrashes, -⟩
    · rw [hentry] at hfailed
      cases hfailed.unique (DocumentEntry.is_ofSection s _)
    · rw [hentry] at hfailed
      cases hfailed.unique (DocumentEntry.is_ofSection s _)
    · exact ⟨reason, hcrashes⟩
  · rintro ⟨reason, hcrashes⟩
    rw [report_of_error (crashes_iff.1 hcrashes)]
    exact DocumentEntry.is_ofSection s (.failed _)

/-- **What is excluded.** Only rules exclude a section, and those of a required one are not asked. -/
theorem excluded_report (h : (s.report r visualizer templateId ctx).entry.Is .excluded) :
    s.required = false ∧ (s.rules.includes r.helpers ctx).outcome = .ok false := by
  rcases report_cases r visualizer templateId ctx s with
    ⟨content, -, -, hentry, -⟩ | ⟨hincludes, -⟩ | ⟨reason, -, hentry, -⟩
  · rw [hentry] at h
    cases h.unique (DocumentEntry.is_ofSection s _)
  · unfold includes at hincludes
    cases hrequired : s.required with
    | true => simp [hrequired, Run.pure] at hincludes
    | false =>
      rw [hrequired] at hincludes
      exact ⟨rfl, hincludes⟩
  · rw [hentry] at h
    cases h.unique (DocumentEntry.is_ofSection s _)

end CompiledSection

/-! ### Documents -/

/-- Merge sort by the places of things is stable. -/
theorem isStableSort_places {α : Type} (place : α → Int32) (xs : List α) :
    IsStableSort (fun a => (place a).toInt) xs (xs.mergeSort fun a b => place a ≤ place b) := by
  apply isStableSort_mergeSort
  intro a b
  rw [decide_eq_true_eq, Int32.le_iff_toInt_le]

/-- The sections of a template in the order of a document. -/
def arranged (sections : List CompiledSection) : List CompiledSection :=
  sections.mergeSort fun a b => a.order ≤ b.order

theorem isStableSort_arranged (sections : List CompiledSection) :
    IsStableSort (·.order.toInt) sections (arranged sections) :=
  isStableSort_places (·.order) sections

/-- The reports of the sections of a template. -/
def CompiledTemplate.reports (r : Markup.Renderer) (visualizer : Visualizer) (ctx : Context)
    (t : CompiledTemplate) : List SectionReport :=
  t.sections.map (·.report r visualizer t.id ctx)

/-- **Entries stand where their sections belong.** -/
theorem entries_assemble (r : Markup.Renderer) (visualizer : Visualizer) (ctx : Context)
    (t : CompiledTemplate) :
    (Document.assemble t ((t.reports r visualizer ctx).map (·.entry))).entries =
      (arranged t.sections).map fun s => (s.report r visualizer t.id ctx).entry := by
  have hentries : (t.reports r visualizer ctx).map (·.entry) =
      t.sections.map fun s => (s.report r visualizer t.id ctx).entry := by
    rw [CompiledTemplate.reports, List.map_map]
    rfl
  have hkey : ∀ s : CompiledSection,
      (s.report r visualizer t.id ctx).entry.order.toInt = s.order.toInt := by
    intro s
    rw [CompiledSection.isOf_report.order]
  have hsorted : IsStableSort (fun e : DocumentEntry => e.order.toInt)
      (t.sections.map fun s => (s.report r visualizer t.id ctx).entry)
      (Document.assemble t ((t.reports r visualizer ctx).map (·.entry))).entries := by
    rw [hentries]
    exact isStableSort_places DocumentEntry.order _
  exact hsorted.unique ((isStableSort_arranged t.sections).map hkey)

/-- The document of a template is made of the reports of its sections, where the context is
accepted. -/
theorem renderDocument_eq (r : Markup.Renderer) (visualizer : Visualizer) (t : CompiledTemplate)
    (ctx : Context) : renderDocument r visualizer t ctx =
      (checkContext t.id t.tier ctx).map fun _ =>
        (.assemble t ((t.reports r visualizer ctx).map (·.entry)),
          (t.reports r visualizer ctx).foldl (fun sum s => sum + s.counts) .oneDocument,
          (t.reports r visualizer ctx).foldl (fun sum s => sum + s.failures) .none) := by
  unfold renderDocument
  cases checkContext t.id t.tier ctx <;> rfl

/-- The document and the counts of an engine that is given an accepted context. -/
theorem Engine.render_of_accepted {t : CompiledTemplate} {ctx : Context}
    (h : checkContext t.id t.tier ctx = .ok ()) (e : Engine) : e.render t ctx =
      (.ok (.assemble t ((t.reports e.renderer e.visualizer ctx).map (·.entry))),
        { e with
          documents := e.documents + (t.reports e.renderer e.visualizer ctx).foldl
            (fun sum s => sum + s.counts) .oneDocument
          failures := e.failures + (t.reports e.renderer e.visualizer ctx).foldl
            (fun sum s => sum + s.failures) .none }) := by
  rw [render, renderDocument_eq, h]
  rfl

end TieredReport
