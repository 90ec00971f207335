/-
# Accounting for documents

A document accounts for its template if it has one entry for each section, put
where the section belongs, and says of each what became of it; and if its
content, its number of included entries and its lists of ids are those of the
entries. Every document does, whatever its helpers do, and the counters of the
engine rise by what the document says (`Engine.render_accounts`).

Sections are counted where they are rendered and entries are looked through
after they were put in order, so the counts are compared by a tally that does
not depend on the order (`DocumentCounts.ofEntries_perm`).

Key definitions: `Document.ofClass`, `DocumentCounts.ofEntries`,
`DocumentEntry.Accounts`, `Document.Accounts`.
Key theorems: `Document.accounts_assemble`, `foldl_counts_reports`,
`CompiledSection.report_with_rules`, `Engine.render_accounts`.
-/
import TieredReport.Proofs.Document.Reports

namespace TieredReport

/-- The entries of a class, in the order of a document. -/
def Document.ofClass (d : Document) (c : SectionClass) : List DocumentEntry :=
  d.entries.filter (·.Is c)

/-- The sections of each class among some entries, counted. -/
def DocumentCounts.ofEntries (entries : List DocumentEntry) : DocumentCounts :=
  { included := entries.countP (·.Is .included)
    excluded := entries.countP (·.Is .excluded)
    failed := entries.countP (·.Is .failed) }

/-- An entry accounts for a section: it bears the names of the section and is of one class only. That
is not the class of the excluded ones if the section is required, and it is the class of the failed
ones if the section crashes, and only then. -/
structure DocumentEntry.Accounts (r : Markup.Renderer) (ctx : Context) (s : CompiledSection)
    (e : DocumentEntry) : Prop where
  isOf : e.IsOf s
  oneClass : ∃! c, e.Is c
  required : s.required = true → ¬ e.Is .excluded
  failed : e.Is .failed ↔ ∃ reason, s.Crashes r ctx reason

/-- A document accounts for the sections of a template. -/
structure Document.Accounts (r : Markup.Renderer) (t : CompiledTemplate) (ctx : Context)
    (d : Document) : Prop where
  entries : ∃ sections, IsStableSort (·.order.toInt) t.sections sections ∧
    List.Forall₂ (DocumentEntry.Accounts r ctx) sections d.entries
  content : d.content = String.join ((d.ofClass .included).map (·.content))
  total : d.entries.length = d.included.length + d.excludedIds.length + d.failedIds.length
  included : d.included = d.ofClass .included
  excludedIds : d.excludedIds = (d.ofClass .excluded).map (·.id)
  failedIds : d.failedIds = (d.ofClass .failed).map (·.id)

variable {e : DocumentEntry} {entries : List DocumentEntry} {c : SectionClass} {d : Document}
  {r : Markup.Renderer} {visualizer : Visualizer} {templateId : String} {ctx : Context}
  {s : CompiledSection} {t : CompiledTemplate}

/-! ### Classes as a document tells them apart -/

namespace DocumentEntry

/-- The two marks of an entry tell its class. -/
theorem Is.marks (h : e.Is c) :
    e.isIncluded = decide (e.Is .included) ∧ e.isExcluded = decide (e.Is .excluded) ∧
      e.isFailed = decide (e.Is .failed) := by
  simp only [h.iff]
  cases c with
  | included => simp [isExcluded, isFailed, h.1, h.2]
  | excluded => simp [isExcluded, isFailed, h.1, h.2.1]
  | failed => simp [isExcluded, isFailed, h.1, Option.isSome_iff_ne_none, h.2.1]

end DocumentEntry

namespace Document

variable (h : ∀ e ∈ d.entries, ∃ c, e.Is c)

include h

theorem included_eq : d.included = d.ofClass .included :=
  List.filter_congr fun e he => (h e he).choose_spec.marks.1

theorem excludedIds_eq : d.excludedIds = (d.ofClass .excluded).map (·.id) :=
  congrArg _ (List.filter_congr fun e he => (h e he).choose_spec.marks.2.1)

theorem failedIds_eq : d.failedIds = (d.ofClass .failed).map (·.id) :=
  congrArg _ (List.filter_congr fun e he => (h e he).choose_spec.marks.2.2)

end Document

/-! ### Tallies -/

namespace DocumentCounts

theorem ofEntries_nil : ofEntries [] = {} := rfl

/-- One more entry is one more section of its class. -/
theorem ofEntries_cons (h : e.Is c) (entries : List DocumentEntry) :
    ofEntries (e :: entries) = one c + ofEntries entries := by
  simp only [ofEntries, List.countP_cons, h.iff, add_def]
  cases c <;> simp [one, oneIncluded, oneExcluded, oneFailed, Nat.add_comm]

theorem ofEntries_perm {entries' : List DocumentEntry} (h : entries.Perm entries') :
    ofEntries entries = ofEntries entries' := by
  simp only [ofEntries, h.countP_eq]

/-- Every entry of a class is counted once. -/
theorem length_eq_ofEntries : ∀ entries : List DocumentEntry, (∀ e ∈ entries, ∃ c, e.Is c) →
    entries.length =
      (ofEntries entries).included + (ofEntries entries).excluded + (ofEntries entries).failed
  | [], _ => rfl
  | e :: rest, h => by
    obtain ⟨⟨c, hc⟩, hrest⟩ := List.forall_mem_cons.1 h
    have ih := length_eq_ofEntries rest hrest
    rw [ofEntries_cons hc, add_def, List.length_cons, ih]
    cases c <;> simp only [one, oneIncluded, oneExcluded, oneFailed] <;> omega

end DocumentCounts

/-- What the sections of a template add to the counts is the tally of their entries. -/
theorem foldl_counts_reports (r : Markup.Renderer) (visualizer : Visualizer) (templateId : String)
    (ctx : Context) : ∀ (sections : List CompiledSection) (start : DocumentCounts),
      (sections.map (·.report r visualizer templateId ctx)).foldl (fun sum s => sum + s.counts)
          start =
        start + .ofEntries (sections.map fun s => (s.report r visualizer templateId ctx).entry)
  | [], start => by simp [DocumentCounts.ofEntries_nil, DocumentCounts.add_def]
  | s :: rest, start => by
    obtain ⟨c, hclass, hcounts⟩ := s.exists_class_report r visualizer templateId ctx
    rw [List.map_cons, List.foldl_cons, foldl_counts_reports r visualizer templateId ctx rest,
      hcounts, List.map_cons, DocumentCounts.ofEntries_cons hclass, DocumentCounts.add_assoc]

/-! ### Documents -/

/-- The entry of a section accounts for it. -/
theorem CompiledSection.accounts_report :
    (s.report r visualizer templateId ctx).entry.Accounts r ctx s where
  isOf := isOf_report
  oneClass := by
    obtain ⟨c, hclass, -⟩ := s.exists_class_report r visualizer templateId ctx
    exact ⟨c, hclass, fun c' hclass' => hclass'.unique hclass⟩
  required := by
    intro hrequired hexcluded
    rw [(excluded_report hexcluded).1] at hrequired
    cases hrequired
  failed := failed_report_iff

/-- **A document accounts for its template.** -/
theorem Document.accounts_assemble (r : Markup.Renderer) (visualizer : Visualizer)
    (t : CompiledTemplate) (ctx : Context) :
    (Document.assemble t ((t.reports r visualizer ctx).map (·.entry))).Accounts r t ctx := by
  have hentries := entries_assemble r visualizer ctx t
  generalize hd : Document.assemble t ((t.reports r visualizer ctx).map (·.entry)) = d at hentries ⊢
  have hclasses : ∀ e ∈ d.entries, ∃ c, e.Is c := by
    intro e he
    rw [hentries, List.mem_map] at he
    obtain ⟨s, -, rfl⟩ := he
    obtain ⟨c, hclass, -⟩ := s.exists_class_report r visualizer t.id ctx
    exact ⟨c, hclass⟩
  have hincluded := included_eq hclasses
  have hexcluded := excludedIds_eq hclasses
  have hfailed := failedIds_eq hclasses
  refine ⟨⟨arranged t.sections, isStableSort_arranged t.sections, ?_⟩, ?_, ?_, hincluded,
    hexcluded, hfailed⟩
  · rw [hentries, List.forall₂_map_right_iff, List.forall₂_same]
    exact fun s _ => s.accounts_report
  · rw [content, hincluded]
  · rw [DocumentCounts.length_eq_ofEntries d.entries hclasses, hincluded, hexcluded, hfailed,
      List.length_map, List.length_map]
    simp only [DocumentCounts.ofEntries, ofClass, List.countP_eq_length_filter]

/-- The rules of a required section make no difference. -/
theorem CompiledSection.report_with_rules (h : s.required = true) (rules : RuleSet) :
    { s with rules }.report r visualizer templateId ctx =
      s.report r visualizer templateId ctx := by
  have hincludes : { s with rules }.includes r.helpers ctx = s.includes r.helpers ctx := by
    rw [includes, includes, if_pos h, if_pos h]
  have hrender : { s with rules }.render r visualizer ctx = s.render r visualizer ctx := by
    rw [render, render, hincludes]
  have hentry : ∀ outcome,
      DocumentEntry.ofSection { s with rules } outcome = DocumentEntry.ofSection s outcome := by
    intro outcome
    cases outcome <;> rfl
  simp only [report, hrender, hentry]

namespace Engine

/-- A document that is rendered raises the counters by what became of its sections. -/
theorem documents_render (h : checkContext t.id t.tier ctx = .ok ()) {engine after : Engine}
    (hrender : engine.render t ctx = (.ok d, after)) :
    after.documents = engine.documents + (.oneDocument + .ofEntries d.entries) := by
  rw [render_of_accepted h, Prod.mk.injEq, Except.ok.injEq] at hrender
  obtain ⟨rfl, rfl⟩ := hrender
  have hentries := entries_assemble engine.renderer engine.visualizer ctx t
  rw [hentries, DocumentCounts.ofEntries_perm ((isStableSort_arranged t.sections).perm.map _),
    ← foldl_counts_reports]
  rfl

/-- Other rules for a required section give the same document, and count the same. -/
theorem render_with_rules {engine : Engine} {before rest : List CompiledSection}
    (hsections : t.sections = before ++ s :: rest) (h : s.required = true) (rules : RuleSet) :
    engine.render { t with sections := before ++ { s with rules } :: rest } ctx =
      engine.render t ctx := by
  have hreports :
      { t with sections := before ++ { s with rules } :: rest }.reports engine.renderer
        engine.visualizer ctx = t.reports engine.renderer engine.visualizer ctx := by
    simp only [CompiledTemplate.reports, hsections, List.map_append, List.map_cons,
      CompiledSection.report_with_rules h]
  rw [render, render, renderDocument_eq, renderDocument_eq, hreports]
  rfl

/-- **Document accounting.** An accepted context always gives a document. It accounts for the
template, the counters of sections rise by its entries of each class and that of documents by one,
and the rules of required sections have no part in this. -/
theorem render_accounts (engine : Engine) (t : CompiledTemplate) (ctx : Context)
    (h : checkContext t.id t.tier ctx = .ok ()) :
    ∃ d after, engine.render t ctx = (.ok d, after) ∧
      d.Accounts engine.renderer t ctx ∧
      after.metrics.documents = engine.metrics.documents +
        { included := (d.ofClass .included).length
          excluded := (d.ofClass .excluded).length
          failed := (d.ofClass .failed).length
          documents := 1 } ∧
      ∀ before s rest rules, t.sections = before ++ s :: rest → s.required = true →
        engine.render { t with sections := before ++ { s with rules } :: rest } ctx =
          (.ok d, after) := by
  have hrender := render_of_accepted h engine
  refine ⟨_, _, hrender, Document.accounts_assemble engine.renderer engine.visualizer t ctx, ?_, ?_⟩
  · refine (documents_render h hrender).trans ?_
    simp only [DocumentCounts.ofEntries, Document.ofClass, List.countP_eq_length_filter,
      DocumentCounts.oneDocument, DocumentCounts.add_def, metrics, Nat.zero_add, Nat.add_zero]
  · intro before s rest rules hsections hrequired
    rw [render_with_rules hsections hrequired, hrender]

/-- A section that crashes is declared between one that is required and one that its rules exclude:
each is listed where it belongs and counted once, and the content is that of the required one. -/
theorem render_accounts_of_crash :
    let engine := (new {}).registerHelper "explode" fun _ => .crash "boom"
    let explode : Markup.Expression := .parse "explode".toList
    let facts : CompiledSection :=
      ⟨"facts", "Facts", .custom, 1, true, [], ⟨[⟨explode, .excludes, 0⟩]⟩, [.text "facts"]⟩
    let crash : CompiledSection :=
      ⟨"crash", "Crash", .custom, 0, false, [], ⟨[]⟩, [.expression "{{ explode }}" explode]⟩
    let hidden : CompiledSection :=
      ⟨"hidden", "Hidden", .custom, 1, false, [],
        ⟨[⟨.parse "metadata".toList, .excludes, 0⟩]⟩, [.text "hidden"]⟩
    let t : CompiledTemplate :=
      ⟨0, "report", "Report", "1", .professional, {}, [facts, crash, hidden], ⟨.low, 6, true, true⟩⟩
    let ctx : Context := .root (.map [("business_data", .bool true), ("metadata", .bool true)])
    ∃ d after, engine.render t ctx = (.ok d, after) ∧ d.Accounts engine.renderer t ctx ∧
      (d.included.map (·.id) = ["facts"] ∧ d.excludedIds = ["hidden"] ∧
        d.failedIds = ["crash"] ∧ d.content = "facts") ∧
      after.metrics.documents = { included := 1, excluded := 1, failed := 1, documents := 1 } := by
  intro engine explode facts crash hidden t ctx
  obtain ⟨d, after, hrender, haccounts, hcounts, -⟩ := render_accounts engine t ctx rfl
  have harranged : arranged t.sections = [crash, facts, hidden] := by
    simp [t, arranged, List.mergeSort, facts, crash, hidden]
  have hentries : d.entries = [crash, facts, hidden].map fun s =>
      (s.report engine.renderer engine.visualizer t.id ctx).entry := by
    rw [render_of_accepted rfl, Prod.mk.injEq, Except.ok.injEq] at hrender
    rw [← hrender.1, entries_assemble, harranged]
  have hlists : d.included.map (·.id) = ["facts"] ∧ d.excludedIds = ["hidden"] ∧
      d.failedIds = ["crash"] ∧ d.content = "facts" := by
    rw [Document.content, Document.included, Document.excludedIds, Document.failedIds, hentries]
    decide +kernel
  refine ⟨d, after, hrender, haccounts, hlists, ?_⟩
  -- the counters speak of the entries of each class, whose ids are the lists
  obtain ⟨hincluded, hexcluded, hfailed, -⟩ := hlists
  rw [haccounts.included] at hincluded
  rw [haccounts.excludedIds] at hexcluded
  rw [haccounts.failedIds] at hfailed
  have hone {entries : List DocumentEntry} {id : String} (h : entries.map (·.id) = [id]) :
      entries.length = 1 := by
    rw [← List.length_map (fun e : DocumentEntry => e.id), h, List.length_singleton]
  rw [hcounts, hone hincluded, hone hexcluded, hone hfailed]
  rfl

end Engine

end TieredReport
