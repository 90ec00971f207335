/-
# Sections keep to themselves

What becomes of a section depends on the section, the context and the
registries, and on no other section. So if one section takes the place of
another, whatever it does, the document has one other entry, and the remaining
entries are those of the document without either (`Engine.render_isolates`).

Entries are put in order by the places of their sections. Where no two sections
have one place, it does not matter in which order a template declares them: the
document is the same, and so is everything that the engine counts. The counts
are sums over the sections, and sums do not depend on the order
(`foldl_of_perm`).

The reason of a failed entry names the task that crashed, by a number that is left open
(`CompiledSection.crashReason`): failed entries are the same here if they differ in that number only.

Key definition: `Document.Adds`.
Key theorems: `arranged_insert`, `exists_adds`, `foldl_of_perm`, `Engine.render_of_perm`,
`Engine.render_isolates`.
-/
import TieredReport.Proofs.Document.Reports

namespace TieredReport

/-- A document has the entries of another one, in their order, and somewhere among them one of a
section. -/
def Document.Adds (d : Document) (s : CompiledSection) (rest : Document) : Prop :=
  ∃ front x back, d.entries = front ++ x :: back ∧ x.IsOf s ∧ rest.entries = front ++ back

variable {r : Markup.Renderer} {visualizer : Visualizer} {ctx : Context} {t : CompiledTemplate}
  {before after sections : List CompiledSection} {s : CompiledSection}

/-! ### One section among others -/

/-- A section is put somewhere among the others, which stand as they do without it. -/
theorem arranged_insert (before after : List CompiledSection) (s : CompiledSection) :
    ∃ front back, arranged (before ++ s :: after) = front ++ s :: back ∧
      arranged (before ++ after) = front ++ back := by
  obtain ⟨front, back, harranged, hothers⟩ := (isStableSort_arranged (before ++ s :: after)).split
  exact ⟨front, back, harranged, (isStableSort_arranged (before ++ after)).unique hothers⟩

/-- **A section adds its entry** to the document of the others. -/
theorem exists_adds (h : checkContext t.id t.tier ctx = .ok ()) (e : Engine)
    (before after : List CompiledSection) (s : CompiledSection) :
    ∃ rest d, (e.render { t with sections := before ++ after } ctx).1 = .ok rest ∧
      (e.render { t with sections := before ++ s :: after } ctx).1 = .ok d ∧ d.Adds s rest := by
  let entry := fun s : CompiledSection => (s.report e.renderer e.visualizer t.id ctx).entry
  have hrender : ∀ sections, ∃ d, (e.render { t with sections } ctx).1 = .ok d ∧
      d.entries = (arranged sections).map entry := by
    intro sections
    have haccepted : checkContext { t with sections }.id { t with sections }.tier ctx = .ok () := h
    refine ⟨_, congrArg Prod.fst (e.render_of_accepted haccepted), ?_⟩
    exact entries_assemble e.renderer e.visualizer ctx { t with sections }
  obtain ⟨rest, hrest, hrestEntries⟩ := hrender (before ++ after)
  obtain ⟨d, hd, hdEntries⟩ := hrender (before ++ s :: after)
  obtain ⟨front, back, harranged, hothers⟩ := arranged_insert before after s
  refine ⟨rest, d, hrest, hd, front.map entry, entry s, back.map entry, ?_, ?_, ?_⟩
  · rw [hdEntries, harranged, List.map_append, List.map_cons]
  · exact CompiledSection.isOf_report
  · rw [hrestEntries, hothers, List.map_append]

/-! ### Sections in another order -/

/-- Sections that are given in another order are put in the same one, where no two have one place. -/
theorem arranged_of_perm (hperm : sections.Perm t.sections)
    (hplaces : (t.sections.map (·.order)).Nodup) : arranged sections = arranged t.sections := by
  have hkeys : (t.sections.map (·.order.toInt)).Nodup := by
    have hinj : Function.Injective Int32.toInt := fun _ _ => Int32.toInt.inj
    have hmap := hplaces.map hinj
    rwa [List.map_map] at hmap
  have hsorted := (isStableSort_arranged t.sections).of_perm hperm hkeys
  exact (isStableSort_arranged sections).unique hsorted

/-- **Reports in another order** come to the same counts and failures. -/
theorem foldl_of_perm {reports reports' : List SectionReport} (h : reports.Perm reports')
    (counts : DocumentCounts) (failures : Failures) :
    reports.foldl (fun sum s => sum + s.counts) counts =
      reports'.foldl (fun sum s => sum + s.counts) counts ∧
    reports.foldl (fun sum s => sum + s.failures) failures =
      reports'.foldl (fun sum s => sum + s.failures) failures := by
  constructor
  · apply h.foldl_eq'
    intro x _ y _ sum
    rw [DocumentCounts.add_assoc, DocumentCounts.add_comm x.counts, ← DocumentCounts.add_assoc]
  · apply h.foldl_eq'
    intro x _ y _ sum
    rw [Failures.add_assoc, Failures.add_comm x.failures, ← Failures.add_assoc]

namespace Engine

/-- **A template in another order** gives the same document and leaves the same engine, where no two
sections have one place. -/
theorem render_of_perm (h : checkContext t.id t.tier ctx = .ok ()) (e : Engine)
    (hperm : sections.Perm t.sections) (hplaces : (t.sections.map (·.order)).Nodup) :
    e.render { t with sections } ctx = e.render t ctx := by
  let t' : CompiledTemplate := { t with sections }
  let reports' := t'.reports e.renderer e.visualizer ctx
  let reports := t.reports e.renderer e.visualizer ctx
  have haccepted : checkContext t'.id t'.tier ctx = .ok () := h
  have hreports : reports'.Perm reports := hperm.map _
  have hentries : (Document.assemble t' (reports'.map (·.entry))).entries =
      (Document.assemble t (reports.map (·.entry))).entries := by
    rw [entries_assemble, entries_assemble, arranged_of_perm hperm hplaces]
  have hdocument : Document.assemble t' (reports'.map (·.entry)) =
      Document.assemble t (reports.map (·.entry)) :=
    congrArg (Document.mk t.id t.version t.styling) hentries
  obtain ⟨hcounts, hfailures⟩ := foldl_of_perm hreports .oneDocument .none
  calc e.render t' ctx = (.ok (.assemble t' (reports'.map (·.entry))), { e with
          documents := e.documents + reports'.foldl (fun sum s => sum + s.counts) .oneDocument
          failures := e.failures + reports'.foldl (fun sum s => sum + s.failures) .none }) :=
        render_of_accepted haccepted e
    _ = (.ok (.assemble t (reports.map (·.entry))), { e with
          documents := e.documents + reports.foldl (fun sum s => sum + s.counts) .oneDocument
          failures := e.failures + reports.foldl (fun sum s => sum + s.failures) .none }) := by
        rw [hdocument, hcounts, hfailures]
    _ = e.render t ctx := (render_of_accepted h e).symm

/-- **Section isolation and order independence.** Whichever section takes the place of one in a
template, the document has an entry of that section and the entries that the other sections have
without it. If no two sections have one place, every order of them gives the same document, and the
engine counts the same. Failed entries are compared up to the numbers of their tasks. -/
theorem render_isolates (e : Engine) (t : CompiledTemplate) (ctx : Context)
    (h : checkContext t.id t.tier ctx = .ok ()) :
    (∀ before s s' after, t.sections = before ++ s :: after →
      ∃ rest d d', (e.render { t with sections := before ++ after } ctx).1 = .ok rest ∧
        (e.render t ctx).1 = .ok d ∧
        (e.render { t with sections := before ++ s' :: after } ctx).1 = .ok d' ∧
        d.Adds s rest ∧ d'.Adds s' rest) ∧
    ∀ sections, sections.Perm t.sections → (t.sections.map (·.order)).Nodup →
      e.render { t with sections } ctx = e.render t ctx := by
  constructor
  · intro before s s' after hsections
    obtain ⟨rest, d, hrest, hd, hadds⟩ := exists_adds h e before after s
    obtain ⟨rest', d', hrest', hd', hadds'⟩ := exists_adds h e before after s'
    have heq : rest = rest' := Except.ok.inj (hrest.symm.trans hrest')
    subst heq
    rw [← hsections] at hd
    exact ⟨rest, d, d', hrest, hd, hd', hadds, hadds'⟩
  · intro sections hperm hplaces
    exact render_of_perm h e hperm hplaces

/-- A section that crashes takes the place of another one, and is declared before its neighbour. -/
theorem render_isolates_crash :
    let e := (new {}).registerHelper "explode" fun _ => .crash "boom"
    let explode : Markup.Expression := .parse "explode".toList
    let facts : CompiledSection :=
      ⟨"facts", "Facts", .custom, 2, true, [], ⟨[]⟩, [.text "facts"]⟩
    let notes : CompiledSection :=
      ⟨"notes", "Notes", .custom, 1, false, [], ⟨[]⟩, [.text "notes"]⟩
    let crash : CompiledSection :=
      ⟨"crash", "Crash", .custom, 3, false, [], ⟨[⟨explode, .excludes, 0⟩]⟩,
        [.expression "{{ explode }}" explode]⟩
    let t : CompiledTemplate :=
      ⟨0, "report", "Report", "1", .professional, {}, [facts, notes], ⟨.low, 4, true, true⟩⟩
    let ctx : Context := .root (.map [("business_data", .bool true), ("metadata", .bool true)])
    (∃ rest d d', (e.render { t with sections := [facts] } ctx).1 = .ok rest ∧
      (e.render t ctx).1 = .ok d ∧ (e.render { t with sections := [facts, crash] } ctx).1 = .ok d' ∧
      d.Adds notes rest ∧ d'.Adds crash rest) ∧
    e.render { t with sections := [notes, facts] } ctx = e.render t ctx := by
  intro e explode facts notes crash t ctx
  obtain ⟨hreplaced, hreordered⟩ := render_isolates e t ctx rfl
  constructor
  · exact hreplaced [facts] notes crash [] rfl
  · have hplaces : (t.sections.map (·.order)).Nodup := by decide
    exact hreordered [notes, facts] (.swap facts notes []) hplaces

end Engine

end TieredReport
