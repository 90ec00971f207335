/-
# Which templates are compiled, and why the others are refused

A template is refused for the first of its violations (`Template.violations`): first what is wrong
with the template itself, then with its sections one by one, then the sections that have no markup.
Two walks through the sections look for these. The first one remembers the ids it has seen, and is
over before the second one begins; so a section without markup is named only where nothing else is
wrong with any section (`head?_violations_of_build`). What both walks let through is said without
them by `Template.Sound` (`compilable_iff_sound`).

A refusal leaves no trace but in the counters: at most an expired entry under the key of the template
is gone from the cache (`mem_looked_iff`).

Key definitions: `Text.Blank`, `Template.Sound`, `Template.violations`.
Key theorems: `sectionFault?_eq_head?`, `Template.fault?_eq_head?`,
`Compiler.head?_violations_of_build`, `Template.compilable_iff_sound`,
`Template.violations_eq_nil_iff`, `Compiler.compile_verdict`.
-/
import TieredReport.Proofs.Cache.Entries
import TieredReport.Proofs.Compiler.Requests
import TieredReport.Proofs.Text.Trim

namespace TieredReport

namespace Text

/-- Nothing is left of a text when it is trimmed. -/
def Blank (s : String) : Prop := trim s.toList = []

instance (s : String) : Decidable (Blank s) := inferInstanceAs (Decidable (trim s.toList = []))

theorem allBlank_eq_true_iff {s : String} : allBlank s = true ↔ Blank s :=
  trim_eq_nil_iff.symm

end Text

/-! ### What is asked of a template -/

/-- A template that can be compiled: its id, its name and its version are not blank; there is a
section; each section has an id and a title that are not blank, an id of its own, and markup of its
own or stock markup for the tier. -/
structure Template.Sound (t : Template) : Prop where
  id : ¬ Text.Blank t.id
  name : ¬ Text.Blank t.name
  version : ¬ Text.Blank t.version
  sections : t.sections ≠ []
  sectionIds : ∀ s ∈ t.sections, ¬ Text.Blank s.id
  titles : ∀ s ∈ t.sections, ¬ Text.Blank s.title
  distinct : (t.sections.map (·.id)).Nodup
  markup : ∀ s ∈ t.sections, s.markup.isSome = true ∨ (Stock.markup? t.tier s.kind).isSome = true

/-- A cause, if what it says is the case. -/
def CompilationCause.given (cause : CompilationCause) (p : Prop) [Decidable p] :
    List CompilationCause :=
  if p then [cause] else []

/-- The violations in a section at a position, behind some other sections. -/
def Section.violations (position : Nat) (earlier : List Section) (s : Section) :
    List CompilationCause :=
  CompilationCause.given (.missingSectionId position) (Text.Blank s.id) ++
    CompilationCause.given (.missingSectionTitle s.id) (Text.Blank s.title) ++
    CompilationCause.given (.duplicateSectionId s.id) (s.id ∈ earlier.map (·.id))

/-- The violation that a section has no markup, neither its own nor stock markup for the tier. -/
def Section.markupViolations (tier : Tier) (s : Section) : List CompilationCause :=
  CompilationCause.given (.noMarkup s.id s.kind.name)
    (s.markup = none ∧ Stock.markup? tier s.kind = none)

/-- The violations in the structure of a template, in the order in which they are reported. -/
def Template.structureViolations (t : Template) : List CompilationCause :=
  CompilationCause.given .missingId (Text.Blank t.id) ++
    CompilationCause.given .missingName (Text.Blank t.name) ++
    CompilationCause.given .missingVersion (Text.Blank t.version) ++
    CompilationCause.given .noSections (t.sections = []) ++
    t.sections.zipIdx.flatMap fun s => s.1.violations s.2 (t.sections.take s.2)

/-- All violations of a template, in the order in which they are reported. -/
def Template.violations (t : Template) : List CompilationCause :=
  t.structureViolations ++ t.sections.flatMap (·.markupViolations t.tier)

/-- The first cause of some is the one in front, if what it says is the case. -/
theorem head?_given_append (cause : CompilationCause) (p : Prop) [Decidable p]
    (others : List CompilationCause) :
    (cause.given p ++ others).head? = if p then some cause else others.head? := by
  unfold CompilationCause.given
  split <;> rfl

/-! ### The walk through the structure -/

/-- **The first fault of sections is the first of their violations.** The ids that were seen are
those of the sections before. -/
theorem sectionFault?_eq_head? : ∀ (earlier rest : List Section) (seen : List String),
    (∀ id, id ∈ seen ↔ id ∈ earlier.map (·.id)) →
    sectionFault? earlier.length seen rest =
      ((rest.zipIdx earlier.length).flatMap fun s =>
        s.1.violations s.2 ((earlier ++ rest).take s.2)).head?
  | _, [], _, _ => rfl
  | earlier, s :: rest, seen, hseen => by
    have ih := sectionFault?_eq_head? (earlier ++ [s]) rest (s.id :: seen) fun id => by
      simp [hseen, or_comm]
    rw [List.length_append, List.length_singleton, List.append_assoc, List.singleton_append] at ih
    rw [sectionFault?, List.zipIdx_cons, List.flatMap_cons, List.take_left, Section.violations,
      List.append_assoc, List.append_assoc, head?_given_append, head?_given_append,
      head?_given_append, ih]
    simp only [Text.allBlank_eq_true_iff, List.contains_iff_mem, hseen]

/-- **The first fault of a template is the first violation in its structure.** -/
theorem Template.fault?_eq_head? (t : Template) : t.fault? = t.structureViolations.head? := by
  have hsections := sectionFault?_eq_head? [] t.sections [] (by simp)
  rw [List.length_nil, List.nil_append] at hsections
  simp only [fault?, structureViolations, List.append_assoc, head?_given_append, hsections,
    Text.allBlank_eq_true_iff, List.isEmpty_iff]

/-- Sections have no fault if all are filled and no id comes twice, among them or before. -/
theorem sectionFault?_eq_none_iff : ∀ (position : Nat) (seen : List String) (sections : List Section),
    sectionFault? position seen sections = none ↔
      (∀ s ∈ sections, ¬ Text.Blank s.id ∧ ¬ Text.Blank s.title ∧ s.id ∉ seen) ∧
        (sections.map (·.id)).Nodup
  | _, _, [] => by simp [sectionFault?]
  | position, seen, s :: rest => by
    have ih := sectionFault?_eq_none_iff (position + 1) (s.id :: seen) rest
    simp only [sectionFault?, Text.allBlank_eq_true_iff, List.contains_iff_mem]
    split_ifs with hid htitle hseen
    · simp [hid]
    · simp [htitle]
    · simp [hseen]
    · rw [ih, List.forall_mem_cons, List.map_cons, List.nodup_cons]
      simp only [List.mem_cons, List.mem_map]
      constructor
      · rintro ⟨hrest, hnodup⟩
        refine ⟨⟨⟨hid, htitle, hseen⟩, fun s' hs' => ?_⟩, ?_, hnodup⟩
        · obtain ⟨hid', htitle', hnew⟩ := hrest s' hs'
          exact ⟨hid', htitle', fun h => hnew (Or.inr h)⟩
        · rintro ⟨s', hs', heq⟩
          exact (hrest s' hs').2.2 (Or.inl heq)
      · rintro ⟨⟨-, hrest⟩, hother, hnodup⟩
        refine ⟨fun s' hs' => ?_, hnodup⟩
        obtain ⟨hid', htitle', hnew⟩ := hrest s' hs'
        refine ⟨hid', htitle', ?_⟩
        rintro (heq | h)
        · exact hother ⟨s', hs', heq⟩
        · exact hnew h

/-! ### The walk through the markup -/

/-- A section has markup if there is its own or stock markup for the tier. -/
theorem Section.markupFor?_isSome_iff (tier : Tier) (s : Section) :
    (s.markupFor? tier).isSome = true ↔
      s.markup.isSome = true ∨ (Stock.markup? tier s.kind).isSome = true := by
  unfold Section.markupFor?
  cases s.markup with
  | none => simp
  | some markup => simp

theorem Section.markupFor?_eq_none_iff (tier : Tier) (s : Section) :
    s.markupFor? tier = none ↔ s.markup = none ∧ Stock.markup? tier s.kind = none := by
  unfold Section.markupFor?
  cases s.markup with
  | none => simp
  | some markup => simp

/-- What the second walk stops at is the first section without markup. -/
theorem Compiler.head?_of_buildSections {cap : Nat} {tier : Tier} {cause : CompilationCause} :
    ∀ {sections : List Section}, (buildSections cap tier sections).1 = .error cause →
      (sections.flatMap (·.markupViolations tier)).head? = some cause
  | [], h => by cases h
  | s :: rest, h => by
    rw [List.flatMap_cons, Section.markupViolations, head?_given_append]
    have hnone := s.markupFor?_eq_none_iff tier
    cases hmarkup : s.markupFor? tier with
    | none =>
      rw [buildSections, hmarkup] at h
      cases h
      rw [if_pos (hnone.1 hmarkup)]
    | some markup =>
      rw [if_neg (by rw [← hnone, hmarkup]; simp)]
      cases hrest : (buildSections cap tier rest).1 with
      | error cause' =>
        simp only [buildSections, hmarkup, hrest] at h
        cases h
        exact head?_of_buildSections hrest
      | ok built =>
        simp only [buildSections, hmarkup, hrest] at h
        cases h

/-! ### Verdicts -/

/-- **What can be compiled**, without the order in which it is looked at. -/
theorem Template.compilable_iff_sound (t : Template) : t.Compilable ↔ t.Sound := by
  have hfault : t.fault? = none ↔ ¬ Text.Blank t.id ∧ ¬ Text.Blank t.name ∧
      ¬ Text.Blank t.version ∧ t.sections ≠ [] ∧ sectionFault? 0 [] t.sections = none := by
    simp only [fault?, Text.allBlank_eq_true_iff, List.isEmpty_iff]
    split_ifs <;> simp [*]
  rw [Compilable, hfault, sectionFault?_eq_none_iff]
  simp only [Section.markupFor?_isSome_iff]
  constructor
  · rintro ⟨⟨hid, hname, hversion, hsections, hfilled, hdistinct⟩, hmarkup⟩
    exact ⟨hid, hname, hversion, hsections, fun s hs => (hfilled s hs).1,
      fun s hs => (hfilled s hs).2.1, hdistinct, hmarkup⟩
  · intro h
    exact ⟨⟨h.id, h.name, h.version, h.sections,
      fun s hs => ⟨h.sectionIds s hs, h.titles s hs, List.not_mem_nil⟩, h.distinct⟩, h.markup⟩

/-- A template without violations is a sound one. -/
theorem Template.violations_eq_nil_iff (t : Template) : t.violations = [] ↔ t.Sound := by
  have hmarkup (s : Section) :
      s.markupViolations t.tier = [] ↔ (s.markupFor? t.tier).isSome = true := by
    rw [Option.isSome_iff_ne_none, ne_eq, s.markupFor?_eq_none_iff, Section.markupViolations,
      CompilationCause.given, ite_eq_right_iff]
    simp
  rw [← t.compilable_iff_sound, Compilable, t.fault?_eq_head?, List.head?_eq_none_iff, violations,
    List.append_eq_nil_iff, List.flatMap_eq_nil_iff]
  simp only [hmarkup]

namespace Compiler

variable {c : Compiler} {t : Template} {now : Nat} {cause : CompilationCause}

/-- **A template is refused for the first of its violations.** -/
theorem head?_violations_of_build {cap serial : Nat} (h : (build cap serial t).1 = .error cause) :
    t.violations.head? = some cause := by
  rw [Template.violations, List.head?_append, ← t.fault?_eq_head?]
  cases hfault : t.fault? with
  | some cause' =>
    rw [build_of_fault hfault] at h
    cases h
    rfl
  | none =>
    rw [build_of_no_fault hfault] at h
    cases hsections : (buildSections cap t.tier t.sections).1 with
    | error cause' =>
      rw [hsections] at h
      cases h
      rw [Option.none_or]
      exact head?_of_buildSections hsections
    | ok sections =>
      rw [hsections] at h
      cases h

/-- The cache is asked for a key that has no live entry. -/
theorem get_eq_none (hlive : ∀ e, (t.cacheKey, e) ∈ c.cache.entries → e.expired now = true) :
    (c.cache.get now t.cacheKey).1 = none := by
  cases hfind : c.cache.find? t.cacheKey with
  | none => rw [Cache.get_of_none hfind]
  | some e => rw [Cache.get_of_expired hfind (hlive e (Cache.mem_of_find? hfind))]

/-- **What a look-up in vain leaves**: all entries of other keys, and none under the one that was
asked for. -/
theorem mem_looked_iff (hlive : ∀ e, (t.cacheKey, e) ∈ c.cache.entries → e.expired now = true)
    (x : String) (f : CacheEntry CompiledTemplate) :
    (x, f) ∈ (c.looked now t).cache.entries ↔ x ≠ t.cacheKey ∧ (x, f) ∈ c.cache.entries := by
  unfold looked
  cases hfind : c.cache.find? t.cacheKey with
  | none =>
    rw [Cache.get_of_none hfind]
    refine ⟨fun h => ⟨?_, h⟩, And.right⟩
    rintro rfl
    exact Cache.not_mem_of_find? hfind f h
  | some e =>
    rw [Cache.get_of_expired hfind (hlive e (Cache.mem_of_find? hfind))]
    exact Cache.mem_without

/-- **The verdict on a template that is not cached.** It is compiled if and only if it is sound.
Otherwise it is refused under its id for the first of its violations; then nothing counts as
compiled, every entry under another key is what it was, and there is none under its own. -/
theorem compile_verdict (c : Compiler) (now : Nat) (t : Template)
    (hlive : ∀ e, (t.cacheKey, e) ∈ c.cache.entries → e.expired now = true) :
    ((∃ compiled, (c.compile now t).1 = .ok compiled) ↔ t.Sound) ∧
      ∀ e, (c.compile now t).1 = .error e →
        (e.templateId = t.id ∧ t.violations.head? = some e.cause) ∧
        (c.compile now t).2.compilations = c.compilations ∧
        ∀ x f, (x, f) ∈ (c.compile now t).2.cache.entries ↔
          x ≠ t.cacheKey ∧ (x, f) ∈ c.cache.entries := by
  have hnone := get_eq_none hlive
  rw [← t.compilable_iff_sound, ← exists_build_iff c.blockCap c.compilations t]
  cases hbuild : (build c.blockCap c.compilations t).1 with
  | error cause =>
    rw [compile_of_refused hnone hbuild]
    refine ⟨by simp, ?_⟩
    rintro e ⟨⟩
    exact ⟨⟨rfl, head?_violations_of_build hbuild⟩, rfl, mem_looked_iff hlive⟩
  | ok compiled =>
    rw [compile_of_built hnone hbuild]
    refine ⟨by simp, ?_⟩
    rintro e ⟨⟩

/-- A template with four violations comes after the lifetime of a sound one with its key: the first of
the four is reported, the old entry goes, and the entry of another template stays. -/
theorem compile_verdict_of_expired :
    let sound : Template := ⟨"r", "Report", "1", .professional,
      [⟨"text", "Text", .custom, 0, true, [], some "text", []⟩], {}, none⟩
    let other : Template := { sound with id := "s" }
    let faulty : Template := { sound with
      name := " "
      sections := [⟨"text", "Text", .custom, 0, true, [], none, []⟩,
        ⟨"text", "", .custom, 1, true, [], some "text", []⟩] }
    let c := (new 64 10 1800 100).after [(0, .compile sound), (60, .compile other)]
    (∀ e, (faulty.cacheKey, e) ∈ c.cache.entries → e.expired 150 = true) ∧
      faulty.violations = [.missingName, .missingSectionTitle "text", .duplicateSectionId "text",
        .noMarkup "text" "custom"] ∧
      ∃ e, (c.compile 150 faulty).1 = .error e ∧ e.templateId = "r" ∧ e.cause = .missingName ∧
        (c.compile 150 faulty).2.compilations = 2 ∧
        ("r:1" ∈ c.cache.entries.map (·.1) ∧
          "r:1" ∉ (c.compile 150 faulty).2.cache.entries.map (·.1)) ∧
        ∃ f, ("s:1", f) ∈ c.cache.entries ∧
          ("s:1", f) ∈ (c.compile 150 faulty).2.cache.entries := by
  intro sound other faulty c
  have hentries : ∀ p ∈ c.cache.entries, p.1 = "r:1" → p.2.expired 150 = true := by
    decide +kernel
  have hlive : ∀ e, (faulty.cacheKey, e) ∈ c.cache.entries → e.expired 150 = true :=
    fun e he => hentries _ he rfl
  have hviolations : faulty.violations = [.missingName, .missingSectionTitle "text",
      .duplicateSectionId "text", .noMarkup "text" "custom"] := by
    decide +kernel
  have hstored : "r:1" ∈ c.cache.entries.map (·.1) ∧ "s:1" ∈ c.cache.entries.map (·.1) := by
    decide +kernel
  obtain ⟨hsound, hrefused⟩ := compile_verdict c 150 faulty hlive
  refine ⟨hlive, hviolations, ?_⟩
  cases hcompile : (c.compile 150 faulty).1 with
  | ok compiled => exact absurd (by decide +kernel) (hsound.1 ⟨compiled, hcompile⟩).name
  | error e =>
    obtain ⟨⟨hid, hcause⟩, hcompilations, hframe⟩ := hrefused e hcompile
    rw [hviolations] at hcause
    obtain ⟨⟨_, f⟩, hf, rfl⟩ := List.mem_map.1 hstored.2
    have htwo : c.compilations = 2 := by decide +kernel
    refine ⟨e, rfl, hid, (Option.some.inj hcause).symm, hcompilations.trans htwo,
      ⟨hstored.1, ?_⟩, f, hf, ?_⟩
    · intro hr
      obtain ⟨⟨x, g⟩, hg, hx⟩ := List.mem_map.1 hr
      exact ((hframe x g).1 hg).1 hx
    · exact (hframe _ f).2 ⟨by decide, hf⟩

end Compiler

end TieredReport
