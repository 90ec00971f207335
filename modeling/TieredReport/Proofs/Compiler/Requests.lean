/-
# Requests to a compiler

What a request to compile a template comes to depends on two things. The first
is whether the cache gives something under the key of the template. If it does
not, the second is whether the template can be built, which is a matter of the
template alone (`Template.Compilable`) and not of the cap on nested blocks or of
what was compiled before.

Key definitions: `Template.Compilable`, `Section.compiled`, `Compiler.Request`, `Compiler.answer`,
`Compiler.after`.
Key theorems: `Compiler.exists_build_iff`, `Compiler.buildSections_eq_ok`, `Compiler.build_eq_ok`,
`Compiler.compile_of_cached`, `Compiler.compile_of_built`, `Compiler.compile_of_refused`,
`Compiler.Request.malformed_or_clear`.
-/
import TieredReport.Compiler

namespace TieredReport

/-- A template can be compiled if its structure has no fault and each of its sections has markup. -/
def Template.Compilable (t : Template) : Prop :=
  t.fault? = none ∧ ∀ s ∈ t.sections, (s.markupFor? t.tier).isSome = true

/-- A section of a template of some tier as it is compiled, with at most `cap` blocks open. -/
def Section.compiled (cap : Nat) (tier : Tier) (s : Section) : CompiledSection :=
  .ofSection s (Markup.parse cap ((s.markupFor? tier).getD "")).nodes

namespace Compiler

variable {c : Compiler} {t : Template} {compiled : CompiledTemplate} {now : Nat}

/-! ### Building -/

/-- Sections are built if and only if each has markup. -/
theorem exists_buildSections_iff (cap : Nat) (tier : Tier) : ∀ sections : List Section,
    (∃ built, (buildSections cap tier sections).1 = .ok built) ↔
      ∀ s ∈ sections, (s.markupFor? tier).isSome = true
  | [] => by simp [buildSections]
  | s :: rest => by
    have ih := exists_buildSections_iff cap tier rest
    cases hmarkup : s.markupFor? tier with
    | none => simp [buildSections, hmarkup]
    | some markup =>
      rw [List.forall_mem_cons, hmarkup, ← ih]
      simp only [buildSections, hmarkup, Option.isSome_some, true_and]
      cases (buildSections cap tier rest).1 with
      | error cause => simp [Except.map]
      | ok built => simp [Except.map]

theorem build_of_fault {cause : CompilationCause} (h : t.fault? = some cause) (cap serial : Nat) :
    build cap serial t = (.error cause, 0) := by
  rw [build, h]

theorem build_of_no_fault (h : t.fault? = none) (cap serial : Nat) :
    (build cap serial t).1 = (buildSections cap t.tier t.sections).1.map fun sections =>
      ⟨serial, t.id, t.name, t.version, t.tier, t.styling, sections, .ofTemplate t⟩ := by
  rw [build, h]

/-- **What can be built.** -/
theorem exists_build_iff (cap serial : Nat) (t : Template) :
    (∃ compiled, (build cap serial t).1 = .ok compiled) ↔ t.Compilable := by
  rw [Template.Compilable, ← exists_buildSections_iff cap t.tier t.sections]
  cases hfault : t.fault? with
  | some cause => simp [build_of_fault hfault]
  | none =>
    rw [build_of_no_fault hfault]
    cases (buildSections cap t.tier t.sections).1 with
    | error cause => simp [Except.map]
    | ok built => simp [Except.map]

/-- What is built is the template, with its sections compiled. -/
theorem build_eq_ok {cap serial : Nat} (h : (build cap serial t).1 = .ok compiled) :
    ∃ sections, (buildSections cap t.tier t.sections).1 = .ok sections ∧ compiled =
      ⟨serial, t.id, t.name, t.version, t.tier, t.styling, sections, .ofTemplate t⟩ := by
  cases hfault : t.fault? with
  | some cause =>
    rw [build_of_fault hfault] at h
    cases h
  | none =>
    rw [build_of_no_fault hfault] at h
    cases hsections : (buildSections cap t.tier t.sections).1 with
    | error cause =>
      rw [hsections] at h
      cases h
    | ok sections =>
      rw [hsections] at h
      cases h
      exact ⟨sections, rfl, rfl⟩

/-! ### Compiling -/

/-- The compiler after its cache was asked for the key of a template. -/
def looked (now : Nat) (t : Template) (c : Compiler) : Compiler :=
  { c with cache := (c.cache.get now t.cacheKey).2 }

theorem compile_of_cached (h : (c.cache.get now t.cacheKey).1 = some compiled) :
    c.compile now t = (.ok compiled, (c.looked now t).countHit) := by
  simp [compile, looked, h]

theorem compile_of_built (h : (c.cache.get now t.cacheKey).1 = none)
    (hbuild : (build c.blockCap c.compilations t).1 = .ok compiled) :
    c.compile now t = (.ok compiled, (((c.looked now t).countMiss.countTooDeep
      (build c.blockCap c.compilations t).2).keep now t.cacheKey compiled)) := by
  simp [compile, compileNew, looked, h, hbuild]

theorem compile_of_refused {cause : CompilationCause}
    (h : (c.cache.get now t.cacheKey).1 = none)
    (hbuild : (build c.blockCap c.compilations t).1 = .error cause) :
    c.compile now t = (.error ⟨t.id, cause⟩, ((c.looked now t).countMiss.countTooDeep
      (build c.blockCap c.compilations t).2).countFailure) := by
  simp [compile, compileNew, looked, h, hbuild]

/-! ### Histories -/

/-- What can be asked of a compiler. -/
inductive Request where
  | compile (t : Template)
  | compileJson (j : Json)
  | clear

/-- The template that a request is for; none if its definition cannot be read. -/
def Request.template? : Request → Option Template
  | .compile t => some t
  | .compileJson j => (Template.decode j).toOption
  | .clear => none

/-- Answer a request at a time. To forget everything has no answer. -/
def answer (now : Nat) (c : Compiler) :
    Request → Option (Except CompilationError CompiledTemplate) × Compiler
  | .compile t => (some (c.compile now t).1, (c.compile now t).2)
  | .compileJson j => (some (c.compileJson now j).1, (c.compileJson now j).2)
  | .clear => (none, c.clear)

/-- Requests with their times, in order. -/
abbrev History := List (Nat × Request)

/-- The compiler after a history. -/
def after (c : Compiler) (history : History) : Compiler :=
  history.foldl (fun c r => (c.answer r.1 r.2).2) c

@[simp] theorem after_nil : c.after [] = c := rfl

@[simp] theorem after_append (c : Compiler) (history : History) (now : Nat) (r : Request) :
    c.after (history ++ [(now, r)]) = ((c.after history).answer now r).2 := by
  simp [after]

/-- A request for a template is answered as `compile` answers it. -/
theorem answer_of_template {r : Request} (h : r.template? = some t) :
    c.answer now r = (some (c.compile now t).1, (c.compile now t).2) := by
  cases r with
  | compile s =>
    cases h
    rfl
  | compileJson j =>
    cases hdecode : Template.decode j with
    | error e => simp [Request.template?, hdecode, Except.toOption] at h
    | ok s =>
      have hs : s = t := by simpa [Request.template?, hdecode, Except.toOption] using h
      subst hs
      simp [answer, compileJson, hdecode]
  | clear => simp [Request.template?] at h

/-- A definition that cannot be read is refused, and nothing but this is counted. -/
theorem answer_of_malformed {j : Json} {e : Json.DecodeError} (h : Template.decode j = .error e) :
    c.answer now (.compileJson j) =
      (some (.error ⟨definitionId j, .malformed e.message⟩), c.countFailure) := by
  simp [answer, compileJson, h]

/-- A request for no template gives a definition that cannot be read, or is to forget everything. -/
theorem Request.malformed_or_clear {r : Request} (h : r.template? = none) :
    (∃ j e, r = .compileJson j ∧ Template.decode j = .error e) ∨ r = .clear := by
  cases r with
  | compile s => cases h
  | compileJson j =>
    cases hdecode : Template.decode j with
    | error e => exact Or.inl ⟨j, e, rfl, hdecode⟩
    | ok s => simp [Request.template?, hdecode, Except.toOption] at h
  | clear => exact Or.inr rfl

/-- A request for no template leaves the cache as it is or empties it. -/
theorem cache_answer_of_no_template (now : Nat) (c : Compiler) {r : Request}
    (h : r.template? = none) :
    (c.answer now r).2.cache = c.cache ∨ (c.answer now r).2.cache = c.cache.clear := by
  rcases Request.malformed_or_clear h with ⟨j, e, rfl, hdecode⟩ | rfl
  · rw [answer_of_malformed hdecode]
    exact Or.inl rfl
  · exact Or.inr rfl

end Compiler

end TieredReport
