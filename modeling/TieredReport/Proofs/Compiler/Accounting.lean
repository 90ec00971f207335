/-
# What a compiler counts

A request to compile is answered from the cache, or it is built, or it is refused, or its definition
cannot be read. Each of these is counted in its own way, and over every history the counters are the
numbers of such requests (`Booked`, `booked_after`). Forgetting the compiled templates changes none of
them; only the statistics of the cache begin again, and since then they count the requests that were
answered from the cache and those that were not.

What ties the counters to each other is that the cache is asked once for each template, and that a
template which can be read is refused for other reasons than its definition
(`isMalformed_of_build`).

Key definitions: `CompilationCause.isMalformed`, `Compiler.Moment`, `Compiler.moments`,
`Compiler.Booked`.
Key theorems: `Compiler.isMalformed_of_build`, `Compiler.Posted.of_template`,
`Compiler.Booked.answer`, `Compiler.booked_after`.
-/
import TieredReport.Proofs.Cache.Accounting
import TieredReport.Proofs.Compiler.Requests

namespace TieredReport

/-! ### Definitions that cannot be read -/

/-- Whether a cause is that a definition cannot be read. -/
def CompilationCause.isMalformed : CompilationCause → Bool
  | .malformed _ => true
  | _ => false

theorem isMalformed_of_sectionFault? {cause : CompilationCause} :
    ∀ (position : Nat) (seen : List String) (sections : List Section),
      sectionFault? position seen sections = some cause → cause.isMalformed = false
  | _, _, [], h => by cases h
  | position, seen, s :: rest, h => by
    rw [sectionFault?] at h
    split_ifs at h
    · cases h
      rfl
    · cases h
      rfl
    · cases h
      rfl
    · exact isMalformed_of_sectionFault? _ _ rest h

theorem Template.isMalformed_of_fault? {t : Template} {cause : CompilationCause}
    (h : t.fault? = some cause) : cause.isMalformed = false := by
  unfold Template.fault? at h
  split_ifs at h
  · cases h
    rfl
  · cases h
    rfl
  · cases h
    rfl
  · cases h
    rfl
  · exact isMalformed_of_sectionFault? _ _ _ h

namespace Compiler

variable {c : Compiler} {now : Nat} {t : Template} {cause : CompilationCause}

theorem isMalformed_of_buildSections {cap : Nat} {tier : Tier} : ∀ {sections : List Section},
    (buildSections cap tier sections).1 = .error cause → cause.isMalformed = false
  | [], h => by cases h
  | s :: rest, h => by
    unfold buildSections at h
    cases hmarkup : s.markupFor? tier with
    | none =>
      rw [hmarkup] at h
      cases h
      rfl
    | some markup =>
      rw [hmarkup] at h
      cases hrest : (buildSections cap tier rest).1 with
      | error cause' =>
        simp only [hrest] at h
        cases h
        exact isMalformed_of_buildSections hrest
      | ok built =>
        simp only [hrest] at h
        cases h

/-- **A template that is there is not refused for its definition.** -/
theorem isMalformed_of_build {cap serial : Nat} (h : (build cap serial t).1 = .error cause) :
    cause.isMalformed = false := by
  cases hfault : t.fault? with
  | some cause' =>
    rw [build_of_fault hfault] at h
    cases h
    exact Template.isMalformed_of_fault? hfault
  | none =>
    rw [build_of_no_fault hfault] at h
    cases hsections : (buildSections cap t.tier t.sections).1 with
    | error cause' =>
      rw [hsections] at h
      cases h
      exact isMalformed_of_buildSections hsections
    | ok sections =>
      rw [hsections] at h
      cases h

/-! ### Moments -/

/-- A request at a time, and the compiler that it found. -/
abbrev Moment := Compiler × (Nat × Request)

/-- The moments of a history, the last one first. -/
def moments (c : Compiler) (history : History) : List Moment :=
  TieredReport.moments (fun c r => (c.answer r.1 r.2).2) c history

namespace Moment

/-- What the compiler says. -/
def answer (m : Moment) : Option (Except CompilationError CompiledTemplate) :=
  (m.1.answer m.2.1 m.2.2).1

/-- Every compiled template is forgotten. -/
def clears (m : Moment) : Bool :=
  match m.2.2 with
  | .clear => true
  | _ => false

/-- There is a template to compile: it is given, or its definition can be read. -/
def reads (m : Moment) : Bool := m.2.2.template?.isSome

/-- The cache has a compiled template under the key of the one to compile. -/
def hits (m : Moment) : Bool :=
  (m.2.2.template?.bind fun t => (m.1.cache.get m.2.1 t.cacheKey).1).isSome

/-- There is a template to compile, and the cache has nothing under its key. -/
def misses (m : Moment) : Bool := m.reads && !m.hits

/-- A compiled template is given that the cache did not have. -/
def builds (m : Moment) : Bool :=
  match m.answer with
  | some (.ok _) => !m.hits
  | _ => false

/-- The request is refused. -/
def fails (m : Moment) : Bool :=
  match m.answer with
  | some (.error _) => true
  | _ => false

/-- The request is refused for another reason than a definition that cannot be read. -/
def rejects (m : Moment) : Bool :=
  match m.answer with
  | some (.error e) => !e.cause.isMalformed
  | _ => false

variable {m : Moment}

/-- A request that is given a template is not refused, and the template is new unless the cache had
it. -/
theorem of_ok {compiled : CompiledTemplate} (h : m.answer = some (.ok compiled)) :
    m.builds = !m.hits ∧ m.fails = false ∧ m.rejects = false := by
  simp [builds, fails, rejects, h]

/-- A request that is refused is given nothing. -/
theorem of_error {e : CompilationError} (h : m.answer = some (.error e)) :
    m.builds = false ∧ m.fails = true ∧ m.rejects = !e.cause.isMalformed := by
  simp [builds, fails, rejects, h]

end Moment

/-- The moments since the compiled templates were last forgotten. -/
def sinceClear (all : List Moment) : List Moment := since (·.clears) all

/-! ### One request -/

/-- What a request other than `clear` adds to the counters. -/
structure Posted (m : Moment) (c' : Compiler) : Prop where
  compilations : c'.compilations = m.1.compilations + if m.builds then 1 else 0
  compiled : c'.counts.compiled = m.1.counts.compiled + if m.builds then 1 else 0
  hits : c'.counts.hits = m.1.counts.hits + if m.hits then 1 else 0
  misses : c'.counts.misses = m.1.counts.misses + if m.misses then 1 else 0
  failures : c'.counts.failures = m.1.counts.failures + if m.fails then 1 else 0
  lookups : (if m.reads then 1 else 0) = (if m.hits then 1 else 0) + if m.misses then 1 else 0
  refused : (if m.misses then 1 else 0) = (if m.builds then 1 else 0) + if m.rejects then 1 else 0
  cacheHits : c'.cache.hits = m.1.cache.hits + if m.hits then 1 else 0
  cacheMisses : c'.cache.misses = m.1.cache.misses + if m.misses then 1 else 0

/-- **A request for a template**: it is answered from the cache, or built, or refused. -/
theorem Posted.of_template {r : Request} (hr : r.template? = some t) :
    Posted (c, now, r) (c.compile now t).2 := by
  have hanswer : Moment.answer (c, now, r) = some (c.compile now t).1 := by
    rw [Moment.answer, answer_of_template hr]
  have hreads : Moment.reads (c, now, r) = true := by
    simp [Moment.reads, hr]
  have hhits : Moment.hits (c, now, r) = (c.cache.get now t.cacheKey).1.isSome := by
    simp [Moment.hits, hr]
  obtain ⟨hcacheHits, hcacheMisses⟩ := Cache.lookups_get now t.cacheKey c.cache
  cases hget : (c.cache.get now t.cacheKey).1 with
  | some compiled =>
    rw [hget] at hhits hcacheHits hcacheMisses
    rw [compile_of_cached hget] at hanswer ⊢
    obtain ⟨hbuilds, hfails, hrejects⟩ := Moment.of_ok hanswer
    constructor <;> simp [Moment.misses, hbuilds, hfails, hrejects, hreads, hhits, looked, countHit,
      hcacheHits, hcacheMisses]
  | none =>
    rw [hget] at hhits hcacheHits hcacheMisses
    cases hbuild : (build c.blockCap c.compilations t).1 with
    | error cause =>
      rw [compile_of_refused hget hbuild] at hanswer ⊢
      obtain ⟨hbuilds, hfails, hrejects⟩ := Moment.of_error hanswer
      have hcause : cause.isMalformed = false := isMalformed_of_build hbuild
      constructor <;> simp [Moment.misses, hbuilds, hfails, hrejects, hcause, hreads, hhits, looked,
        countMiss, countTooDeep, countFailure, hcacheHits, hcacheMisses]
    | ok compiled =>
      rw [compile_of_built hget hbuild] at hanswer ⊢
      obtain ⟨hbuilds, hfails, hrejects⟩ := Moment.of_ok hanswer
      constructor <;> simp [Moment.misses, hbuilds, hfails, hrejects, hreads, hhits, looked, countMiss,
        countTooDeep, keep, Cache.lookups_set, hcacheHits, hcacheMisses]

/-- A definition that cannot be read is refused, and nothing else is counted. -/
theorem Posted.of_malformed {j : Json} (hj : (Template.decode j).toOption = none) :
    Posted (c, now, .compileJson j) (c.answer now (.compileJson j)).2 := by
  cases hdecode : Template.decode j with
  | ok t => simp [hdecode, Except.toOption] at hj
  | error e =>
    have hreads : Moment.reads (c, now, .compileJson j) = false := by
      simp [Moment.reads, Request.template?, hj]
    have hhits : Moment.hits (c, now, .compileJson j) = false := by
      simp [Moment.hits, Request.template?, hj]
    have hanswer : Moment.answer (c, now, .compileJson j) =
        some (.error ⟨definitionId j, .malformed e.message⟩) := by
      simp [Moment.answer, Compiler.answer, compileJson, hdecode]
    have hafter : (c.answer now (.compileJson j)).2 = c.countFailure := by
      simp [Compiler.answer, compileJson, hdecode]
    obtain ⟨hbuilds, hfails, hrejects⟩ := Moment.of_error hanswer
    rw [hafter]
    constructor <;> simp [Moment.misses, hbuilds, hfails, hrejects, hreads, hhits, countFailure,
      CompilationCause.isMalformed]

/-- **Every request but `clear` is counted for what it is.** -/
theorem Posted.answer (c : Compiler) (now : Nat) {r : Request}
    (hr : Moment.clears (c, now, r) = false) : Posted (c, now, r) (c.answer now r).2 := by
  cases htemplate : r.template? with
  | some t =>
    rw [answer_of_template htemplate]
    exact .of_template htemplate
  | none =>
    cases r with
    | compile t => cases htemplate
    | compileJson j => exact .of_malformed htemplate
    | clear => cases hr

/-! ### Histories -/

/-- The accounts of a compiler over a history: how many templates were built, how many requests were
answered from the cache, were not, and were refused, and how these numbers go together. The cache
counts since its entries were last forgotten. -/
structure Booked (c : Compiler) (all : List Moment) : Prop where
  compilations : c.compilations = c.counts.compiled
  compiled : c.counts.compiled = all.countP (·.builds)
  hits : c.counts.hits = all.countP (·.hits)
  misses : c.counts.misses = all.countP (·.misses)
  failures : c.counts.failures = all.countP (·.fails)
  lookups : c.counts.hits + c.counts.misses = all.countP (·.reads)
  refused : c.counts.misses = c.counts.compiled + all.countP (·.rejects)
  cacheHits : c.cache.stats.hits = (sinceClear all).countP (·.hits)
  cacheMisses : c.cache.stats.misses = (sinceClear all).countP (·.misses)

variable {all : List Moment}

theorem Booked.posted {c' : Compiler} (h : Booked c all) {r : Nat × Request}
    (hr : Moment.clears (c, r) = false) (hposted : Posted (c, r) c') :
    Booked c' ((c, r) :: all) := by
  have hsince : sinceClear ((c, r) :: all) = (c, r) :: sinceClear all :=
    since_cons_of_not_reset hr all
  obtain ⟨hcompilations, hcompiled, hhits, hmisses, hfailures, hlookups, hrefused, hcacheHits,
    hcacheMisses⟩ := hposted
  have holdLookups := h.lookups
  have holdRefused := h.refused
  dsimp only at hcompilations hcompiled hhits hmisses hfailures hcacheHits hcacheMisses
  constructor
  case compilations => rw [hcompilations, hcompiled, h.compilations]
  case compiled => rw [hcompiled, List.countP_cons, h.compiled]
  case hits => rw [hhits, List.countP_cons, h.hits]
  case misses => rw [hmisses, List.countP_cons, h.misses]
  case failures => rw [hfailures, List.countP_cons, h.failures]
  case lookups =>
    rw [hhits, hmisses, List.countP_cons]
    omega
  case refused =>
    rw [hmisses, hcompiled, List.countP_cons]
    omega
  case cacheHits =>
    rw [hsince, List.countP_cons, ← h.cacheHits]
    exact hcacheHits
  case cacheMisses =>
    rw [hsince, List.countP_cons, ← h.cacheMisses]
    exact hcacheMisses

/-- To forget the compiled templates is counted nowhere, and the statistics of the cache begin
again. -/
theorem Booked.clear (h : Booked c all) (now : Nat) : Booked c.clear ((c, now, .clear) :: all) := by
  have hsince : sinceClear ((c, now, .clear) :: all) = [] := since_cons_of_reset rfl all
  constructor
  case cacheHits => rw [hsince]; rfl
  case cacheMisses => rw [hsince]; rfl
  case compilations => exact h.compilations
  case compiled => exact h.compiled
  case hits => exact h.hits
  case misses => exact h.misses
  case failures => exact h.failures
  case lookups => exact h.lookups
  case refused => exact h.refused

/-- **One more request.** -/
theorem Booked.answer (h : Booked c all) (now : Nat) (r : Request) :
    Booked (c.answer now r).2 ((c, now, r) :: all) := by
  cases hclears : Moment.clears (c, now, r) with
  | true =>
    cases r with
    | clear => exact h.clear now
    | _ => cases hclears
  | false => exact h.posted hclears (.answer c now hclears)

/-- **A compiler keeps its accounts.** After every history of requests to a new compiler, with
whatever time between them, its counters are the numbers of templates that were built, of requests
that the cache answered and did not answer, and of requests that were refused; one request for a
template in a definition that can be read is one look-up, and one that the cache does not answer is
built or refused for something else than its definition. To forget the compiled templates changes
nothing of this. -/
theorem booked_after (blockCap maxSize cacheLifetime lifetime : Nat) (history : History) :
    let new := Compiler.new blockCap maxSize cacheLifetime lifetime
    let c := new.after history
    Booked c (new.moments history) ∧
      ∀ now, (c.answer now .clear).2.compilations = c.compilations ∧
        (c.answer now .clear).2.counts = c.counts := by
  intro new c
  refine ⟨?_, fun now => ⟨rfl, rfl⟩⟩
  have hbooked (history : History) : Booked (new.after history) (new.moments history) := by
    induction history using List.reverseRecOn with
    | nil => constructor <;> rfl
    | append_singleton history r ih =>
      obtain ⟨now, r⟩ := r
      have hmoments : new.moments (history ++ [(now, r)]) =
          (new.after history, now, r) :: new.moments history :=
        moments_append _ new history (now, r)
      rw [after_append, hmoments]
      exact ih.answer now r
  exact hbooked history

/-- A template is built, is found in the cache, has expired and is refused for its new name; a
definition that cannot be read is refused without a look-up. -/
example :
    let t : Template := ⟨"r", "Report", "1", .professional,
      [⟨"text", "Text", .custom, 0, true, [], some "text", []⟩], {}, none⟩
    let c := (new 64 10 1800 100).after [(0, .compile t), (60, .compile t),
      (120, .compile { t with name := " " }), (130, .compileJson .null)]
    c.compilations = 1 ∧ c.counts.hits = 1 ∧ c.counts.misses = 2 ∧ c.counts.failures = 2 ∧
      (c.cache.hits = 1 ∧ c.cache.misses = 2) := by
  decide +kernel

end Compiler

end TieredReport
