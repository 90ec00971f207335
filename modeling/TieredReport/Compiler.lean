/-
# Compiling templates

To compile a template is to check its structure, find the markup of every
section and parse it, and put the rules in order. What was built is cached
under the id and version of the template; while it is there, a request for the
same key is answered from the cache, whatever else its definition says.

Key definitions: `CompiledSection`, `CompiledTemplate`, `Compiler`, `Compiler.build`,
`Compiler.compile`, `Compiler.compileJson`, `Compiler.clear`.
-/
import TieredReport.Markup.Tree
import TieredReport.Metrics
import TieredReport.Template.Definition
import TieredReport.Template.Profile
import TieredReport.Template.Stock
import TieredReport.Template.Structure

namespace TieredReport

/-- A section that is ready to be rendered. -/
structure CompiledSection where
  id : String
  title : String
  kind : SectionKind
  order : Int32
  required : Bool
  charts : List Chart
  rules : RuleSet
  nodes : List Markup.Node

/-- A template that is ready to be rendered. `serial` counts the compilations before the one that
built it, which tells it apart from every other. -/
structure CompiledTemplate where
  serial : Nat
  id : String
  name : String
  version : String
  tier : Tier
  styling : Styling
  sections : List CompiledSection
  profile : Profile

/-- The markup of a section: its own, or the stock markup of its kind. -/
def Section.markupFor? (tier : Tier) (s : Section) : Option String :=
  s.markup.orElse fun _ => Stock.markup? tier s.kind

/-- A section with its markup parsed. -/
def CompiledSection.ofSection (s : Section) (nodes : List Markup.Node) : CompiledSection :=
  ⟨s.id, s.title, s.kind, s.order, s.required, s.charts, .ofRules s.rules, nodes⟩

/-- The cache of compiled templates, the cap on nested blocks, and the counters. -/
structure Compiler where
  blockCap : Nat
  /-- How long a compiled template is kept, in microseconds. -/
  lifetime : Nat
  cache : Cache CompiledTemplate
  compilations : Nat
  counts : CompileCounts

namespace Compiler

/-- A compiler that has compiled nothing. -/
def new (blockCap maxSize cacheLifetime lifetime : Nat) : Compiler :=
  ⟨blockCap, lifetime, .empty maxSize cacheLifetime, 0, {}⟩

/-- Parse the markup of each section in turn, up to the first that has none; also the number of
blocks that were too deep. -/
def buildSections (cap : Nat) (tier : Tier) :
    List Section → Except CompilationCause (List CompiledSection) × Nat
  | [] => (.ok [], 0)
  | s :: rest =>
    match s.markupFor? tier with
    | none => (.error (.noMarkup s.id s.kind.name), 0)
    | some markup =>
      let parsed := Markup.parse cap markup
      let (sections, tooDeep) := buildSections cap tier rest
      (sections.map (.ofSection s parsed.nodes :: ·), parsed.tooDeep + tooDeep)

/-- Build a template; also the number of blocks that were too deep. -/
def build (cap serial : Nat) (t : Template) : Except CompilationCause CompiledTemplate × Nat :=
  match t.fault? with
  | some cause => (.error cause, 0)
  | none =>
    let (sections, tooDeep) := buildSections cap t.tier t.sections
    (sections.map fun sections =>
      ⟨serial, t.id, t.name, t.version, t.tier, t.styling, sections, .ofTemplate t⟩, tooDeep)

/-- A request that the cache answers. -/
def countHit (c : Compiler) : Compiler := { c with counts := { c.counts with hits := c.counts.hits + 1 } }

/-- A request that the cache does not answer. -/
def countMiss (c : Compiler) : Compiler :=
  { c with counts := { c.counts with misses := c.counts.misses + 1 } }

/-- A request that is refused. -/
def countFailure (c : Compiler) : Compiler :=
  { c with counts := { c.counts with failures := c.counts.failures + 1 } }

/-- Blocks that were too deep. -/
def countTooDeep (c : Compiler) (n : Nat) : Compiler :=
  { c with counts := { c.counts with tooDeep := c.counts.tooDeep + n } }

/-- A template that was built: it is counted and kept. -/
def keep (now : Nat) (key : String) (compiled : CompiledTemplate) (c : Compiler) : Compiler :=
  { c with
    compilations := c.compilations + 1
    counts := { c.counts with compiled := c.counts.compiled + 1 }
    cache := c.cache.set now key compiled (some c.lifetime) }

/-- Compile a template that the cache does not have. -/
def compileNew (now : Nat) (t : Template) (c : Compiler) :
    Except CompilationError CompiledTemplate × Compiler :=
  let (built, tooDeep) := build c.blockCap c.compilations t
  let c := c.countMiss.countTooDeep tooDeep
  match built with
  | .error cause => (.error ⟨t.id, cause⟩, c.countFailure)
  | .ok compiled => (.ok compiled, c.keep now t.cacheKey compiled)

/-- The compiled form of a template, from the cache or newly built. -/
def compile (now : Nat) (t : Template) (c : Compiler) :
    Except CompilationError CompiledTemplate × Compiler :=
  let (found, cache) := c.cache.get now t.cacheKey
  let c := { c with cache }
  match found with
  | some compiled => (.ok compiled, c.countHit)
  | none => c.compileNew now t

/-- The id that a definition gives, whether it can be read or not. -/
def definitionId (j : Json) : String := ((j.member? "id").bind Json.text?).getD "<unknown>"

/-- The compiled form of a template given by its definition. -/
def compileJson (now : Nat) (j : Json) (c : Compiler) :
    Except CompilationError CompiledTemplate × Compiler :=
  match Template.decode j with
  | .error e => (.error ⟨definitionId j, .malformed e.message⟩, c.countFailure)
  | .ok t => c.compile now t

/-- Forget every compiled template and the statistics of the cache. -/
def clear (c : Compiler) : Compiler := { c with cache := c.cache.clear }

end Compiler

end TieredReport
