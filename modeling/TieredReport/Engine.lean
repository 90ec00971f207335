/-
# The engine

An engine holds settings, a helper and a partial registry, a visualizer and a
compiler. Helpers and partials are looked up when markup is rendered, so what
is registered later counts also for templates that were compiled before. Every
operation gives its result and the engine after it, and is told the time in
microseconds where that matters.

Key definitions: `Engine`, `Engine.new`, `Engine.renderMarkup`, `Engine.compile`,
`Engine.compileJson`, `Engine.render`, `Engine.renderJson`, `Engine.metrics`.
-/
import TieredReport.Document.Render
import TieredReport.Settings.Basic

namespace TieredReport

/-- A template engine. -/
structure Engine where
  settings : Settings
  helpers : HelperRegistry
  partials : Markup.PartialRegistry
  visualizer : Visualizer
  compiler : Compiler
  documents : DocumentCounts
  failures : Failures

/-- What came of a request that compiles and renders. -/
inductive RequestError where
  | compilation (e : CompilationError)
  | context (e : ContextError)

/-- The wording of a failed request. -/
def RequestError.message : RequestError → String
  | .compilation e => e.message
  | .context e => e.message

namespace Engine

/-- Microseconds in a second. -/
def second : Nat := 1000000

/-- The compiler that settings ask for. -/
def compilerFor (s : Settings) : Compiler :=
  .new s.render.blockCap s.cache.maxSize (s.cache.lifetimeSeconds * second)
    (s.compiler.lifetimeSeconds * second)

/-- An engine with registries and a visualizer of its own. -/
def withParts (settings : Settings) (helpers : HelperRegistry) (partials : Markup.PartialRegistry)
    (visualizer : Visualizer) : Engine :=
  ⟨settings, helpers, partials, visualizer, compilerFor settings, {}, .none⟩

/-- The partial registry that settings ask for. -/
def partialsFor (s : Settings) : Markup.PartialRegistry := .empty s.render.blockCap

/-- An engine with the built-in helpers, no partials and placeholders for charts. -/
def new (settings : Settings) : Engine :=
  withParts settings (.standard settings.render.formatDefaults) (partialsFor settings) placeholder

/-- The name of the cache of compiled templates. -/
def cacheName : String := "compiled_templates"

/-- Everything that was counted. -/
def metrics (e : Engine) : Metrics :=
  { compiles := e.compiler.counts, cache := e.compiler.cache.total, documents := e.documents,
    failures := e.failures }

/-- Count some failures. -/
def countFailures (e : Engine) (failures : Failures) : Engine :=
  { e with failures := e.failures + failures }

/-- What markup is rendered with at this moment. -/
def renderer (e : Engine) : Markup.Renderer :=
  ⟨e.helpers, e.partials, e.settings.render.partialCap, e.settings.render.blockCap⟩

/-- Bind a name to a custom helper. -/
def registerHelper (e : Engine) (name : String) (run : List Value → Reply) : Engine :=
  { e with helpers := e.helpers.register name run }

/-- Drop the helper of a name. -/
def unregisterHelper (e : Engine) (name : String) : Engine :=
  { e with helpers := e.helpers.unregister name }

/-- Parse a partial and bind its name to it. -/
def registerPartial (e : Engine) (name source : String) : Engine :=
  let (partials, tooDeep) := e.partials.register name source
  { e with partials }.countFailures (.tooDeep tooDeep)

/-- Drop the partial of a name. -/
def removePartial (e : Engine) (name : String) : Engine :=
  { e with partials := e.partials.remove name }

/-- Render a source that belongs to no template; the reason where a helper crashes. -/
def renderMarkup (e : Engine) (source : String) (ctx : Context) : Except String String × Engine :=
  let run := e.renderer.renderSource ctx source
  (run.outcome, e.countFailures run.failures)

/-- Whether a compiled section appears at this moment; the reason where a helper crashes. -/
def includesSection (e : Engine) (s : CompiledSection) (ctx : Context) :
    Except String Bool × Engine :=
  let run := s.includes e.helpers ctx
  (run.outcome, e.countFailures run.failures)

/-- The content of a compiled section at this moment; the reason where a helper crashes. -/
def renderSection (e : Engine) (s : CompiledSection) (ctx : Context) :
    Except String String × Engine :=
  let run := e.renderer.render ctx s.nodes
  (run.outcome, e.countFailures run.failures)

/-- Compile a template. -/
def compile (e : Engine) (now : Nat) (t : Template) :
    Except CompilationError CompiledTemplate × Engine :=
  let (result, compiler) := e.compiler.compile now t
  (result, { e with compiler })

/-- Compile a template given by its definition. -/
def compileJson (e : Engine) (now : Nat) (j : Json) :
    Except CompilationError CompiledTemplate × Engine :=
  let (result, compiler) := e.compiler.compileJson now j
  (result, { e with compiler })

/-- Render a document. -/
def render (e : Engine) (t : CompiledTemplate) (ctx : Context) :
    Except ContextError Document × Engine :=
  match renderDocument e.renderer e.visualizer t ctx with
  | .error error => (.error error, { e with documents := e.documents + .oneRefused })
  | .ok (d, counts, failures) =>
    (.ok d, { e with documents := e.documents + counts }.countFailures failures)

/-- Render a document from data, which has to be an object. -/
def renderJson (e : Engine) (t : CompiledTemplate) (data : Json) :
    Except ContextError Document × Engine :=
  match contextOfJson data with
  | .error error => (.error error, e)
  | .ok ctx => e.render t ctx

/-- Compile a template and render its document. -/
def compileAndRender (e : Engine) (now : Nat) (t : Template) (ctx : Context) :
    Except RequestError Document × Engine :=
  match e.compile now t with
  | (.error error, e) => (.error (.compilation error), e)
  | (.ok compiled, e) =>
    let (result, e) := e.render compiled ctx
    (result.mapError .context, e)

/-- Forget every compiled template. -/
def clearCache (e : Engine) : Engine := { e with compiler := e.compiler.clear }

end Engine

end TieredReport
