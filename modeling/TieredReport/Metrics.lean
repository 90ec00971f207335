/-
# Counters of an engine

Key definitions: `CompileCounts`, `DocumentCounts`, `Metrics`, `Metrics.exposition`.
-/
import TieredReport.Cache
import TieredReport.Markup.Run

namespace TieredReport

/-- Requests to compile: built, served from the cache, not found there, refused; and the blocks
that were too deep in the markup that was parsed. -/
structure CompileCounts where
  compiled : Nat := 0
  hits : Nat := 0
  misses : Nat := 0
  failures : Nat := 0
  tooDeep : Nat := 0
  deriving DecidableEq

/-- Sections by what became of them, documents, and contexts that were refused. -/
structure DocumentCounts where
  included : Nat := 0
  excluded : Nat := 0
  failed : Nat := 0
  documents : Nat := 0
  refused : Nat := 0
  deriving DecidableEq

namespace DocumentCounts

instance : Add DocumentCounts where
  add a b :=
    ⟨a.included + b.included, a.excluded + b.excluded, a.failed + b.failed,
      a.documents + b.documents, a.refused + b.refused⟩

/-- One included section. -/
def oneIncluded : DocumentCounts := { included := 1 }

/-- One excluded section. -/
def oneExcluded : DocumentCounts := { excluded := 1 }

/-- One section that could not be rendered. -/
def oneFailed : DocumentCounts := { failed := 1 }

/-- One document. -/
def oneDocument : DocumentCounts := { documents := 1 }

/-- One refused context. -/
def oneRefused : DocumentCounts := { refused := 1 }

theorem add_def (a b : DocumentCounts) : a + b =
    ⟨a.included + b.included, a.excluded + b.excluded, a.failed + b.failed,
      a.documents + b.documents, a.refused + b.refused⟩ := rfl

theorem add_assoc (a b c : DocumentCounts) : a + b + c = a + (b + c) := by
  simp only [add_def, Nat.add_assoc]

theorem add_comm (a b : DocumentCounts) : a + b = b + a := by
  simp only [add_def, Nat.add_comm]

end DocumentCounts

/-- Everything that is counted. -/
structure Metrics where
  compiles : CompileCounts := {}
  cache : CacheCounts := {}
  documents : DocumentCounts := {}
  failures : Failures := {}
  deriving DecidableEq

namespace Metrics

/-- A counter with a label. -/
def labelled (name label value : String) : String :=
  name ++ "\x7b" ++ label ++ "=\"" ++ value ++ "\"\x7d"

/-- The counters by name, for a cache of this name. -/
def exposition (m : Metrics) (cacheName : String) : List (String × Nat) :=
  let sections := labelled "sections_rendered_total" "status"
  let evaluation := labelled "evaluation_failures_total" "kind"
  [("templates_compiled_total", m.compiles.compiled),
    ("compile_cache_hits_total", m.compiles.hits),
    ("compile_cache_misses_total", m.compiles.misses),
    ("compile_failures_total", m.compiles.failures),
    (labelled "cache_evictions_total" "cache" cacheName, m.cache.evictions),
    (labelled "cache_expirations_total" "cache" cacheName, m.cache.expirations),
    (sections "included", m.documents.included),
    (sections "excluded", m.documents.excluded),
    (sections "failed", m.documents.failed),
    ("section_render_latency_seconds_count", m.documents.included),
    ("documents_rendered_total", m.documents.documents),
    ("context_validation_failures_total", m.documents.refused),
    (evaluation "helper", m.failures.helper),
    (evaluation "partial", m.failures.missing),
    (evaluation "depth", m.failures.depth + m.compiles.tooDeep)]

/-- The counters that are not zero. -/
def nonzero (m : Metrics) (cacheName : String) : List (String × Nat) :=
  (m.exposition cacheName).filter fun c => c.2 ≠ 0

end Metrics

end TieredReport
