/-
# Settings of an engine

Key definitions: `Settings`, `Settings.decode`.
-/
import TieredReport.Helper.Basic
import TieredReport.Json.Decode

namespace TieredReport

/-- Size of a cache and lifetime of its entries. -/
structure CacheSettings where
  maxSize : Nat := 1000
  lifetimeSeconds : Nat := 1800
  deriving DecidableEq

/-- Lifetime of compiled templates. -/
structure CompilerSettings where
  lifetimeSeconds : Nat := 3600
  deriving DecidableEq

/-- Defaults of the formatting helpers, and caps on nesting. -/
structure RenderSettings where
  locale : String := "en-US"
  currency : String := "USD"
  partialCap : Nat := 32
  blockCap : Nat := 64
  deriving DecidableEq

/-- The form of log lines. -/
structure LogSettings where
  format : String := "pretty"
  deriving DecidableEq

/-- The settings of an engine. -/
structure Settings where
  cache : CacheSettings := {}
  compiler : CompilerSettings := {}
  render : RenderSettings := {}
  log : LogSettings := {}
  deriving DecidableEq

/-- The defaults that the settings give to the formatting helpers. -/
def RenderSettings.formatDefaults (s : RenderSettings) : FormatDefaults := ⟨s.locale, s.currency⟩

namespace Settings

open Json (Decoder fieldOr nat64)

/-- Read settings for a cache. -/
def decodeCache : Decoder CacheSettings :=
  let standard : CacheSettings := {}
  Json.record "CacheConfig" (CacheSettings.mk
    <$> fieldOr "max_size" standard.maxSize (nat64 "usize")
    <*> fieldOr "default_ttl_seconds" standard.lifetimeSeconds (nat64 "u64"))

/-- Read settings for the compiler. -/
def decodeCompiler : Decoder CompilerSettings :=
  let standard : CompilerSettings := {}
  Json.record "CompilerConfig" (CompilerSettings.mk
    <$> fieldOr "cache_ttl_seconds" standard.lifetimeSeconds (nat64 "u64"))

/-- Read settings for rendering. -/
def decodeRender : Decoder RenderSettings :=
  let standard : RenderSettings := {}
  Json.record "RenderConfig" (RenderSettings.mk
    <$> fieldOr "default_locale" standard.locale Json.string
    <*> fieldOr "default_currency" standard.currency Json.string
    <*> fieldOr "max_partial_depth" standard.partialCap (nat64 "usize")
    <*> fieldOr "max_block_depth" standard.blockCap (nat64 "usize"))

/-- Read settings for the log. -/
def decodeLog : Decoder LogSettings :=
  let standard : LogSettings := {}
  Json.record "LogConfig" (LogSettings.mk <$> fieldOr "format" standard.format Json.string)

/-- Read settings. -/
def decode : Decoder Settings :=
  Json.record "Settings" (Settings.mk
    <$> fieldOr "cache" {} decodeCache
    <*> fieldOr "compiler" {} decodeCompiler
    <*> fieldOr "render" {} decodeRender
    <*> fieldOr "log" {} decodeLog)

end Settings

end TieredReport
