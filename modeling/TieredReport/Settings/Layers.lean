/-
# Settings from files and the environment

Settings are laid over one another: the defaults, then files, then variables of
the environment. A layer is a tree of tables; laid over another one it replaces
single settings and merges tables. Values are read leniently: a text may stand
for a number or a truth value for a count, and any scalar for a text. Names do
not distinguish case.

Key definitions: `Setting`, `Setting.overlay`, `Setting.insertAt`, `SettingsError`,
`Settings.defaults`, `Settings.withVariables`, `Settings.withFile?`, `Settings.ofTree`.
-/
import TieredReport.Json.Reader
import TieredReport.Settings.Basic

namespace TieredReport

/-- A tree of settings. A leaf knows where it was set. -/
inductive Setting where
  | leaf (origin : Option String) (j : Json)
  | table (entries : List (String × Setting))

namespace Setting

/-- A table without entries. -/
def emptyTable : Setting := .table []

/-- The entries of a table; anything else has none. -/
def entries : Setting → Fields Setting
  | .table entries => entries
  | .leaf _ _ => []

mutual

/-- Lay a setting over another one: tables are merged, a leaf replaces what was there. An empty
table changes nothing. -/
def overlay (base : Setting) : Setting → Setting
  | .leaf origin j => .leaf origin j
  | .table [] => base
  | .table (e :: rest) => .table (overlayEntries base.entries (e :: rest))

/-- Lay the entries of a table over those of another one. -/
def overlayEntries (base : Fields Setting) : List (String × Setting) → Fields Setting
  | [] => base
  | (name, s) :: rest =>
    let below := (Fields.get? base name).getD emptyTable
    overlayEntries (Fields.insert base name (overlay below s)) rest

end

/-- Lay a setting over the one at a path. What stands in the way and is no table becomes one. -/
def insertAt (base : Setting) : (path : List String) → Setting → Setting
  | [], s => base.overlay s
  | name :: path, s =>
    let below := (Fields.get? base.entries name).getD emptyTable
    .table (Fields.insert base.entries name (below.insertAt path s))

/-- A name as settings are looked up. -/
def nameKey (s : List Char) : String := String.ofList (Text.lower s)

mutual

/-- A JSON value from a file as a setting. -/
def ofJson (origin : String) : Json → Setting
  | .object members => .table (ofMembers origin members)
  | j => .leaf (some origin) j

/-- The members of an object as entries. -/
def ofMembers (origin : String) : List (String × Json) → Fields Setting
  | [] => []
  | (name, j) :: rest => Fields.insert (ofMembers origin rest) (nameKey name.toList) (ofJson origin j)

end

/-- The path that a dotted name leads along; a name that is no path of plain words is one word. -/
def pathOf (name : List Char) : List String :=
  let words := Text.splitOn '.' name
  let plain := words.all fun w =>
    !w.isEmpty && w.all fun c => c.isAlphanum || c == '_' || c == '-'
  if plain then words.map nameKey else [nameKey name]

end Setting

/-! ### Reading settings leniently -/

/-- Why settings are refused. -/
inductive SettingsError where
  /-- A setting is of the wrong type. -/
  | wrongType (found expected : String) (key : List String) (origin : Option String)
  /-- Something else stands where a group of settings is expected. -/
  | noGroup (found group : String)
  /-- A file cannot be read as settings. -/
  | badFile (name : String)

/-- The wording of a refusal. -/
def SettingsError.message : SettingsError → String
  | .wrongType found expected key origin =>
    "invalid type: " ++ found ++ ", expected " ++ expected ++ " for key " ++
      Json.ticked (".".intercalate key) ++
      match origin with
      | some origin => " in " ++ origin
      | none => ""
  | .noGroup found group => "invalid type: " ++ found ++ ", expected struct " ++ group
  | .badFile name => s!"{name} holds no settings"

/-- A reader of a setting, given its key. -/
abbrev SettingReader (α : Type) := (key : List String) → Setting → Except SettingsError α

namespace Setting

/-- A number without exponent and with a fraction. -/
def fractionText (x : Float) : String :=
  let text := Number.plainText x
  String.ofList (if x.isFinite && !text.contains '.' then text ++ ['.', '0'] else text)

/-- A setting as a message names it. -/
def found : Setting → String
  | .table _ => "map"
  | .leaf _ (.integer n) => "64-bit integer " ++ Json.ticked (String.ofList (Number.intText n))
  | .leaf _ (.float x) => "floating point " ++ Json.ticked (String.ofList (Number.plainText x))
  | .leaf _ .null => "unit value"
  | .leaf _ j => Json.describe j

/-- A setting as a message names it where a group is expected. -/
def foundForGroup : Setting → String
  | .leaf _ (.integer n) => Json.describe (.integer n)
  | .leaf _ (.float x) => "floating point " ++ Json.ticked (fractionText x)
  | s => s.found

/-- Where a setting was set. -/
def origin? : Setting → Option String
  | .leaf origin _ => origin
  | .table _ => none

/-- A setting of the wrong type. -/
def refuse {α : Type} (s : Setting) (expected : String) (key : List String) :
    Except SettingsError α :=
  .error (.wrongType s.found expected key s.origin?)

/-- A number rounded to the nearest natural number of 64 bits, halves away from zero. -/
def roundedNat (x : Float) : Nat :=
  if Number.signBit x then 0
  else
    match Number.magnitude x with
    | .notANumber => 0
    | .infinite => Number.maxNat64
    | .finite m q =>
      let halves := Number.floorScaled m (q + 1)
      min Number.maxNat64 ((halves + 1) / 2)

/-- The count that a text stands for: digits, or a word for a truth value. -/
def countOfText? (s : String) : Option Nat :=
  let word := nameKey s.toList
  if ["true", "on", "yes"].contains word then some 1
  else if ["false", "off", "no"].contains word then some 0
  else Number.nat? Number.maxNat64 s.toList

/-- A natural number. -/
def count : SettingReader Nat := fun key s =>
  match s with
  | .leaf _ (.bool b) => .ok (if b then 1 else 0)
  | .leaf _ (.integer n) =>
    if n < 0 then s.refuse "an unsigned 64 bit or less integer" key
    else if n ≤ Int64.maxValue.toInt then .ok n.toNat
    else .ok (roundedNat (Float.ofInt n))
  | .leaf _ (.float x) => .ok (roundedNat x)
  | .leaf _ (.text t) =>
    match countOfText? t with
    | some n => .ok n
    | none => s.refuse "an integer" key
  | _ => s.refuse "an integer" key

/-- A text. -/
def text : SettingReader String := fun key s =>
  match s with
  | .leaf _ (.text t) => .ok t
  | .leaf _ (.bool b) => .ok (if b then "true" else "false")
  | .leaf _ (.integer n) => .ok (String.ofList (Number.intText n))
  | .leaf _ (.float x) => .ok (String.ofList (Number.plainText x))
  | _ => s.refuse "a string" key

/-- The settings of a group by name: the entries of a table, or the items of an array in order,
further items aside. -/
def group (name : String) (names : List String) (s : Setting) :
    Except SettingsError (Fields Setting) :=
  match s with
  | .table entries => .ok entries
  | .leaf origin (.array items) => .ok (names.zip (items.map (.leaf origin)))
  | _ => .error (.noGroup s.foundForGroup name)

/-- A setting of a group, or `default` where it is not set. -/
def entry {α : Type} (fields : Fields Setting) (key : List String) (name : String) (default : α)
    (read : SettingReader α) : Except SettingsError α :=
  match Fields.get? fields name with
  | some s => read (key ++ [name]) s
  | none => .ok default

end Setting

namespace Settings

open Setting (count text group entry)

/-- The settings for a cache. -/
def readCache : SettingReader CacheSettings := fun key s => do
  let fields ← group "CacheConfig" ["max_size", "default_ttl_seconds"] s
  let standard : CacheSettings := {}
  let maxSize ← entry fields key "max_size" standard.maxSize count
  let lifetimeSeconds ← entry fields key "default_ttl_seconds" standard.lifetimeSeconds count
  return { maxSize, lifetimeSeconds }

/-- The settings for the compiler. -/
def readCompiler : SettingReader CompilerSettings := fun key s => do
  let fields ← group "CompilerConfig" ["cache_ttl_seconds"] s
  let standard : CompilerSettings := {}
  let lifetimeSeconds ← entry fields key "cache_ttl_seconds" standard.lifetimeSeconds count
  return { lifetimeSeconds }

/-- The settings for rendering. -/
def readRender : SettingReader RenderSettings := fun key s => do
  let names := ["default_locale", "default_currency", "max_partial_depth", "max_block_depth"]
  let fields ← group "RenderConfig" names s
  let standard : RenderSettings := {}
  let locale ← entry fields key "default_locale" standard.locale text
  let currency ← entry fields key "default_currency" standard.currency text
  let partialCap ← entry fields key "max_partial_depth" standard.partialCap count
  let blockCap ← entry fields key "max_block_depth" standard.blockCap count
  return { locale, currency, partialCap, blockCap }

/-- The settings for the log. -/
def readLog : SettingReader LogSettings := fun key s => do
  let fields ← group "LogConfig" ["format"] s
  let standard : LogSettings := {}
  let format ← entry fields key "format" standard.format text
  return { format }

/-- The settings in a tree. -/
def ofTree (s : Setting) : Except SettingsError Settings := do
  let fields ← group "Settings" ["cache", "compiler", "render", "log"] s
  let cache ← entry fields [] "cache" {} readCache
  let compiler ← entry fields [] "compiler" {} readCompiler
  let render ← entry fields [] "render" {} readRender
  let log ← entry fields [] "log" {} readLog
  return { cache, compiler, render, log }

/-! ### Layers -/

/-- The lowest layer. -/
def defaults : Setting :=
  let standard : Settings := {}
  let number := fun n => Setting.leaf none (.ofNat n)
  let text := fun s => Setting.leaf none (.text s)
  .table (Fields.ofList [
    ("cache", .table (Fields.ofList [("max_size", number standard.cache.maxSize),
      ("default_ttl_seconds", number standard.cache.lifetimeSeconds)])),
    ("compiler", .table [("cache_ttl_seconds", number standard.compiler.lifetimeSeconds)]),
    ("render", .table (Fields.ofList [("default_locale", text standard.render.locale),
      ("default_currency", text standard.render.currency),
      ("max_partial_depth", number standard.render.partialCap),
      ("max_block_depth", number standard.render.blockCap)])),
    ("log", .table [("format", text standard.log.format)])])

/-- The beginning of the names of variables that hold settings. -/
def variableStart : List Char := "report_engine__".toList

/-- The value of a variable: a truth value, an integer, a number, or else a text. -/
def variableValue (s : String) : Json :=
  let word := Setting.nameKey s.toList
  if word = "true" then .bool true
  else if word = "false" then .bool false
  else
    match Number.int64? s.toList with
    | some n => .integer n
    | none =>
      match Number.parse? s.toList with
      | some x => .float x
      | none => .text s

/-- A text with a point in place of each pair of underscores. -/
def dotted : List Char → List Char
  | '_' :: '_' :: rest => '.' :: dotted rest
  | c :: rest => c :: dotted rest
  | [] => []

/-- Lay a variable over the settings; variables that do not hold settings do not count. -/
def withVariable (s : Setting) (v : String × String) : Setting :=
  match Text.afterStart? variableStart (Text.lower v.1.toList) with
  | none => s
  | some name =>
    s.insertAt (Setting.pathOf (dotted name)) (.leaf (some "the environment") (variableValue v.2))

/-- Lay the variables of an environment over the settings. -/
def withVariables (s : Setting) (env : List (String × String)) : Setting :=
  env.foldl withVariable s

/-- Lay a file over the settings, given its name and text. -/
def withFile? (s : Setting) (name source : String) : Except SettingsError Setting :=
  match Json.read? Json.fileDepth source with
  | some (.object members) =>
    .ok (members.foldl
      (fun s m => s.insertAt (Setting.pathOf m.1.toList) (Setting.ofJson name m.2)) s)
  | _ => .error (.badFile name)

/-- The file of a stem: of this very name if it is a JSON file, otherwise with the ending of one. -/
def findFile? (read : String → Option String) (stem : String) : Option (String × String) :=
  match read stem with
  | some source => if stem.endsWith ".json" then some (stem, source) else none
  | none => (read (stem ++ ".json")).map fun source => (stem ++ ".json", source)

/-- Lay the file of a stem over the settings, if there is one. -/
def withFileOf? (read : String → Option String) (s : Setting) (stem : String) :
    Except SettingsError Setting :=
  match findFile? read stem with
  | some (name, source) => withFile? s name source
  | none => .ok s

/-- The mode that an environment asks for. -/
def runMode (env : List (String × String)) : String :=
  (env.lookup "RUN_MODE").getD "development"

/-- The stems of the settings files. -/
def fileStems (env : List (String × String)) : List String :=
  ["config/default", "config/" ++ runMode env]

/-- The settings from the files of a directory and the variables of an environment. -/
def load (read : String → Option String) (env : List (String × String)) :
    Except SettingsError Settings := do
  let s ← (fileStems env).foldlM (withFileOf? read) defaults
  ofTree (withVariables s env)

end Settings

end TieredReport
