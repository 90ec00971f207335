/-
# The command line

`report-render [--metrics] <template.json> <context.json>` compiles a template
and writes the document of a context. Arguments that begin with two hyphens are
flags wherever they stand, and unknown flags do not count. Settings are loaded
before the arguments are looked at.

Key definitions: `Cli.Failure`, `Cli.Failure.message`, `Cli.Failure.report`, `Cli.Success`,
`Cli.run`.
-/
import TieredReport.Engine
import TieredReport.Settings.Layers

namespace TieredReport.Cli

/-- Why there is no document. -/
inductive Failure where
  | settings (e : SettingsError)
  | usage
  | unreadable (path : String)
  | invalidJson (path : String)
  | compilation (e : CompilationError)
  | context (e : ContextError)

/-- What the command line reports. -/
def Failure.message : Failure → String
  | .settings _ => "Failed to load configuration"
  | .usage => "usage: report-render [--metrics] <template.json> <context.json>"
  | .unreadable path => s!"Failed to read {path}"
  | .invalidJson path => s!"Invalid JSON in {path}"
  | .compilation e => e.message
  | .context e => e.message

/-- What lies behind a failure, nearest first, where it is more than what is reported. -/
def Failure.causes : Failure → List String
  | .settings e => ["Configuration error: " ++ e.message, e.message]
  | .compilation e => [e.cause.message]
  | _ => []

/-- Causes as they are listed: a number before each where there are several. -/
def listCauses : List String → List String
  | [cause] => ["    " ++ cause]
  | causes => causes.mapIdx fun i cause => s!"    {i}: {cause}"

/-- A failure with what lies behind it, as lines. -/
def Failure.report (f : Failure) : List String :=
  match f.causes with
  | [] => ["Error: " ++ f.message]
  | causes => ["Error: " ++ f.message, "", "Caused by:"] ++ listCauses causes

/-- A document, and the counters where they are asked for. -/
structure Success where
  document : Document
  counters : Option (List (String × Nat))

/-- Whether an argument is a flag. -/
def isFlag (arg : String) : Bool := arg.startsWith "--"

/-- The JSON value in a file. -/
def readJson (read : String → Option String) (path : String) : Except Failure Json :=
  match read path with
  | none => .error (.unreadable path)
  | some source =>
    match Json.read? Json.fileDepth source with
    | none => .error (.invalidJson path)
    | some j => .ok j

/-- Answer some arguments, given the texts of files and the variables of the environment. -/
def run (args : List String) (read : String → Option String) (env : List (String × String)) :
    Except Failure Success := do
  let settings ← (Settings.load read env).mapError .settings
  match args.filter (!isFlag ·) with
  | [templatePath, contextPath] =>
    let definition ← readJson read templatePath
    let data ← readJson read contextPath
    let (compiled, engine) := (Engine.new settings).compileJson 0 definition
    let compiled ← compiled.mapError .compilation
    let (document, engine) := engine.renderJson compiled data
    let document ← document.mapError .context
    let counters :=
      if args.contains "--metrics" then some (engine.metrics.nonzero Engine.cacheName) else none
    return { document, counters }
  | _ => .error .usage

end TieredReport.Cli
