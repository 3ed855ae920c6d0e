import Classpath.CommandLine.Arguments
import Classpath.CommandLine.Report
import Classpath.Loaders

/-!
# Runs

What comes out when the program is called with some arguments on some disk.

The loaders are made first, then the configuration is read, then the disk is scanned; the
first of these that fails decides what is reported.

## Main definitions

* `ScanOptions.chain`, `ScanOptions.fullConfig`.
* `run`: exit code, output and errors.
-/

namespace Classpath.CommandLine

/-- Why a command failed. -/
inductive CommandError where
  | loader (cause : LoaderError)
  | scan (cause : ScanError)
  deriving DecidableEq, Repr

/-- The wording of a failure. -/
def CommandError.message : CommandError → String
  | loader cause => cause.message
  | scan cause => cause.message

/-! ### Options -/

/-- The paths in a list of paths. Two separators in a row have an empty path between them. -/
def pathsOf (list : String) : List String := Text.split ':' list

namespace ScanOptions

/-- The paths of the loader. -/
def entries (o : ScanOptions) : List String := (o.classpath.map pathsOf).getD ["."]

/-- The paths of its parent, if the options describe one. -/
def parentEntries (o : ScanOptions) : Option (List String) := o.parentClasspath.map pathsOf

/-- The loader that the options describe, and its parent if they describe one. The parent is
made first. -/
def chain (o : ScanOptions) (current : String) : Except LoaderError Chain := do
  match o.parentEntries with
  | none => return (← Loaders.empty.addPaths current "app" o.entries none).1
  | some paths =>
    let (parent, loaders) ← Loaders.empty.addPaths current "parent" paths none
    return (← loaders.addPaths current "app" o.entries (some parent.scope)).1

/-- The configuration in the file that the options name, with that of the options behind
it. -/
def fullConfig (o : ScanOptions) (d : Disk) : Except ScanError Config :=
  match o.configFile with
  | none => .ok o.config
  | some path => do
    let content ← (d.read path).mapError (.file path)
    return (← Config.ofFile path content).merge o.config

end ScanOptions

/-! ### Commands -/

/-- What a query finds. -/
def QueryKind.hits (d : Disk) (i : ClassIndex) (name : String) : QueryKind → Query Hits
  | methodsAnnotated => return .methods (← i.annotatedMethods d name)
  | parameterAnnotated => return .methods (← i.methodsWithAnnotatedParameter d name)
  | fieldsAnnotated => return .fields (← i.annotatedFields d name)
  | typesAnnotated => return .types (← i.annotatedTypes d name)
  | directSubtypes => return .types (← i.directSubtypes d name)
  | subtypes => return .types (← i.subtypes d id name)
  | directImplementers => return .types (← i.directImplementers d name)
  | implementers => return .types (← i.implementers d id name)

/-- The results of a command. -/
def Command.report (d : Disk) (chain : Chain) (config : Config) :
    Command → Except ScanError Report
  | .resources _ => do
    return .ofResources (← ResourceIndex.ofResources d chain config).all
  | .roots _ => do
    return .ofRoots (← ResourceIndex.ofResources d chain config).roots
  | .query kind name _ => do
    let index ← ClassIndex.build d chain config
    let (hits, _) := (kind.hits d index name).run {}
    return .ofHits (← hits)

/-- What a command writes. -/
def Command.output (d : Disk) (c : Command) : Except CommandError String := do
  let chain ← (c.options.chain d.currentPath).mapError .loader
  let config ← (c.options.fullConfig d).mapError .scan
  let report ← (c.report d chain config).mapError .scan
  return report.text c.options.json

/-! ### Calls -/

/-- What comes out of a call. -/
structure Outcome where
  exitCode : Nat
  output : String := ""
  errors : String := ""
  deriving DecidableEq, Repr

/-- The name and the number of the program. -/
def versionText : String := "classscan 0.1.0\n"

/-- How the program is called. -/
def usageText : String :=
  String.join [
    "Usage: classscan resources|roots [OPTIONS]\n",
    "       classscan query KIND NAME [OPTIONS]\n",
    "\n",
    "Kinds: ", Text.join ", " (QueryKind.all.map QueryKind.word), "\n",
    "\n",
    "Options:\n",
    "  -c, --classpath PATHS         entries of the loader, the current directory if none\n",
    "      --parent-classpath PATHS  entries of its parent\n",
    "      --prefix PREFIX           admit only names with a prefix; can be repeated\n",
    "      --pattern PATTERN         admit only names that match; can be repeated\n",
    "      --config FILE             read further prefixes and patterns\n",
    "      --json                    write results as JSON\n",
    "  -v, --verbose                 tell what goes on\n",
    "  -h, --help                    show this text\n",
    "  -V, --version                 show the version\n"]

/-- What comes out when the program is called with these arguments. -/
def run (d : Disk) (arguments : List String) : Outcome :=
  match Request.ofArguments? arguments with
  | none => { exitCode := 2, errors := usageText }
  | some .help => { exitCode := 0, output := usageText }
  | some .version => { exitCode := 0, output := versionText }
  | some (.run command) =>
    match command.output d with
    | .ok output => { exitCode := 0, output }
    | .error e => { exitCode := 1, errors := "Error: " ++ e.message ++ "\n" }

end Classpath.CommandLine
