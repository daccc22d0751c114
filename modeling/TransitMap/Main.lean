import TransitMap.CommandLine.Run

namespace TransitMap

namespace Program

def usage : String :=
  "Usage: transitmap [options] <network>\n\n" ++
    "Options:\n" ++
    "      --templates <path>     curve template file (JSON)\n" ++
    "      --station-ids <path>   station id file (JSON)\n" ++
    "      --colors <path>        line color file (JSON)\n" ++
    "  -o, --output <path>        map document [default: out.json]\n" ++
    "  -c, --config <path>        configuration file (TOML)\n" ++
    "      --line-width <n>       drawn line width\n" ++
    "      --scale-factor <x>     template scale\n" ++
    "      --log-level <level>    log level [default: info]\n" ++
    "  -h, --help                 print this help\n" ++
    "  -V, --version              print the version"

def version : String := "transitmap 0.1.0"

def complaint : UsageFault → String
  | .unknownArgument => "unexpected argument"
  | .malformedValue => "invalid value for an option"
  | .missingNetwork => "the network file is missing"
  | .missingValue => "an option needs a value"
  | .repeatedOption => "an option is given twice"
  | .needlessValue => "an option takes no value"
  | .help => usage
  | .version => version

def fileFault : IO.Error → FileFault
  | .noFileOrDirectory .. => .missing
  | error => .other (toString error)

def files : FileAccess IO where
  isPresent path := do
    try
      let _ ← IO.FS.realPath path
      return true
    catch _ => return false
  readText path := do
    try return .ok (← IO.FS.readFile path)
    catch error => return .error (fileFault error)
  writeText path content := do
    try
      IO.FS.writeFile path content
      return .ok ()
    catch error => return .error (fileFault error)

def configurations : IO (Option String) := do
  match ← IO.getEnv "XDG_CONFIG_HOME" with
  | some path =>
      if FilePath.isAbsolute path then return some path
      else return (← IO.getEnv "HOME").map fun home => FilePath.join home ".config"
  | none => return (← IO.getEnv "HOME").map fun home => FilePath.join home ".config"

def printReport (report : Report) : IO Unit := do
  let code := if report.code.isEmpty then "" else "[" ++ report.code ++ "] "
  IO.eprintln (code ++ report.message)
  for label in report.labels.getD [] do
    IO.eprintln ("  " ++ toString label.span.start ++ ".." ++ toString label.span.stop ++ ": " ++
      label.message)
  if let some help := report.help then IO.eprintln ("  help: " ++ help)

def makeMap (options : Options) : IO UInt32 := do
  match ← (Run.main files (← configurations) options).run with
  | .ok () => return 0
  | .error failure => do
      for report in failure.reports do
        printReport report
      return 1

def answer : UsageFault → IO UInt32
  | .help => do
      IO.println usage
      return 0
  | .version => do
      IO.println version
      return 0
  | fault => do
      IO.eprintln ("error: " ++ complaint fault)
      return 2

end Program

end TransitMap

def main (arguments : List String) : IO UInt32 :=
  match TransitMap.Options.read arguments with
  | .ok options => TransitMap.Program.makeMap options
  | .error fault => TransitMap.Program.answer fault
