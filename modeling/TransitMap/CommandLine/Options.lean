import TransitMap.Decimal.Real
import TransitMap.Settings

namespace TransitMap

inductive UsageFault where
  | unknownArgument
  | malformedValue
  | missingNetwork
  | missingValue
  | repeatedOption
  | needlessValue
  | help
  | version
  deriving DecidableEq, Repr

inductive OptionName where
  | templates
  | stationIds
  | colors
  | output
  | config
  | lineWidth
  | scaleFactor
  | logLevel
  deriving DecidableEq, Repr

namespace OptionName

def all : List OptionName :=
  [templates, stationIds, colors, output, config, lineWidth, scaleFactor, logLevel]

def long : OptionName → String
  | templates => "templates"
  | stationIds => "station-ids"
  | colors => "colors"
  | output => "output"
  | config => "config"
  | lineWidth => "line-width"
  | scaleFactor => "scale-factor"
  | logLevel => "log-level"

def ofLong? (name : String) : Option OptionName := all.find? fun option => option.long == name

def ofShort? : Char → Option OptionName
  | 'o' => some output
  | 'c' => some config
  | _ => none

end OptionName

structure Options where
  network : Option String
  templates : Option String
  stationIds : Option String
  colors : Option String
  output : Option String
  config : Option String
  lineWidth : Option Nat
  scaleFactor : Option Float
  logLevel : Option String
  deriving Repr

namespace Options

def empty : Options := ⟨none, none, none, none, none, none, none, none, none⟩

def outputPath (options : Options) : String := options.output.getD "out.json"

def networkPath (options : Options) : String := options.network.getD ""

def level (options : Options) : String := options.logLevel.getD "info"

def width? (value : String) : Option Nat :=
  (Text.integer? 0 Settings.greatestWidth value.toList).map Int.toNat

def once (value : α) : Option α → Except UsageFault (Option α)
  | none => .ok (some value)
  | some _ => .error .repeatedOption

def readOnce (read? : String → Option α) (value : String) :
    Option α → Except UsageFault (Option α)
  | none =>
      match read? value with
      | some found => .ok (some found)
      | none => .error .malformedValue
  | some _ => .error .repeatedOption

def set (options : Options) (name : OptionName) (value : String) : Except UsageFault Options :=
  match name with
  | .templates => return { options with templates := ← once value options.templates }
  | .stationIds => return { options with stationIds := ← once value options.stationIds }
  | .colors => return { options with colors := ← once value options.colors }
  | .output => return { options with output := ← once value options.output }
  | .config => return { options with config := ← once value options.config }
  | .lineWidth => return { options with lineWidth := ← readOnce width? value options.lineWidth }
  | .scaleFactor =>
      return { options with
        scaleFactor :=
          ← readOnce (fun text => Decimal.real? text.toList) value options.scaleFactor }
  | .logLevel => return { options with logLevel := ← once value options.logLevel }

/-- The last argument, as long as nothing has come of it. -/
inductive Pending where
  | nothing
  | name (name : OptionName)
  | value (name : OptionName) (value : String)
  deriving DecidableEq, Repr

/-- Arguments read so far. An argument counts once the next one has been recognized. -/
structure Reading where
  options : Options
  pending : Pending

namespace Reading

def settle (reading : Reading) : Except UsageFault Options :=
  match reading.pending with
  | .nothing => .ok reading.options
  | .name _ => .error .missingValue
  | .value name value => reading.options.set name value

/-- A value that stands for itself: it belongs to the option before it, or is the network. -/
def plain (reading : Reading) (text : String) (onlyPlain : Bool) : Except UsageFault Reading :=
  match reading.pending, onlyPlain with
  | .name name, false => .ok { reading with pending := .value name text }
  | _, _ =>
      if reading.options.network.isSome then .error .unknownArgument
      else do
        let options ← reading.settle
        .ok ⟨{ options with network := some text }, .nothing⟩

def option (reading : Reading) (name : OptionName) (attached : Option String) :
    Except UsageFault Reading := do
  let options ← reading.settle
  match attached with
  | none => .ok ⟨options, .name name⟩
  | some value => return ⟨← options.set name value, .nothing⟩

def stop (reading : Reading) (fault : UsageFault) : Except UsageFault Reading := do
  let _ ← reading.settle
  .error fault

def long (reading : Reading) (name : String) (attached : Option String) :
    Except UsageFault Reading :=
  match OptionName.ofLong? name with
  | some option => reading.option option attached
  | none =>
      if name == "help" || name == "version" then
        if attached.isSome then .error .needlessValue
        else reading.stop (if name == "help" then .help else .version)
      else .error .unknownArgument

def short (reading : Reading) (letter : Char) (rest : List Char) : Except UsageFault Reading :=
  match OptionName.ofShort? letter with
  | some option =>
      let attached :=
        match rest with
        | [] => none
        | '=' :: value => some (String.ofList value)
        | value => some (String.ofList value)
      reading.option option attached
  | none =>
      if letter == 'h' then reading.stop .help
      else if letter == 'V' then reading.stop .version
      else .error .unknownArgument

def step (reading : Reading) (argument : String) : Except UsageFault Reading :=
  match argument.toList with
  | '-' :: '-' :: body =>
      let name := String.ofList (body.takeWhile (· != '='))
      match body.dropWhile (· != '=') with
      | [] => reading.long name none
      | _ :: value => reading.long name (some (String.ofList value))
  | '-' :: letter :: rest => reading.short letter rest
  | _ => reading.plain argument false

def all (reading : Reading) : List String → Except UsageFault Options
  | [] => reading.settle
  | "--" :: rest => do
      let last ← rest.foldlM (fun reading argument => reading.plain argument true) reading
      last.settle
  | argument :: rest => do
      let reading ← reading.step argument
      reading.all rest

end Reading

def read (arguments : List String) : Except UsageFault Options := do
  let options ← Reading.all ⟨empty, .nothing⟩ arguments
  if options.network.isNone then .error .missingNetwork else .ok options

end Options

end TransitMap
