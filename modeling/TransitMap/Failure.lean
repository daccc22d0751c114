import TransitMap.Decimal.Shortest
import TransitMap.Document.Assembly
import TransitMap.Drawing.Synthesis
import TransitMap.Source.Diagnostic

namespace TransitMap

def PlacementFault.text : PlacementFault Float → String
  | weightCount targets weights =>
      toString targets ++ " targets but " ++ toString weights ++ " weights"
  | weightNotPositive weight =>
      "objective weights must be positive, got " ++ Decimal.plain.write weight
  | unknownCoordinate line =>
      "constraint on line " ++ toString line ++ " refers to an unknown coordinate"
  | contradiction line =>
      "constraint on line " ++ toString line ++ " contradicts earlier constraints"
  | singular => "the constraint system is singular"
  | noCoordinates => "there is nothing to place"

def LayoutFault.text : LayoutFault Float → String
  | placement fault => fault.text
  | cyclicOverlap line =>
      "line `" ++ line ++ "` is required to be drawn both above and below another line"

def SettingsFault.text : SettingsFault Float → String
  | scaleFactor value => "geometry.scale_factor must be positive, got " ++ Decimal.plain.write value
  | lineWidth value =>
      "geometry.line_width must be positive and even, got " ++ toString value
  | alignmentPointWeight value =>
      "solver.alignment_point_weight must be between 0 and 1, got " ++ Decimal.plain.write value
  | lengthFactor value =>
      "endpoint.length_factor must be positive, got " ++ Decimal.plain.write value
  | offsetSamples value =>
      "curves.offset_samples must be at least " ++ toString Settings.leastOffsetSamples ++
        ", got " ++ toString value

def Point.text (point : Point Float) : String :=
  "Point \x7b x: " ++ Decimal.explicit.write point.x ++ ", y: " ++
    Decimal.explicit.write point.y ++ " \x7d"

def BendFault.text : BendFault Float → String
  | notDrawable bend => "`" ++ bend.text ++ "` is not a drawable bend"
  | notCanonical bend => "`" ++ bend.text ++ "` has no canonical form"
  | notReducible bend => "`" ++ bend.text ++ "` cannot be reduced to a base curve"
  | misplaced start stop =>
      "the stations at " ++ start.text ++ " and " ++ stop.text ++ " are not placed for this bend"

def OffsetFault.text : OffsetFault → String
  | noTurn => "cannot offset a curve that does not turn"
  | degenerateSamples => "degenerate offset samples"
  | refused reason => reason

inductive Stage where
  | files
  | source
  | lookup
  | settings
  | consistency
  | placement
  | drawing
  deriving DecidableEq, Repr

def Stage.title : Stage → String
  | files => "I/O error: "
  | source => ""
  | lookup => "JSON error: "
  | settings => "Configuration error: "
  | consistency => "Consistency error: "
  | placement => "Solver error: "
  | drawing => "Synthesis error: "

def CurveFault.text (network : Network Float) : CurveFault Float → String
  | bend fault => fault.text
  | leg stop fault => "leg to `" ++ network.stationName stop ++ "`: " ++ fault.text
  | offset fault => Stage.drawing.title ++ fault.text
  | targetNotDrawn => "its target curve has not been drawn"
  | partNotDrawn => "a joined curve has not been drawn"
  | notDrawn => "it has not been drawn"

def Network.describe (network : Network Float) (id : CurveId) : String :=
  match network.curve? id with
  | some curve =>
      "curve `" ++ network.qualifiedName curve.start ++ "` to `" ++ network.stationName curve.stop ++
        "` (line " ++ toString curve.sourceLine ++ ")"
  | none => ""

def SynthesisFault.text (network : Network Float) : SynthesisFault Float → String
  | cycle curves =>
      "curves depend on each other in a cycle: " ++
        String.intercalate ", " (curves.map network.describe)
  | curve id fault => network.describe id ++ ": " ++ fault.text network

def DocumentFault.text : DocumentFault → String
  | pathCount paths curves =>
      toString paths ++ " curve paths given for " ++ toString curves ++ " curves"
  | noColor line => "no color is given for line `" ++ line ++ "`"
  | notAligned first second line =>
      "Stations " ++ first ++ " and " ++ second ++ " on line " ++ line ++
        " are not aligned, but do not have a curve specified."

inductive FileFault where
  | missing
  | directory
  | notDirectory
  | nameTooLong
  | zeroByte
  | notText
  | other (message : String)
  deriving DecidableEq, Repr

def FileFault.text : FileFault → String
  | missing => "No such file or directory (os error 2)"
  | directory => "Is a directory (os error 21)"
  | notDirectory => "Not a directory (os error 20)"
  | nameTooLong => "File name too long (os error 36)"
  | zeroByte => "file name contained an unexpected NUL byte"
  | notText => "stream did not contain valid UTF-8"
  | other message => message

inductive Lookup where
  | templates
  | colors
  | stationIds
  deriving DecidableEq, Repr

def Lookup.key : Lookup → String
  | templates => "templates"
  | colors => "colors"
  | stationIds => "station_ids"

def Lookup.option : Lookup → String
  | templates => "templates"
  | colors => "colors"
  | stationIds => "station-ids"

inductive ConfigurationFault where
  | missing (path : String)
  | unreadable (path : String)
  | noLookup (lookup : Lookup)
  | outOfRange (fault : SettingsFault Float)
  deriving DecidableEq, Repr

def ConfigurationFault.text : ConfigurationFault → String
  | missing path => "Missing configuration file: " ++ path
  | unreadable path => "Failed to parse " ++ path
  | noLookup lookup =>
      "No " ++ lookup.key ++ " file given, pass --" ++ lookup.option ++ " or set inputs." ++
        lookup.key ++ " in the config file"
  | outOfRange fault => fault.text

inductive Failure where
  | file (fault : FileFault)
  | source (diagnostics : List Diagnostic)
  | lookup
  | configuration (fault : ConfigurationFault)
  | layout (fault : LayoutFault Float)
  | synthesis (network : Network Float) (fault : SynthesisFault Float)
  | document (fault : DocumentFault)
  deriving Repr

namespace Failure

def stage : Failure → Stage
  | file _ => .files
  | source _ => .source
  | lookup => .lookup
  | configuration _ => .settings
  | layout (.placement _) => .placement
  | layout (.cyclicOverlap _) => .consistency
  | synthesis _ (.cycle _) => .consistency
  | synthesis _ (.curve _ _) => .drawing
  | document _ => .consistency

def reason : Failure → String
  | file fault => fault.text
  | source diagnostics => Diagnostic.summary diagnostics
  | lookup => "a lookup file cannot be read"
  | configuration fault => fault.text
  | layout fault => fault.text
  | synthesis network fault => fault.text network
  | document fault => fault.text

def message (failure : Failure) : String := failure.stage.title ++ failure.reason

end Failure

/-- A message to the author of a map. The labels of a report are places in the network source. -/
structure Report where
  message : String
  code : String
  help : Option String
  labels : Option (List Label)
  deriving DecidableEq, Repr

/-- The code of the reports of a stage; those of the source have codes of their own. -/
def Stage.code : Stage → String
  | files => "metromap::io"
  | source => ""
  | lookup => "metromap::lookup"
  | settings => "metromap::config"
  | consistency => "metromap::consistency"
  | placement => "metromap::solver"
  | drawing => "metromap::curves"

def Stage.help? : Stage → Option String
  | files => some "check the network and lookup file paths"
  | source | settings => none
  | lookup => some "the templates, colors and station id files must be JSON objects"
  | consistency => some "remove one of the z-index or parallel declarations forming the cycle"
  | placement =>
      some "the alignment constraint on the named line cannot hold together with the others"
  | drawing => some "check the stations of the named curve against its template"

def Report.ofDiagnostic (diagnostic : Diagnostic) : Report :=
  ⟨diagnostic.headline, diagnostic.code.text, diagnostic.help, some diagnostic.labels⟩

def Failure.reports : Failure → List Report
  | source diagnostics => diagnostics.map Report.ofDiagnostic
  | failure => [⟨failure.message, failure.stage.code, failure.stage.help?, none⟩]

end TransitMap
