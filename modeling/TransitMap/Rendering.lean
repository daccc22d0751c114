import TransitMap.Failure
import TransitMap.Plane.Nearest
import TransitMap.Source.Soundness
import TransitMap.StationIds

namespace TransitMap

structure Lookups where
  stationIds : StationIds
  templates : Templates Float
  palette : Palette

namespace Rendering

def checked (settings : Settings Float) : Except Failure Unit :=
  match settings.fault? with
  | some fault => .error (.configuration (.outOfRange fault))
  | none => .ok ()

def identifiers (settings : Settings Float) (stationIds : StationIds) : StationIds :=
  settings.overrides.foldl
    (fun ids entry => ids.override entry.line entry.station entry.identifier) stationIds

def network (resolver : Resolver) (source : String) : Except Failure (Network Float) :=
  (Network.ofSource resolver source.toList).mapError .source

def layout (settings : Settings Float) (network : Network Float) :
    Except Failure (Layout Float) :=
  (Layout.ofNetwork Placement.solve network settings).mapError .layout

def fitter (settings : Settings Float) : OffsetFitter Float :=
  Offset.fitter Point.length Point.distance (Offset.intervals settings.offsetSamples)

def pen (settings : Settings Float) (templates : Templates Float) (fitter : OffsetFitter Float) :
    Pen Float :=
  .ofSettings settings templates Cubic.closestParameter Point.distance fitter

def paths (settings : Settings Float) (templates : Templates Float) (network : Network Float)
    (layout : Layout Float) : Except Failure (List (Path Float)) :=
  (Synthesis.paths (pen settings templates (fitter settings)) network layout).mapError
    (.synthesis network)

def document (assembly : Assembly Float) (palette : Palette) : Except Failure MapDocument :=
  (assembly.document palette).mapError .document

def run (settings : Settings Float) (lookups : Lookups) (source : String) :
    Except Failure MapDocument := do
  checked settings
  let network ← network (identifiers settings lookups.stationIds).find? source
  let layout ← layout settings network
  let paths ← paths settings lookups.templates network layout
  document ⟨network, layout, paths, settings⟩ lookups.palette

end Rendering

end TransitMap
