import TransitMap.Data.Value
import TransitMap.Drawing.Template

namespace TransitMap

namespace Template

def offset? (value : Value) : Option (Point Float) := do
  let [x, y] ← value.allFields? ["x", "y"] | none
  some ⟨← x.real?, ← y.real?⟩

def offsets? (value : Value) : Option (Cubic Float) := do
  let [p0, p1, p2, p3] ←
    value.allFields? ["p0Offset", "p1Offset", "p2Offset", "p3Offset"] | none
  some ⟨← offset? p0, ← offset? p1, ← offset? p2, ← offset? p3⟩

def ofValue? (value : Value) : Option (Template Float) := do
  let [points, scaleFactor] ← value.allFields? ["points", "scaleFactor"] | none
  some ⟨← offsets? points, ← scaleFactor.real?⟩

end Template

def Templates.ofValue? (value : Value) : Option (Templates Float) := do
  let [sharp, wide] ← value.allFields? ["sharp_curve", "wide_curve"] | none
  some ⟨← Template.ofValue? sharp, ← Template.ofValue? wide⟩

end TransitMap
