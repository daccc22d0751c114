import TransitMap.Drawing.Synthesis
import TransitMap.Proofs.Drawing.Parallel
import TransitMap.Proofs.Source.Soundness

open TransitMap.Path (Connects)

namespace TransitMap

theorem Layout.isWhole_position {layout : Layout Rat}
    (whole : ∀ position ∈ layout.positions, position.IsWhole) (station : StationId) :
    (layout.position station).IsWhole := by
  unfold Layout.position
  rw [List.getD_eq_getElem?_getD]
  cases found : layout.positions[station.index]? with
  | none => exact .default
  | some position => exact whole position (List.mem_of_getElem? found)

namespace Synthesis

variable {pen : Pen Rat} {network : Network Rat} {layout : Layout Rat} {drawn : Drawn Rat}

def ConnectsCurve (layout : Layout Rat) (curve : Curve) (path : Path Rat) : Prop :=
  Connects (layout.position curve.start) (layout.position curve.stop) path

def Sound (network : Network Rat) (layout : Layout Rat) (drawn : Drawn Rat) : Prop :=
  ∀ id path, drawn.path? id = some path →
    ∃ curve, network.curve? id = some curve ∧ ConnectsCurve layout curve path

theorem sound_replicate (count : Nat) : Sound network layout (List.replicate count none) := by
  intro id path found
  simp only [Drawn.path?, List.getElem?_replicate] at found
  split at found <;> cases found

section Drawing

variable (onGrid : pen.outlines.IsWhole) (whole : ∀ position ∈ layout.positions, position.IsWhole)

include onGrid whole

theorem connects_drawBend {bend : Bend} {start stop : StationId} {path : Path Rat}
    (isDrawn : drawBend pen layout bend start stop = .ok path) :
    Connects (layout.position start) (layout.position stop) path :=
  BendPath.connects_draw onGrid (Layout.isWhole_position whole start)
    (Layout.isWhole_position whole stop) isDrawn

theorem connects_legs {legs : List Leg} {start stop : StationId} {paths : List (Path Rat)}
    (nonempty : legs ≠ []) (run : LegsRun start stop legs)
    (areDrawn : List.Forall₂ (fun leg path => drawLeg pen layout leg = .ok path) legs paths) :
    Connects (layout.position start) (layout.position stop) paths.flatten := by
  induction areDrawn generalizing start with
  | nil => exact absurd rfl nonempty
  | cons isDrawn rest ih =>
      obtain ⟨rfl, run⟩ := run
      have first := connects_drawBend onGrid whole (Outcome.mapError_eq_ok.mp isDrawn)
      cases rest with
      | nil =>
          obtain rfl := run
          simpa using first
      | cons next others => exact first.append (ih (by simp) run)

omit onGrid whole in
theorem connects_parts {parts : List CurveId} {start stop : StationId} {paths : List (Path Rat)}
    (sound : Sound network layout drawn) (nonempty : parts ≠ [])
    (run : network.PartsRun start stop parts)
    (areDrawn : List.Forall₂ (fun part path => drawnPart drawn part = .ok path) parts paths) :
    Connects (layout.position start) (layout.position stop) paths.flatten := by
  induction areDrawn generalizing start with
  | nil => exact absurd rfl nonempty
  | @cons part path parts paths isDrawn rest ih =>
      obtain ⟨curve, found, rfl, run⟩ := run
      have first : ConnectsCurve layout curve path := by
        unfold drawnPart at isDrawn
        split at isDrawn
        · next isPath =>
            obtain rfl := Except.ok.inj isDrawn
            obtain ⟨other, otherFound, connects⟩ := sound part _ isPath
            obtain rfl := Option.some.inj (otherFound.symm.trans found)
            exact connects
        · cases isDrawn
      cases rest with
      | nil =>
          obtain rfl := run
          rwa [List.flatten_cons, List.flatten_nil, List.append_nil]
      | cons next others => exact first.append (ih (by simp) run)

theorem connects_drawCurve (sound : Sound network layout drawn) {id : CurveId} {curve : Curve}
    {path : Path Rat} (fits : network.ShapeFits id curve)
    (isDrawn : drawCurve pen layout drawn curve = .ok path) : ConnectsCurve layout curve path := by
  unfold Network.ShapeFits at fits
  unfold drawCurve at isDrawn
  cases shape : curve.shape with
  | sharp bend | wide bend =>
      rw [shape] at isDrawn
      exact connects_drawBend onGrid whole (Outcome.mapError_eq_ok.mp isDrawn)
  | parallel target bend =>
      simp only [shape] at isDrawn
      split at isDrawn
      · exact Parallel.connects_draw (Layout.isWhole_position whole _)
          (Layout.isWhole_position whole _) (Outcome.mapError_eq_ok.mp isDrawn)
      · cases isDrawn
  | sequence legs =>
      simp only [shape, Outcome.map_eq_ok] at fits isDrawn
      obtain ⟨nonempty, run, -⟩ := fits
      obtain ⟨paths, areDrawn, rfl⟩ := isDrawn
      exact connects_legs onGrid whole nonempty run (Outcome.mapM_eq_ok.mp areDrawn)
  | join parts =>
      simp only [shape, Outcome.map_eq_ok] at fits isDrawn
      obtain ⟨nonempty, -, run⟩ := fits
      obtain ⟨paths, areDrawn, rfl⟩ := isDrawn
      exact connects_parts sound nonempty run (Outcome.mapM_eq_ok.mp areDrawn)

theorem Sound.drawNext (sound : Sound network layout drawn) (wellFormed : network.WellFormed)
    {id : CurveId} {after : Drawn Rat}
    (isDrawn : drawNext pen network layout drawn id = .ok after) :
    Sound network layout after := by
  unfold Synthesis.drawNext at isDrawn
  split at isDrawn
  · exact Except.ok.inj isDrawn ▸ sound
  · next curve found =>
      simp only [Outcome.bind_eq_ok, Outcome.mapError_eq_ok, Except.ok.injEq] at isDrawn
      obtain ⟨path, isDrawn, rfl⟩ := isDrawn
      intro other otherPath otherFound
      simp only [Drawn.path?, List.getElem?_set] at otherFound
      split at otherFound
      · next same =>
          have same : id = other := by
            cases id
            cases other
            exact congrArg CurveId.mk same
          split at otherFound
          · obtain rfl := Option.some.inj otherFound
            subst same
            exact ⟨curve, found, connects_drawCurve onGrid whole sound
              (wellFormed.curve_shape id curve found) isDrawn⟩
          · cases otherFound
      · exact sound other otherPath otherFound

theorem sound_drawAll (wellFormed : network.WellFormed) {order : List CurveId}
    (isDrawn : drawAll pen network layout order = .ok drawn) : Sound network layout drawn :=
  Outcome.foldlM_invariant (Sound network layout)
    (fun _ _ _ _ sound isNext => Sound.drawNext onGrid whole sound wellFormed isNext)
    (sound_replicate _) isDrawn

theorem connects_of_paths (wellFormed : network.WellFormed) {paths : List (Path Rat)}
    (areDrawn : Synthesis.paths pen network layout = .ok paths) {id : CurveId} {curve : Curve}
    (found : network.curve? id = some curve) :
    ∃ path, paths[id.index]? = some path ∧ ConnectsCurve layout curve path := by
  simp only [Synthesis.paths, Outcome.bind_eq_ok] at areDrawn
  obtain ⟨order, -, drawn, isDrawn, areDrawn⟩ := areDrawn
  have sound := sound_drawAll onGrid whole wellFormed isDrawn
  obtain ⟨index⟩ := id
  have bound : index < network.curves.length := (List.getElem?_eq_some_iff.mp found).1
  have atIndex : network.curveIds[index]? = some ⟨index⟩ := by simp [Network.curveIds, bound]
  obtain ⟨path, isPath, read⟩ :=
    Outcome.exists_right_of_forall₂ (Outcome.mapM_eq_ok.mp areDrawn) atIndex
  refine ⟨path, isPath, ?_⟩
  split at read
  · next isDrawn =>
      obtain rfl := Except.ok.inj read
      obtain ⟨other, otherFound, connects⟩ := sound _ _ isDrawn
      obtain rfl := Option.some.inj (otherFound.symm.trans found)
      exact connects
  · cases read

end Drawing

/-- Every curve of a network that is read from a source is drawn from its first station to its
second without a gap, on the grid. -/
theorem paths_connect_stations {resolver : Resolver} {source : List Char}
    (read : Network.ofSource resolver source = .ok network)
    (whole : ∀ position ∈ layout.positions, position.IsWhole)
    {settings : Settings Rat} {templates : Templates Rat} {nearest : Cubic Rat → Point Rat → Rat}
    {distance : Point Rat → Point Rat → Rat} {fitter : OffsetFitter Rat} {paths : List (Path Rat)}
    (areDrawn : Synthesis.paths (.ofSettings settings templates nearest distance fitter) network
      layout = .ok paths)
    {id : CurveId} {curve : Curve} (found : network.curve? id = some curve) :
    ∃ path, paths[id.index]? = some path ∧ path ≠ [] ∧
      path.head?.map Segment.start = some (layout.position curve.start) ∧
      path.getLast?.map Segment.stop = some (layout.position curve.stop) ∧
      (path.IsChain fun before after => before.stop = after.start) ∧
      ∀ segment ∈ path, ∀ point ∈ segment.points, point.IsWhole := by
  obtain ⟨draft, places, origins, isSound, describes, noFindings⟩ :=
    Network.describes_of_ofSource read
  have wellFormed := describes.wellFormed isSound noFindings
  obtain ⟨path, isPath, connects⟩ :=
    connects_of_paths (templates.isWhole_outlines _) whole wellFormed areDrawn found
  exact ⟨path, isPath, connects.nonempty, connects.runs.head?_start connects.nonempty,
    connects.runs.getLast?_stop connects.nonempty, connects.runs.isChain, connects.whole⟩

def unitTemplates : Templates Rat where
  sharp := ⟨⟨⟨-1, 0⟩, ⟨0, 0⟩, ⟨0, 0⟩, ⟨0, 1⟩⟩, 1⟩
  wide := ⟨⟨⟨-1, 0⟩, ⟨0, 0⟩, ⟨0, 0⟩, ⟨1, 1⟩⟩, 1⟩

def unitPen : Pen Rat :=
  .ofSettings .default unitTemplates (fun _ _ => 1 / 2) (fun _ _ => 0) fun _ _ => .ok []

def cornerLayout : Layout Rat := ⟨[⟨0, 0⟩, ⟨9, 9⟩], [1]⟩

def cornerPath : Path Rat :=
  [.straight ⟨0, 0⟩ ⟨4, 0⟩, .curved ⟨⟨4, 0⟩, ⟨9, 0⟩, ⟨9, 0⟩, ⟨9, 5⟩⟩, .straight ⟨9, 5⟩ ⟨9, 9⟩]

theorem paths_connect_stations_corner :
    (∀ position ∈ cornerLayout.positions, position.IsWhole) ∧
      Synthesis.paths unitPen Network.corner cornerLayout = .ok [cornerPath] ∧
      (cornerPath.IsChain fun before after => before.stop = after.start) ∧
      ∀ segment ∈ cornerPath, ∀ point ∈ segment.points, point.IsWhole := by
  have whole : ∀ position ∈ cornerLayout.positions, position.IsWhole := by
    intro position member
    simp only [cornerLayout, List.mem_cons, List.not_mem_nil, or_false] at member
    rcases member with rfl | rfl
    · exact ⟨.natCast 0, .natCast 0⟩
    · exact ⟨.natCast 9, .natCast 9⟩
  have areDrawn : Synthesis.paths unitPen Network.corner cornerLayout = .ok [cornerPath] := by cbv
  have found : Network.corner.curve? ⟨0⟩ = some ⟨⟨0⟩, ⟨0⟩, ⟨1⟩, .sharp ⟨.right, .down⟩, 5⟩ := rfl
  obtain ⟨path, isPath, -, -, -, joined, onGrid⟩ :=
    paths_connect_stations Network.ofSource_corner whole areDrawn found
  obtain rfl := Option.some.inj isPath
  exact ⟨whole, areDrawn, joined, onGrid⟩

end Synthesis

end TransitMap
