import TransitMap.Proofs.Drawing.Readiness
import TransitMap.Proofs.Drawing.Synthesis

/-!
Drawing in another order. Each curve has to come behind the curves it depends on; then the paths are
the only ones in which every curve is drawn from the paths that are there, and no other choice of
the order and no curve that is added changes them.
-/

namespace TransitMap

def CurveId.makeRoom (place id : CurveId) : CurveId :=
  if id.index < place.index then id else ⟨id.index + 1⟩

def Shape.move (moved : CurveId → CurveId) : Shape → Shape
  | parallel target bend => parallel (moved target) bend
  | join parts => join (parts.map moved)
  | sharp bend => sharp bend
  | wide bend => wide bend
  | sequence legs => sequence legs

def Curve.move (moved : CurveId → CurveId) (curve : Curve) : Curve :=
  { curve with shape := curve.shape.move moved }

namespace Network

variable {K : Type}

/-- The network with one more curve, and the curves from its place on behind it. -/
def insertCurve (network : Network K) (place : CurveId) (added : Curve) : Network K :=
  { network with
    curves := (network.curves.map (Curve.move place.makeRoom)).insertIdx place.index added }

/-- All curves, each behind the curves it depends on. -/
structure IsOrder (network : Network K) (order : List CurveId) : Prop where
  perm : order.Perm network.curveIds
  behind : ∀ before curve after, order = before ++ curve :: after →
    ∀ dependency, network.DependsOn curve dependency → dependency ∈ before

theorem curve?_insertCurve (network : Network K) (place id : CurveId) (added : Curve) :
    (network.insertCurve place added).curve? (place.makeRoom id) =
      (network.curve? id).map (Curve.move place.makeRoom) := by
  obtain ⟨index⟩ := id
  obtain ⟨placeIndex⟩ := place
  simp only [curve?, insertCurve, List.getElem?_insertIdx, CurveId.makeRoom, List.getElem?_map]
  by_cases before : index < placeIndex
  · simp [before]
  · have behind : ¬index + 1 < placeIndex := by omega
    have apart : index + 1 ≠ placeIndex := by omega
    simp [before, behind, apart]

theorem exists_curve_of_mem_curveIds {network : Network K} {id : CurveId}
    (member : id ∈ network.curveIds) : ∃ curve, network.curve? id = some curve :=
  ⟨_, List.getElem?_eq_getElem (mem_curveIds.mp member)⟩

theorem IsOrder.nodup {network : Network K} {order : List CurveId}
    (isOrder : network.IsOrder order) : order.Nodup :=
  isOrder.perm.nodup_iff.mpr network.nodup_curveIds

theorem IsOrder.mem_before {network : Network K} {order before after : List CurveId}
    {last curve dependency : CurveId} (isOrder : network.IsOrder order)
    (split : order = before ++ last :: after) (member : curve ∈ before ++ [last])
    (dependsOn : network.DependsOn curve dependency) : dependency ∈ before := by
  rcases List.mem_append.mp member with earlier | isLast
  · obtain ⟨front, back, rfl⟩ := List.append_of_mem earlier
    rw [List.append_assoc, List.cons_append] at split
    exact List.mem_append_left _ (isOrder.behind front curve _ split dependency dependsOn)
  · obtain rfl := List.mem_singleton.mp isLast
    exact isOrder.behind before curve after split dependency dependsOn

theorem IsOrder.dependenciesKnown {network : Network K} {order : List CurveId}
    (isOrder : network.IsOrder order) : network.DependenciesKnown := by
  intro curve dependency dependsOn
  have member := isOrder.perm.mem_iff.mpr dependsOn.mem_curveIds
  obtain ⟨before, after, split⟩ := List.append_of_mem member
  apply isOrder.perm.mem_iff.mp
  rw [split]
  exact List.mem_append_left _ (isOrder.behind before curve after split dependency dependsOn)

theorem IsOrder.induction {network : Network K} {order : List CurveId}
    (isOrder : network.IsOrder order) {motive : CurveId → Prop}
    (step : ∀ curve ∈ network.curveIds,
      (∀ dependency, network.DependsOn curve dependency → motive dependency) → motive curve) :
    ∀ curve ∈ network.curveIds, motive curve := by
  suffices ∀ before after, order = before ++ after → ∀ curve ∈ before, motive curve by
    intro curve member
    exact this order [] (List.append_nil order).symm curve (isOrder.perm.mem_iff.mpr member)
  intro before
  induction before using List.reverseRecOn with
  | nil => simp
  | append_singleton before last ih =>
      intro after split
      rw [List.append_assoc, List.singleton_append] at split
      have earlier := ih (last :: after) split
      intro curve member
      rcases List.mem_append.mp member with isEarlier | isLast
      · exact earlier curve isEarlier
      · obtain rfl := List.mem_singleton.mp isLast
        apply step
        · apply isOrder.perm.mem_iff.mp
          simp [split]
        · intro dependency dependsOn
          exact earlier dependency (isOrder.behind before curve after split dependency dependsOn)

theorem isOrder_of_ordered {network : Network K} {drawn : List CurveId}
    (perm : drawn.reverse.Perm network.curveIds) (ordered : Schedule.Ordered network drawn) :
    network.IsOrder drawn.reverse :=
  ⟨perm, fun _ _ _ => ordered.mem_of_reverse_eq⟩

theorem isOrder_of_order_eq_ok {network : Network K} {order : List CurveId}
    (ordered : Schedule.order network = .ok order) : network.IsOrder order := by
  obtain ⟨perm, drawn, sound, rfl⟩ := Schedule.order_eq_ok ordered
  exact isOrder_of_ordered perm sound

theorem IsOrder.exists_order {network : Network K} {order : List CurveId}
    (isOrder : network.IsOrder order) : ∃ scheduled, Schedule.order network = .ok scheduled := by
  have acyclic : ∀ curve ∈ network.curveIds, ¬network.DependsOnCycle curve := by
    apply isOrder.induction (motive := fun curve => ¬network.DependsOnCycle curve)
    intro curve _ earlier waits
    obtain ⟨dependency, dependsOn, stillWaits⟩ := waits.exists_dependsOn
    exact earlier dependency dependsOn stillWaits
  apply (Schedule.exists_order_iff isOrder.dependenciesKnown).mpr
  intro curve cycle
  obtain ⟨dependency, dependsOn, -⟩ := Relation.TransGen.head'_iff.mp cycle
  exact acyclic curve dependsOn.mem_curveIds ⟨curve, .refl, cycle⟩

end Network

namespace Synthesis

variable {K : Type} [Scalar K] {pen : Pen K} {network larger : Network K} {layout : Layout K}
  {drawn others : Drawn K} {order : List CurveId}

omit [Scalar K] in
theorem path?_set {id : CurveId} (known : id.index < drawn.length) (path : Path K)
    (other : CurveId) :
    Drawn.path? (drawn.set id.index (some path)) other =
      if id = other then some path else drawn.path? other := by
  obtain ⟨index⟩ := id
  obtain ⟨otherIndex⟩ := other
  simp only [Drawn.path?, List.getElem?_set, CurveId.mk.injEq]
  by_cases same : index = otherIndex
  · subst same
    simp [known]
  · simp [same]

omit [Scalar K] in
@[simp] theorem path?_map_some (paths : List (Path K)) (id : CurveId) :
    Drawn.path? (paths.map some) id = paths[id.index]? := by
  simp only [Drawn.path?, List.getElem?_map]
  cases paths[id.index]? <;> rfl

/-- A curve is drawn from the paths of its dependencies alone. -/
theorem drawCurve_move (moved : CurveId → CurveId) {curve : Curve}
    (same : ∀ dependency ∈ curve.shape.dependencies,
      others.path? (moved dependency) = drawn.path? dependency) :
    drawCurve pen layout others (curve.move moved) = drawCurve pen layout drawn curve := by
  obtain ⟨line, start, stop, shape, sourceLine⟩ := curve
  cases shape with
  | sharp bend | wide bend => rfl
  | sequence legs => rfl
  | parallel target bend =>
      have target := same target (List.mem_singleton_self target)
      simp only [drawCurve, Curve.move, Shape.move, target]
  | join parts =>
      have drawnParts : (parts.map moved).mapM (drawnPart others) = parts.mapM (drawnPart drawn) := by
        rw [List.mapM_map]
        apply Outcome.mapM_congr
        intro part member
        simp only [Function.comp_apply, drawnPart, same part member]
      simp only [drawCurve, Curve.move, Shape.move, drawnParts]

theorem drawCurve_congr {curve : Curve}
    (same : ∀ dependency ∈ curve.shape.dependencies,
      others.path? dependency = drawn.path? dependency) :
    drawCurve pen layout others curve = drawCurve pen layout drawn curve := by
  have unmoved : curve.move id = curve := by
    obtain ⟨line, start, stop, shape, sourceLine⟩ := curve
    cases shape <;> simp [Curve.move, Shape.move]
  rw [← drawCurve_move id same, unmoved]

/-- These curves are drawn, each from the paths that are there. -/
structure AreDrawn (pen : Pen K) (network : Network K) (layout : Layout K) (drawn : Drawn K)
    (curves : List CurveId) : Prop where
  size : drawn.length = network.curves.length
  exists_path : ∀ id ∈ curves, ∀ curve, network.curve? id = some curve →
    ∃ path, drawCurve pen layout drawn curve = .ok path ∧ drawn.path? id = some path

omit [Scalar K] in
theorem dependsOn_of_mem {id dependency : CurveId} {curve : Curve}
    (found : network.curve? id = some curve) (member : dependency ∈ curve.shape.dependencies) :
    network.DependsOn id dependency := by
  simpa [Network.DependsOn, Network.dependencies, found] using member

theorem AreDrawn.drawNext {before : List CurveId} {id : CurveId} {after : Drawn K}
    (areDrawn : AreDrawn pen network layout drawn before)
    (closed : ∀ curve ∈ before ++ [id], ∀ dependency, network.DependsOn curve dependency →
      dependency ∈ before)
    (fresh : id ∉ before) (known : id ∈ network.curveIds)
    (isDrawn : Synthesis.drawNext pen network layout drawn id = .ok after) :
    AreDrawn pen network layout after (before ++ [id]) := by
  obtain ⟨own, found⟩ := Network.exists_curve_of_mem_curveIds known
  simp only [Synthesis.drawNext, found, Outcome.bind_eq_ok, Outcome.mapError_eq_ok,
    Except.ok.injEq] at isDrawn
  obtain ⟨path, isPath, rfl⟩ := isDrawn
  rw [Network.mem_curveIds, ← areDrawn.size] at known
  have kept : ∀ curve ∈ before,
      Drawn.path? (drawn.set id.index (some path)) curve = drawn.path? curve := by
    rintro curve member
    rw [path?_set known, if_neg]
    rintro rfl
    exact fresh member
  -- Only the place of `id` is written, and no curve drawn so far is drawn from it.
  have redrawn : ∀ other ∈ before ++ [id], ∀ curve, network.curve? other = some curve →
      drawCurve pen layout (drawn.set id.index (some path)) curve =
        drawCurve pen layout drawn curve := by
    intro other member curve isCurve
    apply drawCurve_congr
    intro dependency needed
    exact kept dependency (closed other member dependency (dependsOn_of_mem isCurve needed))
  refine ⟨(List.length_set ..).trans areDrawn.size, fun other member curve isCurve => ?_⟩
  rw [redrawn other member curve isCurve]
  rcases List.mem_append.mp member with earlier | new
  · rw [kept other earlier]
    exact areDrawn.exists_path other earlier curve isCurve
  · obtain rfl := List.mem_singleton.mp new
    obtain rfl := Option.some.inj (found.symm.trans isCurve)
    exact ⟨path, isPath, by rw [path?_set known, if_pos rfl]⟩

theorem areDrawn_of_drawAll (isOrder : network.IsOrder order)
    (isDrawn : drawAll pen network layout order = .ok drawn) :
    AreDrawn pen network layout drawn order := by
  suffices ∀ before after reached, order = before ++ after →
      AreDrawn pen network layout reached before →
      after.foldlM (Synthesis.drawNext pen network layout) reached = .ok drawn →
      AreDrawn pen network layout drawn order by
    exact this [] order _ rfl ⟨List.length_replicate, by simp⟩ isDrawn
  intro before after
  induction after generalizing before with
  | nil =>
      intro reached split areDrawn folded
      obtain rfl := Except.ok.inj folded
      rwa [split, List.append_nil]
  | cons id rest ih =>
      intro reached split areDrawn folded
      simp only [List.foldlM_cons, Outcome.bind_eq_ok] at folded
      obtain ⟨next, isNext, folded⟩ := folded
      apply ih (before ++ [id]) next (by simp [split]) ?_ folded
      have nodup := isOrder.nodup
      rw [split, List.nodup_append] at nodup
      apply areDrawn.drawNext ?_ (fun member => nodup.2.2 id member id List.mem_cons_self rfl) ?_ isNext
      · intro curve member dependency dependsOn
        exact isOrder.mem_before split member dependsOn
      · apply isOrder.perm.mem_iff.mp
        simp [split]

/-- The paths that the first curves of an order get are those of any table in which every curve is
drawn. -/
theorem foldlM_drawNext (isOrder : network.IsOrder order)
    (areDrawn : AreDrawn pen network layout drawn network.curveIds) {before after : List CurveId}
    {reached : Drawn K} (split : order = before ++ after) (size : reached.length = drawn.length)
    (agrees : ∀ id, reached.path? id = if id ∈ before then drawn.path? id else none) :
    after.foldlM (Synthesis.drawNext pen network layout) reached = .ok drawn := by
  induction after generalizing before reached with
  | nil =>
      rw [List.append_nil] at split
      subst split
      apply congrArg Except.ok
      apply List.ext_getElem size
      intro index bound otherBound
      have atIndex := agrees ⟨index⟩
      rw [if_pos] at atIndex
      · simpa [Drawn.path?, bound, otherBound] using atIndex
      · apply isOrder.perm.mem_iff.mpr
        rw [Network.mem_curveIds, ← areDrawn.size]
        exact otherBound
  | cons id rest ih =>
      have member : id ∈ network.curveIds := by
        apply isOrder.perm.mem_iff.mp
        simp [split]
      obtain ⟨curve, found⟩ := Network.exists_curve_of_mem_curveIds member
      obtain ⟨path, isPath, isDrawn⟩ := areDrawn.exists_path id member _ found
      have redrawn : drawCurve pen layout reached curve = .ok path := by
        rw [← isPath]
        apply drawCurve_congr
        intro dependency needed
        rw [agrees, if_pos]
        exact isOrder.behind before id rest split dependency (dependsOn_of_mem found needed)
      have stepped : Synthesis.drawNext pen network layout reached id =
          .ok (reached.set id.index (some path)) := by
        simp only [Synthesis.drawNext, found, redrawn]
        rfl
      have splitBehind : order = (before ++ [id]) ++ rest := by rw [split, List.append_cons]
      rw [List.foldlM_cons, stepped]
      apply ih splitBehind (by rw [List.length_set, size])
      intro other
      rw [path?_set (by rwa [size, areDrawn.size, ← Network.mem_curveIds]), agrees]
      by_cases same : id = other
      · subst same
        simp [isDrawn]
      · simp [same, Ne.symm same]

/-- Drawing in an order finds the paths from which every curve is drawn, if there are any. -/
theorem drawAll_eq_ok_iff (isOrder : network.IsOrder order) :
    drawAll pen network layout order = .ok drawn ↔
      AreDrawn pen network layout drawn network.curveIds := by
  constructor
  · intro isDrawn
    have areDrawn := areDrawn_of_drawAll isOrder isDrawn
    exact ⟨areDrawn.size, fun id member =>
      areDrawn.exists_path id (isOrder.perm.mem_iff.mpr member)⟩
  · intro areDrawn
    apply foldlM_drawNext isOrder areDrawn (List.nil_append order).symm
    · rw [List.length_replicate, areDrawn.size]
    · intro id
      simp only [Drawn.path?, List.getElem?_replicate, List.not_mem_nil, if_false]
      split <;> rfl

theorem AreDrawn.exists_paths (areDrawn : AreDrawn pen network layout drawn network.curveIds) :
    ∃ paths : List (Path K), drawn = paths.map some := by
  refine ⟨drawn.map fun path => path.getD [], ?_⟩
  rw [List.map_map]
  apply List.ext_getElem (List.length_map _).symm
  intro index bound _
  have member : ⟨index⟩ ∈ network.curveIds := by rwa [Network.mem_curveIds, ← areDrawn.size]
  obtain ⟨curve, found⟩ := Network.exists_curve_of_mem_curveIds member
  obtain ⟨path, -, isPath⟩ := areDrawn.exists_path _ member _ found
  have isSome : drawn[index] = some path := by simpa [Drawn.path?, bound] using isPath
  simp [isSome]

omit [Scalar K] in
theorem mapM_path?_iff {paths : List (Path K)} (size : drawn.length = network.curves.length)
    {read : CurveId → Except (SynthesisFault K) (Path K)}
    (reads : ∀ id path, read id = .ok path ↔ drawn.path? id = some path) :
    network.curveIds.mapM read = .ok paths ↔ drawn = paths.map some := by
  simp only [Outcome.mapM_eq_ok, reads]
  constructor
  · intro listed
    have sameLength : network.curves.length = paths.length := by simpa using listed.length_eq
    apply List.ext_getElem (by rw [List.length_map, size, sameLength])
    intro index bound _
    rw [size] at bound
    have atIndex : network.curveIds[index]? = some ⟨index⟩ := by simp [Network.curveIds, bound]
    obtain ⟨path, isPath, found⟩ := Outcome.exists_right_of_forall₂ listed atIndex
    obtain ⟨pathBound, rfl⟩ := List.getElem?_eq_some_iff.mp isPath
    simpa [Drawn.path?, size, bound] using found
  · rintro rfl
    rw [List.length_map] at size
    rw [Network.curveIds, List.forall₂_map_left_iff, ← size]
    apply List.forall₂_iff_get.mpr
    refine ⟨List.length_range, fun index _ bound => ?_⟩
    simp [Drawn.path?, bound]

/-- The paths of a network are the only ones in which every curve is drawn from those it depends
on. -/
theorem paths_eq_ok_iff {paths : List (Path K)} :
    Synthesis.paths pen network layout = .ok paths ↔
      (∃ order, network.IsOrder order) ∧
        AreDrawn pen network layout (paths.map some) network.curveIds := by
  simp only [Synthesis.paths, Outcome.bind_eq_ok, Outcome.mapError_eq_ok]
  constructor
  · rintro ⟨order, ordered, drawn, isDrawn, found⟩
    have isOrder := Network.isOrder_of_order_eq_ok ordered
    have areDrawn := (drawAll_eq_ok_iff isOrder).mp isDrawn
    obtain rfl : drawn = paths.map some := by
      refine (mapM_path?_iff areDrawn.size fun id path => ?_).mp found
      split <;> simp_all
    exact ⟨⟨order, isOrder⟩, areDrawn⟩
  · rintro ⟨⟨order, isOrder⟩, areDrawn⟩
    obtain ⟨scheduled, ordered⟩ := isOrder.exists_order
    have isDrawn := (drawAll_eq_ok_iff (Network.isOrder_of_order_eq_ok ordered)).mpr areDrawn
    refine ⟨scheduled, ordered, _, isDrawn,
      (mapM_path?_iff areDrawn.size fun id path => ?_).mpr rfl⟩
    split <;> simp_all

/-- Curves with the same dependencies in other places have the same paths. -/
theorem path?_moved (isOrder : network.IsOrder order)
    (areDrawn : AreDrawn pen network layout drawn network.curveIds)
    (othersDrawn : AreDrawn pen larger layout others larger.curveIds) {moved : CurveId → CurveId}
    (same : ∀ id, larger.curve? (moved id) = (network.curve? id).map (Curve.move moved)) :
    ∀ id ∈ network.curveIds, others.path? (moved id) = drawn.path? id := by
  apply isOrder.induction (motive := fun id => others.path? (moved id) = drawn.path? id)
  intro id member earlier
  -- By induction along the order: the curve is drawn from paths that are already known to agree.
  obtain ⟨curve, found⟩ := Network.exists_curve_of_mem_curveIds member
  have isMoved := same id
  rw [found, Option.map_some] at isMoved
  have isCurve : moved id ∈ larger.curveIds :=
    Network.mem_curveIds.mpr (List.getElem?_eq_some_iff.mp isMoved).1
  obtain ⟨path, isPath, isDrawn⟩ := areDrawn.exists_path id member _ found
  obtain ⟨other, isOther, otherDrawn⟩ := othersDrawn.exists_path _ isCurve _ isMoved
  have redrawn : drawCurve pen layout others (curve.move moved) =
      drawCurve pen layout drawn curve := by
    apply drawCurve_move
    intro dependency needed
    exact earlier dependency (dependsOn_of_mem found needed)
  rw [isOther, isPath, Except.ok.injEq] at redrawn
  rw [otherDrawn, isDrawn, redrawn]

/-- The paths of curves are the same in every order in which each curve comes behind the curves it
depends on, and stay the same when a curve is added. -/
theorem paths_reordered (pen : Pen K) (network : Network K) (layout : Layout K)
    {order other : List CurveId} (isOrder : network.IsOrder order)
    (isOther : network.IsOrder other) :
    (∀ drawn, drawAll pen network layout order = .ok drawn ↔
      drawAll pen network layout other = .ok drawn) ∧
    (∀ drawn, drawAll pen network layout order = .ok drawn ↔
      ∃ paths, Synthesis.paths pen network layout = .ok paths ∧ drawn = paths.map some) ∧
    ∀ place added paths more, Synthesis.paths pen network layout = .ok paths →
      Synthesis.paths pen (network.insertCurve place added) layout = .ok more →
      ∀ id ∈ network.curveIds, more[(place.makeRoom id).index]? = paths[id.index]? := by
  refine ⟨fun drawn => ?_, fun drawn => ?_, ?_⟩
  · rw [drawAll_eq_ok_iff isOrder, drawAll_eq_ok_iff isOther]
  · rw [drawAll_eq_ok_iff isOrder]
    simp only [paths_eq_ok_iff]
    constructor
    · intro areDrawn
      obtain ⟨paths, rfl⟩ := areDrawn.exists_paths
      exact ⟨paths, ⟨⟨order, isOrder⟩, areDrawn⟩, rfl⟩
    · rintro ⟨paths, ⟨-, areDrawn⟩, rfl⟩
      exact areDrawn
  · intro place added paths more areDrawn moreDrawn id member
    rw [paths_eq_ok_iff] at areDrawn moreDrawn
    have same := path?_moved isOrder areDrawn.2 moreDrawn.2
      (fun id => network.curve?_insertCurve place id added) id member
    simpa using same

def braid : Network Rat where
  lines := [⟨"red", [("A", ⟨0⟩), ("B", ⟨1⟩)], [⟨⟨0⟩, ⟨1⟩⟩], [⟨0⟩, ⟨1⟩, ⟨2⟩], []⟩]
  lineNames := [("red", ⟨0⟩)]
  stations := [⟨"A", ⟨0⟩, .station, "A", ⟨0, 0⟩⟩, ⟨"B", ⟨0⟩, .station, "B", ⟨9, 9⟩⟩]
  curves := [.join [⟨1⟩], .sharp ⟨.right, .down⟩, .parallel ⟨1⟩ ⟨.right, .down⟩].map
    fun shape => ⟨⟨0⟩, ⟨0⟩, ⟨1⟩, shape, 5⟩
  alignments := []
  overlaps := []

def braidPaths : List (Path Rat) := [cornerPath, cornerPath, [.straight ⟨0, 0⟩ ⟨9, 9⟩]]

def furtherJoin : Curve := ⟨⟨0⟩, ⟨0⟩, ⟨1⟩, .join [⟨0⟩], 6⟩

theorem paths_reordered_braid :
    braid.IsOrder [⟨1⟩, ⟨0⟩, ⟨2⟩] ∧ braid.IsOrder [⟨1⟩, ⟨2⟩, ⟨0⟩] ∧
      drawAll unitPen braid cornerLayout [⟨1⟩, ⟨0⟩, ⟨2⟩] = .ok (braidPaths.map some) ∧
      drawAll unitPen braid cornerLayout [⟨1⟩, ⟨2⟩, ⟨0⟩] = .ok (braidPaths.map some) ∧
      Synthesis.paths unitPen braid cornerLayout = .ok braidPaths ∧
      ∃ more, Synthesis.paths unitPen (braid.insertCurve ⟨1⟩ furtherJoin) cornerLayout = .ok more ∧
        more[3]? = braidPaths[2]? := by
  have first : braid.IsOrder [⟨2⟩, ⟨0⟩, ⟨1⟩].reverse := by
    apply Network.isOrder_of_ordered (by decide)
    simp [Schedule.Ordered, Network.DependsOn, Network.dependencies, Network.curve?, braid,
      Shape.dependencies]
  have second : braid.IsOrder [⟨0⟩, ⟨2⟩, ⟨1⟩].reverse := by
    apply Network.isOrder_of_ordered (by decide)
    simp [Schedule.Ordered, Network.DependsOn, Network.dependencies, Network.curve?, braid,
      Shape.dependencies]
  have isDrawn : drawAll unitPen braid cornerLayout [⟨1⟩, ⟨0⟩, ⟨2⟩] =
      .ok (braidPaths.map some) := by cbv
  have moreDrawn : Synthesis.paths unitPen (braid.insertCurve ⟨1⟩ furtherJoin) cornerLayout =
      .ok [cornerPath, cornerPath, cornerPath, [.straight ⟨0, 0⟩ ⟨9, 9⟩]] := by cbv
  obtain ⟨sameDrawn, areDrawn, kept⟩ := paths_reordered unitPen braid cornerLayout first second
  obtain ⟨paths, arePaths, same⟩ := (areDrawn _).mp isDrawn
  obtain rfl := List.map_injective_iff.mpr (Option.some_injective _) same
  exact ⟨first, second, isDrawn, (sameDrawn _).mp isDrawn, arePaths, _, moreDrawn,
    kept ⟨1⟩ furtherJoin _ _ arePaths moreDrawn ⟨2⟩ (by decide)⟩

end Synthesis

end TransitMap
