import TransitMap.Proofs.Drawing.LeastSquares
import TransitMap.Proofs.Drawing.Offset

/-!
Curves fitted to points. A curve is found just if two of the points are met strictly inside of it at
different parameters, and no other curve with its ends is as close to the points.
-/

open scoped TransitMap.ExactScalar

open TransitMap.LeastSquares
  (IsClosest IsIndependent combination deviation equations pairing)

namespace TransitMap.Offset

variable {K : Type} [ExactScalar K] {distance : Point K → Point K → K} {start stop : Point K}
  {points : List (Point K)} {pairs : List (K × Point K)}

def ways (distance : Point K → Point K → K) (points : List (Point K)) : List K :=
  0 :: travelled distance 0 points

def wholeWay (distance : Point K → Point K → K) (points : List (Point K)) : K :=
  (ways distance points).getLastD 0

def parameters (distance : Point K → Point K → K) (points : List (Point K)) : List K :=
  (ways distance points).map (· / wholeWay distance points)

/-- The different parameters of points strictly inside the curve. -/
def innerParameters (distance : Point K → Point K → K) (points : List (Point K)) :
    Finset K :=
  ((parameters distance points).filter fun t => 0 < t ∧ t < 1).toFinset

theorem length_travelled (distance : Point K → Point K → K) (way : K) (start : Point K)
    (rest : List (Point K)) : (travelled distance way (start :: rest)).length = rest.length := by
  induction rest generalizing way start with
  | nil => rfl
  | cons next rest ih => exact congrArg (· + 1) (ih _ next)

theorem length_parameters (nonempty : points ≠ []) :
    (parameters distance points).length = points.length := by
  cases points with
  | nil => exact absurd rfl nonempty
  | cons start rest => simp [parameters, ways, length_travelled]

theorem travelled_bounds (nonneg : ∀ left right, 0 ≤ distance left right) (way : K)
    (points : List (Point K)) : ∀ reached ∈ way :: travelled distance way points,
      way ≤ reached ∧ reached ≤ (travelled distance way points).getLastD way := by
  fun_induction travelled distance way points with
  | case1 way first second rest further ih =>
      have forward : way ≤ further := le_add_of_nonneg_right (nonneg first second)
      rw [List.getLastD_cons, List.forall_mem_cons]
      have whole := ih further List.mem_cons_self
      refine ⟨⟨le_rfl, forward.trans whole.2⟩, fun reached member => ?_⟩
      exact ⟨forward.trans (ih reached member).1, (ih reached member).2⟩
  | case2 => simp

theorem wholeWay_eq (distance : Point K → Point K → K) (points : List (Point K)) :
    wholeWay distance points = (travelled distance 0 points).getLastD 0 :=
  List.getLastD_cons ..

theorem parameter_bounds (nonneg : ∀ left right, 0 ≤ distance left right) :
    ∀ t ∈ parameters distance points, 0 ≤ t ∧ t ≤ 1 := by
  rw [parameters, List.forall_mem_map]
  intro way member
  have bounds := travelled_bounds nonneg 0 points way member
  rw [← wholeWay_eq] at bounds
  have whole : 0 ≤ wholeWay distance points := bounds.1.trans bounds.2
  exact ⟨div_nonneg bounds.1 whole, div_le_one_of_le₀ bounds.2 whole⟩

def firstWeight (entry : K × Point K) : K := weight1 entry.1

def secondWeight (entry : K × Point K) : K := weight2 entry.1

theorem combination_weights (left right : K) (entry : K × Point K) :
    combination firstWeight secondWeight left right entry =
      3 * ((1 - entry.1) * entry.1) * (left * (1 - entry.1) + right * entry.1) := by
  simp only [combination, firstWeight, secondWeight, weight1, weight2, ExactScalar.literal_eq]
  push_cast
  ring

/-- The weights of the inner control points differ by more than a factor at two inner parameters. -/
theorem isIndependent_of_inner {t s : K} (first : 0 < t ∧ t < 1) (second : 0 < s ∧ s < 1)
    (apart : t ≠ s) (isFirst : t ∈ pairs.map Prod.fst) (isSecond : s ∈ pairs.map Prod.fst) :
    IsIndependent pairs firstWeight secondWeight := by
  intro left right zero
  have vanishes {t : K} (inner : 0 < t ∧ t < 1) (isParameter : t ∈ pairs.map Prod.fst) :
      left * (1 - t) + right * t = 0 := by
    obtain ⟨entry, member, rfl⟩ := List.mem_map.mp isParameter
    have product := zero entry member
    rw [combination_weights] at product
    have factor : 3 * ((1 - entry.1) * entry.1) ≠ 0 :=
      mul_ne_zero three_ne_zero (mul_ne_zero (sub_pos.mpr inner.2).ne' inner.1.ne')
    exact (mul_eq_zero.mp product).resolve_left factor
  have atFirst := vanishes first isFirst
  have atSecond := vanishes second isSecond
  have same : (right - left) * (t - s) = 0 := by linear_combination atFirst - atSecond
  have equal : right = left :=
    sub_eq_zero.mp ((mul_eq_zero.mp same).resolve_right (sub_ne_zero.mpr apart))
  have zero : left = 0 := by
    rw [equal] at atFirst
    linear_combination atFirst
  exact ⟨zero, equal.trans zero⟩

/-- At the ends of the curve the weights vanish, so that a single inner parameter leaves them
dependent. -/
theorem not_isIndependent_of_inner (t : K)
    (only : ∀ s ∈ pairs.map Prod.fst, s = 0 ∨ s = 1 ∨ s = t) :
    ¬IsIndependent pairs firstWeight secondWeight := by
  intro independent
  obtain ⟨left, right⟩ := independent t (t - 1) fun entry member => by
    rw [combination_weights]
    rcases only entry.1 (List.mem_map_of_mem member) with isStart | isStop | inner
    · rw [isStart]
      ring
    · rw [isStop]
      ring
    · rw [inner]
      ring
  linarith

def entries (distance : Point K → Point K → K) (points : List (Point K)) :
    List (K × Point K) :=
  (parameters distance points).zip points

/-- The sum of the squared distances between points and a curve at their parameters. -/
def misfit (distance : Point K → Point K → K) (points : List (Point K))
    (curve : Cubic K) : K :=
  ((entries distance points).map fun entry =>
    Point.squaredDistance entry.2 (curve.eval entry.1)).sum

/-- The curve runs from the first point to the last, and with other inner control points it would be
farther from the points. -/
structure IsFit (distance : Point K → Point K → K) (points : List (Point K))
    (curve : Cubic K) : Prop where
  start : points.head? = some curve.p0
  stop : points.getLast? = some curve.p3
  least : ∀ p1 p2, (p1, p2) ≠ (curve.p1, curve.p2) →
    misfit distance points curve < misfit distance points { curve with p1, p2 }

/-- There is no way to travel, or fewer than two different parameters strictly inside. -/
def IsDegenerate (distance : Point K → Point K → K) (points : List (Point K)) : Prop :=
  wholeWay distance points = 0 ∨ (innerParameters distance points).card < 2

instance (distance : Point K → Point K → K) (points : List (Point K)) :
    Decidable (IsDegenerate distance points) :=
  inferInstanceAs (Decidable (_ ∨ _))

theorem map_fst_entries (nonempty : points ≠ []) :
    (entries distance points).map Prod.fst = parameters distance points :=
  List.map_fst_zip (length_parameters nonempty).le

theorem mem_innerParameters {t : K} :
    t ∈ innerParameters distance points ↔ t ∈ parameters distance points ∧ 0 < t ∧ t < 1 := by
  simp [innerParameters]

theorem isIndependent_iff (nonneg : ∀ left right, 0 ≤ distance left right)
    (nonempty : points ≠ []) :
    IsIndependent (entries distance points) firstWeight secondWeight ↔
      2 ≤ (innerParameters distance points).card := by
  constructor
  · intro independent
    by_contra few
    have single := Finset.card_le_one.mp (Nat.le_of_lt_succ (not_le.mp few))
    -- All inner parameters are the same as one of them.
    obtain ⟨t, only⟩ : ∃ t, ∀ s ∈ innerParameters distance points, s = t := by
      rcases (innerParameters distance points).eq_empty_or_nonempty with empty | ⟨t, inner⟩
      · exact ⟨0, by simp [empty]⟩
      · exact ⟨t, fun s isInner => single s isInner t inner⟩
    refine not_isIndependent_of_inner t (fun s isParameter => ?_) independent
    rw [map_fst_entries nonempty] at isParameter
    have bounds := parameter_bounds nonneg s isParameter
    by_cases isStart : s = 0
    · exact .inl isStart
    · by_cases isStop : s = 1
      · exact .inr (.inl isStop)
      · refine .inr (.inr (only s (mem_innerParameters.mpr ⟨isParameter, ?_, ?_⟩)))
        · exact bounds.1.lt_of_ne' isStart
        · exact bounds.2.lt_of_ne isStop
  · intro many
    obtain ⟨t, isFirst, s, isSecond, apart⟩ := Finset.one_lt_card.mp many
    obtain ⟨isFirst, first⟩ := mem_innerParameters.mp isFirst
    obtain ⟨isSecond, second⟩ := mem_innerParameters.mp isSecond
    rw [← map_fst_entries nonempty] at isFirst isSecond
    exact isIndependent_of_inner first second apart isFirst isSecond

/-- What the ends of a curve leave of a coordinate of a point. -/
def remaining (start stop : Point K) (coordinate : Point K → K) (entry : K × Point K) :
    K :=
  coordinate (entry.2 - start.scale (weight0 entry.1) - stop.scale (weight3 entry.1))

theorem sum_eq (values : List K) : Offset.sum values = values.sum := by
  rw [Offset.sum, List.sum_eq_foldl, ExactScalar.literal_eq, Nat.cast_zero]

/-- The equations for the inner control points in one coordinate. -/
def conditions (start stop : Point K) (pairs : List (K × Point K))
    (coordinate : Point K → K) : List (Row K) :=
  equations pairs firstWeight secondWeight (remaining start stop coordinate)

theorem innerPoints?_eq_none
    (failed : LinearSystem.solve? (conditions start stop pairs Point.x) = none) :
    innerPoints? start stop pairs = none := by
  simp only [innerPoints?, sum_eq]
  exact congrArg (fun found => found >>= _) failed

theorem innerPoints?_eq_some {x1 x2 y1 y2 : K}
    (isX : LinearSystem.solve? (conditions start stop pairs Point.x) = some [x1, x2])
    (isY : LinearSystem.solve? (conditions start stop pairs Point.y) = some [y1, y2]) :
    innerPoints? start stop pairs = some (⟨x1, y1⟩, ⟨x2, y2⟩) := by
  simp only [innerPoints?, sum_eq]
  refine (congrArg (fun found => found >>= _) isX).trans ?_
  exact congrArg (fun found => found >>= _) isY

theorem misfit_eq (curve : Cubic K) :
    misfit distance points curve =
      deviation (entries distance points) firstWeight secondWeight
          (remaining curve.p0 curve.p3 Point.x) curve.p1.x curve.p2.x +
        deviation (entries distance points) firstWeight secondWeight
          (remaining curve.p0 curve.p3 Point.y) curve.p1.y curve.p2.y := by
  rw [misfit, deviation, deviation, pairing, pairing, ← List.sum_map_add]
  refine congrArg List.sum (List.map_congr_left fun entry _ => ?_)
  simp only [Point.squaredDistance, Point.dot, Point.sub_x, Point.sub_y, Point.scale_x,
    Point.scale_y, Cubic.eval_x, Cubic.eval_y, LeastSquares.residual, combination, remaining,
    firstWeight, secondWeight, weight0, weight1, weight2, weight3, ExactScalar.literal_eq]
  push_cast
  ring

theorem isFit_of_isClosest {curve : Cubic K} (isStart : points.head? = some curve.p0)
    (isStop : points.getLast? = some curve.p3)
    (isX : IsClosest (entries distance points) firstWeight secondWeight
      (remaining curve.p0 curve.p3 Point.x) curve.p1.x curve.p2.x)
    (isY : IsClosest (entries distance points) firstWeight secondWeight
      (remaining curve.p0 curve.p3 Point.y) curve.p1.y curve.p2.y) :
    IsFit distance points curve where
  start := isStart
  stop := isStop
  least p1 p2 apart := by
    rw [misfit_eq, misfit_eq]
    by_cases sameX : p1.x = curve.p1.x ∧ p2.x = curve.p2.x
    · have apartY : p1.y ≠ curve.p1.y ∨ p2.y ≠ curve.p2.y := by
        by_contra same
        push Not at same
        exact apart (Prod.ext (Point.ext sameX.1 same.1) (Point.ext sameX.2 same.2))
      exact add_lt_add_of_le_of_lt (isX.le _ _) (isY _ _ apartY)
    · exact add_lt_add_of_lt_of_le (isX _ _ (not_and_or.mp sameX)) (isY.le _ _)

theorem fit_cons (distance : Point K → Point K → K) (start : Point K) (rest : List (Point K)) :
    fit distance (start :: rest) =
      if wholeWay distance (start :: rest) = 0 then .error .degenerateSamples
      else (innerPoints? start (rest.getLastD start) (entries distance (start :: rest))).elim
        (.error .degenerateSamples) fun inner =>
          .ok ⟨start, inner.1, inner.2, rest.getLastD start⟩ := by
  simp only [fit, entries, parameters, wholeWay, ways, ExactScalar.literal_eq, Nat.cast_zero,
    beq_iff_eq]
  refine if_congr Iff.rfl rfl ?_
  cases innerPoints? start _ _ <;> rfl

theorem fit_eq_error (nonneg : ∀ left right, 0 ≤ distance left right) (nonempty : points ≠ [])
    (degenerate : IsDegenerate distance points) :
    fit distance points = .error .degenerateSamples := by
  cases points with
  | nil => exact absurd rfl nonempty
  | cons start rest =>
      by_cases still : wholeWay distance (start :: rest) = 0
      · rw [fit_cons, if_pos still]
      · have few := degenerate.resolve_left still
        have dependent := mt (isIndependent_iff nonneg nonempty).mp (not_le.mpr few)
        rw [fit_cons, if_neg still, innerPoints?_eq_none (LeastSquares.solve?_eq_none dependent)]
        rfl

theorem exists_fit (nonneg : ∀ left right, 0 ≤ distance left right) (nonempty : points ≠ [])
    (regular : ¬IsDegenerate distance points) :
    ∃ curve, fit distance points = .ok curve ∧ IsFit distance points curve := by
  obtain ⟨moves, many⟩ := not_or.mp regular
  have independent := (isIndependent_iff nonneg nonempty).mpr (not_lt.mp many)
  cases points with
  | nil => exact absurd rfl nonempty
  | cons start rest =>
      obtain ⟨x1, x2, foundX, isX⟩ := LeastSquares.exists_solve? independent
        (remaining start (rest.getLastD start) Point.x)
      obtain ⟨y1, y2, foundY, isY⟩ := LeastSquares.exists_solve? independent
        (remaining start (rest.getLastD start) Point.y)
      refine ⟨⟨start, ⟨x1, y1⟩, ⟨x2, y2⟩, rest.getLastD start⟩, ?_,
        isFit_of_isClosest rfl ?_ isX isY⟩
      · rw [fit_cons, if_neg moves, innerPoints?_eq_some foundX foundY]
        rfl
      · rw [List.getLast?_cons, List.getLastD_eq_getLast?]

section Halves

variable {length : Point K → K} {curve first second : Cubic K} {turn outside outward : K}
  {intervals : Nat}

def firstHalf (length : Point K → K) (curve : Cubic K) (outward : K) (intervals : Nat) :
    List (Point K) :=
  (samples length curve outward intervals).take (intervals / 2 + 1)

def secondHalf (length : Point K → K) (curve : Cubic K) (outward : K) (intervals : Nat) :
    List (Point K) :=
  (samples length curve outward intervals).drop (intervals / 2)

theorem firstHalf_ne_nil : firstHalf length curve outward intervals ≠ [] := by
  simp [firstHalf, samples]

theorem secondHalf_ne_nil : secondHalf length curve outward intervals ≠ [] := by
  rw [secondHalf, Ne, List.drop_eq_nil_iff, length_samples]
  omega

theorem head?_firstHalf : (firstHalf length curve outward intervals).head? =
    (samples length curve outward intervals)[0]? := by
  rw [firstHalf, List.head?_take, if_neg (Nat.succ_ne_zero _), List.head?_eq_getElem?]

theorem getLast?_firstHalf : (firstHalf length curve outward intervals).getLast? =
    (samples length curve outward intervals)[intervals / 2]? := by
  have size : (firstHalf length curve outward intervals).length = intervals / 2 + 1 := by
    rw [firstHalf, List.length_take, length_samples]
    omega
  rw [List.getLast?_eq_getElem?, size, Nat.add_sub_cancel, firstHalf,
    List.getElem?_take_of_lt (Nat.lt_succ_self _)]

theorem head?_secondHalf : (secondHalf length curve outward intervals).head? =
    (samples length curve outward intervals)[intervals / 2]? := by
  rw [secondHalf, List.head?_drop]

theorem getLast?_secondHalf : (secondHalf length curve outward intervals).getLast? =
    (samples length curve outward intervals)[intervals]? := by
  rw [secondHalf, List.getLast?_drop, if_neg (by rw [length_samples]; omega),
    List.getLast?_eq_getElem?, length_samples, Nat.add_sub_cancel]

theorem isDegenerate_firstHalf_zero : IsDegenerate distance (firstHalf length curve outward 0) :=
  .inl rfl

theorem fitter_eq (turns : turn? length curve = some turn) :
    fitter length distance intervals curve outside = (do
      let first ← fit distance (firstHalf length curve (-turn * outside) intervals)
      let second ← fit distance (secondHalf length curve (-turn * outside) intervals)
      .ok [first, second]) := by
  rw [fitter, turns]
  rfl

theorem fitter_eq_error (nonneg : ∀ left right, 0 ≤ distance left right)
    (turns : turn? length curve = some turn)
    (degenerate : IsDegenerate distance (firstHalf length curve (-turn * outside) intervals) ∨
      IsDegenerate distance (secondHalf length curve (-turn * outside) intervals)) :
    fitter length distance intervals curve outside = .error .degenerateSamples := by
  rw [fitter_eq turns]
  by_cases isFirst : IsDegenerate distance (firstHalf length curve (-turn * outside) intervals)
  · rw [fit_eq_error nonneg firstHalf_ne_nil isFirst]
    rfl
  · obtain ⟨first, found, -⟩ := exists_fit nonneg firstHalf_ne_nil isFirst
    have isSecond := degenerate.resolve_left isFirst
    rw [found, fit_eq_error nonneg secondHalf_ne_nil isSecond]
    rfl

theorem exists_fitter (nonneg : ∀ left right, 0 ≤ distance left right)
    (turns : turn? length curve = some turn)
    (isFirst : ¬IsDegenerate distance (firstHalf length curve (-turn * outside) intervals))
    (isSecond : ¬IsDegenerate distance (secondHalf length curve (-turn * outside) intervals)) :
    ∃ first second, fitter length distance intervals curve outside = .ok [first, second] ∧
      IsFit distance (firstHalf length curve (-turn * outside) intervals) first ∧
      IsFit distance (secondHalf length curve (-turn * outside) intervals) second := by
  obtain ⟨first, foundFirst, fitsFirst⟩ := exists_fit nonneg firstHalf_ne_nil isFirst
  obtain ⟨second, foundSecond, fitsSecond⟩ := exists_fit nonneg secondHalf_ne_nil isSecond
  refine ⟨first, second, ?_, fitsFirst, fitsSecond⟩
  rw [fitter_eq turns, foundFirst, foundSecond]
  rfl

/-- Curves fitted to both halves of the samples meet in the middle one and lead from the offset of
one end of the curve to that of the other. -/
theorem ends_of_isFit (positive : 0 < intervals)
    (isFirst : IsFit distance (firstHalf length curve outward intervals) first)
    (isSecond : IsFit distance (secondHalf length curve outward intervals) second) :
    (samples length curve outward intervals)[intervals / 2]? = some first.p3 ∧
    first.p3 = second.p0 ∧
    first.p0 = curve.p0 + (curve.unitNormal length 0).scale outward ∧
    second.p3 = curve.p3 + (curve.unitNormal length 1).scale outward := by
  have middle := getLast?_firstHalf.symm.trans isFirst.stop
  have next := head?_secondHalf.symm.trans isSecond.start
  have start := head?_firstHalf.symm.trans isFirst.start
  have stop := getLast?_secondHalf.symm.trans isSecond.stop
  have nonzero : (intervals : K) ≠ 0 := by exact_mod_cast positive.ne'
  rw [getElem?_samples (Nat.zero_le _), Nat.cast_zero, zero_div] at start
  rw [getElem?_samples le_rfl, div_self nonzero] at stop
  refine ⟨middle, Option.some.inj (middle.symm.trans next), ?_, ?_⟩
  · rw [← Option.some.inj start, displaced, Cubic.eval_zero]
  · rw [← Option.some.inj stop, displaced, Cubic.eval_one]

end Halves

/-- No curve is fitted just to points without a way between them or with fewer than two different
parameters inside the curve. All others have one curve between the first and the last of them whose
inner control points bring it closest. So there are two curves alongside a curve unless the samples
of a half have none, and they meet in the middle sample and lead from the offset of one end of the
curve to that of the other. -/
theorem fit_is_closest (nonneg : ∀ left right, 0 ≤ distance left right) :
    (∀ points, points ≠ [] →
      (fit distance points = .error .degenerateSamples ↔ IsDegenerate distance points) ∧
      (¬IsDegenerate distance points →
        ∃ curve, fit distance points = .ok curve ∧ IsFit distance points curve)) ∧
    ∀ length curve outside intervals turn, turn? length curve = some turn →
      (fitter length distance intervals curve outside = .error .degenerateSamples ↔
        IsDegenerate distance (firstHalf length curve (-turn * outside) intervals) ∨
        IsDegenerate distance (secondHalf length curve (-turn * outside) intervals)) ∧
      (¬IsDegenerate distance (firstHalf length curve (-turn * outside) intervals) →
        ¬IsDegenerate distance (secondHalf length curve (-turn * outside) intervals) →
        ∃ first second, fitter length distance intervals curve outside = .ok [first, second] ∧
          IsFit distance (firstHalf length curve (-turn * outside) intervals) first ∧
          IsFit distance (secondHalf length curve (-turn * outside) intervals) second ∧
          (samples length curve (-turn * outside) intervals)[intervals / 2]? = some first.p3 ∧
          first.p3 = second.p0 ∧
          first.p0 = curve.p0 + (curve.unitNormal length 0).scale (-turn * outside) ∧
          second.p3 = curve.p3 + (curve.unitNormal length 1).scale (-turn * outside)) := by
  refine ⟨fun points nonempty => ⟨⟨fun failed => ?_, fit_eq_error nonneg nonempty⟩,
    exists_fit nonneg nonempty⟩, fun length curve outside intervals turn turns =>
      ⟨⟨fun failed => ?_, fitter_eq_error nonneg turns⟩, fun isFirst isSecond => ?_⟩⟩
  · by_contra regular
    obtain ⟨curve, found, -⟩ := exists_fit nonneg nonempty regular
    cases found.symm.trans failed
  · by_contra regular
    obtain ⟨isFirst, isSecond⟩ := not_or.mp regular
    obtain ⟨first, second, found, -⟩ := exists_fitter nonneg turns isFirst isSecond
    cases found.symm.trans failed
  · obtain ⟨first, second, found, fitsFirst, fitsSecond⟩ :=
      exists_fitter nonneg turns isFirst isSecond
    have positive : 0 < intervals := by
      rcases Nat.eq_zero_or_pos intervals with rfl | positive
      · exact absurd isDegenerate_firstHalf_zero isFirst
      · exact positive
    exact ⟨first, second, found, fitsFirst, fitsSecond,
      ends_of_isFit positive fitsFirst fitsSecond⟩

def blockLength (vector : Point Rat) : Rat := |vector.x| + |vector.y|

def blockDistance (left right : Point Rat) : Rat := blockLength (left - right)

theorem fit_is_closest_arc :
    let bent : List (Point Rat) := [⟨0, 0⟩, ⟨3, 0⟩, ⟨6, 0⟩, ⟨9, 3⟩, ⟨9, 12⟩]
    let closest : Cubic Rat :=
      ⟨⟨0, 0⟩, ⟨2644 / 321, -397 / 321⟩, ⟨3656 / 321, 838 / 321⟩, ⟨9, 12⟩⟩
    let arc : Cubic Rat := ⟨⟨0, 0⟩, ⟨8, 0⟩, ⟨16, 8⟩, ⟨16, 16⟩⟩
    (∀ left right, 0 ≤ blockDistance left right) ∧
      fit blockDistance bent = .ok closest ∧ IsFit blockDistance bent closest ∧
      fit blockDistance [⟨0, 0⟩, ⟨3, 0⟩, ⟨3, 0⟩, ⟨9, 3⟩] = .error .degenerateSamples ∧
      turn? blockLength arc = some 1 ∧
      ∃ first second, fitter blockLength blockDistance 9 arc 3 = .ok [first, second] ∧
        (samples blockLength arc (-1 * 3) 9)[4]? = some first.p3 ∧ first.p3 = second.p0 ∧
        first.p0 = ⟨0, -3⟩ ∧ second.p3 = ⟨19, 16⟩ := by
  intro bent closest arc
  have nonneg : ∀ left right, 0 ≤ blockDistance left right := fun _ _ =>
    add_nonneg (abs_nonneg _) (abs_nonneg _)
  obtain ⟨fits, alongside⟩ := fit_is_closest nonneg
  have isClosest : fit blockDistance bent = .ok closest := by decide +kernel
  obtain ⟨curve, found, isFit⟩ := (fits bent (by decide)).2 (by decide +kernel)
  obtain rfl := Except.ok.inj (isClosest.symm.trans found)
  have turns : turn? blockLength arc = some 1 := by decide +kernel
  obtain ⟨first, second, drawn, -, -, middle, joined, start, stop⟩ :=
    (alongside blockLength arc 3 9 1 turns).2 (by decide +kernel) (by decide +kernel)
  exact ⟨nonneg, isClosest, isFit, by decide +kernel, turns, first, second, drawn, middle,
    joined, start.trans (by decide +kernel), stop.trans (by decide +kernel)⟩

end TransitMap.Offset
